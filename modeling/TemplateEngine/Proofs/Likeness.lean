import TemplateEngine.Proofs.Resemblance.Filters

/-!
# Values that differ in their environments

Two values are alike if they differ only in the environments that macros and calls of
`super` are closed over, and these are related.  Nothing but a call looks into such an
environment.  So alike values are displayed, compared, taken apart and combined in the same
way, and what is made of them is alike again.
-/

namespace TemplateEngine

/-! ## Alike values -/

mutual

/-- Values that differ only in related environments. -/
inductive Value.Like (relates : Environment → Environment → Prop) : Value → Value → Prop where
  | nil : Like relates .nil .nil
  | bool (value : Bool) : Like relates (.bool value) (.bool value)
  | number (value : Float) : Like relates (.number value) (.number value)
  | string (content : String) (safe : Bool) :
      Like relates (.string content safe) (.string content safe)
  | error (message : String) : Like relates (.error message) (.error message)
  | list {items others : List Value} :
      LikeItems relates items others → Like relates (.list items) (.list others)
  | map {entries others : List (String × Value)} :
      LikeEntries relates entries others → Like relates (.map entries) (.map others)
  | closure (definition : Definition Node) {first second : Environment} :
      relates first second →
        Like relates (.closure ⟨definition, first⟩) (.closure ⟨definition, second⟩)
  | native (name : String) : Like relates (.function (.native name)) (.function (.native name))
  | super {first second : Environment} (depth : Nat) (bodies : List (Body Node)) :
      relates first second →
        Like relates (.function (.super first depth bodies))
          (.function (.super second depth bodies))

/-- Lists of alike values. -/
inductive Value.LikeItems (relates : Environment → Environment → Prop) :
    List Value → List Value → Prop where
  | nil : LikeItems relates [] []
  | cons {item other : Value} {items others : List Value} :
      Like relates item other → LikeItems relates items others →
        LikeItems relates (item :: items) (other :: others)

/-- Entries with the same names and alike values. -/
inductive Value.LikeEntries (relates : Environment → Environment → Prop) :
    List (String × Value) → List (String × Value) → Prop where
  | nil : LikeEntries relates [] []
  | cons (name : String) {value other : Value} {entries others : List (String × Value)} :
      Like relates value other → LikeEntries relates entries others →
        LikeEntries relates ((name, value) :: entries) ((name, other) :: others)

end

namespace Value

variable {relates : Environment → Environment → Prop} {first second : Value}

theorem likeItems_iff {items others : List Value} :
    LikeItems relates items others ↔ List.Forall₂ (Like relates) items others := by
  constructor
  · intro like
    induction items generalizing others with
    | nil =>
        cases like
        exact .nil
    | cons item rest inductionHypothesis =>
        cases like with
        | cons head tail => exact .cons head (inductionHypothesis tail)
  · intro like
    induction like with
    | nil => exact .nil
    | cons head _ inductionHypothesis => exact .cons head inductionHypothesis

theorem likeEntries_iff {entries others : List (String × Value)} :
    LikeEntries relates entries others ↔ EntriesRelated (Like relates) entries others := by
  constructor
  · intro like
    induction entries generalizing others with
    | nil =>
        cases like
        exact .nil
    | cons entry rest inductionHypothesis =>
        cases like with
        | cons name head tail => exact .cons ⟨rfl, head⟩ (inductionHypothesis tail)
  · intro like
    unfold EntriesRelated at like
    induction like with
    | nil => exact .nil
    | @cons entry other _ _ head _ inductionHypothesis =>
        rcases entry with ⟨name, value⟩
        rcases other with ⟨_, otherValue⟩
        rcases head with ⟨rfl, head⟩
        exact .cons name head inductionHypothesis

section

variable {related : Environment → Environment → Prop}

mutual

/-- Values that are alike are so in a wider sense too. -/
theorem Like.mono (implied : ∀ first second, relates first second → related first second)
    {first second : Value} (like : Like relates first second) : Like related first second := by
  match first, like with
  | _, .nil => exact .nil
  | _, .bool value => exact .bool value
  | _, .number value => exact .number value
  | _, .string content safe => exact .string content safe
  | _, .error message => exact .error message
  | _, .list items => exact .list (items.mono implied)
  | _, .map entries => exact .map (entries.mono implied)
  | _, .closure definition environments => exact .closure definition (implied _ _ environments)
  | _, .native name => exact .native name
  | _, .super depth bodies environments => exact .super depth bodies (implied _ _ environments)

theorem LikeItems.mono (implied : ∀ first second, relates first second → related first second)
    {items others : List Value} (like : LikeItems relates items others) :
    LikeItems related items others := by
  match items, like with
  | _, .nil => exact .nil
  | _, .cons head tail => exact .cons (head.mono implied) (tail.mono implied)

theorem LikeEntries.mono
    (implied : ∀ first second, relates first second → related first second)
    {entries others : List (String × Value)} (like : LikeEntries relates entries others) :
    LikeEntries related entries others := by
  match entries, like with
  | _, .nil => exact .nil
  | _, .cons name head tail => exact .cons name (head.mono implied) (tail.mono implied)

end

end

/-! ### Values that are alike themselves -/

/-- Whether something holds of the environment of a callable, if the value is one. -/
def Closes (holds : Environment → Prop) : Value → Prop
  | .closure callee => holds callee.environment
  | .function (.super environment _ _) => holds environment
  | _ => True

mutual

/-- A value is like itself if all environments in it are related to themselves. -/
theorem like_of_every : ∀ value : Value,
    Every (Closes fun environment => relates environment environment) value →
      Like relates value value
  | .nil, _ => .nil
  | .bool value, _ => .bool value
  | .number value, _ => .number value
  | .string content safe, _ => .string content safe
  | .list items, every => .list (likeItems_of_every items every)
  | .map entries, every => .map (likeEntries_of_every entries every)
  | .closure ⟨definition, _⟩, related => .closure definition related
  | .function (.native name), _ => .native name
  | .function (.super _ depth bodies), related => .super depth bodies related
  | .error message, _ => .error message

theorem likeItems_of_every : ∀ items : List Value,
    EveryItem (Closes fun environment => relates environment environment) items →
      LikeItems relates items items
  | [], _ => .nil
  | item :: rest, every => .cons (like_of_every item every.1) (likeItems_of_every rest every.2)

theorem likeEntries_of_every : ∀ entries : List (String × Value),
    EveryEntry (Closes fun environment => relates environment environment) entries →
      LikeEntries relates entries entries
  | [], _ => .nil
  | (name, value) :: rest, every =>
      .cons name (like_of_every value every.1) (likeEntries_of_every rest every.2)

end

/-- Every value is like itself if environments are related to themselves. -/
theorem Like.refl (reflexive : ∀ environment, relates environment environment)
    (value : Value) : Like relates value value := by
  refine like_of_every value (every_of_forall (fun value => ?_) value)
  unfold Closes
  split
  · exact reflexive _
  · exact reflexive _
  · exact True.intro

/-! ### As values that resemble each other -/

/-- Callables with the same definitions and depths and with related environments. -/
def ClosedOver (relates : Environment → Environment → Prop) : Value → Value → Prop
  | .closure callee, .closure other => relates callee.environment other.environment
  | .function (.super environment depth _), .function (.super other otherDepth _) =>
      relates environment other ∧ depth = otherDepth
  | _, _ => False

mutual

/-- Alike values resemble each other. -/
theorem Like.resembles {first second : Value} (like : Like relates first second) :
    Resembles (ClosedOver relates) first second := by
  match first, like with
  | _, .nil => exact .nil
  | _, .bool value => exact .bool value
  | _, .number value => exact .number value
  | _, .string content safe => exact .string content safe
  | _, .error message => exact .error message
  | _, .list items => exact .list items.resemble
  | _, .map entries => exact .map entries.resemble
  | _, .closure _ environments => exact .closure environments
  | _, .native name => exact .native name
  | _, .super _ _ environments => exact .super ⟨environments, rfl⟩

theorem LikeItems.resemble {items others : List Value}
    (like : LikeItems relates items others) :
    ItemsResemble (ClosedOver relates) items others := by
  match items, like with
  | _, .nil => exact .nil
  | _, .cons head tail => exact .cons head.resembles tail.resemble

theorem LikeEntries.resemble {entries others : List (String × Value)}
    (like : LikeEntries relates entries others) :
    EntriesResemble (ClosedOver relates) entries others := by
  match entries, like with
  | _, .nil => exact .nil
  | _, .cons name head tail => exact .cons name head.resembles tail.resemble

end

mutual

/-- Values that resemble each other in callables over related environments are alike. -/
theorem Resembles.like {first second : Value}
    (resembles : Resembles (ClosedOver relates) first second) : Like relates first second := by
  match first, resembles with
  | _, .nil => exact .nil
  | _, .bool value => exact .bool value
  | _, .number value => exact .number value
  | _, .string content safe => exact .string content safe
  | _, .error message => exact .error message
  | _, .list items => exact .list items.like
  | _, .map entries => exact .map entries.like
  | _, .closure environments => exact .closure _ environments
  | _, .native name => exact .native name
  | _, .super ⟨environments, same⟩ =>
      subst same
      exact .super _ _ environments

theorem ItemsResemble.like {items others : List Value}
    (resembles : ItemsResemble (ClosedOver relates) items others) :
    LikeItems relates items others := by
  match items, resembles with
  | _, .nil => exact .nil
  | _, .cons head tail => exact .cons head.like tail.like

theorem EntriesResemble.like {entries others : List (String × Value)}
    (resembles : EntriesResemble (ClosedOver relates) entries others) :
    LikeEntries relates entries others := by
  match entries, resembles with
  | _, .nil => exact .nil
  | _, .cons name head tail => exact .cons name head.like tail.like

end

theorem like_eq_resembles : Like relates = Resembles (ClosedOver relates) := by
  funext first second
  exact propext ⟨Like.resembles, Resembles.like⟩

namespace Like

variable {third fourth : Value}

theorem display_eq (like : Like relates first second) : first.display = second.display :=
  like.resembles.display_eq

theorem describe_eq (like : Like relates first second) : first.describe = second.describe :=
  like.resembles.describe_eq

theorem isTrue_eq (like : Like relates first second) : first.isTrue = second.isTrue :=
  like.resembles.isTrue_eq

theorem writtenText_eq (autoescape : Bool) (like : Like relates first second) :
    Interpreter.writtenText autoescape first = Interpreter.writtenText autoescape second :=
  like.resembles.writtenText_eq autoescape

/-- The relation between errors that are worded alike. -/
abbrev sameMessage (first second : EvalError) : Prop := first.message = second.message

theorem sameMessage_refl (error : EvalError) : sameMessage error error := rfl

theorem member (name : String) (like : Like relates first second) :
    Option.Rel (Like relates) (first.member? name) (second.member? name) := by
  rw [like_eq_resembles]
  exact like.resembles.member name

theorem item (like : Like relates first second) (keys : Like relates third fourth) :
    Option.Rel (Like relates) (first.item? third) (second.item? fourth) := by
  rw [like_eq_resembles]
  exact like.resembles.item keys.resembles

theorem checked (like : Like relates first second) :
    Alike sameMessage (Like relates) first.checked second.checked := by
  rw [like_eq_resembles]
  exact like.resembles.checked

theorem operation (operator : BinaryOperator) (left : Like relates first second)
    (right : Like relates third fourth) :
    Alike sameMessage (Like relates) (operator.apply first third)
      (operator.apply second fourth) := by
  rw [like_eq_resembles]
  exact left.resembles.operation operator right.resembles

theorem negation (like : Like relates first second) :
    Alike sameMessage (Like relates) (Expression.negation first)
      (Expression.negation second) := by
  rw [like_eq_resembles]
  exact like.resembles.negation

theorem items (targets : List String) (iterable : Expression)
    (like : Like relates first second) :
    Alike sameMessage (List.Forall₂ (Like relates)) (Loop.items targets iterable first)
      (Loop.items targets iterable second) := by
  rw [like_eq_resembles]
  exact like.resembles.items targets iterable

theorem bindings (targets : List String) (like : Like relates first second) :
    Alike sameMessage (EntriesRelated (Like relates)) (Loop.bindings targets first)
      (Loop.bindings targets second) := by
  rw [like_eq_resembles]
  exact like.resembles.bindings targets

end Like

end Value

/-! ## Filters and tests of alike values -/

section

open Value

variable {relates : Environment → Environment → Prop} {first second : Value}
variable {arguments others : Arguments}

/-- A filter makes alike values of alike values and arguments. -/
theorem Filter.like_apply (filter : Filter) (autoescape : Bool)
    (like : Like relates first second)
    (given : ArgumentsRelated (Like relates) arguments others) :
    Like relates (filter.apply autoescape first arguments)
      (filter.apply autoescape second others) := by
  rw [like_eq_resembles] at *
  exact filter.resembles_apply autoescape like given

/-- A test answers alike values and arguments in the same way. -/
theorem Predicate.holds_alike (predicate : Predicate) (like : Like relates first second)
    (given : ArgumentsRelated (Like relates) arguments others) :
    Alike Like.sameMessage Eq (predicate.holds first arguments)
      (predicate.holds second others) := by
  rw [like_eq_resembles] at *
  exact predicate.holds_resembles like given

end

namespace Natives

open Value

variable {relates : Environment → Environment → Prop}

/-- Whether native functions give alike values for alike arguments, so that they look into
no macro that they are given. -/
def Uniform (relates : Environment → Environment → Prop) (natives : Natives) : Prop :=
  ∀ name {arguments others : Arguments},
    ArgumentsRelated (Like relates) arguments others →
      Like relates (natives name arguments) (natives name others)

theorem standard_uniform : standard.Uniform relates := by
  intro name arguments others given
  rw [like_eq_resembles] at *
  exact standard_respects name given

end Natives

end TemplateEngine

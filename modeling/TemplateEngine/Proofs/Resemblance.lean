import TemplateEngine.Proofs.Contents
import TemplateEngine.Proofs.Correspondence

/-!
# Values that differ in their callables

Two values resemble each other if they have the same form down to the macros and calls of
`super` in them, and these have the same definitions and are related in some way.  Nothing but
a call looks into a callable beyond its name.  So values that resemble each other are
displayed, compared, taken apart and combined in the same way, and what is made of them
resembles each other again.
-/

namespace TemplateEngine

/-- The relation between errors that are worded alike. -/
abbrev EvalError.WordedAlike (first second : EvalError) : Prop :=
  first.message = second.message

theorem EvalError.wordedAlike_refl (error : EvalError) : error.WordedAlike error := rfl

open EvalError

/-! ## Values that resemble each other -/

mutual

/-- Values that differ only in related callables with the same definitions. -/
inductive Value.Resembles (calls : Value → Value → Prop) : Value → Value → Prop where
  | nil : Resembles calls .nil .nil
  | bool (value : Bool) : Resembles calls (.bool value) (.bool value)
  | number (value : Float) : Resembles calls (.number value) (.number value)
  | string (content : String) (safe : Bool) :
      Resembles calls (.string content safe) (.string content safe)
  | error (message : String) : Resembles calls (.error message) (.error message)
  | list {items others : List Value} :
      ItemsResemble calls items others → Resembles calls (.list items) (.list others)
  | map {entries others : List (String × Value)} :
      EntriesResemble calls entries others → Resembles calls (.map entries) (.map others)
  | closure {definition : Definition Node} {first second : Environment} :
      calls (.closure ⟨definition, first⟩) (.closure ⟨definition, second⟩) →
        Resembles calls (.closure ⟨definition, first⟩) (.closure ⟨definition, second⟩)
  | native (name : String) :
      Resembles calls (.function (.native name)) (.function (.native name))
  | super {first second : Environment} {depth other : Nat} {bodies : List (Body Node)} :
      calls (.function (.super first depth bodies)) (.function (.super second other bodies)) →
        Resembles calls (.function (.super first depth bodies))
          (.function (.super second other bodies))

/-- Lists of values that resemble each other. -/
inductive Value.ItemsResemble (calls : Value → Value → Prop) :
    List Value → List Value → Prop where
  | nil : ItemsResemble calls [] []
  | cons {item other : Value} {items others : List Value} :
      Resembles calls item other → ItemsResemble calls items others →
        ItemsResemble calls (item :: items) (other :: others)

/-- Entries with the same names and values that resemble each other. -/
inductive Value.EntriesResemble (calls : Value → Value → Prop) :
    List (String × Value) → List (String × Value) → Prop where
  | nil : EntriesResemble calls [] []
  | cons (name : String) {value other : Value} {entries others : List (String × Value)} :
      Resembles calls value other → EntriesResemble calls entries others →
        EntriesResemble calls ((name, value) :: entries) ((name, other) :: others)

end

namespace Value

variable {calls : Value → Value → Prop} {first second : Value}

theorem itemsResemble_iff {items others : List Value} :
    ItemsResemble calls items others ↔ List.Forall₂ (Resembles calls) items others := by
  constructor
  · intro resembles
    induction items generalizing others with
    | nil =>
        cases resembles
        exact .nil
    | cons item rest inductionHypothesis =>
        cases resembles with
        | cons head tail => exact .cons head (inductionHypothesis tail)
  · intro resembles
    induction resembles with
    | nil => exact .nil
    | cons head _ inductionHypothesis => exact .cons head inductionHypothesis

theorem entriesResemble_iff {entries others : List (String × Value)} :
    EntriesResemble calls entries others ↔ EntriesRelated (Resembles calls) entries others := by
  constructor
  · intro resembles
    induction entries generalizing others with
    | nil =>
        cases resembles
        exact .nil
    | cons entry rest inductionHypothesis =>
        cases resembles with
        | cons name head tail => exact .cons ⟨rfl, head⟩ (inductionHypothesis tail)
  · intro resembles
    unfold EntriesRelated at resembles
    induction resembles with
    | nil => exact .nil
    | @cons entry other _ _ head _ inductionHypothesis =>
        rcases entry with ⟨name, value⟩
        rcases other with ⟨_, otherValue⟩
        rcases head with ⟨rfl, head⟩
        exact .cons name head inductionHypothesis

mutual

/-- Values that resemble each other have the same form inside others. -/
theorem Resembles.nested_eq {first second : Value} (resembles : Resembles calls first second) :
    first.nested = second.nested := by
  match first, resembles with
  | _, .nil => rfl
  | _, .bool _ => rfl
  | _, .number _ => rfl
  | _, .string _ _ => rfl
  | _, .error _ => rfl
  | _, .list items => simp only [nested, items.nestedItems_eq]
  | _, .map entries => simp only [nested, entries.nestedEntries_eq]
  | _, .closure _ => rfl
  | _, .native _ => rfl
  | _, .super _ => rfl

theorem ItemsResemble.nestedItems_eq {items others : List Value}
    (resembles : ItemsResemble calls items others) : nestedItems items = nestedItems others := by
  match items, resembles with
  | _, .nil => rfl
  | _, .cons head tail => simp only [nestedItems, head.nested_eq, tail.nestedItems_eq]

theorem EntriesResemble.nestedEntries_eq {entries others : List (String × Value)}
    (resembles : EntriesResemble calls entries others) :
    nestedEntries entries = nestedEntries others := by
  match entries, resembles with
  | _, .nil => rfl
  | _, .cons _ head tail => simp only [nestedEntries, head.nested_eq, tail.nestedEntries_eq]

end

mutual

/-- Values that resemble each other are the same if the callables in them are. -/
theorem Resembles.eq {first second : Value} (resembles : Resembles Eq first second) :
    first = second := by
  match first, resembles with
  | _, .nil => rfl
  | _, .bool _ => rfl
  | _, .number _ => rfl
  | _, .string _ _ => rfl
  | _, .error _ => rfl
  | _, .list items => rw [items.eq]
  | _, .map entries => rw [entries.eq]
  | _, .closure same => exact same
  | _, .native _ => rfl
  | _, .super same => exact same

theorem ItemsResemble.eq {items others : List Value} (resembles : ItemsResemble Eq items others) :
    items = others := by
  match items, resembles with
  | _, .nil => rfl
  | _, .cons head tail => rw [head.eq, tail.eq]

theorem EntriesResemble.eq {entries others : List (String × Value)}
    (resembles : EntriesResemble Eq entries others) : entries = others := by
  match entries, resembles with
  | _, .nil => rfl
  | _, .cons _ head tail => rw [head.eq, tail.eq]

end

/-! ### Values that resemble themselves -/

/-- Whether a callable is related to itself, if the value is one. -/
def SelfRelated (calls : Value → Value → Prop) : Value → Prop
  | .closure callee => calls (.closure callee) (.closure callee)
  | .function (.super environment depth bodies) =>
      calls (.function (.super environment depth bodies))
        (.function (.super environment depth bodies))
  | _ => True

mutual

/-- A value resembles itself if all callables in it are related to themselves. -/
theorem resembles_of_every : ∀ value : Value,
    Every (SelfRelated calls) value → Resembles calls value value
  | .nil, _ => .nil
  | .bool value, _ => .bool value
  | .number value, _ => .number value
  | .string content safe, _ => .string content safe
  | .list items, every => .list (itemsResemble_of_every items every)
  | .map entries, every => .map (entriesResemble_of_every entries every)
  | .closure _, related => .closure related
  | .function (.native name), _ => .native name
  | .function (.super _ _ _), related => .super related
  | .error message, _ => .error message

private theorem itemsResemble_of_every : ∀ items : List Value,
    EveryItem (SelfRelated calls) items → ItemsResemble calls items items
  | [], _ => .nil
  | item :: rest, every =>
      .cons (resembles_of_every item every.1) (itemsResemble_of_every rest every.2)

private theorem entriesResemble_of_every : ∀ entries : List (String × Value),
    EveryEntry (SelfRelated calls) entries → EntriesResemble calls entries entries
  | [], _ => .nil
  | (name, value) :: rest, every =>
      .cons name (resembles_of_every value every.1) (entriesResemble_of_every rest every.2)

end

/-- Where each callable is related to itself, each value resembles itself. -/
theorem resembles_refl (reflexive : ∀ callee, calls callee callee) (value : Value) :
    Resembles calls value value := by
  refine resembles_of_every value (every_of_forall ?_ value)
  intro value
  unfold SelfRelated
  split
  · exact reflexive _
  · exact reflexive _
  · exact True.intro

theorem basic_selfRelated : Basic (SelfRelated calls) :=
  ⟨True.intro, fun _ => True.intro, fun _ => True.intro, fun _ => True.intro⟩

/-! ### Looking at them -/

namespace Resembles

variable {third fourth : Value}

theorem display_eq (resembles : Resembles calls first second) : first.display = second.display := by
  cases resembles with
  | list items => simp only [display, items.nestedItems_eq]
  | map entries => simp only [display, entries.nestedEntries_eq]
  | _ => rfl

theorem describe_eq (resembles : Resembles calls first second) :
    first.describe = second.describe := by
  have nested := resembles.nested_eq
  cases resembles with
  | string content safe => rfl
  | error message => rfl
  | _ => simp only [describe, typeName, nested]

theorem length?_eq (resembles : Resembles calls first second) : first.length? = second.length? := by
  cases resembles with
  | list items => simp only [length?, (itemsResemble_iff.1 items).length_eq]
  | map entries => simp only [length?, (entriesResemble_iff.1 entries).length_eq]
  | _ => rfl

theorem isTrue_eq (resembles : Resembles calls first second) : first.isTrue = second.isTrue := by
  cases resembles with
  | list items => cases items <;> rfl
  | map entries => cases entries <;> rfl
  | _ => rfl

theorem isNil_eq (resembles : Resembles calls first second) : first.isNil = second.isNil := by
  cases resembles <;> rfl

theorem isError_eq (resembles : Resembles calls first second) : first.isError = second.isError := by
  cases resembles <;> rfl

theorem isUnsafeString_eq (resembles : Resembles calls first second) :
    first.isUnsafeString = second.isUnsafeString := by
  cases resembles <;> rfl

theorem number?_eq (resembles : Resembles calls first second) : first.number? = second.number? := by
  cases resembles <;> rfl

theorem string?_eq (resembles : Resembles calls first second) : first.string? = second.string? := by
  cases resembles <;> rfl

theorem escaped_eq (resembles : Resembles calls first second) : first.escaped = second.escaped := by
  rw [escaped, escaped, resembles.display_eq]

theorem writtenText_eq (autoescape : Bool) (resembles : Resembles calls first second) :
    Interpreter.writtenText autoescape first = Interpreter.writtenText autoescape second := by
  simp only [Interpreter.writtenText, resembles.isUnsafeString_eq, resembles.escaped_eq,
    resembles.display_eq]

theorem member (name : String) (resembles : Resembles calls first second) :
    Option.Rel (Resembles calls) (first.member? name) (second.member? name) := by
  cases resembles with
  | map entries => exact (entriesResemble_iff.1 entries).lookup name
  | _ => exact .none

theorem item (resembles : Resembles calls first second) (keys : Resembles calls third fourth) :
    Option.Rel (Resembles calls) (first.item? third) (second.item? fourth) := by
  cases resembles with
  | map entries =>
      cases keys with
      | string name _ => exact (entriesResemble_iff.1 entries).lookup name
      | _ => exact .none
  | list items =>
      cases keys with
      | number place =>
          have items := itemsResemble_iff.1 items
          simp only [item?, items.length_eq]
          cases index? place _ with
          | none => exact .none
          | some index => exact getElem?_related items index
      | _ => exact .none
  | string content safe =>
      cases keys with
      | number place =>
          have scalar : Every (SelfRelated calls) (.string content safe) := True.intro
          cases selected : (Value.string content safe).item? (.number place) with
          | none => exact .none
          | some found =>
              exact .some (resembles_of_every found (basic_selfRelated.every_item scalar selected))
      | _ => exact .none
  | _ => cases keys <;> exact .none

end Resembles

mutual

/-- Values that resemble each other are equal to the same ones. -/
theorem Resembles.equals_eq {first second third fourth : Value}
    (resembles : Resembles calls first second) (others : Resembles calls third fourth) :
    first.equals third = second.equals fourth := by
  match first, resembles with
  | _, .list items =>
      cases others with
      | list others => simp only [equals, items.equalItems_eq others]
      | _ => rfl
  | _, .map entries =>
      cases others with
      | map others =>
          simp only [equals, entries.equalEntries_eq others,
            (entriesResemble_iff.1 entries).length_eq, (entriesResemble_iff.1 others).length_eq]
      | _ => rfl
  | _, .nil => cases others <;> rfl
  | _, .bool _ => cases others <;> rfl
  | _, .number _ => cases others <;> rfl
  | _, .string _ _ => cases others <;> rfl
  | _, .error _ => cases others <;> rfl
  | _, .closure _ => cases others <;> rfl
  | _, .native _ => cases others <;> rfl
  | _, .super _ => cases others <;> rfl

theorem ItemsResemble.equalItems_eq {items others items' others' : List Value}
    (resembles : ItemsResemble calls items others)
    (resemblesOthers : ItemsResemble calls items' others') :
    equalItems items items' = equalItems others others' := by
  match items, resembles with
  | _, .nil => cases resemblesOthers <;> rfl
  | _, .cons head tail =>
      cases resemblesOthers with
      | nil => rfl
      | cons head' tail' =>
          simp only [equalItems, head.equals_eq head', tail.equalItems_eq tail']

theorem EntriesResemble.equalEntries_eq {entries others entries' others' : List (String × Value)}
    (resembles : EntriesResemble calls entries others)
    (resemblesOthers : EntriesResemble calls entries' others') :
    equalEntries entries entries' = equalEntries others others' := by
  match entries, resembles with
  | _, .nil => simp only [equalEntries]
  | _, .cons name head tail =>
      have stored := (entriesResemble_iff.1 resemblesOthers).lookup name
      simp only [equalEntries, tail.equalEntries_eq resemblesOthers]
      generalize entries'.lookup name = found at stored
      generalize others'.lookup name = otherFound at stored
      cases stored with
      | none => rfl
      | some values => simp only [head.equals_eq values]

end

/-! ### What is made of them -/

namespace Resembles

variable {third fourth : Value}

theorem checked (resembles : Resembles calls first second) :
    Alike WordedAlike (Resembles calls) first.checked second.checked := by
  cases resembles with
  | error message => rfl
  | nil => exact .nil
  | bool value => exact .bool value
  | number value => exact .number value
  | string content safe => exact .string content safe
  | list items => exact .list items
  | map entries => exact .map entries
  | closure related => exact .closure related
  | native name => exact .native name
  | super related => exact .super related

theorem order (left : Resembles calls first second) (right : Resembles calls third fourth) :
    Alike WordedAlike Eq (first.order third) (second.order fourth) := by
  have same : ∀ result : Except EvalError Ordering, Alike WordedAlike Eq result result :=
    Alike.refl wordedAlike_refl fun _ => rfl
  have clash : WordedAlike (.cannotCompare first third) (.cannotCompare second fourth) :=
    congrArg₂ (fun one other : String => s!"Cannot compare {one} and {other}")
      left.describe_eq right.describe_eq
  cases left with
  | number _ => cases right <;> first | exact same _ | exact clash
  | string _ _ => cases right <;> first | exact same _ | exact clash
  | _ => exact clash

/-- Something holds of an item of each of two lists, or of none. -/
theorem any_eq {items others : List Value} {holds holds' : Value → Bool}
    (resembles : List.Forall₂ (Resembles calls) items others)
    (same : ∀ {item other}, Resembles calls item other → holds item = holds' other) :
    items.any holds = others.any holds' := by
  induction resembles with
  | nil => rfl
  | cons head _ inductionHypothesis =>
      rw [List.any_cons, List.any_cons, same head, inductionHypothesis]

theorem has_eq {entries others : Table Value}
    (resembles : EntriesRelated (Resembles calls) entries others) (name : String) :
    Table.has entries name = Table.has others name := by
  have stored := resembles.lookup name
  unfold Table.has
  generalize entries.lookup name = found at stored
  generalize others.lookup name = otherFound at stored
  cases stored <;> rfl

theorem isIn (resembles : Resembles calls first second)
    (containers : Resembles calls third fourth) :
    Alike WordedAlike Eq (first.isIn third) (second.isIn fourth) := by
  have clash : WordedAlike (.notContainer third) (.notContainer fourth) :=
    congrArg (fun described : String => s!"{described} is not a container")
      containers.describe_eq
  cases containers with
  | string content _ =>
      exact congrArg (Text.contains content) resembles.display_eq
  | list items => exact any_eq (itemsResemble_iff.1 items) fun head => head.equals_eq resembles
  | map entries =>
      have has := has_eq (entriesResemble_iff.1 entries)
      change first.string?.any _ = second.string?.any _
      rw [resembles.string?_eq, funext has]
  | _ => exact clash

/-- An operation that fails on such operands complains about them alike. -/
theorem unsupported (operator : BinaryOperator) (left : Resembles calls first second)
    (right : Resembles calls third fourth) :
    WordedAlike (.unsupportedOperands operator first third)
      (.unsupportedOperands operator second fourth) :=
  congrArg₂ (fun one other : String =>
    s!"Unsupported operands for '{operator.symbol}': {one} and {other}")
    left.describe_eq right.describe_eq

theorem sum (left : Resembles calls first second) (right : Resembles calls third fourth) :
    Alike WordedAlike (Resembles calls) (first.sum third) (second.sum fourth) := by
  have clash := left.unsupported .add right
  cases left with
  | number _ => cases right <;> first | exact .number _ | exact clash
  | string _ _ => cases right <;> first | exact .string _ _ | exact clash
  | list items =>
      cases right with
      | list others =>
          exact .list (itemsResemble_iff.2 (List.rel_append (itemsResemble_iff.1 items)
            (itemsResemble_iff.1 others)))
      | _ => exact clash
  | _ => exact clash

theorem product (left : Resembles calls first second) (right : Resembles calls third fourth) :
    Alike WordedAlike (Resembles calls) (first.product third) (second.product fourth) := by
  have clash := left.unsupported .multiply right
  cases left with
  | number _ => cases right <;> first | exact .number _ | exact clash
  | string content safe =>
      cases right with
      | number count =>
          change Alike WordedAlike (Resembles calls) (repetition content count)
            (repetition content count)
          unfold repetition
          split
          · rfl
          · split
            · rfl
            · split
              · exact .string _ _
              · rfl
      | _ => exact clash
  | _ => exact clash

theorem arithmetic (operator : BinaryOperator) (operation : Float → Float → Float)
    (left : Resembles calls first second) (right : Resembles calls third fourth) :
    Alike WordedAlike (Resembles calls) (Value.arithmetic operator operation first third)
      (Value.arithmetic operator operation second fourth) := by
  unfold Value.arithmetic
  rw [left.number?_eq, right.number?_eq]
  split
  · exact .number _
  · exact left.unsupported operator right

theorem division (operator : BinaryOperator) (operation : Float → Float → Float)
    (left : Resembles calls first second) (right : Resembles calls third fourth) :
    Alike WordedAlike (Resembles calls) (Value.division operator operation first third)
      (Value.division operator operation second fourth) := by
  unfold Value.division
  rw [left.number?_eq, right.number?_eq]
  split
  · split
    · rfl
    · exact .number _
  · exact left.unsupported operator right

theorem operation (operator : BinaryOperator) (left : Resembles calls first second)
    (right : Resembles calls third fourth) :
    Alike WordedAlike (Resembles calls) (operator.apply first third)
      (operator.apply second fourth) := by
  have tested : ∀ {α : Type} {found other : Except EvalError α} (holds : α → Bool),
      Alike WordedAlike Eq found other →
        Alike WordedAlike (Resembles calls) (found.map fun value => Value.bool (holds value))
          (other.map fun value => Value.bool (holds value)) := by
    intro α found other holds alike
    cases found <;> cases other <;> first
      | exact alike
      | exact (show _ = _ from alike) ▸ .bool _
  have bool : ∀ {value other : Bool}, value = other →
      Resembles calls (.bool value) (.bool other) := by
    rintro value _ rfl
    exact .bool value
  cases operator with
  | or => exact bool (by rw [left.isTrue_eq, right.isTrue_eq])
  | and => exact bool (by rw [left.isTrue_eq, right.isTrue_eq])
  | equal => exact bool (left.equals_eq right)
  | notEqual => exact bool (by rw [left.equals_eq right])
  | less => exact tested _ (left.order right)
  | lessEqual => exact tested _ (left.order right)
  | greater => exact tested _ (left.order right)
  | greaterEqual => exact tested _ (left.order right)
  | isIn => exact tested _ (left.isIn right)
  | notIn => exact tested _ (left.isIn right)
  | concat =>
      simp only [BinaryOperator.apply, left.display_eq, right.display_eq]
      exact .string _ _
  | add => exact left.sum right
  | subtract => exact arithmetic _ _ left right
  | multiply => exact left.product right
  | divide => exact division _ _ left right
  | floorDivide => exact division _ _ left right
  | modulo => exact division _ _ left right

theorem negation (resembles : Resembles calls first second) :
    Alike WordedAlike (Resembles calls) (Expression.negation first)
      (Expression.negation second) := by
  have clash : WordedAlike (.cannotNegate first) (.cannotNegate second) :=
    congrArg (fun described : String => s!"Cannot negate {described}") resembles.describe_eq
  cases resembles with
  | number value => exact .number _
  | _ => exact clash

/-! ### Loops over them -/

theorem items (targets : List String) (iterable : Expression)
    (resembles : Resembles calls first second) :
    Alike WordedAlike (List.Forall₂ (Resembles calls)) (Loop.items targets iterable first)
      (Loop.items targets iterable second) := by
  have scalars : ∀ texts : List Value, (∀ text ∈ texts, Resembles calls text text) →
      List.Forall₂ (Resembles calls) texts texts := fun _ => List.forall₂_same.2
  have clash : WordedAlike (.notIterable iterable first) (.notIterable iterable second) :=
    congrArg (fun described : String => s!"'{iterable.text}' is not iterable ({described})")
      resembles.describe_eq
  cases resembles with
  | list items => exact itemsResemble_iff.1 items
  | map entries =>
      have entries := entriesResemble_iff.1 entries
      simp only [Loop.items]
      split
      · refine List.forall₂_map_left_iff.2 (List.forall₂_map_right_iff.2 ?_)
        refine entries.imp fun entry other same => ?_
        rw [same.1]
        exact .list (.cons (.string _ _) (.cons same.2 .nil))
      · refine List.forall₂_map_left_iff.2 (List.forall₂_map_right_iff.2 ?_)
        refine entries.imp fun entry other same => ?_
        rw [same.1]
        exact .string _ _
  | string content _ =>
      refine scalars _ fun text member => ?_
      rcases List.mem_map.1 member with ⟨character, _, rfl⟩
      exact .string _ _
  | nil => exact .nil
  | _ => exact clash

theorem zip {targets : List String} {values others : List Value}
    (resembles : List.Forall₂ (Resembles calls) values others) :
    EntriesRelated (Resembles calls) (targets.zip values) (targets.zip others) := by
  induction targets generalizing values others with
  | nil => exact .nil
  | cons target rest inductionHypothesis =>
      cases resembles with
      | nil => exact .nil
      | cons head tail => exact .cons ⟨rfl, head⟩ (inductionHypothesis tail)

theorem bindings (targets : List String) (resembles : Resembles calls first second) :
    Alike WordedAlike (EntriesRelated (Resembles calls)) (Loop.bindings targets first)
      (Loop.bindings targets second) := by
  have unpacked : ∀ targets : List String, (∀ target, targets ≠ [target]) →
      Alike WordedAlike (EntriesRelated (Resembles calls)) (Loop.bindings targets first)
        (Loop.bindings targets second) := by
    intro targets several
    have clash : WordedAlike (.cannotUnpack first targets.length)
        (.cannotUnpack second targets.length) :=
      congrArg (fun described : String =>
        s!"Cannot unpack {described} into {targets.length} variables") resembles.describe_eq
    cases resembles with
    | list items =>
        have items := itemsResemble_iff.1 items
        simp only [Loop.bindings, items.length_eq]
        split
        · exact zip items
        · exact clash
    | _ => simp only [Loop.bindings]; exact clash
  match targets with
  | [target] => exact .cons ⟨rfl, resembles⟩ .nil
  | [] => exact unpacked [] (by simp)
  | target :: next :: rest => exact unpacked (target :: next :: rest) (by simp)

end Resembles

end Value

end TemplateEngine

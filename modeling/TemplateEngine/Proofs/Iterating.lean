import TemplateEngine.Proofs.Capturing
import TemplateEngine.Proofs.Isolation

/-!
# Iterations of loops

The body of a loop starts once for each item that is visited, in order, until it fails.  Where
it starts, the targets are bound to the item and `loop` to the counters of the iteration, in a
scope of their own.  This describes those places, and what names have as their values there.
-/

namespace TemplateEngine

/-- The parts of a loop. -/
structure Looping where
  targets : List String
  iterable : Expression
  condition : Option Expression
  body : Body Node
  empty : Option (Body Node)

namespace Looping

/-- The statement of a loop. -/
def statement (looping : Looping) : Statement Node :=
  .loop looping.targets looping.iterable looping.condition looping.body looping.empty

/-- The same loop without a filter, over what another expression lists. -/
def through (looping : Looping) (listing : Expression) : Looping :=
  { looping with iterable := listing, condition := none }

end Looping

namespace Loop

/-- Open the scope of an item, with the targets and the counters of the loop bound. -/
def begin (environment : Environment) (targets : List String) (length index : Nat)
    (item : Value) : Run TemplateError Environment := do
  let inside ← openItem environment targets item
  Run.bind inside.scope "loop" (info index length)
  return inside

/-- The place inside the scope of an item, when the targets are bound there in some way. -/
def entered (environment : Environment) (state : RunState) (bound : List (String × Value)) :
    Place :=
  let inside := environment.within (state.store.childScope environment.scope).1
  ⟨inside, ⟨(state.store.childScope environment.scope).2.bindAll inside.scope bound, state.sink⟩⟩

/-- The place at which the body of a loop starts, when the targets are bound in some way. -/
def start (environment : Environment) (state : RunState) (bound : List (String × Value))
    (index length : Nat) : Place :=
  let place := entered environment state bound
  ⟨place.environment, { place.state with
    store := place.state.store.bind place.environment.scope "loop" (info index length) }⟩

variable {environment : Environment} {targets : List String} {length index number : Nat}
variable {item visited : Value} {items : List Value} {state after : RunState} {place : Place}
variable {render : Environment → Run TemplateError Unit}

/-- An item is bound in a new scope, unless it cannot be unpacked. -/
theorem openItem_apply (environment : Environment) (targets : List String) (item : Value)
    (state : RunState) :
    openItem environment targets item state =
      match bindings targets item with
      | .ok bound =>
          some (.ok (entered environment state bound).environment,
            (entered environment state bound).state)
      | .error error =>
          some (.error (.evaluation error), (entered environment state []).state) := by
  unfold openItem
  cases bindings targets item with
  | error error => rfl
  | ok bound => rfl

theorem begin_of_bindings {bound : List (String × Value)}
    (given : bindings targets item = .ok bound) :
    begin environment targets length index item state =
      some (.ok (start environment state bound index length).environment,
        (start environment state bound index length).state) := by
  unfold begin
  rw [Run.bind_apply, openItem_apply, given]
  rfl

theorem exists_of_begin {inside : Environment}
    (begun : begin environment targets length index item state = some (.ok inside, after)) :
    ∃ bound, bindings targets item = .ok bound ∧
      start environment state bound index length = ⟨inside, after⟩ := by
  cases given : bindings targets item with
  | error error =>
      unfold begin at begun
      rw [Run.bind_apply, openItem_apply, given] at begun
      cases begun
  | ok bound =>
      rw [begin_of_bindings given] at begun
      cases begun
      exact ⟨bound, rfl, rfl⟩

theorem visit_cons (item : Value) (items : List Value) :
    visit environment targets length render index (item :: items) =
      (do
        let inside ← begin environment targets length index item
        render inside
        visit environment targets length render (index + 1) items) := by
  simp only [visit, begin, bind_assoc, pure_bind]

/-- Where the body of a loop starts: in which iteration, and for which item. -/
inductive Starts (environment : Environment) (targets : List String) (length : Nat)
    (render : Environment → Run TemplateError Unit) :
    Nat → List Value → RunState → Nat → Value → Place → Prop where
  | here {index : Nat} {item : Value} {items : List Value} {state started : RunState}
      {inside : Environment}
      (begun : begin environment targets length index item state = some (.ok inside, started)) :
      Starts environment targets length render index (item :: items) state index item
        ⟨inside, started⟩
  | later {index number : Nat} {item visited : Value} {items : List Value}
      {state started after : RunState} {inside : Environment} {place : Place}
      (begun : begin environment targets length index item state = some (.ok inside, started))
      (rendered : render inside started = some (.ok (), after))
      (further : Starts environment targets length render (index + 1) items after number visited
        place) :
      Starts environment targets length render index (item :: items) state number visited place

/-- Items are visited in order, and each of them is bound where its iteration starts. -/
theorem Starts.visits
    (starts : Starts environment targets length render index items state number visited place) :
    index ≤ number ∧ items[number - index]? = some visited ∧
      ∃ before bound, bindings targets visited = .ok bound ∧
        place = start environment before bound number length := by
  induction starts with
  | @here index item items state started inside begun =>
      obtain ⟨bound, given, same⟩ := exists_of_begin begun
      exact ⟨Nat.le_refl _, by simp, state, bound, given, same.symm⟩
  | @later index number item visited items state started after inside place _ _ _
      inductionHypothesis =>
      obtain ⟨later, found, bound⟩ := inductionHypothesis
      refine ⟨by omega, ?_, bound⟩
      rw [show number - index = number - (index + 1) + 1 by omega, List.getElem?_cons_succ]
      exact found

/-- The body starts at one place in each iteration. -/
theorem Starts.unique {other : Value} {otherPlace : Place}
    (starts : Starts environment targets length render index items state number visited place)
    (others : Starts environment targets length render index items state number other
      otherPlace) : visited = other ∧ place = otherPlace := by
  induction starts with
  | here begun =>
      cases others with
      | here again =>
          cases begun.symm.trans again
          exact ⟨rfl, rfl⟩
      | later _ _ further => exact absurd further.visits.1 (by omega)
  | later begun rendered further inductionHypothesis =>
      cases others with
      | here _ => exact absurd further.visits.1 (by omega)
      | later again renderedAgain others =>
          cases begun.symm.trans again
          cases rendered.symm.trans renderedAgain
          exact inductionHypothesis others

/-- A loop that succeeds has started its body for every item. -/
theorem exists_starts_of_visit
    (ran : visit environment targets length render index items state = some (.ok (), after))
    {distance : Nat} (found : items[distance]? = some visited) :
    ∃ place, Starts environment targets length render index items state (index + distance) visited
      place := by
  induction items generalizing index distance state with
  | nil => simp at found
  | cons item items inductionHypothesis =>
      rw [visit_cons, Run.bind_apply] at ran
      match begun : begin environment targets length index item state with
      | none =>
          rw [begun] at ran
          cases ran
      | some (.error error, started) =>
          rw [begun] at ran
          cases ran
      | some (.ok inside, started) =>
          rw [begun] at ran
          dsimp only at ran
          rw [Run.bind_apply] at ran
          cases distance with
          | zero =>
              obtain rfl : item = visited := by simpa using found
              exact ⟨_, .here begun⟩
          | succ distance =>
              match rendered : render inside started with
              | none =>
                  rw [rendered] at ran
                  cases ran
              | some (.error error, middle) =>
                  rw [rendered] at ran
                  cases ran
              | some (.ok (), middle) =>
                  rw [rendered] at ran
                  obtain ⟨place, further⟩ := inductionHypothesis ran (by simpa using found)
                  refine ⟨place, ?_⟩
                  rw [show index + (distance + 1) = index + 1 + distance by omega]
                  exact .later begun rendered further

end Loop

/-! ## What expressions have as their values -/

theorem Value.checked_eq_ok {value : Value} (sound : value.isError = false) :
    value.checked = .ok value := by
  cases value with
  | error message => cases sound
  | _ => rfl

namespace Place

variable (place : Place) (natives : Natives) (bound depth : Nat)

/-- Whether an expression has a value at a place, where its evaluation changes nothing. -/
def Has (expression : Expression) (value : Value) : Prop :=
  place.evaluate natives bound depth expression = some (.ok value, place.state)

variable {place natives bound depth} {target index : Expression} {value key found : Value}
variable {between after : RunState} {name : String}

theorem Has.unique {other : Value} (has : place.Has natives bound depth target value)
    (others : place.Has natives bound depth target other) : value = other := by
  have same := has.symm.trans others
  cases same
  rfl

theorem has_name (position : Position)
    (found : place.state.store.lookup place.environment.scope name = some value)
    (sound : value.isError = false) :
    place.Has natives bound depth (.name name position) value := by
  unfold Has evaluate Expression.evaluate
  rw [Run.bind_apply]
  change some ((Expression.foundOr _ _ (place.state.store.lookup place.environment.scope name)),
    place.state) = _
  rw [found]
  exact congrArg (fun result => some (result, place.state)) (Value.checked_eq_ok sound)

theorem evaluate_item
    (evaluated : place.evaluate natives bound depth target = some (.ok value, between))
    (selected : (Place.mk place.environment between).evaluate natives bound depth index =
      some (.ok key, after)) (position : Position) :
    place.evaluate natives bound depth (.item target index position) =
      some (Expression.foundOr place.environment (.noItem target index) (value.item? key),
        after) := by
  unfold evaluate at evaluated selected ⊢
  rw [Expression.evaluate, Run.bind_apply, evaluated]
  dsimp only
  rw [Run.bind_apply, selected]
  rfl

theorem evaluate_member
    (evaluated : place.evaluate natives bound depth target = some (.ok value, between))
    (name : String) (position : Position) :
    place.evaluate natives bound depth (.member target name position) =
      some (Expression.foundOr place.environment (.noMember target name) (value.member? name),
        between) := by
  unfold evaluate at evaluated ⊢
  rw [Expression.evaluate, Run.bind_apply, evaluated]
  rfl

/-- A filter is applied to the value and the arguments, unless it looks at undefined values. -/
theorem evaluate_filter
    (evaluated : place.evaluate natives bound depth target = some (.ok value, between))
    {arguments : CallArguments Expression} {given : Arguments}
    (supplied : Expression.evaluateArguments (Interpreter.effects natives
      (Interpreter.bounded natives bound)) depth place.environment arguments between =
        some (.ok given, after))
    {used : String} (ordinary : Expression.inspectsUndefined used = false) {filter : Filter}
    (registered : place.environment.registries.filters.get? used = some filter)
    (position : Position) :
    place.evaluate natives bound depth (.filter target used arguments position) =
      some ((filter.apply place.environment.config.autoescape value given).checked, after) := by
  unfold evaluate at evaluated ⊢
  rw [Expression.evaluate, ordinary, if_neg Bool.false_ne_true, Run.bind_apply, evaluated]
  dsimp only
  rw [Run.bind_apply, supplied]
  change some (Expression.applyFilter place.environment used value given, after) = _
  rw [Expression.applyFilter, registered]

theorem Has.member (has : place.Has natives bound depth target value)
    (selected : value.member? name = some found) (sound : found.isError = false)
    (position : Position) :
    place.Has natives bound depth (.member target name position) found := by
  unfold Has
  rw [evaluate_member has, selected, Expression.foundOr, Value.checked_eq_ok sound]

end Place

/-! ## Values where a body starts -/

namespace Loop

variable {natives : Natives} {bound depth : Nat}

/-- The counters of an iteration out of several, as they are read where its body starts. -/
structure Counts (place : Place) (natives : Natives) (bound depth number count : Nat) : Prop where
  index0 : ∀ read selected, place.Has natives bound depth
    (.member (.name "loop" read) "index0" selected) (.ofNat number)
  index : ∀ read selected, place.Has natives bound depth
    (.member (.name "loop" read) "index" selected) (.ofNat (number + 1))
  revindex : ∀ read selected, place.Has natives bound depth
    (.member (.name "loop" read) "revindex" selected) (.ofNat (count - number))
  revindex0 : ∀ read selected, place.Has natives bound depth
    (.member (.name "loop" read) "revindex0" selected) (.ofNat (count - number - 1))
  first : ∀ read selected, place.Has natives bound depth
    (.member (.name "loop" read) "first" selected) (.bool (number = 0))
  last : ∀ read selected, place.Has natives bound depth
    (.member (.name "loop" read) "last" selected) (.bool (number + 1 = count))
  length : ∀ read selected, place.Has natives bound depth
    (.member (.name "loop" read) "length" selected) (.ofNat count)

variable {environment : Environment} {state : RunState} {given : List (String × Value)}
variable {index length : Nat}

private theorem child_present (store : Store) (scope : Scope) (given : List (String × Value)) :
    (store.childScope scope).1.frame <
      ((store.childScope scope).2.bindAll (store.childScope scope).1 given).frames.size := by
  rw [Store.size_bindAll]
  simp [Store.childScope, Scope.child, Store.addFrame]

/-- Where a body starts, `loop` has the counters of the iteration. -/
theorem start_counts : Counts (start environment state given index length) natives bound depth
    index length := by
  have state : ∀ read, (start environment state given index length).Has natives bound depth
      (.name "loop" read) (info index length) := fun read =>
    Place.has_name read (Store.lookup_bind_self _ _ _ _ (child_present _ _ _)) rfl
  constructor <;> intro read selected <;> exact (state read).member rfl rfl selected

/-- Where a body starts, a target has the value that it was bound to last. -/
theorem start_has {name : String} {value : Value} (other : name ≠ "loop")
    (found : given.reverse.lookup name = some value) (sound : value.isError = false)
    (position : Position) :
    (start environment state given index length).Has natives bound depth (.name name position)
      value := by
  apply Place.has_name position _ sound
  have fresh : (state.store.childScope environment.scope).1.frame <
      (state.store.childScope environment.scope).2.frames.size :=
    child_present state.store environment.scope []
  have bindings : (start environment state given index length).state.store.bindings
      (start environment state given index length).environment.scope.frame =
        Table.store "loop" (info index length)
          (((state.store.childScope environment.scope).2.bindings
            (state.store.childScope environment.scope).1.frame).storeAll given) := by
    rw [← Store.bindings_bindAll_self _ given fresh]
    exact Store.bindings_bind_self _ _ "loop" (info index length) (child_present _ _ _)
  rw [Store.lookup, Store.lookupChain, Scope.chain, List.findSome?_cons, bindings,
    Table.lookup_store, if_neg other, Table.lookup_storeAll, found]
  rfl

end Loop

end TemplateEngine

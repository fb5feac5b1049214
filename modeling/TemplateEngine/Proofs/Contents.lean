import TemplateEngine.Data
import TemplateEngine.Filter
import TemplateEngine.Interpreter.Loop
import TemplateEngine.Proofs.Operations

/-!
# The contents of values

Lists and maps hold other values, these may be lists and maps again, and so on down to
values that hold nothing.  What is true of all of the latter stays true when a value is
taken apart, and when values are put together.  A store holds the values that its frames
bind.
-/

namespace TemplateEngine

namespace Value

mutual

/-- Whether something holds of every value, in a value, that is no list and no map. -/
def Every (holds : Value → Prop) : Value → Prop
  | .list items => EveryItem holds items
  | .map entries => EveryEntry holds entries
  | .nil => holds .nil
  | .bool value => holds (.bool value)
  | .number value => holds (.number value)
  | .string content safe => holds (.string content safe)
  | .closure callee => holds (.closure callee)
  | .function callee => holds (.function callee)
  | .error message => holds (.error message)

/-- Whether it holds in every item. -/
def EveryItem (holds : Value → Prop) : List Value → Prop
  | [] => True
  | item :: rest => Every holds item ∧ EveryItem holds rest

/-- Whether it holds in the value of every entry. -/
def EveryEntry (holds : Value → Prop) : List (String × Value) → Prop
  | [] => True
  | (_, value) :: rest => Every holds value ∧ EveryEntry holds rest

end

variable {holds : Value → Prop}

theorem everyItem_iff (items : List Value) :
    EveryItem holds items ↔ ∀ item ∈ items, Every holds item := by
  induction items with
  | nil => simp [EveryItem]
  | cons item rest inductionHypothesis => simp [EveryItem, inductionHypothesis]

theorem everyEntry_iff (entries : List (String × Value)) :
    EveryEntry holds entries ↔ ∀ entry ∈ entries, Every holds entry.2 := by
  induction entries with
  | nil => simp [EveryEntry]
  | cons entry rest inductionHypothesis =>
      rcases entry with ⟨_, value⟩
      simp [EveryEntry, inductionHypothesis]

theorem every_list {items : List Value} :
    Every holds (.list items) ↔ ∀ item ∈ items, Every holds item :=
  everyItem_iff items

theorem every_map {entries : List (String × Value)} :
    Every holds (.map entries) ↔ ∀ entry ∈ entries, Every holds entry.2 :=
  everyEntry_iff entries

mutual

/-- What holds of all values holds in all of them. -/
theorem every_of_forall (always : ∀ value, holds value) : ∀ value, Every holds value
  | .list items => everyItem_of_forall always items
  | .map entries => everyEntry_of_forall always entries
  | .nil => always _
  | .bool _ => always _
  | .number _ => always _
  | .string _ _ => always _
  | .closure _ => always _
  | .function _ => always _
  | .error _ => always _

theorem everyItem_of_forall (always : ∀ value, holds value) : ∀ items, EveryItem holds items
  | [] => True.intro
  | item :: rest => ⟨every_of_forall always item, everyItem_of_forall always rest⟩

theorem everyEntry_of_forall (always : ∀ value, holds value) :
    ∀ entries, EveryEntry holds entries
  | [] => True.intro
  | (_, value) :: rest => ⟨every_of_forall always value, everyEntry_of_forall always rest⟩

end

section

variable {others : Value → Prop}

mutual

theorem Every.mono (implied : ∀ value, holds value → others value) :
    ∀ value, Every holds value → Every others value
  | .list items, every => EveryItem.mono implied items every
  | .map entries, every => EveryEntry.mono implied entries every
  | .nil, every => implied _ every
  | .bool _, every => implied _ every
  | .number _, every => implied _ every
  | .string _ _, every => implied _ every
  | .closure _, every => implied _ every
  | .function _, every => implied _ every
  | .error _, every => implied _ every

theorem EveryItem.mono (implied : ∀ value, holds value → others value) :
    ∀ items, EveryItem holds items → EveryItem others items
  | [], _ => True.intro
  | item :: rest, every =>
      ⟨Every.mono implied item every.1, EveryItem.mono implied rest every.2⟩

theorem EveryEntry.mono (implied : ∀ value, holds value → others value) :
    ∀ entries, EveryEntry holds entries → EveryEntry others entries
  | [], _ => True.intro
  | (_, value) :: rest, every =>
      ⟨Every.mono implied value every.1, EveryEntry.mono implied rest every.2⟩

end

end

theorem Every.member {value found : Value} {name : String} (every : Every holds value)
    (selected : value.member? name = some found) : Every holds found := by
  unfold member? at selected
  split at selected
  · exact every_map.1 every _ (Table.mem_of_lookup selected)
  · cases selected

/-- What holds of the values that evaluation makes of nothing else. -/
structure Basic (holds : Value → Prop) : Prop where
  nil : holds .nil
  bool : ∀ value, holds (.bool value)
  number : ∀ value, holds (.number value)
  plain : ∀ content, holds (.plain content)

namespace Basic

variable (basic : Basic holds)
include basic

theorem every_literal (literal : Literal) : Every holds literal.value := by
  cases literal with
  | none => exact basic.nil
  | bool value => exact basic.bool value
  | integer value => exact basic.number _
  | float value => exact basic.number value
  | string value => exact basic.plain value

theorem every_item {value key found : Value} (every : Every holds value)
    (selected : value.item? key = some found) : Every holds found := by
  unfold item? at selected
  split at selected
  · exact every_map.1 every _ (Table.mem_of_lookup selected)
  · rename_i items place
    rcases Option.bind_eq_some_iff.1 selected with ⟨index, _, found⟩
    exact every_list.1 every _ (List.mem_of_getElem? found)
  · obtain ⟨index, _, selected⟩ := Option.bind_eq_some_iff.1 selected
    rcases Option.bind_eq_some_iff.1 selected with ⟨character, _, made⟩
    cases made
    exact basic.plain _
  · cases selected

theorem every_operation {first second result : Value} {operator : BinaryOperator}
    (left : Every holds first) (right : Every holds second)
    (applied : operator.apply first second = .ok result) : Every holds result := by
  cases BinaryOperator.gives_of_apply applied with
  | bool value => exact basic.bool value
  | number value => exact basic.number value
  | plain content => exact basic.plain content
  | append isFirst isSecond =>
      subst isFirst
      subst isSecond
      rw [every_list] at left right ⊢
      exact List.forall_mem_append.2 ⟨left, right⟩

theorem every_items {value : Value} {targets : List String} {iterable : Expression}
    {items : List Value} (every : Every holds value)
    (iterated : Loop.items targets iterable value = .ok items) :
    ∀ item ∈ items, Every holds item := by
  unfold Loop.items at iterated
  split at iterated
  · cases iterated
    exact every_list.1 every
  · split at iterated
    · cases iterated
      intro item member
      rcases List.mem_map.1 member with ⟨entry, present, rfl⟩
      exact every_list.2 (by simpa using ⟨basic.plain _, every_map.1 every entry present⟩)
    · cases iterated
      intro item member
      rcases List.mem_map.1 member with ⟨entry, _, rfl⟩
      exact basic.plain _
  · cases iterated
    intro item member
    rcases List.mem_map.1 member with ⟨character, _, rfl⟩
    exact basic.plain _
  · cases iterated
    intro item member
    cases member
  · cases iterated

end Basic

theorem Every.bindings {targets : List String} {item : Value} {bound : List (String × Value)}
    (every : Every holds item) (given : Loop.bindings targets item = .ok bound) :
    ∀ entry ∈ bound, Every holds entry.2 := by
  unfold Loop.bindings at given
  split at given
  · cases given
    exact List.forall_mem_singleton.2 every
  · split at given
    · cases given
      intro entry member
      exact every_list.1 every _ (List.of_mem_zip member).2
    · cases given
  · cases given

end Value

/-! ## Filters -/

namespace Value

/-- Whether something is true of all values that cannot be called. -/
def AboutCallables (holds : Value → Prop) : Prop :=
  ∀ value : Value, value.isCallable = false → holds value

theorem AboutCallables.basic {holds : Value → Prop} (callables : AboutCallables holds) :
    Basic holds :=
  ⟨callables _ rfl, fun _ => callables _ rfl, fun _ => callables _ rfl, fun _ => callables _ rfl⟩

end Value

namespace Filter

open Value

variable {holds : Value → Prop} {value : Value} {arguments : Arguments}

theorem every_item_getD {key : Value} (basic : Basic holds) (every : Every holds value) :
    Every holds ((value.item? key).getD .nil) := by
  cases selected : value.item? key with
  | none => exact basic.nil
  | some item => exact basic.every_item every selected

/-- The arguments of a filter are among those given. -/
theorem mem_of_get? (positional : ∀ argument ∈ arguments.positional, holds argument)
    (keyword : ∀ argument ∈ arguments.keyword, holds argument.2) {place : Nat}
    {name : String} {found : Value} (given : arguments.get? place name = some found) :
    holds found := by
  rcases Option.or_eq_some_iff.1 given with given | ⟨_, given⟩
  · exact positional found (List.mem_of_getElem? given)
  · exact keyword _ (Table.mem_of_lookup given)

theorem every_defaultOf (basic : Basic holds) (every : Every holds value)
    (positional : ∀ argument ∈ arguments.positional, Every holds argument)
    (keyword : ∀ argument ∈ arguments.keyword, Every holds argument.2) :
    Every holds (defaultOf value arguments) := by
  unfold defaultOf
  dsimp only
  split
  · cases given : arguments.get? 0 "default_value" with
    | none => exact basic.plain _
    | some fallback => exact mem_of_get? positional keyword given
  · exact every

/-- What a filter makes, unless it fails, holds what its arguments hold and strings of its own. -/
theorem every_of_strings (basic : Basic holds)
    (string : ∀ content safe, holds (.string content safe)) (filter : Filter) (autoescape : Bool)
    (every : Every holds value)
    (positional : ∀ argument ∈ arguments.positional, Every holds argument)
    (keyword : ∀ argument ∈ arguments.keyword, Every holds argument.2)
    (sound : (filter.apply autoescape value arguments).isError = false) :
    Every holds (filter.apply autoescape value arguments) := by
  have changed : ∀ name change, (onText name change value).isError = false →
      Every holds (onText name change value) := by
    intro name change sound
    cases value <;> first | exact string _ _ | cases sound
  cases filter with
  | upper => exact changed _ _ sound
  | lower => exact changed _ _ sound
  | capitalize => exact changed _ _ sound
  | title => exact changed _ _ sound
  | trim => exact changed _ _ sound
  | replace =>
      simp only [apply, replaceText] at sound ⊢
      split at sound
      · exact changed _ _ sound
      · cases sound
  | length =>
      simp only [apply, lengthOf] at sound ⊢
      split
      · exact basic.number _
      · rename_i unmeasured
        split
        · exact basic.number _
        · rename_i present
          simp only [unmeasured, if_neg present] at sound
          cases sound
  | first => exact every_item_getD basic every
  | last => exact every_item_getD basic every
  | join =>
      simp only [apply, joinItems] at sound ⊢
      split at sound
      · exact string _ _
      · cases sound
  | default => exact every_defaultOf basic every positional keyword
  | safe =>
      simp only [apply, markSafe] at sound ⊢
      split at sound
      · cases sound
      · exact string _ _
      · exact string _ _
  | escape =>
      simp only [apply, escapeText] at sound ⊢
      split at sound
      · cases sound
      · exact string _ _
      · exact string _ _

/-- No filter makes a callable of its own. -/
theorem every_of_aboutCallables (callables : AboutCallables holds) (filter : Filter)
    (autoescape : Bool) (every : Every holds value)
    (positional : ∀ argument ∈ arguments.positional, Every holds argument)
    (keyword : ∀ argument ∈ arguments.keyword, Every holds argument.2) :
    Every holds (filter.apply autoescape value arguments) := by
  cases made : filter.apply autoescape value arguments with
  | error message => exact callables _ rfl
  | _ =>
      rw [← made]
      exact filter.every_of_strings callables.basic (fun _ _ => callables _ rfl) autoescape every
        positional keyword (by rw [made]; rfl)

end Filter

namespace Expression

variable {holds : Value → Prop} {environment : Environment} {value result : Value}

theorem every_of_checked (every : value.isError = false → value.Every holds)
    (checked : value.checked = .ok result) : result.Every holds := by
  cases value with
  | error message => cases checked
  | _ =>
      cases checked
      exact every rfl

/-- What the filter of a name gives is the value of the filter that is registered. -/
theorem every_of_applyFilter {used : String} {arguments : Arguments}
    (every : ∀ filter : Filter, environment.registries.filters.get? used = some filter →
      (filter.apply environment.config.autoescape value arguments).isError = false →
        (filter.apply environment.config.autoescape value arguments).Every holds)
    (applied : applyFilter environment used value arguments = .ok result) :
    result.Every holds := by
  unfold applyFilter at applied
  split at applied
  · rename_i filter found
    exact every_of_checked (every filter found) applied
  · cases applied

end Expression

/-! ## Stores -/

namespace Store

/-- Whether something holds of every entry that a store binds, in its frame. -/
def HoldsAt (holds : Nat → String × Value → Prop) (store : Store) : Prop :=
  ∀ frame, ∀ entry ∈ store.bindings frame, holds frame entry

section

variable {holds : Nat → String × Value → Prop} {store : Store}

theorem HoldsAt.bind {scope : Scope} {name : String} {value : Value} (held : store.HoldsAt holds)
    (stored : holds scope.frame (name, value)) : (store.bind scope name value).HoldsAt holds := by
  intro frame entry member
  by_cases nearest : frame = scope.frame
  · subst nearest
    by_cases present : scope.frame < store.frames.size
    · rw [bindings_bind_self store scope name value present] at member
      rcases Table.mem_of_mem_store member with rfl | member
      · exact stored
      · exact held _ entry member
    · rw [bindings_of_size_le _ (by simpa using present)] at member
      cases member
  · rw [bindings_bind_of_ne store scope name value nearest] at member
    exact held frame entry member

theorem HoldsAt.bindAll {scope : Scope} {entries : Table Value} (held : store.HoldsAt holds)
    (stored : ∀ entry ∈ entries, holds scope.frame entry) :
    (store.bindAll scope entries).HoldsAt holds := by
  induction entries generalizing store with
  | nil => exact held
  | cons entry rest inductionHypothesis =>
      rw [Store.bindAll, List.foldl_cons]
      exact inductionHypothesis (held.bind (stored entry List.mem_cons_self))
        fun other member => stored other (List.mem_cons_of_mem _ member)

theorem HoldsAt.addFrame (held : store.HoldsAt holds) (tree : Nat) :
    (store.addFrame tree).2.HoldsAt holds := by
  intro frame entry member
  rw [bindings_addFrame] at member
  exact held frame entry member

theorem HoldsAt.release (held : store.HoldsAt holds) (root : Scope) :
    (store.release root).HoldsAt holds := by
  intro frame entry member
  rcases bindings_release store root frame with released | same
  · rw [released] at member
    cases member
  · rw [same] at member
    exact held frame entry member

end

/-- Whether something holds of every value that a store binds. -/
def Holds (holds : Value → Prop) (store : Store) : Prop :=
  ∀ frame, ∀ entry ∈ store.bindings frame, holds entry.2

variable {holds : Value → Prop} {store : Store}

theorem Holds.at (held : store.Holds holds) : store.HoldsAt fun _ entry => holds entry.2 :=
  held

theorem Holds.bind {name : String} {value : Value} (held : store.Holds holds)
    (stored : holds value) (scope : Scope) : (store.bind scope name value).Holds holds :=
  held.at.bind stored

theorem Holds.bindAll {entries : Table Value} (held : store.Holds holds)
    (stored : ∀ entry ∈ entries, holds entry.2) (scope : Scope) :
    (store.bindAll scope entries).Holds holds :=
  held.at.bindAll stored

theorem Holds.addFrame (held : store.Holds holds) (tree : Nat) :
    (store.addFrame tree).2.Holds holds :=
  held.at.addFrame tree

theorem Holds.release (held : store.Holds holds) (root : Scope) :
    (store.release root).Holds holds :=
  held.at.release root

theorem Holds.lookup {scope : Scope} {name : String} {found : Value}
    (held : store.Holds holds) (looked : store.lookup scope name = some found) :
    holds found := by
  rcases List.exists_of_findSome?_eq_some looked with ⟨frame, _, bound⟩
  exact held frame _ (Table.mem_of_lookup bound)

theorem holds_empty : empty.Holds holds := by
  intro frame entry member
  cases member

theorem holds_scopeOf {data : Table Value} (stored : ∀ entry ∈ data, holds entry.2) :
    (empty.scopeOf data).2.Holds holds := by
  have opened : empty.newScope.2.Holds holds := holds_empty.addFrame 0
  exact opened.bindAll stored empty.newScope.1

end Store

end TemplateEngine

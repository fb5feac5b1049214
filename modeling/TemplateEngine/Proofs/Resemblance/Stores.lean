import TemplateEngine.Proofs.Resemblance

/-!
# Stores with related bindings

Two stores are related if they have the same frames, with tables of bindings that are related
in some way.  As long as empty tables are related, and storing the same name in related tables
leads to related tables, all that is done to stores keeps them related, and opens the same
scopes in both.
-/

namespace TemplateEngine

/-- Frames of one tree with related bindings. -/
structure Frame.Related (tables : Table Value → Table Value → Prop) (first second : Frame) :
    Prop where
  tree : first.tree = second.tree
  bindings : tables first.bindings second.bindings

/-- Stores with related frames. -/
structure Store.Related (tables : Table Value → Table Value → Prop) (first second : Store) :
    Prop where
  trees : first.trees = second.trees
  frames : ∀ number : Nat,
    Option.Rel (Frame.Related tables) first.frames[number]? second.frames[number]?

namespace Store.Related

variable {tables : Table Value → Table Value → Prop} {first second : Store}

theorem bindings (empty : tables [] []) (related : first.Related tables second) (frame : Nat) :
    tables (first.bindings frame) (second.bindings frame) := by
  have frames := related.frames frame
  unfold Store.bindings
  generalize first.frames[frame]? = found at frames
  generalize second.frames[frame]? = other at frames
  cases frames with
  | none => exact empty
  | some frames => exact frames.bindings

/-- What names stand for is related as soon as it is in each frame. -/
theorem lookup {relates : Value → Value → Prop} {name : String} (scope : Scope)
    (found : ∀ frame : Nat, Option.Rel relates ((first.bindings frame).lookup name)
      ((second.bindings frame).lookup name)) :
    Option.Rel relates (first.lookup scope name) (second.lookup scope name) := by
  unfold Store.lookup Store.lookupChain
  induction scope.chain with
  | nil => exact .none
  | cons frame rest inductionHypothesis =>
      have nearest := found frame
      rw [List.findSome?_cons, List.findSome?_cons]
      generalize (first.bindings frame).lookup name = found at nearest
      generalize (second.bindings frame).lookup name = other at nearest
      cases nearest with
      | none => exact inductionHypothesis
      | some nearest => exact .some nearest

theorem size_eq (related : first.Related tables second) :
    first.frames.size = second.frames.size := by
  apply Nat.le_antisymm
  · apply Nat.le_of_not_lt
    intro larger
    have frames := related.frames second.frames.size
    rw [Array.getElem?_eq_none (Nat.le_refl _), Array.getElem?_eq_getElem larger] at frames
    nomatch frames
  · apply Nat.le_of_not_lt
    intro larger
    have frames := related.frames first.frames.size
    rw [Array.getElem?_eq_none (Nat.le_refl _), Array.getElem?_eq_getElem larger] at frames
    nomatch frames

/-- A new frame gets the same number in both stores. -/
theorem addFrame (empty : tables [] []) (related : first.Related tables second) (tree : Nat) :
    (first.addFrame tree).1 = (second.addFrame tree).1 ∧
      (first.addFrame tree).2.Related tables (second.addFrame tree).2 := by
  refine ⟨related.size_eq, congrArg (max · (tree + 1)) related.trees, fun number => ?_⟩
  simp only [Store.addFrame, Array.getElem?_push, related.size_eq]
  split
  · exact .some ⟨rfl, empty⟩
  · exact related.frames number

theorem childScope (empty : tables [] []) (related : first.Related tables second)
    (scope : Scope) :
    (first.childScope scope).1 = (second.childScope scope).1 ∧
      (first.childScope scope).2.Related tables (second.childScope scope).2 := by
  obtain ⟨same, added⟩ := related.addFrame empty scope.tree
  exact ⟨congrArg scope.child same, added⟩

theorem detachedScope (empty : tables [] []) (related : first.Related tables second)
    (scope : Scope) :
    (first.detachedScope scope).1 = (second.detachedScope scope).1 ∧
      (first.detachedScope scope).2.Related tables (second.detachedScope scope).2 := by
  obtain ⟨same, added⟩ := related.addFrame empty scope.tree
  exact ⟨congrArg (fun frame => (⟨scope.tree, frame, []⟩ : Scope)) same, added⟩

theorem newScope (empty : tables [] []) (related : first.Related tables second) :
    first.newScope.1 = second.newScope.1 ∧
      first.newScope.2.Related tables second.newScope.2 := by
  have planted : first.addTree.Related tables second.addTree :=
    ⟨congrArg (· + 1) related.trees, related.frames⟩
  obtain ⟨same, added⟩ := planted.addFrame empty first.trees
  simp only [Store.newScope, ← related.trees]
  exact ⟨congrArg (fun frame => (⟨first.trees, frame, []⟩ : Scope)) same, added⟩

theorem bind {name : String} {value other : Value}
    (stored : ∀ {table otherTable : Table Value}, tables table otherTable →
      tables (table.store name value) (otherTable.store name other))
    (related : first.Related tables second) (scope : Scope) :
    (first.bind scope name value).Related tables (second.bind scope name other) := by
  refine ⟨related.trees, fun number => ?_⟩
  have frames := related.frames number
  simp only [Store.bind, Store.getElem?_edit]
  generalize first.frames[number]? = found at frames
  generalize second.frames[number]? = otherFound at frames
  split
  · cases frames with
    | none => exact .none
    | some frames => exact .some ⟨frames.tree, stored frames.bindings⟩
  · exact frames

/-- A name may be bound in the second store alone if storing it there keeps tables related. -/
theorem bind_right {name : String} {value : Value}
    (stored : ∀ {table otherTable : Table Value}, tables table otherTable →
      tables table (otherTable.store name value))
    (related : first.Related tables second) (scope : Scope) :
    first.Related tables (second.bind scope name value) := by
  refine ⟨related.trees, fun number => ?_⟩
  have frames := related.frames number
  simp only [Store.bind, Store.getElem?_edit]
  generalize first.frames[number]? = found at frames
  generalize second.frames[number]? = otherFound at frames
  split
  · cases frames with
    | none => exact .none
    | some frames => exact .some ⟨frames.tree, stored frames.bindings⟩
  · exact frames

theorem bindAll {relates : Value → Value → Prop}
    (stored : ∀ {name value other} {table otherTable : Table Value}, relates value other →
      tables table otherTable → tables (table.store name value) (otherTable.store name other))
    (related : first.Related tables second) (scope : Scope)
    {entries others : List (String × Value)} (values : EntriesRelated relates entries others) :
    (first.bindAll scope entries).Related tables (second.bindAll scope others) := by
  induction values generalizing first second with
  | nil => exact related
  | @cons entry other rest otherRest same _ inductionHypothesis =>
      rw [Store.bindAll, Store.bindAll, List.foldl_cons, List.foldl_cons, ← same.1]
      apply inductionHypothesis
      exact related.bind (fun tables => stored same.2 tables) scope

theorem release (empty : tables [] []) (related : first.Related tables second) (root : Scope) :
    (first.release root).Related tables (second.release root) := by
  refine ⟨related.trees, fun number => ?_⟩
  have frames := related.frames number
  simp only [Store.release, Array.getElem?_map]
  generalize first.frames[number]? = found at frames
  generalize second.frames[number]? = otherFound at frames
  cases frames with
  | none => exact .none
  | some frames =>
      simp only [Option.map_some, frames.tree]
      split
      · exact .some ⟨rfl, empty⟩
      · exact .some frames

/-- A store is related to itself if the tables of its frames are. -/
theorem refl {store : Store} (reflexive : ∀ frame : Nat,
      tables (store.bindings frame) (store.bindings frame)) :
    store.Related tables store := by
  refine ⟨rfl, fun number => ?_⟩
  have reflexive := reflexive number
  unfold Store.bindings at reflexive
  cases found : store.frames[number]? with
  | none => exact .none
  | some frame =>
      rw [found] at reflexive
      exact .some ⟨rfl, reflexive⟩

end Store.Related

/-- Related entries stay related when related values are stored. -/
theorem EntriesRelated.store {related : Value → Value → Prop} {first second : Table Value}
    {value other : Value} (name : String) (entries : EntriesRelated related first second)
    (values : related value other) :
    EntriesRelated related (first.store name value) (second.store name other) := by
  induction entries with
  | nil => exact .cons ⟨rfl, values⟩ .nil
  | @cons entry entry' rest rest' same tail inductionHypothesis =>
      rcases entry with ⟨key, stored⟩
      rcases entry' with ⟨_, storedOther⟩
      rcases same with ⟨rfl, same⟩
      simp only [Table.store]
      split
      · exact .cons ⟨rfl, values⟩ tail
      · exact .cons ⟨rfl, same⟩ inductionHypothesis

end TemplateEngine

import TemplateEngine.Value

/-!
# Stores of bindings

All bindings of a rendering live in one store.  It holds frames, each with the
bindings made in one scope; a frame belongs to a tree and never changes its place.  A
name is looked up along the chain of a scope and bound in its nearest frame only.
-/

namespace TemplateEngine

/-- The bindings made in one scope, and the tree of that scope. -/
structure Frame where
  tree : Nat
  bindings : Table Value

/-- Frames by number, and the count of trees they belong to.  Each frame is in one of these
trees, so that the next tree is without frames. -/
structure Store where
  frames : Array Frame
  trees : Nat
  planted : ∀ frame ∈ frames, frame.tree < trees

namespace Store

/-- A store without frames. -/
def empty : Store := ⟨#[], 0, by simp⟩

/-- The bindings of a frame. -/
def bindings (store : Store) (frame : Nat) : Table Value :=
  match store.frames[frame]? with
  | some found => found.bindings
  | none => []

/-- The tree of a frame. -/
def tree? (store : Store) (frame : Nat) : Option Nat :=
  store.frames[frame]?.map Frame.tree

/-- Add a tree without frames. -/
def addTree (store : Store) : Store where
  frames := store.frames
  trees := store.trees + 1
  planted frame member := Nat.lt_succ_of_lt (store.planted frame member)

/-- Add a frame without bindings to a tree, and give its number.  A tree exists as soon as it
has a frame. -/
def addFrame (store : Store) (tree : Nat) : Nat × Store :=
  (store.frames.size,
    { frames := store.frames.push ⟨tree, []⟩
      trees := max store.trees (tree + 1)
      planted := Array.forall_mem_push.2 ⟨Nat.le_max_right .., fun frame member =>
        Nat.lt_of_lt_of_le (store.planted frame member) (Nat.le_max_left ..)⟩ })

/-- Change the bindings of a frame. -/
def edit (store : Store) (frame : Nat) (change : Table Value → Table Value) : Store where
  frames := store.frames.modify frame fun found =>
    { found with bindings := change found.bindings }
  trees := store.trees
  planted := by
    intro edited member
    obtain ⟨number, found⟩ := Array.mem_iff_getElem?.1 member
    rw [Array.getElem?_modify] at found
    split at found
    · obtain ⟨original, old, rfl⟩ := Option.map_eq_some_iff.1 found
      exact store.planted original (Array.mem_of_getElem? old)
    · exact store.planted edited (Array.mem_of_getElem? found)

/-- A scope of its own in a new tree. -/
def newScope (store : Store) : Scope × Store :=
  let (frame, extended) := store.addTree.addFrame store.trees
  (⟨store.trees, frame, []⟩, extended)

/-- A scope inside another one. -/
def childScope (store : Store) (scope : Scope) : Scope × Store :=
  let (frame, extended) := store.addFrame scope.tree
  (scope.child frame, extended)

/-- A scope of its own in the tree of another one. -/
def detachedScope (store : Store) (scope : Scope) : Scope × Store :=
  let (frame, extended) := store.addFrame scope.tree
  (⟨scope.tree, frame, []⟩, extended)

/-- The value of a name in the nearest frame of a chain that binds it. -/
def lookupChain (store : Store) (chain : List Nat) (name : String) : Option Value :=
  chain.findSome? fun frame => (store.bindings frame).lookup name

/-- The value of a name in a scope. -/
def lookup (store : Store) (scope : Scope) (name : String) : Option Value :=
  store.lookupChain scope.chain name

/-- Whether some frame of a scope binds a name. -/
def has (store : Store) (scope : Scope) (name : String) : Bool :=
  scope.chain.any fun frame => Table.has (store.bindings frame) name

/-- Bind a name in the nearest frame of a scope. -/
def bind (store : Store) (scope : Scope) (name : String) (value : Value) : Store :=
  store.edit scope.frame (Table.store name value)

/-- The bindings made in a scope itself. -/
def locals (store : Store) (scope : Scope) : Table Value :=
  store.bindings scope.frame

/-- Bind several names in turn. -/
def bindAll (store : Store) (scope : Scope) (entries : List (String × Value)) : Store :=
  entries.foldl (fun store entry => store.bind scope entry.1 entry.2) store

/-- Bind in one scope what is bound in another one itself. -/
def update (store : Store) (target source : Scope) : Store :=
  store.bindAll target (store.locals source)

/-- The names bound in a scope itself, in code point order. -/
def names (store : Store) (scope : Scope) : List String :=
  Table.sortedNames (store.locals scope)

/-- Drop the bindings of some frames. -/
def clear (store : Store) (frames : List Nat) : Store :=
  frames.foldl (fun store frame => store.edit frame fun _ => []) store

/-- Drop the bindings of all frames in the tree of a scope. -/
def release (store : Store) (scope : Scope) : Store where
  frames := store.frames.map fun frame =>
    if frame.tree = scope.tree then { frame with bindings := [] } else frame
  trees := store.trees
  planted := by
    rw [Array.forall_mem_map]
    intro frame member
    split <;> exact store.planted frame member

/-! ## The trees of frames -/

theorem getElem?_edit (store : Store) (edited : Nat) (change : Table Value → Table Value)
    (frame : Nat) :
    (store.edit edited change).frames[frame]? =
      if edited = frame then
        store.frames[frame]?.map fun found => { found with bindings := change found.bindings }
      else store.frames[frame]? :=
  Array.getElem?_modify

@[simp]
theorem size_edit (store : Store) (edited : Nat) (change : Table Value → Table Value) :
    (store.edit edited change).frames.size = store.frames.size :=
  Array.size_modify ..

/-- A frame is in a tree that exists. -/
theorem lt_trees_of_tree? {store : Store} {frame tree : Nat}
    (found : store.tree? frame = some tree) : tree < store.trees := by
  obtain ⟨present, stored, rfl⟩ := Option.map_eq_some_iff.1 found
  exact store.planted present (Array.mem_of_getElem? stored)

/-- A frame that exists is in a tree. -/
theorem exists_tree?_of_lt {store : Store} {frame : Nat} (present : frame < store.frames.size) :
    ∃ tree, store.tree? frame = some tree :=
  ⟨store.frames[frame].tree, by rw [tree?, Array.getElem?_eq_getElem present]; rfl⟩

/-- A frame that is in a tree is not the next one. -/
theorem ne_size_of_tree? {store : Store} {frame tree : Nat}
    (found : store.tree? frame = some tree) : frame ≠ store.frames.size := by
  rintro rfl
  simp [tree?] at found

/-- A frame that is added to a tree that exists leaves the count of trees as it is. -/
theorem trees_addFrame_of_lt {store : Store} {tree : Nat} (known : tree < store.trees) :
    (store.addFrame tree).2.trees = store.trees :=
  Nat.max_eq_left known

@[simp]
theorem trees_newScope (store : Store) : store.newScope.2.trees = store.trees + 1 :=
  Nat.max_self _

theorem tree?_addFrame (store : Store) (tree frame : Nat) :
    (store.addFrame tree).2.tree? frame =
      if frame = store.frames.size then some tree else store.tree? frame := by
  rw [tree?, addFrame, Array.getElem?_push]
  split <;> rfl

theorem tree?_edit (store : Store) (edited : Nat) (change : Table Value → Table Value)
    (frame : Nat) : (store.edit edited change).tree? frame = store.tree? frame := by
  rw [tree?, tree?, getElem?_edit]
  split
  · rw [Option.map_map]
    rfl
  · rfl

theorem tree?_bind (store : Store) (scope : Scope) (name : String) (value : Value) (frame : Nat) :
    (store.bind scope name value).tree? frame = store.tree? frame :=
  store.tree?_edit _ _ frame

theorem tree?_release (store : Store) (scope : Scope) (frame : Nat) :
    (store.release scope).tree? frame = store.tree? frame := by
  rw [tree?, tree?, release, Array.getElem?_map, Option.map_map]
  congr 1
  funext found
  simp only [Function.comp_apply]
  split <;> rfl

/-! ## What the operations do to the bindings of a frame -/

/-- A frame that does not exist has no bindings. -/
theorem bindings_of_size_le (store : Store) {frame : Nat}
    (beyond : store.frames.size ≤ frame) : store.bindings frame = [] := by
  simp [bindings, Array.getElem?_eq_none beyond]

@[simp]
theorem size_bind (store : Store) (scope : Scope) (name : String) (value : Value) :
    (store.bind scope name value).frames.size = store.frames.size :=
  size_edit ..

/-- Binding changes no other frame than the nearest one of the scope. -/
theorem bindings_bind_of_ne (store : Store) (scope : Scope) (name : String) (value : Value)
    {frame : Nat} (other : frame ≠ scope.frame) :
    (store.bind scope name value).bindings frame = store.bindings frame := by
  simp [bind, bindings, getElem?_edit, Ne.symm other]

/-- In the nearest frame the value is stored under its name. -/
theorem bindings_bind_self (store : Store) (scope : Scope) (name : String) (value : Value)
    (present : scope.frame < store.frames.size) :
    (store.bind scope name value).bindings scope.frame =
      (store.bindings scope.frame).store name value := by
  simp only [bindings, bind, getElem?_edit, if_pos, Array.getElem?_eq_getElem present,
    Option.map_some]

@[simp]
theorem size_release (store : Store) (scope : Scope) :
    (store.release scope).frames.size = store.frames.size := by
  simp [release]

/-- The frames in the tree of the scope have no bindings afterwards, and the others have the
same ones as before. -/
theorem bindings_release_eq (store : Store) (scope : Scope) (frame : Nat) :
    (store.release scope).bindings frame =
      if store.tree? frame = some scope.tree then [] else store.bindings frame := by
  cases found : store.frames[frame]? with
  | none => simp [release, bindings, tree?, found]
  | some stored =>
      simp only [release, bindings, tree?, Array.getElem?_map, found, Option.map_some,
        Option.some.injEq]
      split <;> rfl

/-- A frame that is released has no bindings, and any other one is as before. -/
theorem bindings_release (store : Store) (scope : Scope) (frame : Nat) :
    (store.release scope).bindings frame = [] ∨
      (store.release scope).bindings frame = store.bindings frame := by
  rw [bindings_release_eq]
  split
  · exact .inl rfl
  · exact .inr rfl

/-- A new frame leaves the others as they are. -/
theorem bindings_addFrame_of_lt (store : Store) (tree : Nat) {frame : Nat}
    (old : frame < store.frames.size) :
    (store.addFrame tree).2.bindings frame = store.bindings frame := by
  simp [addFrame, bindings, Array.getElem?_push, Nat.ne_of_lt old]

/-- A new frame has no bindings. -/
@[simp]
theorem bindings_addFrame_self (store : Store) (tree : Nat) :
    (store.addFrame tree).2.bindings store.frames.size = [] := by
  simp [addFrame, bindings]

/-- Adding a frame binds nothing. -/
theorem bindings_addFrame (store : Store) (tree frame : Nat) :
    (store.addFrame tree).2.bindings frame = store.bindings frame := by
  rcases Nat.lt_trichotomy frame store.frames.size with old | rfl | beyond
  · exact bindings_addFrame_of_lt store tree old
  · rw [bindings_addFrame_self]
    simp [bindings]
  · simp [addFrame, bindings, Array.getElem?_push, Nat.ne_of_gt beyond,
      Nat.not_lt_of_gt beyond]

end Store

end TemplateEngine

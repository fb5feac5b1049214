import TemplateEngine.Data
import TemplateEngine.Store.Lifetime
import TemplateEngine.Text.Quoted

/-!
# Handles of scopes

A program holds scopes by handles.  A handle refers to the frame of its scope, so that this
frame and those around it live as long as it is held.  Releasing a tree of scopes drops the
bindings of all its live frames at once.
-/

namespace TemplateEngine

/-- A store with the scopes that are held, by the names of their handles, the references to
each of its frames, and the frames that each of its trees tracks. -/
structure Handles where
  store : Store
  scopes : Table Scope
  ledger : Ledger
  rosters : List Roster

namespace Handles

/-- No handles. -/
def empty : Handles := ⟨Store.empty, [], [], []⟩

/-- The scope of a handle. -/
def scope? (handles : Handles) (handle : String) : Option Scope :=
  handles.scopes.lookup handle

/-- Give up a reference to each of some frames. -/
def letGo (handles : Handles) (frames : List Nat) : Handles :=
  { handles with ledger := handles.ledger.letGo handles.store.heldFrames frames }

/-- Bind a name in a scope.  The frame refers to what the value refers to, and no longer to
what the value that it takes the place of refers to. -/
def bind (handles : Handles) (scope : Scope) (name : String) (value : Value) : Handles :=
  let replaced := (handles.store.locals scope).lookup name
  letGo
    { handles with
      store := handles.store.bind scope name value
      ledger := handles.ledger.retain value.heldFrames }
    (replaced.toList.flatMap Value.heldFrames)

/-- Bind several names in a scope in turn. -/
def bindAll (handles : Handles) (scope : Scope) (entries : Table Value) : Handles :=
  entries.foldl (fun handles entry => handles.bind scope entry.1 entry.2) handles

/-- Bind in one scope what is bound in another one itself. -/
def update (handles : Handles) (target source : Scope) : Handles :=
  handles.bindAll target (handles.store.locals source)

/-! ## Scopes in the hand

A scope that is made or copied is in the hand at first, with a reference to its frame.  A
handle that holds it takes that reference over. -/

/-- Add the frame of a scope that a function of the store makes, and let its tree track it. -/
def addScope (handles : Handles) (outer : Option Nat) (make : Store → Scope × Store) :
    Scope × Handles :=
  let (scope, store) := make handles.store
  let ledger := handles.ledger.retain outer.toList ++ [⟨1, outer⟩]
  (scope,
    { handles with
      store := store
      ledger := ledger
      rosters := handles.rosters.modify scope.tree (Roster.track ledger.lives scope.frame) })

/-- A scope of its own in a new tree. -/
def newScope (handles : Handles) : Scope × Handles :=
  addScope { handles with rosters := handles.rosters ++ [.empty] } none (·.newScope)

/-- A scope inside another one. -/
def childScope (handles : Handles) (scope : Scope) : Scope × Handles :=
  handles.addScope (some scope.frame) (·.childScope scope)

/-- A scope of its own in the tree of another one. -/
def detachedScope (handles : Handles) (scope : Scope) : Scope × Handles :=
  handles.addScope none (·.detachedScope scope)

/-- A scope of its own with some bindings. -/
def scopeOf (handles : Handles) (entries : Table Value) : Scope × Handles :=
  let (scope, made) := handles.newScope
  (scope, made.bindAll scope entries)

/-- Another reference to the frame of a scope. -/
def copyScope (handles : Handles) (scope : Scope) : Scope × Handles :=
  (scope, { handles with ledger := handles.ledger.retain [scope.frame] })

/-- Let a handle hold a scope that is in the hand, and no longer the one that it held. -/
def hold (handle : String) (made : Scope × Handles) : Handles :=
  let (scope, handles) := made
  letGo { handles with scopes := handles.scopes.store handle scope }
    ((handles.scope? handle).toList.map Scope.frame)

/-- Let go of a handle and of the scope that it holds. -/
def drop (handles : Handles) (handle : String) (scope : Scope) : Handles :=
  letGo { handles with scopes := handles.scopes.without handle } [scope.frame]

/-! ## Trees of scopes -/

/-- The frames of a tree of scopes that live. -/
def liveFrames (handles : Handles) (tree : Nat) : List Nat :=
  match handles.rosters[tree]? with
  | some roster => roster.frames.filter handles.ledger.lives
  | none => []

/-- The count of live frames of the tree of a scope. -/
def frameCount (handles : Handles) (scope : Scope) : Nat :=
  (handles.liveFrames scope.tree).length

/-- Drop the bindings of all live frames of the tree of a scope. -/
def release (handles : Handles) (scope : Scope) : Handles :=
  let frames := handles.liveFrames scope.tree
  letGo { handles with store := handles.store.clear frames }
    (frames.flatMap handles.store.heldFrames)

/-- What a program does with scopes by their handles. -/
inductive Operation where
  /-- Let a handle hold a new scope of its own. -/
  | new (handle : String)
  /-- Let a handle hold a new scope with the bindings of JSON data, if it has any. -/
  | ofJson (handle : String) (data : Json)
  /-- Let a handle hold a new scope with some bindings. -/
  | ofEntries (handle : String) (entries : Table Value)
  /-- Let a handle hold a new scope inside that of another handle. -/
  | inherit (handle outer : String)
  /-- Let a handle hold a new scope of its own in the tree of another handle. -/
  | detach (handle origin : String)
  /-- Let a handle hold the scope of another handle. -/
  | clone (handle origin : String)
  | drop (handle : String)
  | set (handle name : String) (value : Value)
  | update (target source : String)
  | release (handle : String)

/-- The handles after an operation, unless it is about a handle that is not held. -/
def perform (handles : Handles) : Operation → Option Handles
  | .new handle => some (hold handle handles.newScope)
  | .ofJson handle data =>
      match Table.ofJson data with
      | .ok entries => some (hold handle (handles.scopeOf entries))
      | .error _ => some handles
  | .ofEntries handle entries => some (hold handle (handles.scopeOf entries))
  | .inherit handle outer => do
      let scope ← handles.scope? outer
      return hold handle (handles.childScope scope)
  | .detach handle origin => do
      let scope ← handles.scope? origin
      return hold handle (handles.detachedScope scope)
  | .clone handle origin => do
      let scope ← handles.scope? origin
      return hold handle (handles.copyScope scope)
  | .drop handle => do
      let scope ← handles.scope? handle
      return handles.drop handle scope
  | .set handle name value => do
      let scope ← handles.scope? handle
      return handles.bind scope name value
  | .update target source => do
      let target ← handles.scope? target
      let source ← handles.scope? source
      return handles.update target source
  | .release handle => do
      let scope ← handles.scope? handle
      return handles.release scope

/-- The handles after several operations in turn. -/
def performAll (operations : List Operation) : Option Handles :=
  operations.foldlM perform empty

/-- The names bound in a scope itself, and whether there are scopes around it. -/
def describe (handles : Handles) (scope : Scope) : String :=
  "Context \x7b keys: " ++ Text.quotedList (handles.store.names scope) ++ ", parent: " ++
    toString (!scope.ancestors.isEmpty) ++ " \x7d"

/-! ## What references leave as it is -/

@[simp]
theorem store_letGo (handles : Handles) (frames : List Nat) :
    (handles.letGo frames).store = handles.store := rfl

@[simp]
theorem scopes_letGo (handles : Handles) (frames : List Nat) :
    (handles.letGo frames).scopes = handles.scopes := rfl

/-- Binding several names changes the store only. -/
theorem scopes_bindAll (handles : Handles) (scope : Scope) (entries : Table Value) :
    (handles.bindAll scope entries).scopes = handles.scopes := by
  induction entries generalizing handles with
  | nil => rfl
  | cons entry rest inductionHypothesis =>
      exact inductionHypothesis (handles.bind scope entry.1 entry.2)

/-- The names are bound in the store. -/
theorem store_bindAll (handles : Handles) (scope : Scope) (entries : Table Value) :
    (handles.bindAll scope entries).store = handles.store.bindAll scope entries := by
  induction entries generalizing handles with
  | nil => rfl
  | cons entry rest inductionHypothesis =>
      exact inductionHypothesis (handles.bind scope entry.1 entry.2)

end Handles

end TemplateEngine

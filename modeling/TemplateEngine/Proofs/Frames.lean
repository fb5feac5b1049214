import TemplateEngine.Proofs.Discipline.Stores

/-!
# Frames that exist

A rendering binds names in its own scope and in the scopes it opens.  What it uses by name
is rendered in scopes opened for that use.  So a macro call, a block or an inclusion leaves
every frame that exists before it as it is.  A template that is included without context is
released at its end with all frames of its tree.  That tree is a new one, and no frame that
existed before is in it.
-/

namespace TemplateEngine

namespace Store

variable (store : Store)

@[simp]
theorem size_bindAll (scope : Scope) (entries : List (String × Value)) :
    (store.bindAll scope entries).frames.size = store.frames.size := by
  induction entries generalizing store with
  | nil => rfl
  | cons entry rest inductionHypothesis =>
      rw [bindAll, List.foldl_cons]
      exact (inductionHypothesis _).trans (size_bind store scope entry.1 entry.2)

theorem bindings_bindAll_of_ne (scope : Scope) (entries : List (String × Value)) {frame : Nat}
    (other : frame ≠ scope.frame) :
    (store.bindAll scope entries).bindings frame = store.bindings frame := by
  induction entries generalizing store with
  | nil => rfl
  | cons entry rest inductionHypothesis =>
      rw [bindAll, List.foldl_cons]
      exact (inductionHypothesis _).trans (bindings_bind_of_ne store scope entry.1 entry.2 other)

/-! ## Stores whose frames stay in their trees -/

/-- What is kept of the trees of a store. -/
structure Settles (earlier later : Store) : Prop where
  trees : earlier.trees ≤ later.trees
  tree : ∀ {frame tree : Nat}, earlier.tree? frame = some tree → later.tree? frame = some tree

namespace Settles

theorem refl : store.Settles store :=
  ⟨Nat.le_refl _, fun found => found⟩

variable {store}

theorem trans {first second third : Store} (earlier : first.Settles second)
    (later : second.Settles third) : first.Settles third :=
  ⟨Nat.le_trans earlier.trees later.trees, fun found => later.tree (earlier.tree found)⟩

/-- No frame is lost. -/
theorem size {earlier later : Store} (settled : earlier.Settles later) :
    earlier.frames.size ≤ later.frames.size := by
  by_contra fewer
  obtain ⟨tree, found⟩ := exists_tree?_of_lt (Nat.lt_of_not_le fewer)
  have kept := settled.tree found
  simp [tree?] at kept

end Settles

theorem settles_addTree : store.Settles store.addTree :=
  ⟨Nat.le_succ _, fun found => found⟩

theorem settles_addFrame (tree : Nat) : store.Settles (store.addFrame tree).2 :=
  ⟨Nat.le_max_left .., fun found => by
    rw [tree?_addFrame, if_neg (ne_size_of_tree? found), found]⟩

theorem settles_newScope : store.Settles store.newScope.2 :=
  (settles_addTree store).trans (settles_addFrame _ _)

theorem settles_bind (scope : Scope) (name : String) (value : Value) :
    store.Settles (store.bind scope name value) :=
  ⟨Nat.le_refl _, fun found => (tree?_bind ..).trans found⟩

theorem settles_bindAll (scope : Scope) (entries : List (String × Value)) :
    store.Settles (store.bindAll scope entries) := by
  induction entries generalizing store with
  | nil => exact .refl store
  | cons entry rest inductionHypothesis =>
      rw [bindAll, List.foldl_cons]
      exact (store.settles_bind scope entry.1 entry.2).trans (inductionHypothesis _)

theorem settles_release (scope : Scope) : store.Settles (store.release scope) :=
  ⟨Nat.le_refl _, fun found => (tree?_release ..).trans found⟩

/-! ## Stores that extend another one -/

/-- What is kept of a store that another one extends. -/
structure Extends (earlier later : Store) : Prop where
  settles : earlier.Settles later
  bindings : ∀ frame < earlier.frames.size, later.bindings frame = earlier.bindings frame

theorem Extends.refl : Extends store store :=
  ⟨.refl store, fun _ _ => rfl⟩

variable {store}

theorem Extends.size {earlier later : Store} (extended : earlier.Extends later) :
    earlier.frames.size ≤ later.frames.size :=
  extended.settles.size

theorem Extends.trans {first second third : Store} (earlier : Extends first second)
    (later : Extends second third) : Extends first third := by
  refine ⟨earlier.settles.trans later.settles, ?_⟩
  intro frame old
  rw [later.bindings frame (Nat.lt_of_lt_of_le old earlier.size), earlier.bindings frame old]

variable (store)

theorem extends_addFrame (tree : Nat) : Extends store (store.addFrame tree).2 :=
  ⟨store.settles_addFrame tree, fun _ old => bindings_addFrame_of_lt store tree old⟩

theorem extends_childScope (scope : Scope) : Extends store (store.childScope scope).2 :=
  extends_addFrame store scope.tree

theorem extends_detachedScope (scope : Scope) : Extends store (store.detachedScope scope).2 :=
  extends_addFrame store scope.tree

theorem extends_newScope : Extends store store.newScope.2 :=
  ⟨store.settles_newScope, (extends_addFrame store.addTree store.trees).bindings⟩

/-- Binding in a newer frame extends a store. -/
theorem Extends.bind {earlier : Store} {scope : Scope} (extended : Extends earlier store)
    (newer : earlier.frames.size ≤ scope.frame) (name : String) (value : Value) :
    Extends earlier (store.bind scope name value) := by
  refine ⟨extended.settles.trans (store.settles_bind scope name value), ?_⟩
  intro frame old
  rw [bindings_bind_of_ne store scope name value (by omega), extended.bindings frame old]

theorem Extends.bindAll {earlier : Store} {scope : Scope} (extended : Extends earlier store)
    (newer : earlier.frames.size ≤ scope.frame) (entries : List (String × Value)) :
    Extends earlier (store.bindAll scope entries) := by
  refine ⟨extended.settles.trans (store.settles_bindAll scope entries), ?_⟩
  intro frame old
  rw [bindings_bindAll_of_ne store scope entries (by omega), extended.bindings frame old]

/-- Releasing a newer tree leaves the frames that there were before it as they are.  They are
in trees that there were before it, and they stay there. -/
theorem Settles.bindings_release {earlier : Store} {root : Scope}
    (settled : earlier.Settles store) (newer : earlier.trees ≤ root.tree) {frame : Nat}
    (old : frame < earlier.frames.size) :
    (store.release root).bindings frame = store.bindings frame := by
  obtain ⟨tree, found⟩ := exists_tree?_of_lt old
  have older : tree < root.tree := Nat.lt_of_lt_of_le (lt_trees_of_tree? found) newer
  rw [bindings_release_eq, settled.tree found, if_neg]
  exact fun same => Nat.ne_of_lt older (Option.some.inj same)

/-- Releasing a newer tree of scopes extends a store. -/
theorem Extends.release {earlier : Store} {root : Scope} (extended : Extends earlier store)
    (newer : earlier.trees ≤ root.tree) : Extends earlier (store.release root) := by
  refine ⟨extended.settles.trans (store.settles_release root), ?_⟩
  intro frame old
  rw [extended.settles.bindings_release store newer old, extended.bindings frame old]

end Store

namespace Discipline

/-- The discipline of extending a store: only frames beyond it are written. -/
def extending (base : Store) : Discipline :=
  StoreDiscipline.toDiscipline {
    World := Unit
    Later := fun _ _ => True
    vocabulary := .unrestricted
    store := fun _ frames => base.Extends frames
    scope := fun _ scope => base.frames.size ≤ scope.frame
    later_refl := fun _ => True.intro
    later_trans := fun _ _ => True.intro
    scope_later := fun _ newer => newer
    openChild := fun _ extended =>
      ⟨(), True.intro, extended.trans (Store.extends_childScope _ _), extended.size⟩
    bind := fun _ newer _ extended => extended.bind _ newer _ _
    bindModule := fun inContext entries _ extended => by
      cases inContext with
      | true => exact (extended.trans (Store.extends_childScope _ _)).bindAll _ extended.size _
      | false =>
          exact (extended.trans (Store.extends_detachedScope _ _)).bindAll _ extended.size _ }

def extendingUses (base : Store) (natives : Natives) : (extending base).Uses natives :=
  StoreDiscipline.uses _ natives rfl
    (fun _ extended =>
      ⟨(), True.intro, extended.trans (Store.extends_childScope _ _), extended.size⟩)
    (fun _ scope => base.frames.size ≤ scope.frame ∧ base.trees ≤ scope.tree)
    (fun newer => newer.1) (fun _ newer => newer)
    (fun extended => ⟨(), True.intro, extended.trans (Store.extends_newScope _), extended.size,
      extended.settles.trees⟩)
    fun newer extended => extended.release _ newer.2

end Discipline

namespace Run

variable {ε α : Type}

/-- Whether all that a run does to the store is a change of some kind. -/
def Keeps (changes : Store → Store → Prop) (run : Run ε α) : Prop :=
  ∀ ⦃state outcome after⦄, run state = some (outcome, after) → changes state.store after.store

/-- A run after which every frame that existed is as before. -/
abbrev Extends (run : Run ε α) : Prop :=
  run.Keeps Store.Extends

theorem extends_of_related {run : Run ε α}
    (related : ∀ base, ∃ fails gives,
      ((Discipline.extending base).comparison .matched).Related () fails gives run run) :
    run.Extends := by
  intro state outcome after ran
  rcases related state.store with ⟨fails, gives, related⟩
  have ended := Discipline.ends_of_related related
    ⟨⟨Store.Extends.refl state.store, rfl⟩, ⟨True.intro, rfl⟩⟩
  rw [ran] at ended
  rcases ended with ⟨_, _, ⟨⟨extended, _⟩, _⟩, _⟩
  exact extended

end Run

namespace Interpreter

variable (natives : Natives) (bound depth : Nat)

private theorem extending_interprets (base : Store) :
    ((Discipline.extending base).correspondence .matched).Interprets (bounded natives bound)
      depth (bounded natives bound) depth := by
  rw [← emitting_writeOutput]
  exact (Discipline.extendingUses base natives).emitting_interprets
    (fun _ _ _ => Discipline.related_write fun _ _ => True.intro) (by simp) bound depth

private theorem callValue_related (base : Store) (callee : Expression) (value : Value)
    (arguments : Arguments) :
    ((Discipline.extending base).comparison .matched).Evaluates ()
      ((Discipline.extending base).correspondence .matched).result
      (callValue natives (bounded natives bound) depth callee value arguments)
      (callValue natives (bounded natives bound) depth callee value arguments) := by
  have given : ArgumentsRelated (Shared ((Discipline.extending base).value ())) arguments
      arguments :=
    ⟨Shared.forall₂_iff.2 ⟨fun _ _ => True.intro, rfl⟩,
      Shared.entries_iff.2 ⟨fun _ _ => True.intro, rfl⟩⟩
  exact (Discipline.extendingUses base natives).related_callValue
    (fun _ _ _ => extending_interprets natives bound _ base)
    (fun _ _ _ _ => extending_interprets natives bound _ base) callee True.intro given

/-- A call leaves the frames that exist as they are. -/
theorem callValue_extends (callee : Expression) (value : Value) (arguments : Arguments) :
    (callValue natives (bounded natives bound) depth callee value arguments).Extends :=
  Run.extends_of_related fun base =>
    ⟨_, _, callValue_related natives bound depth base callee value arguments⟩

/-- A call does not give a failed evaluation. -/
theorem isError_of_callValue {callee : Expression} {value result : Value}
    {arguments : Arguments} {state after : RunState}
    (called : callValue natives (bounded natives bound) depth callee value arguments state =
      some (.ok result, after)) :
    result.isError = false := by
  have ended := Discipline.ends_of_related
    (callValue_related natives bound depth state.store callee value arguments)
    ⟨⟨Store.Extends.refl state.store, rfl⟩, ⟨True.intro, rfl⟩⟩
  rw [called] at ended
  rcases ended with ⟨_, _, _, _, sound⟩
  exact sound

/-- A block leaves the frames that exist as they are. -/
theorem renderBlock_extends (environment : Environment) (bodies : List (Body Node)) :
    (renderBlock (bounded natives bound) environment depth bodies).Extends := by
  apply Run.extends_of_related
  intro base
  exact ⟨_, _, (Discipline.extendingUses base natives).related_renderBlock
    (extending_interprets natives bound depth base)
    (True.intro : (Discipline.extending base).setting () environment) True.intro
    fun _ _ => Node.allWithin_unrestricted _⟩

/-- An inclusion leaves the frames that exist as they are. -/
theorem includeTemplate_extends (environment included : Environment) (withContext : Bool) :
    (includeTemplate (bounded natives bound) environment depth included withContext).Extends := by
  apply Run.extends_of_related
  intro base
  exact ⟨_, _, (Discipline.extendingUses base natives).related_inclusion
    (fun _ => extending_interprets natives bound _ base) withContext True.intro True.intro⟩

end Interpreter

end TemplateEngine

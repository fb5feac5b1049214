import TemplateEngine.Proofs.Rebinding

/-!
# Frames that are retained

A frame belongs to one tree of scopes from the start, and the trees of a store only grow in
number.  A rendering retains a frame that is not the nearest one of its scope: the frame has
the same bindings afterwards and is in the same tree.  So what was bound in a scope of its
own, such as the macros of a module, is there for as long as something is rendered around it.
-/

namespace TemplateEngine

/-! ## Changes of a store -/

namespace Store

variable (store : Store)

/-- What is kept of a store of which a frame is retained. -/
structure Retains (frame : Nat) (earlier later : Store) : Prop where
  trees : earlier.trees ≤ later.trees
  frame : later.frames[frame]? = earlier.frames[frame]?

theorem Retains.trans {frame : Nat} {first second third : Store}
    (earlier : Retains frame first second) (later : Retains frame second third) :
    Retains frame first third :=
  ⟨Nat.le_trans earlier.trees later.trees, later.frame.trans earlier.frame⟩

theorem retains_bindAll (scope : Scope) (entries : List (String × Value)) {frame : Nat}
    (apart : frame ≠ scope.frame) : Retains frame store (store.bindAll scope entries) := by
  induction entries generalizing store with
  | nil => exact ⟨Nat.le_refl _, rfl⟩
  | cons entry rest inductionHypothesis =>
      have first : Retains frame store (store.bind scope entry.1 entry.2) :=
        ⟨Nat.le_refl _, by rw [bind, getElem?_edit, if_neg (Ne.symm apart)]⟩
      rw [bindAll, List.foldl_cons]
      exact first.trans (inductionHypothesis _)

theorem Settles.retains {earlier later : Store} {frame : Nat} (settled : earlier.Settles later)
    (present : frame < earlier.frames.size)
    (same : later.bindings frame = earlier.bindings frame) : Retains frame earlier later := by
  obtain ⟨⟨tree, bindings⟩, old⟩ : ∃ found, earlier.frames[frame]? = some found :=
    ⟨_, Array.getElem?_eq_getElem present⟩
  have kept : later.tree? frame = some tree := settled.tree (by rw [tree?, old]; rfl)
  obtain ⟨⟨_, _⟩, new, rfl⟩ := Option.map_eq_some_iff.1 kept
  simp only [Store.bindings, old, new] at same
  subst same
  exact ⟨settled.trees, new.trans old.symm⟩

/-- A store that extends another one retains each of its frames. -/
theorem Extends.getElem? {earlier later : Store} (extended : earlier.Extends later) {frame : Nat}
    (present : frame < earlier.frames.size) : later.frames[frame]? = earlier.frames[frame]? :=
  (extended.settles.retains present (extended.bindings frame present)).frame

end Store

/-! ## Runs -/

namespace Interpreter

variable {natives : Natives} {bound depth frame : Nat} {environment : Environment}
variable {state after : RunState}

/-- A rendering retains every frame but the nearest one of its scope. -/
theorem render_retains {nodes : List Node} {result : Except TemplateError Unit}
    (ran : (bounded natives bound).render environment depth nodes state = some (result, after))
    (present : frame < state.store.frames.size) (apart : frame ≠ environment.scope.frame) :
    state.store.Retains frame after.store :=
  have rebinds := render_bounded_rebinds natives bound environment depth nodes ran
  rebinds.settles.retains present (rebinds.others frame present apart)

end Interpreter

end TemplateEngine

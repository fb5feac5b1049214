import Mathlib
import TemplateEngine.Proofs.Lifetime.Operations

/-!
# Frames live while they are kept

A tree of scopes finds its live frames by what it tracks.  At every moment of a program whose
values refer to no frames these are the frames of the scopes that are held and the frames around
those.  So this is what the count of frames counts, and what a release empties.
-/

namespace TemplateEngine

namespace Handles

/-- Whether a handle keeps a frame of a tree: the frame is that of its scope, or lies around
it. -/
def Keeps (handles : Handles) (tree frame : Nat) : Prop :=
  ∃ entry ∈ handles.scopes, entry.2.tree = tree ∧ frame ∈ entry.2.chain

namespace Tended

variable {handles : Handles}

/-- Frames around each other belong to one tree. -/
theorem tree?_of_around {hand : List Nat} (tended : handles.Tended hand) {frame around : Nat}
    (lies : handles.ledger.Around frame around) :
    handles.store.tree? around = handles.store.tree? frame := by
  induction lies with
  | self => rfl
  | outer _ next inductionHypothesis => exact (tended.around _ _ next).trans inductionHypothesis

/-- The live frames of a tree are those that handles keep. -/
theorem keeps_iff (tended : handles.Tended []) {tree frame : Nat} :
    handles.Keeps tree frame ↔
      handles.store.tree? frame = some tree ∧ handles.ledger.lives frame = true := by
  constructor
  · rintro ⟨entry, member, rfl, kept⟩
    have places := tended.places entry member
    have lies := places.linked.around_of_mem .self frame kept
    exact ⟨(tended.tree?_of_around lies).trans places.tree,
      tended.balanced.lives_of_around (tended.lives_of_mem member) lies⟩
  · rintro ⟨here, live⟩
    obtain ⟨root, isRoot, lies⟩ := tended.balanced.lives_iff_around.1 live
    rw [List.append_nil] at isRoot
    obtain ⟨entry, member, rfl⟩ := List.mem_map.1 isRoot
    have places := tended.places entry member
    refine ⟨entry, member, ?_, places.linked.around_iff.1 lies⟩
    exact Option.some.inj (places.tree.symm.trans ((tended.tree?_of_around lies).symm.trans here))

/-- What a tree finds by its roster are its live frames, each once. -/
theorem liveFrames (tended : handles.Tended []) {tree : Nat}
    (known : tree < handles.store.trees) :
    (handles.liveFrames tree).Nodup ∧
      ∀ frame, frame ∈ handles.liveFrames tree ↔ handles.Keeps tree frame := by
  have found := List.getElem?_eq_getElem (tended.trees ▸ known : tree < handles.rosters.length)
  have tracks := tended.tracks tree _ found
  rw [Handles.liveFrames, found]
  refine ⟨tracks.distinct.filter _, fun frame => ?_⟩
  rw [tended.keeps_iff, List.mem_filter]
  constructor
  · rintro ⟨member, live⟩
    exact ⟨tracks.within frame member, live⟩
  · rintro ⟨here, live⟩
    exact ⟨tracks.living frame here live, live⟩

end Tended

/-- The law of frames that live, after any operations whose values refer to no frames.  The
count of frames of a scope is that of the frames of its tree that handles keep.  A release
empties exactly these, and leaves all other frames, the scopes that are held and the frames
around each frame as they are. -/
theorem frames_live_while_kept {operations : List Operation} {handles : Handles}
    (reached : performAll operations = some handles)
    (free : ∀ operation ∈ operations, operation.heldFrames = []) {handle : String} {scope : Scope}
    (held : handles.scope? handle = some scope) :
    (∃ live : Finset Nat, (∀ frame, frame ∈ live ↔ handles.Keeps scope.tree frame) ∧
      handles.frameCount scope = live.card) ∧
    ∃ after, handles.perform (.release handle) = some after ∧
      (∀ frame, handles.Keeps scope.tree frame → after.store.bindings frame = []) ∧
      (∀ frame, ¬ handles.Keeps scope.tree frame →
        after.store.frames[frame]? = handles.store.frames[frame]?) ∧
      (∀ frame, handles.Keeps scope.tree frame →
        handles.store.tree? frame = some scope.tree ∧ after.store.tree? frame = some scope.tree) ∧
      after.scopes = handles.scopes ∧ after.ledger = handles.ledger ∧
      after.rosters = handles.rosters ∧
      ∀ entry ∈ after.scopes, after.ledger.Linked entry.2.chain := by
  have tended := Tended.performAll free reached
  have places := tended.places_of_held held
  obtain ⟨distinct, kept⟩ := tended.liveFrames (Store.lt_trees_of_tree? places.tree)
  refine ⟨⟨(handles.liveFrames scope.tree).toFinset, fun frame => ?_, ?_⟩,
    handles.release scope, by simp [perform, held], fun frame keeps => ?_, fun frame drops => ?_,
    fun frame keeps => ?_, rfl, tended.ledger_release scope, rfl, fun entry member => ?_⟩
  · rw [List.mem_toFinset]
    exact kept frame
  · exact (List.toFinset_card_of_nodup distinct).symm
  · change (handles.store.clear (handles.liveFrames scope.tree)).bindings frame = []
    rw [Store.bindings_clear, if_pos ((kept frame).2 keeps)]
  · change (handles.store.clear (handles.liveFrames scope.tree)).frames[frame]? = _
    rw [Store.getElem?_clear]
    simp [mt (kept frame).1 drops]
  · have here := (tended.keeps_iff.1 keeps).1
    exact ⟨here, (Store.tree?_clear ..).trans here⟩
  · rw [tended.ledger_release scope]
    exact (tended.places entry member).linked

/-- A frame that lives only by the one inside it, after so many others have come and gone that a
roster leaves some out, and a frame of its own in the same tree that two handles hold. -/
private def comings : List Operation :=
  .new "outer" :: .set "outer" "x" .nil :: List.replicate 40 (.inherit "inner" "outer") ++
    [.detach "aside" "inner", .clone "copy" "aside", .drop "outer"]

/-- Three frames live then, and the release of their tree empties the one without a handle. -/
theorem frames_live_after_comings :
    ∃ handles after, performAll comings = some handles ∧
      handles.scope? "copy" = some ⟨0, 41, []⟩ ∧ handles.Keeps 0 0 ∧
      (∃ live : Finset Nat, (∀ frame, frame ∈ live ↔ handles.Keeps 0 frame) ∧ live.card = 3) ∧
      (handles.store.bindings 0).length = 1 ∧
      handles.perform (.release "copy") = some after ∧ after.store.bindings 0 = [] := by
  have evaluated : (performAll comings).map (fun handles =>
      (handles.scope? "copy", handles.scope? "inner", handles.frameCount ⟨0, 41, []⟩,
        (handles.store.bindings 0).length)) =
      some (some ⟨0, 41, []⟩, some ⟨0, 40, [0]⟩, 3, 1) := by
    cbv
  obtain ⟨handles, reached, found⟩ := Option.map_eq_some_iff.1 evaluated
  simp only [Prod.mk.injEq] at found
  obtain ⟨held, inner, count, bound⟩ := found
  obtain ⟨⟨live, mem, counted⟩, after, performed, emptied, -⟩ :=
    frames_live_while_kept reached (by decide) held
  have keeps : handles.Keeps 0 0 := ⟨_, Table.mem_of_lookup inner, rfl, by simp [Scope.chain]⟩
  exact ⟨handles, after, reached, held, keeps, ⟨live, mem, counted.symm.trans count⟩, bound,
    performed, emptied 0 keeps⟩

end Handles

end TemplateEngine

import TemplateEngine.Store

/-!
# Lifetimes of frames

A frame lives as long as something refers to it: a handle of its scope, a frame right inside
it, or a value bound in a frame.  References are counted, and a frame that loses its last one
gives up those that it has itself.

A tree of scopes tracks its frames, so that all that live can be found.  Tracking does not
keep a frame alive.  Frames that no longer live are left out from time to time, whenever as
many frames are tracked as the last time twice over.
-/

namespace TemplateEngine

namespace Value

mutual

/-- The frames that a value refers to: those of the scopes that its macros and overridden
blocks hold. -/
def heldFrames : Value → List Nat
  | .list items => heldByItems items
  | .map entries => heldByEntries entries
  | .closure callee => [callee.environment.scope.frame]
  | .function (.super environment _ _) => [environment.scope.frame]
  | _ => []

/-- The frames that the items of a list refer to. -/
def heldByItems : List Value → List Nat
  | [] => []
  | item :: rest => heldFrames item ++ heldByItems rest

/-- The frames that the entries of a map refer to. -/
def heldByEntries : List (String × Value) → List Nat
  | [] => []
  | (_, value) :: rest => heldFrames value ++ heldByEntries rest

end

end Value

/-- The frames that the values bound in a frame refer to. -/
def Store.heldFrames (store : Store) (frame : Nat) : List Nat :=
  Value.heldByEntries (store.bindings frame)

/-- The count of references to a frame, and the frame around it. -/
structure Holding where
  references : Nat
  outer : Option Nat

/-- The holdings of all frames by number. -/
abbrev Ledger := List Holding

namespace Ledger

/-- Whether something refers to a frame. -/
def lives (ledger : Ledger) (frame : Nat) : Bool :=
  match ledger[frame]? with
  | some holding => 0 < holding.references
  | none => false

/-- Add a reference to each of some frames. -/
def retain (ledger : Ledger) (frames : List Nat) : Ledger :=
  frames.foldl
    (fun ledger frame => ledger.modify frame fun holding =>
      { holding with references := holding.references + 1 })
    ledger

/-- The count of all references. -/
def total (ledger : Ledger) : Nat :=
  ledger.foldr (fun holding rest => holding.references + rest) 0

theorem total_set {ledger : Ledger} {frame : Nat} {holding : Holding}
    (found : ledger[frame]? = some holding) (other : Holding) :
    total (ledger.set frame other) + holding.references = total ledger + other.references := by
  induction ledger generalizing frame with
  | nil => cases found
  | cons first rest inductionHypothesis =>
      cases frame with
      | zero =>
          cases found
          simp only [total, List.set_cons_zero, List.foldr_cons]
          omega
      | succ frame =>
          have others := inductionHypothesis found
          simp only [total, List.set_cons_succ, List.foldr_cons] at others ⊢
          omega

/-- Give up a reference to each of some frames, given what the values in each frame refer to.
A frame to which there is no other reference gives up those to the frame around it and to
what its values refer to. -/
def letGo (held : Nat → List Nat) (ledger : Ledger) : List Nat → Ledger
  | [] => ledger
  | frame :: rest =>
      match found : ledger[frame]? with
      | none => letGo held ledger rest
      | some ⟨0, _⟩ => letGo held ledger rest
      | some ⟨1, outer⟩ =>
          letGo held (ledger.set frame ⟨0, outer⟩) (outer.toList ++ held frame ++ rest)
      | some ⟨references + 2, outer⟩ =>
          letGo held (ledger.set frame ⟨references + 1, outer⟩) rest
termination_by frames => (total ledger, frames.length)
decreasing_by
  · exact .right _ (Nat.lt_succ_self _)
  · exact .right _ (Nat.lt_succ_self _)
  · have fewer := total_set found ⟨0, outer⟩
    exact .left _ _ (by simp only at fewer; omega)
  · have fewer := total_set found ⟨references + 1, outer⟩
    exact .left _ _ (by simp only at fewer; omega)

end Ledger

/-- The frames that a tree of scopes tracks, newest first, and the count of them at which those
that no longer live are left out. -/
structure Roster where
  frames : List Nat
  pruneAt : Nat

namespace Roster

/-- As many frames may always be tracked. -/
def minimum : Nat := 32

/-- A roster without frames. -/
def empty : Roster := ⟨[], minimum⟩

/-- Track one more frame. -/
def track (lives : Nat → Bool) (frame : Nat) (roster : Roster) : Roster :=
  if roster.pruneAt ≤ roster.frames.length then
    let living := roster.frames.filter lives
    ⟨frame :: living, max (living.length * 2) minimum⟩
  else { roster with frames := frame :: roster.frames }

end Roster

end TemplateEngine

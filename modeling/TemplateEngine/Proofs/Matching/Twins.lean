import TemplateEngine.Proofs.Evaluating
import TemplateEngine.Proofs.Isolation

/-!
# Renderings beyond one store

A closed store may be extended in different ways, with frames that are opened on the way.  What
is rendered in a scope of the store then cannot tell: it writes the same, and fails or succeeds
alike, because the frames of the store stand for themselves and what is opened further matches.
-/

namespace TemplateEngine

namespace Matching

open Comparison

/-! ## Renderings that differ in opened frames -/

/-- The matching of renderings that differ in nothing but the frames that they open. -/
def twin : Matching :=
  { isolated with native := fun _ => True }

theorem twin_interprets {natives : Natives} (indifferent : natives.Indifferent) (bound : Nat) :
    twin.Interprets (Interpreter.bounded natives bound) (Interpreter.bounded natives bound) := by
  induction bound with
  | zero =>
      intro kind depth
      exact Correspondence.interprets_exhausted Absence.noConfusion depth depth
  | succ bound inductionHypothesis =>
      intro kind depth
      exact (handles inductionHypothesis
        (admits_of_indifferent (fun _ => True.intro) indifferent) (fun never => never.elim)
          kind).interprets

theorem twin_handles {natives : Natives} (indifferent : natives.Indifferent)
    (bound depth : Nat) :
    (twin.correspondence .plain).Handles
      (Interpreter.effects natives (Interpreter.bounded natives bound)) depth
      (Interpreter.effects natives (Interpreter.bounded natives bound)) depth :=
  handles (twin_interprets indifferent bound)
    (admits_of_indifferent (fun _ => True.intro) indifferent) (fun never => never.elim) .plain

/-- Stores that extend the same closed store match in the frames of that one. -/
theorem twin_stores {base first second : Store} (closed : base.Closed)
    (firstExtends : base.Extends first) (secondExtends : base.Extends second) :
    twin.Stores (Pairing.identity base.frames.size base.trees) first second := by
  refine (stores_of_closed (fun _ => True.intro) closed).retain ?_ nofun nofun
    firstExtends.settles.trees secondExtends.settles.trees
  intro pair member
  obtain ⟨frame, present, rfl⟩ := List.mem_map.1 member
  rw [List.mem_range] at present
  exact ⟨firstExtends.getElem? present, secondExtends.getElem? present⟩

end Matching

/-! ## Places of closed stores -/

/-- A place in whose store everything stays that it leads to. -/
structure Place.Closed (place : Place) : Prop where
  store : place.state.store.Closed
  scope : place.environment.scope.Lies place.state.store

namespace Place

variable {place : Place}

/-- The frames of a place, each paired with itself. -/
def pairing (place : Place) : Pairing :=
  .identity place.state.store.frames.size place.state.store.trees

/-- A state that has been reached from a place by opening frames only, with nothing written. -/
structure Reaches (place : Place) (state : RunState) : Prop where
  store : place.state.store.Extends state.store
  sink : state.sink = place.state.sink

theorem reaches_self (place : Place) : place.Reaches place.state :=
  ⟨.refl _, rfl⟩

theorem Closed.environments (closed : place.Closed) :
    (Matching.twin.correspondence .plain).Environments place.pairing place.environment
      place.environment :=
  ⟨⟨rfl, rfl, rfl, rfl⟩, closed.scope.scopes⟩

theorem Closed.values (_ : place.Closed) {value : Value} (lies : value.Lies place.state.store) :
    Matching.twin.Values place.pairing value value :=
  Matching.values_of_closes (fun _ => True.intro) lies

/-- What is rendered alike has alike outcomes from all states that are reached from a place. -/
theorem Closed.ends (closed : place.Closed) {ε α : Type} {fails : ε → ε → Prop}
    {gives : Pairing → α → α → Prop} {run other : Run ε α}
    (related : Matching.twin.comparison.Related place.pairing fails gives run other)
    {first second : RunState} (firstReached : place.Reaches first)
    (secondReached : place.Reaches second) :
    Matching.twin.comparison.Ends place.pairing fails gives (run first) (other second) :=
  related.ends not_false
    ⟨Matching.twin_stores closed.store firstReached.store secondReached.store,
      firstReached.sink.trans secondReached.sink.symm⟩

end Place

end TemplateEngine

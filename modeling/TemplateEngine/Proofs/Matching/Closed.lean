import TemplateEngine.Proofs.Matching
import TemplateEngine.Proofs.References
import TemplateEngine.Proofs.Retention

/-!
# Closed stores

A store is closed if nothing that it binds leads out of it.  Such a store matches itself, frame
by frame, and so do the values in it.  Renderings that start in it can then be compared with each
other, whatever frames they open, as long as native functions do not look into what can be
called.
-/

namespace TemplateEngine

/-- Native functions that pass on what they are given without looking into what can be called,
and make nothing that can be called but other native functions. -/
structure Natives.Indifferent (natives : Natives) : Prop where
  uniform : ∀ relates, natives.Uniform relates
  keeps : ∀ holds, Value.AboutCallables holds →
    (∀ name, holds (.function (.native name))) → natives.Keeps holds

theorem Natives.standard_indifferent : Natives.standard.Indifferent where
  uniform _ := standard_uniform
  keeps := by
    intro holds callables _ name arguments positional keyword
    have basic := callables.basic
    unfold standard
    split
    · cases given : arguments.at? 0 with
      | none => exact basic.nil
      | some argument => exact positional argument (List.mem_of_getElem? given)
    · cases given : arguments.get? 1 "key" with
      | none => exact basic.nil
      | some argument => exact Filter.mem_of_get? positional keyword given
    · exact callables _ rfl
    · have listed : Value.Every holds (.list arguments.positional) :=
        Value.every_list.2 positional
      have named : Value.Every holds (.list (arguments.keyword.map fun argument =>
          .list [.plain argument.1, argument.2])) := by
        refine Value.every_list.2 fun item member => ?_
        obtain ⟨argument, given, rfl⟩ := List.mem_map.1 member
        exact ⟨basic.plain _, keyword argument given, True.intro⟩
      exact ⟨listed, named, callables _ rfl, True.intro⟩
    · exact basic.nil

/-! ## Stores that nothing leads out of -/

/-- Whether a scope is one of a store. -/
structure Scope.Lies (store : Store) (scope : Scope) : Prop where
  tree : scope.tree < store.trees
  chain : ∀ frame ∈ scope.chain, frame < store.frames.size

/-- Whether everything that is bound in a store lies in it: the scopes of macros and of calls of
`super`. -/
structure Store.Closed (store : Store) : Prop where
  values : store.Holds (Value.Every (Value.Closes fun environment =>
    environment.scope.Lies store))

/-- A store and a scope that are opened with data in which there are no macros. -/
theorem Store.closed_scopeOf {data : Table Value}
    (plain : ∀ entry ∈ data, entry.2.Every (Value.Closes fun _ => False)) :
    (empty.scopeOf data).2.Closed ∧ (empty.scopeOf data).1.Lies (empty.scopeOf data).2 := by
  have size : (empty.scopeOf data).2.frames.size = 1 := size_bindAll _ _ _
  have settles : empty.newScope.2.Settles (empty.scopeOf data).2 := settles_bindAll _ _ _
  have trees : 0 < (empty.scopeOf data).2.trees := settles.trees
  refine ⟨⟨?_⟩, trees, ?_⟩
  · refine holds_scopeOf fun entry listed => (plain entry listed).mono ?_
    intro value closes
    unfold Value.Closes at closes ⊢
    split <;> first | exact closes.elim | exact True.intro
  · intro frame member
    rw [size]
    obtain rfl : frame = 0 := List.mem_singleton.1 member
    exact Nat.one_pos

namespace Pairing

/-- The frames and trees of a store, each paired with itself. -/
def identity (frames trees : Nat) : Pairing where
  pairs := (List.range frames).map fun frame => ⟨.plain, frame, frame⟩
  trees := (List.range trees).map fun tree => (tree, tree)
  firstAside := []
  secondAside := []
  once := by simp
  kinds := by simp
  apart := by simp
  distinct := by simp

variable {frames trees : Nat}

theorem mem_identity {frame : Nat} (present : frame < frames) :
    ⟨.plain, frame, frame⟩ ∈ (identity frames trees).pairs :=
  List.mem_map.2 ⟨frame, List.mem_range.2 present, rfl⟩

theorem identity_chains {chain : List Nat} (present : ∀ frame ∈ chain, frame < frames) :
    (identity frames trees).Chains .plain chain chain := by
  induction chain with
  | nil => exact .nil
  | cons frame rest inductionHypothesis =>
      rw [List.forall_mem_cons] at present
      exact .pair (mem_identity present.1) (inductionHypothesis present.2)

end Pairing

/-- A scope of a store is paired with itself. -/
theorem Scope.Lies.scopes {store : Store} {scope : Scope} (lies : scope.Lies store) :
    (Pairing.identity store.frames.size store.trees).Scopes .plain scope scope :=
  ⟨⟨List.mem_map.2 ⟨scope.tree, List.mem_range.2 lies.tree, rfl⟩,
    Pairing.identity_chains lies.chain⟩, Pairing.mem_identity (lies.chain _ List.mem_cons_self)⟩

namespace Matching

open Comparison

variable {matching : Matching} {store : Store} {natives : Natives}

/-- What a closed store binds matches itself. -/
theorem values_of_closes (native : ∀ name, matching.native name) {value : Value}
    (closed : value.Every (Value.Closes fun environment => environment.scope.Lies store)) :
    matching.Values (Pairing.identity store.frames.size store.trees) value
      value := by
  have relates : ∀ {environment : Environment}, environment.scope.Lies store →
      matching.Relates (Pairing.identity store.frames.size store.trees)
        environment environment :=
    fun lies => ⟨.plain, ⟨rfl, rfl, rfl, rfl⟩, lies.scopes⟩
  constructor
  · refine Value.like_of_every value (closed.mono fun value closes => ?_)
    cases value with
    | closure callee => exact relates closes
    | function callee =>
        cases callee with
        | native name => exact True.intro
        | super environment depth bodies => exact relates closes
    | _ => exact True.intro
  · refine closed.mono fun value closes => ?_
    cases value with
    | closure callee =>
        exact ⟨.plain, closes.scopes.knows, Definition.within_unrestricted _⟩
    | function callee =>
        cases callee with
        | native name => exact native name
        | super environment depth bodies =>
            exact ⟨.plain, closes.scopes.knows, fun _ _ => Node.allWithin_unrestricted _⟩
    | _ => exact True.intro

/-- A closed store matches itself. -/
theorem stores_of_closed (native : ∀ name, matching.native name) (closed : store.Closed) :
    matching.Stores (Pairing.identity store.frames.size store.trees) store
      store where
  frames := by
    intro pair member
    obtain ⟨frame, present, rfl⟩ := List.mem_map.1 member
    rw [List.mem_range] at present
    have found := Array.getElem?_eq_getElem present
    refine ⟨_, _, found, found, ?_, List.forall₂_same.2 fun entry listed => ⟨rfl, ?_⟩⟩
    · have known := store.planted _ (Array.mem_of_getElem? found)
      exact List.mem_map.2 ⟨_, List.mem_range.2 known, rfl⟩
    · apply values_of_closes native
      apply closed.values frame entry
      simpa [Store.bindings, found] using listed
  trees := by
    intro tree member
    obtain ⟨number, present, rfl⟩ := List.mem_map.1 member
    rw [List.mem_range] at present
    exact ⟨present, present⟩
  firstAside := nofun
  secondAside := nofun

/-- What native functions give for matching arguments matches. -/
theorem admits_of_indifferent (native : ∀ name, matching.native name)
    (indifferent : natives.Indifferent) : matching.Admits natives := by
  intro pairing name arguments others _ given
  have keeps : natives.Keeps (matching.Holds pairing) :=
    indifferent.keeps _ aboutCallables_holds native
  exact ⟨indifferent.uniform _ name (arguments_like given), keeps name arguments
    (forall₂_values_iff.1 given.positional).2 (entries_values_iff.1 given.keyword).2⟩

end Matching

end TemplateEngine

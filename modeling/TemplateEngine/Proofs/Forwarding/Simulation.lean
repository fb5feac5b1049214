import TemplateEngine.Proofs.Extending
import TemplateEngine.Proofs.Forwarding.Blocks
import TemplateEngine.Proofs.Matching.Closed

/-!
# Renderings under a lineage that adds nothing

A rendering under a lineage that adds nothing to another one matches the rendering under the
other one: where a block forwards, one of them opens a scope that is aside, and then both
render the same definition.  What is written to a sink of its own and then as a whole is in the
end what is written directly, because no sink is limited.

The rendering that has more uses of `super` needs a greater bound.  A block and the `super` in
it nest at most twice as deep as the block alone.
-/

namespace TemplateEngine

/-! ## Templates without `super` -/

/-- The words of templates that do not read `super` and refer to nothing but templates of some
names. -/
def Vocabulary.withoutSuper (listed : String → Prop) : Vocabulary :=
  { Vocabulary.unrestricted with
    name := (· ≠ "super")
    statement := fun described => ∀ name, described.MayRefer name → listed name }

/-- Templates that a memory loader finds and that are read in one way, of which those of some
names do not read `super` and refer to nothing but each other. -/
structure Repertoire where
  config : Config
  registries : Registries
  templates : Table String
  listed : String → Prop
  within : ∀ name lineage, listed name →
    Lineage.load config registries.statements (.memory templates) name = .ok lineage →
      lineage.Within (.withoutSuper listed)

/-- Lineages of which one adds nothing to the other one, if they differ.  That other one uses
only words of a vocabulary. -/
inductive Lineage.Resembles (vocabulary : Vocabulary) : Lineage → Lineage → Prop where
  | same {lineage : Lineage} (inside : lineage.Within vocabulary) :
      Resembles vocabulary lineage lineage
  | child {child parent : Lineage} (forwards : child.Forwards parent)
      (inside : parent.Within vocabulary) : Resembles vocabulary child parent
  | parent {child parent : Lineage} (forwards : child.Forwards parent)
      (inside : parent.Within vocabulary) : Resembles vocabulary parent child

namespace Repertoire

variable (repertoire : Repertoire)

/-- The words of the templates of a repertoire. -/
def vocabulary : Vocabulary :=
  .withoutSuper repertoire.listed

/-- Whether templates are found and read in an environment as in a repertoire. -/
structure Serves (environment : Environment) : Prop where
  config : environment.config = repertoire.config
  registries : environment.registries = repertoire.registries
  loader : environment.loader = .memory repertoire.templates

/-- Environments in which the templates of a repertoire are found, for lineages that resemble
each other. -/
structure Pairs (first second : Environment) : Prop where
  firstServes : repertoire.Serves first
  secondServes : repertoire.Serves second
  lineages : Lineage.Resembles repertoire.vocabulary first.lineage second.lineage

variable {repertoire}

/-- What is referred to by a listed name is found as in the repertoire. -/
theorem Serves.of_refer {environment included : Environment}
    (serves : repertoire.Serves environment) {name : String} (listed : repertoire.listed name)
    (referred : environment.refer name = .ok included) :
    repertoire.Serves included ∧ included.lineage.Within repertoire.vocabulary := by
  obtain ⟨config, registries, loader⟩ := serves
  obtain ⟨derived, identifier, lineage, inherited, resolved, loaded, rfl⟩ :=
    Environment.exists_of_refer referred
  rw [loader] at inherited resolved
  obtain ⟨rfl, rfl⟩ := Loader.memory_of_inherit inherited resolved
  rw [config, registries] at loaded
  exact ⟨⟨config, registries, rfl⟩, repertoire.within _ lineage listed loaded⟩

/-- The same template is found from both of two such environments. -/
theorem Pairs.refer {first second : Environment} (pairs : repertoire.Pairs first second)
    {name : String} (listed : repertoire.listed name) :
    Alike (fun error other => error = other)
      (fun included other => repertoire.Pairs included other ∧
        included.lineage = other.lineage ∧ included.lineage.Within repertoire.vocabulary)
      (first.refer name) (second.refer name) := by
  obtain ⟨firstServes, secondServes, _⟩ := pairs
  have agrees : first.Agrees { second with lineage := first.lineage } :=
    ⟨secondServes.config.trans firstServes.config.symm,
      secondServes.registries.trans firstServes.registries.symm,
      secondServes.loader.trans firstServes.loader.symm, rfl⟩
  refine ((agrees.refer name).attach fun included =>
    firstServes.of_refer listed).mono ?_
  rintro included other ⟨⟨agrees, same⟩, serves, inside⟩
  refine ⟨⟨serves, ⟨?_, ?_, ?_⟩, same ▸ .same inside⟩, same, inside⟩
  · exact agrees.config.trans serves.config
  · exact agrees.registries.trans serves.registries
  · exact agrees.loader.trans serves.loader

end Repertoire

namespace Matching

open Comparison

/-- The matching of renderings under lineages that resemble each other.  Only what succeeds is
compared, and what is written is compared as a whole. -/
def forwarding (repertoire : Repertoire) : Matching where
  absence := .excused
  forgives := True
  sink first second := first.text = second.text ∧ first.room = none ∧ second.room = none
  native _ := True
  vocabulary := repertoire.vocabulary
  setting := repertoire.Pairs
  sink_unlimited := ⟨rfl, rfl, rfl⟩
  sink_text sinks := sinks.1
  sink_takes sinks text := by
    rw [Sink.takes, Sink.takes, sinks.2.1, sinks.2.2]
  sink_add sinks text := by
    obtain ⟨written, firstRoom, secondRoom⟩ := sinks
    refine ⟨by rw [Sink.text_add, Sink.text_add, written], ?_, ?_⟩
    · rw [Sink.add, firstRoom]
      rfl
    · rw [Sink.add, secondRoom]
      rfl
  name known := known
  target _ := True.intro
  macros := True.intro
  setting_within _ _ pairs :=
    ⟨⟨pairs.firstServes.config, pairs.firstServes.registries, pairs.firstServes.loader⟩,
      ⟨pairs.secondServes.config, pairs.secondServes.registries, pairs.secondServes.loader⟩,
      pairs.lineages⟩
  setting_config pairs := pairs.secondServes.config.trans pairs.firstServes.config.symm
  setting_registries pairs :=
    pairs.secondServes.registries.trans pairs.firstServes.registries.symm
  refer known named pairs := pairs.refer (known _ named)

variable {repertoire : Repertoire} {pairing : Pairing} {first second : Run TemplateError Unit}

/-- Where the first of two matching runs succeeds, the second one does so with the same text. -/
theorem exists_of_related {store other : Store}
    (related : (forwarding repertoire).comparison.Renders pairing
      (forwarding repertoire).comparison.done first second)
    (stores : (forwarding repertoire).Stores pairing store other) {after : RunState}
    (ran : first ⟨store, Sink.unlimited⟩ = some (.ok (), after)) :
    ∃ otherAfter, second ⟨other, Sink.unlimited⟩ = some (.ok (), otherAfter) ∧
      after.sink.text = otherAfter.sink.text ∧
      ∃ later, (forwarding repertoire).comparison.Later pairing later ∧
        (forwarding repertoire).Stores later after.store otherAfter.store := by
  rcases related ⟨store, Sink.unlimited⟩ ⟨other, Sink.unlimited⟩
      ⟨stores, (forwarding repertoire).sink_unlimited⟩ with
    ⟨_, error, reached, failed⟩ | ended
  · rw [ran] at failed
    cases failed
  · rw [ran] at ended
    match otherRan : second ⟨other, Sink.unlimited⟩ with
    | none =>
        rw [otherRan] at ended
        exact ended.elim
    | some (.error error, otherAfter) =>
        rw [otherRan] at ended
        obtain ⟨_, _, _, impossible⟩ := ended
        exact impossible.elim
    | some (.ok (), otherAfter) =>
        rw [otherRan] at ended
        obtain ⟨later, grown, ⟨stores, shown, _⟩, _⟩ := ended
        exact ⟨otherAfter, rfl, shown, later, grown, stores⟩

/-! ### Texts that are written as a whole -/

/-- The first run may write as a whole what it writes to a sink of its own before. -/
theorem related_written_first (change : TemplateError → TemplateError)
    (related : (forwarding repertoire).comparison.Renders pairing
      (forwarding repertoire).comparison.done first second)
    (truncates : second.Truncates) :
    (forwarding repertoire).comparison.Renders pairing
      (forwarding repertoire).comparison.done
      (do
        let text ← (Run.capture first).mapError change
        Run.write text)
      second := by
  rintro ⟨store, ⟨before, _⟩⟩ ⟨other, ⟨otherBefore, _⟩⟩ ⟨stores, written, rfl, rfl⟩
  rw [Run.bind_apply, Run.mapError_apply, Run.capture_apply]
  match ran : first ⟨store, Sink.unlimited⟩ with
  | none => exact .inr (Ends.excused rfl _)
  | some (.error error, after) => exact .inl ⟨True.intro, change error, _, rfl⟩
  | some (.ok (), ⟨after, sink⟩) =>
      obtain ⟨⟨otherAfter, _⟩, otherRan, shown, later, grown, stores⟩ :=
        exists_of_related related stores ran
      obtain ⟨texts, rfl, moved⟩ := truncates.exists_texts otherRan
      rw [moved otherBefore]
      refine .inr ⟨later, grown, ⟨stores, ?_, rfl, rfl⟩, True.intro⟩
      change (Sink.add ⟨before, none⟩ sink.text).text = _
      rw [Sink.text_add, Sink.text_append, written, shown, Array.empty_append]

/-- The second run may write as a whole what it writes to a sink of its own before. -/
theorem related_written_second (change : TemplateError → TemplateError)
    (related : (forwarding repertoire).comparison.Renders pairing
      (forwarding repertoire).comparison.done first second)
    (truncates : first.Truncates) :
    (forwarding repertoire).comparison.Renders pairing
      (forwarding repertoire).comparison.done first
      (do
        let text ← (Run.capture second).mapError change
        Run.write text) := by
  rintro ⟨store, ⟨before, _⟩⟩ ⟨other, ⟨otherBefore, _⟩⟩ ⟨stores, written, rfl, rfl⟩
  rw [Run.bind_apply, Run.mapError_apply, Run.capture_apply]
  match ran : first ⟨store, ⟨before, none⟩⟩ with
  | none => exact .inr (Ends.excused rfl _)
  | some (.error error, after) => exact .inl ⟨True.intro, error, _, rfl⟩
  | some (.ok (), ⟨after, _⟩) =>
      obtain ⟨texts, rfl, moved⟩ := truncates.exists_texts ran
      obtain ⟨⟨otherAfter, sink⟩, otherRan, shown, later, grown, stores⟩ :=
        exists_of_related related stores (moved #[])
      rw [otherRan]
      refine .inr ⟨later, grown, ⟨stores, ?_, rfl, rfl⟩, True.intro⟩
      change _ = (Sink.add ⟨otherBefore, none⟩ sink.text).text
      rw [Sink.text_add, Sink.text_append, written, ← shown, Array.empty_append]

/-! ### Blocks -/

variable {natives : Natives} {bound greater depth : Nat}
variable {environment other : Environment} {body next : Body Node} {rest : List (Body Node)}

/-- A definition that forwards in the first run matches what it overrides in the second. -/
theorem related_forwards_first
    (interprets : ((forwarding repertoire).correspondence .guarded).Interprets
      (Interpreter.bounded natives bound) depth (Interpreter.bounded natives greater) depth)
    (pairs : repertoire.Pairs environment other)
    (outer : pairing.Outer .guarded environment.scope other.scope) (forwards : body.Forwards)
    (inside : ∀ body ∈ next :: rest, Node.AllWithin repertoire.vocabulary body.nodes) :
    (forwarding repertoire).comparison.Renders pairing (forwarding repertoire).comparison.done
      (Interpreter.renderBlock (Interpreter.bounded natives (bound + 1)) environment depth
        (body :: next :: rest))
      (Interpreter.renderBlock (Interpreter.bounded natives greater) other depth
        (next :: rest)) := by
  obtain ⟨change, forwarded⟩ :=
    Interpreter.renderBlock_of_forwards natives bound environment depth forwards next rest
  rw [forwarded]
  rintro ⟨store, sink⟩ ⟨otherStore, otherSink⟩ ⟨stores, sinks⟩
  let inner := environment.within (store.childScope environment.scope).1
  obtain ⟨later, grown, opened, outer⟩ :=
    stores.openFirst outer (.function (.super inner depth (next :: rest)))
  have settings : (forwarding repertoire).settings .guarded inner other :=
    (forwarding repertoire).setting_within _ other.scope pairs
  have related := related_written_first change
    (related_renderBlock interprets settings outer inside)
    (Interpreter.renderBlock_truncates (Interpreter.bounded_truncates natives greater) other
      depth (next :: rest))
  rw [Interpreter.openBlock_bind_apply]
  have ended := related ⟨_, sink⟩ ⟨_, otherSink⟩ ⟨opened, sinks⟩
  exact ended.imp_right (·.earlier grown)

/-- A definition that forwards in the second run matches what it overrides in the first. -/
theorem related_forwards_second
    (interprets : ((forwarding repertoire).correspondence .guarded).Interprets
      (Interpreter.bounded natives bound) depth (Interpreter.bounded natives greater) depth)
    (pairs : repertoire.Pairs environment other)
    (outer : pairing.Outer .guarded environment.scope other.scope) (forwards : body.Forwards)
    (inside : ∀ body ∈ next :: rest, Node.AllWithin repertoire.vocabulary body.nodes) :
    (forwarding repertoire).comparison.Renders pairing (forwarding repertoire).comparison.done
      (Interpreter.renderBlock (Interpreter.bounded natives bound) environment depth
        (next :: rest))
      (Interpreter.renderBlock (Interpreter.bounded natives (greater + 1)) other depth
        (body :: next :: rest)) := by
  obtain ⟨change, forwarded⟩ :=
    Interpreter.renderBlock_of_forwards natives greater other depth forwards next rest
  rw [forwarded]
  rintro ⟨store, sink⟩ ⟨otherStore, otherSink⟩ ⟨stores, sinks⟩
  let inner := other.within (otherStore.childScope other.scope).1
  obtain ⟨later, grown, opened, outer⟩ :=
    stores.openSecond outer (.function (.super inner depth (next :: rest)))
  have settings : (forwarding repertoire).settings .guarded environment inner :=
    (forwarding repertoire).setting_within environment.scope _ pairs
  have related := related_written_second change
    (related_renderBlock interprets settings outer inside)
    (Interpreter.renderBlock_truncates (Interpreter.bounded_truncates natives bound) environment
      depth (next :: rest))
  rw [Interpreter.openBlock_bind_apply]
  have ended := related ⟨_, sink⟩ ⟨_, otherSink⟩ ⟨opened, sinks⟩
  exact ended.imp_right (·.earlier grown)

/-! ### Interpreters -/

/-- Blocks match under lineages that resemble each other.  Where one of them has a definition
that forwards, what that overrides is rendered under a bound that is smaller by one. -/
theorem related_blocks
    (interprets : ∀ inner ≤ bound, ∀ {outer}, 2 * inner ≤ outer →
      (forwarding repertoire).Interprets (Interpreter.bounded natives inner)
        (Interpreter.bounded natives outer))
    (enough : 2 * bound < greater) (pairs : repertoire.Pairs environment other)
    (outer : pairing.Outer .guarded environment.scope other.scope) (depth : Nat)
    (name : String) :
    (forwarding repertoire).comparison.Renders pairing (forwarding repertoire).comparison.done
      (Interpreter.renderBlock (Interpreter.bounded natives bound) environment depth
        (environment.lineage.blocksFor name))
      (Interpreter.renderBlock (Interpreter.bounded natives greater) other depth
        (other.lineage.blocksFor name)) := by
  have same : ∀ {bodies : List (Body Node)},
      (∀ body ∈ bodies, Node.AllWithin repertoire.vocabulary body.nodes) →
        (forwarding repertoire).comparison.Renders pairing
          (forwarding repertoire).comparison.done
          (Interpreter.renderBlock (Interpreter.bounded natives bound) environment depth bodies)
          (Interpreter.renderBlock (Interpreter.bounded natives greater) other depth bodies) :=
    fun inside => related_renderBlock
      (interprets bound (Nat.le_refl _) (Nat.le_of_lt enough) .guarded depth) pairs outer inside
  have lineages := pairs.lineages
  generalize environment.lineage = lineage at lineages ⊢
  generalize other.lineage = otherLineage at lineages ⊢
  cases lineages with
  | same inside => exact same (inside.blocksFor name)
  | child forwards inside =>
      have inside := inside.blocksFor name
      rcases forwards.blocksFor name with alike | ⟨body, next, rest, forward, defined, more⟩
      · rw [alike]
        exact same inside
      · rw [more]
        rw [defined] at inside ⊢
        cases bound with
        | zero =>
            rw [show Interpreter.bounded natives 0 = .exhausted from rfl,
              Interpreter.renderBlock_exhausted]
            exact related_exhausted_left rfl _
        | succ bound =>
            exact related_forwards_first
              (interprets bound (Nat.le_succ bound) (by omega) .guarded depth) pairs outer
              forward inside
  | parent forwards inside =>
      have inside := inside.blocksFor name
      rcases forwards.blocksFor name with alike | ⟨body, next, rest, forward, defined, more⟩
      · rw [alike]
        exact same inside
      · rw [more]
        rw [defined] at inside ⊢
        obtain ⟨greater, rfl⟩ :=
          Nat.exists_eq_add_of_le' (Nat.lt_of_le_of_lt (Nat.zero_le _) enough)
        exact related_forwards_second
          (interprets bound (Nat.le_refl _) (Nat.le_of_lt_succ enough) .guarded depth) pairs outer
          forward inside

/-- With twice the bound all uses match that one of two interpreters has an outcome for. -/
theorem forwarding_interprets (indifferent : natives.Indifferent)
    (enough : 2 * bound ≤ greater) :
    (forwarding repertoire).Interprets (Interpreter.bounded natives bound)
      (Interpreter.bounded natives greater) := by
  induction bound using Nat.strong_induction_on generalizing greater with
  | h bound inductionHypothesis =>
      cases bound with
      | zero =>
          exact fun _ _ => ⟨fun _ _ => related_exhausted_left rfl _,
            fun _ _ => related_exhausted_left rfl _⟩
      | succ bound =>
          obtain ⟨greater, rfl⟩ := Nat.exists_eq_add_of_le' (show 1 ≤ greater by omega)
          have interprets := inductionHypothesis bound (Nat.lt_succ_self bound)
            (show 2 * bound ≤ greater by omega)
          intro kind depth
          have admits : (forwarding repertoire).Admits natives :=
            admits_of_indifferent (fun _ => True.intro) indifferent
          refine (handles interprets admits ?_ kind).interprets
          rintro pairing first second name pairs scopes -
          exact related_blocks
            (fun inner below => inductionHypothesis inner (Nat.lt_succ_of_le below))
            (show 2 * bound < greater by omega) pairs scopes.toOuter depth name

end Matching

end TemplateEngine

import TemplateEngine.Run
import Mathlib.Data.List.Forall2

/-!
# Comparing runs

Two runs that start in related states are compared by how they end: both fail alike, or
both give related results, in states that are related again.  What is related depends on
a world, which grows while the runs go on, because frames are added to their stores.

A comparison may also forgive: once the first run has failed, nothing is asked of the
second one.

A comparison is preserved by everything runs are composed of.  Relating the two runs of
one template under two interpreters is therefore a matter of relating what the
interpreters do where something is used by its name.
-/

namespace TemplateEngine

/-- What a comparison asks of runs without an outcome. -/
inductive Absence where
  /-- If one of two runs has no outcome, the other one has none either. -/
  | matched
  /-- The first run may be without one, whatever the second one does. -/
  | excused
  /-- Neither run may be without one. -/
  | excluded

/-- What is compared about two runs. -/
structure Comparison where
  World : Type
  Later : World → World → Prop
  absence : Absence
  /-- Whether the second run may do anything once the first one has failed. -/
  forgives : Prop
  store : World → Store → Store → Prop
  sink : World → Sink → Sink → Prop
  fault : EvalError → EvalError → Prop
  failure : TemplateError → TemplateError → Prop
  later_refl : ∀ world, Later world world
  later_trans : ∀ {first second third},
    Later first second → Later second third → Later first third
  sink_later : ∀ {world later first second},
    Later world later → sink world first second → sink later first second
  sink_unlimited : ∀ world, sink world Sink.unlimited Sink.unlimited
  fault_refl : ∀ error, fault error error
  failure_refl : ∀ error, failure error error
  failure_evaluation : ∀ {first second},
    fault first second → failure (.evaluation first) (.evaluation second)
  failure_wrapped : ∀ {first second} site,
    failure first second → failure (.wrapped site first) (.wrapped site second)
  failure_isNotFound : ∀ {first second},
    failure first second → first.isNotFound = second.isNotFound

/-- Two results that are both failures or both not, and related as such. -/
def Alike {ε δ α β : Type} (fails : ε → δ → Prop) (gives : α → β → Prop) :
    Except ε α → Except δ β → Prop
  | .ok first, .ok second => gives first second
  | .error first, .error second => fails first second
  | _, _ => False

namespace Alike

variable {ε δ ε' δ' α β α' β' : Type}

theorem mono {fails : ε → δ → Prop} {gives gives' : α → β → Prop}
    {first : Except ε α} {second : Except δ β}
    (weaker : ∀ value other, gives value other → gives' value other)
    (alike : Alike fails gives first second) : Alike fails gives' first second := by
  cases first <;> cases second <;> first
    | exact alike
    | exact weaker _ _ alike

theorem weaken {fails fails' : ε → δ → Prop} {gives : α → β → Prop} {first : Except ε α}
    {second : Except δ β} (weaker : ∀ error other, fails error other → fails' error other)
    (alike : Alike fails gives first second) : Alike fails' gives first second := by
  cases first <;> cases second <;> first
    | exact alike
    | exact weaker _ _ alike

theorem mapError {fails : ε → δ → Prop} {fails' : ε' → δ' → Prop} {gives : α → β → Prop}
    {change : ε → ε'} {change' : δ → δ'} {first : Except ε α} {second : Except δ β}
    (changed : ∀ error other, fails error other → fails' (change error) (change' other))
    (alike : Alike fails gives first second) :
    Alike fails' gives (first.mapError change) (second.mapError change') := by
  cases first <;> cases second <;> first
    | exact alike
    | exact changed _ _ alike

/-- A fact about the first result may be added. -/
theorem attach {fails : ε → δ → Prop} {gives : α → β → Prop} {fact : α → Prop}
    {first : Except ε α} {second : Except δ β} (alike : Alike fails gives first second)
    (holds : ∀ value, first = .ok value → fact value) :
    Alike fails (fun value other => gives value other ∧ fact value) first second := by
  cases first <;> cases second <;> first
    | exact alike
    | exact ⟨alike, holds _ rfl⟩

theorem refl {fails : ε → ε → Prop} {gives : α → α → Prop}
    (failsRefl : ∀ error, fails error error) (givesRefl : ∀ value, gives value value)
    (result : Except ε α) : Alike fails gives result result := by
  cases result with
  | error error => exact failsRefl error
  | ok value => exact givesRefl value

end Alike

namespace Run

variable {ε α β : Type}

/-- A composed run goes on where its first part ends, unless that has failed. -/
theorem bind_apply (action : Run ε α) (rest : α → Run ε β) (state : RunState) :
    (action >>= rest) state =
      match action state with
      | none => none
      | some (.ok value, after) => rest value after
      | some (.error error, after) => some (.error error, after) := by
  change (action state).bind _ = _
  match action state with
  | none => rfl
  | some (.ok value, after) => rfl
  | some (.error error, after) => rfl

theorem mapError_apply {δ : Type} (change : ε → δ) (action : Run ε α) (state : RunState) :
    mapError change action state =
      (action state).map fun ended => (ended.1.mapError change, ended.2) := by
  change (action state).bind _ = _
  match action state with
  | none => rfl
  | some (.ok value, after) => rfl
  | some (.error error, after) => rfl

theorem releasing_apply (root : Scope) (action : Run ε α) (state : RunState) :
    releasing root action state =
      (action state).map fun ended =>
        (ended.1, { ended.2 with store := ended.2.store.release root }) :=
  rfl

theorem capture_apply (action : Run ε Unit) (store : Store) (sink : Sink) :
    capture action ⟨store, sink⟩ =
      (action ⟨store, Sink.unlimited⟩).map fun ended =>
        (ended.1.map fun _ => ended.2.sink.text, ⟨ended.2.store, sink⟩) := by
  unfold capture
  cases ran : action ⟨store, Sink.unlimited⟩ with
  | none => simp only [ExceptT.mk, ExceptT.run, ran, Option.map_none]
  | some ended => simp only [ExceptT.mk, ExceptT.run, ran, Option.map_some]

end Run

namespace Comparison

variable (comparison : Comparison)

/-- Two states whose stores and sinks are related. -/
def state (world : comparison.World) (first second : RunState) : Prop :=
  comparison.store world first.store second.store ∧
    comparison.sink world first.sink second.sink

variable {ε δ ε' δ' α β α' β' : Type}

/-- How the outcomes of two runs are related that start at a world. -/
def Ends (world : comparison.World) (fails : ε → δ → Prop)
    (gives : comparison.World → α → β → Prop) :
    Option (Except ε α × RunState) → Option (Except δ β × RunState) → Prop
  | some (first, firstState), some (second, secondState) =>
      ∃ later, comparison.Later world later ∧
        comparison.state later firstState secondState ∧
          Alike fails (gives later) first second
  | none, none => comparison.absence ≠ .excluded
  | none, some _ => comparison.absence = .excused
  | some _, none => False

/-- Whether a run has failed and that is forgiven. -/
def Forgiven (outcome : Option (Except ε α × RunState)) : Prop :=
  comparison.forgives ∧ ∃ error after, outcome = some (.error error, after)

/-- Two runs that end in a related way when they start in states related at a world. -/
def Related (world : comparison.World) (fails : ε → δ → Prop)
    (gives : comparison.World → α → β → Prop) (first : Run ε α) (second : Run δ β) : Prop :=
  ∀ firstState secondState, comparison.state world firstState secondState →
    comparison.Forgiven (first firstState) ∨
      comparison.Ends world fails gives (first firstState) (second secondState)

/-- Two results that are alike, unless the first one is a failure that is forgiven. -/
def Settled (fails : ε → δ → Prop) (gives : α → β → Prop) (first : Except ε α)
    (second : Except δ β) : Prop :=
  (comparison.forgives ∧ ∃ error, first = .error error) ∨ Alike fails gives first second

/-- Two related evaluations. -/
abbrev Evaluates (world : comparison.World) (gives : comparison.World → α → β → Prop)
    (first : Run EvalError α) (second : Run EvalError β) : Prop :=
  comparison.Related world comparison.fault gives first second

/-- Two related renderings. -/
abbrev Renders (world : comparison.World) (gives : comparison.World → α → β → Prop)
    (first : Run TemplateError α) (second : Run TemplateError β) : Prop :=
  comparison.Related world comparison.failure gives first second

/-- The relation between the results of runs that give none. -/
abbrev done (_ : comparison.World) (_ _ : Unit) : Prop := True

variable {comparison}
variable {world : comparison.World} {fails : ε → δ → Prop}
variable {gives gives' : comparison.World → α → β → Prop}
variable {relates : comparison.World → α' → β' → Prop}

theorem related_pure {first : α} {second : β} (given : gives world first second) :
    comparison.Related world fails gives (pure first) (pure second) :=
  fun _ _ states => .inr ⟨world, comparison.later_refl world, states, given⟩

theorem related_throw {first : ε} {second : δ} (failed : fails first second) :
    comparison.Related world fails gives (throw first) (throw second) :=
  fun _ _ states => .inr ⟨world, comparison.later_refl world, states, failed⟩

/-- A first run that fails is related to every run, if that is forgiven. -/
theorem related_throw_left (forgives : comparison.forgives) (error : ε) (second : Run δ β) :
    comparison.Related world fails gives (throw error) second :=
  fun firstState _ _ => .inl ⟨forgives, error, firstState, rfl⟩

theorem related_settled {first : Except ε α} {second : Except δ β}
    (settled : comparison.Settled fails (gives world) first second) :
    comparison.Related world fails gives (Run.ofExcept first) (Run.ofExcept second) := by
  intro firstState secondState states
  rcases settled with ⟨forgives, error, rfl⟩ | alike
  · exact .inl ⟨forgives, error, firstState, rfl⟩
  · exact .inr ⟨world, comparison.later_refl world, states, alike⟩

theorem related_ofExcept {first : Except ε α} {second : Except δ β}
    (alike : Alike fails (gives world) first second) :
    comparison.Related world fails gives (Run.ofExcept first) (Run.ofExcept second) :=
  related_settled (.inr alike)

/-- A fact about the first result may be added. -/
theorem Settled.attach {gives : α → β → Prop} {fact : α → Prop} {first : Except ε α}
    {second : Except δ β} (settled : comparison.Settled fails gives first second)
    (holds : ∀ value, first = .ok value → fact value) :
    comparison.Settled fails (fun value other => gives value other ∧ fact value) first
      second :=
  settled.imp_right fun alike => alike.attach holds

/-- Where failing is not forgiven, related runs end in a related way. -/
theorem Related.ends {first : Run ε α} {second : Run δ β}
    (related : comparison.Related world fails gives first second)
    (strict : ¬ comparison.forgives) {firstState secondState : RunState}
    (states : comparison.state world firstState secondState) :
    comparison.Ends world fails gives (first firstState) (second secondState) :=
  (related firstState secondState states).resolve_left fun forgiven => strict forgiven.1

/-- Runs are related as soon as they are at a later world in which they may start. -/
theorem Ends.earlier {earlier : comparison.World} (later : comparison.Later earlier world)
    {first : Option (Except ε α × RunState)} {second : Option (Except δ β × RunState)}
    (ended : comparison.Ends world fails gives first second) :
    comparison.Ends earlier fails gives first second := by
  match first, second with
  | none, none => exact ended
  | none, some _ => exact ended
  | some _, none => exact ended
  | some (_, _), some (_, _) =>
      rcases ended with ⟨final, grown, states, alike⟩
      exact ⟨final, comparison.later_trans later grown, states, alike⟩

/-- Where runs without an outcome are excused, nothing is asked of the second run. -/
theorem Ends.excused (excused : comparison.absence = .excused)
    (second : Option (Except δ β × RunState)) :
    comparison.Ends (α := α) world fails gives none second := by
  cases second with
  | none => simp [Ends, excused]
  | some ended => exact excused

theorem Related.mono {first : Run ε α} {second : Run δ β}
    (related : comparison.Related world fails gives first second)
    (weaker : ∀ later, comparison.Later world later →
      ∀ value other, gives later value other → gives' later value other) :
    comparison.Related world fails gives' first second := by
  intro firstState secondState states
  refine (related firstState secondState states).imp_right ?_
  intro ended
  match firstEnd : first firstState, secondEnd : second secondState with
  | none, none => rwa [firstEnd, secondEnd] at ended
  | none, some _ => rwa [firstEnd, secondEnd] at ended
  | some _, none => rwa [firstEnd, secondEnd] at ended
  | some (_, _), some (_, _) =>
      rw [firstEnd, secondEnd] at ended
      rcases ended with ⟨later, grown, states, alike⟩
      exact ⟨later, grown, states, alike.mono (weaker later grown)⟩

/-- A fact about the results of the first run may be added. -/
theorem Related.attach {first : Run ε α} {second : Run δ β} {fact : α → Prop}
    (related : comparison.Related world fails gives first second)
    (holds : ∀ state value after, first state = some (.ok value, after) → fact value) :
    comparison.Related world fails (fun later value other => gives later value other ∧ fact value)
      first second := by
  intro firstState secondState states
  refine (related firstState secondState states).imp_right ?_
  intro ended
  match firstEnd : first firstState, secondEnd : second secondState with
  | none, none => rwa [firstEnd, secondEnd] at ended
  | none, some _ => rwa [firstEnd, secondEnd] at ended
  | some _, none => rwa [firstEnd, secondEnd] at ended
  | some (result, after), some (_, _) =>
      rw [firstEnd, secondEnd] at ended
      rcases ended with ⟨later, grown, states, alike⟩
      refine ⟨later, grown, states, alike.attach ?_⟩
      rintro value rfl
      exact holds firstState value after firstEnd

/-- Related runs that are continued in a related way. -/
theorem Related.bind {first : Run ε α} {second : Run δ β}
    {firstRest : α → Run ε α'} {secondRest : β → Run δ β'}
    (related : comparison.Related world fails gives first second)
    (rest : ∀ later, comparison.Later world later → ∀ value other, gives later value other →
      comparison.Related later fails relates (firstRest value) (secondRest other)) :
    comparison.Related world fails relates (first >>= firstRest) (second >>= secondRest) := by
  intro firstState secondState states
  rw [Run.bind_apply, Run.bind_apply]
  rcases related firstState secondState states with ⟨forgives, error, after, failed⟩ | ended
  · exact .inl ⟨forgives, error, after, by rw [failed]⟩
  match firstEnd : first firstState, secondEnd : second secondState with
  | none, none =>
      rw [firstEnd, secondEnd] at ended
      exact .inr ended
  | none, some _ =>
      rw [firstEnd, secondEnd] at ended
      exact .inr (Ends.excused ended _)
  | some _, none =>
      rw [firstEnd, secondEnd] at ended
      exact ended.elim
  | some (firstResult, firstAfter), some (secondResult, secondAfter) =>
      rw [firstEnd, secondEnd] at ended
      rcases ended with ⟨later, grown, states, alike⟩
      match firstResult, secondResult with
      | .ok value, .ok other =>
          exact (rest later grown value other alike firstAfter secondAfter states).imp_right
            (·.earlier grown)
      | .error error, .error other => exact .inr ⟨later, grown, states, alike⟩

theorem Related.mapError {fails' : ε' → δ' → Prop} {change : ε → ε'} {change' : δ → δ'}
    {first : Run ε α} {second : Run δ β}
    (related : comparison.Related world fails gives first second)
    (changed : ∀ error other, fails error other → fails' (change error) (change' other)) :
    comparison.Related world fails' gives (first.mapError change)
      (second.mapError change') := by
  intro firstState secondState states
  rw [Run.mapError_apply, Run.mapError_apply]
  rcases related firstState secondState states with ⟨forgives, error, after, failed⟩ | ended
  · exact .inl ⟨forgives, change error, after, by rw [failed]; rfl⟩
  refine .inr ?_
  match firstEnd : first firstState, secondEnd : second secondState with
  | none, none => rwa [firstEnd, secondEnd] at ended
  | none, some _ =>
      rw [firstEnd, secondEnd] at ended
      exact Ends.excused ended _
  | some _, none =>
      rw [firstEnd, secondEnd] at ended
      exact ended.elim
  | some (_, _), some (_, _) =>
      rw [firstEnd, secondEnd] at ended
      rcases ended with ⟨later, grown, states, alike⟩
      exact ⟨later, grown, states, alike.mapError changed⟩

/-- Related runs after which related stores are released. -/
theorem Related.releasing {first : Run ε α} {second : Run δ β} {firstRoot secondRoot : Scope}
    (related : comparison.Related world fails gives first second)
    (released : ∀ later, comparison.Later world later → ∀ firstStore secondStore,
      comparison.store later firstStore secondStore →
        comparison.store later (firstStore.release firstRoot)
          (secondStore.release secondRoot)) :
    comparison.Related world fails gives (first.releasing firstRoot)
      (second.releasing secondRoot) := by
  intro firstState secondState states
  rw [Run.releasing_apply, Run.releasing_apply]
  rcases related firstState secondState states with ⟨forgives, error, after, failed⟩ | ended
  · exact .inl ⟨forgives, error, _, by rw [failed]; rfl⟩
  refine .inr ?_
  match firstEnd : first firstState, secondEnd : second secondState with
  | none, none => rwa [firstEnd, secondEnd] at ended
  | none, some _ =>
      rw [firstEnd, secondEnd] at ended
      exact Ends.excused ended _
  | some _, none =>
      rw [firstEnd, secondEnd] at ended
      exact ended.elim
  | some (_, _), some (_, _) =>
      rw [firstEnd, secondEnd] at ended
      rcases ended with ⟨later, grown, ⟨stores, sinks⟩, alike⟩
      exact ⟨later, grown, ⟨released later grown _ _ stores, sinks⟩, alike⟩

/-- Two captured texts are those of related sinks. -/
def texts (comparison : Comparison) (world : comparison.World) (first second : String) : Prop :=
  ∃ firstSink secondSink, comparison.sink world firstSink secondSink ∧
    first = firstSink.text ∧ second = secondSink.text

/-- Related runs write related texts to sinks of their own. -/
theorem Related.capture {first : Run ε Unit} {second : Run δ Unit}
    (related : comparison.Related world fails comparison.done first second) :
    comparison.Related world fails comparison.texts (Run.capture first)
      (Run.capture second) := by
  rintro ⟨firstStore, firstSink⟩ ⟨secondStore, secondSink⟩ ⟨stores, sinks⟩
  rw [Run.capture_apply, Run.capture_apply]
  rcases related ⟨firstStore, Sink.unlimited⟩ ⟨secondStore, Sink.unlimited⟩
      ⟨stores, comparison.sink_unlimited world⟩ with ⟨forgives, error, after, failed⟩ | ended
  · exact .inl ⟨forgives, error, ⟨after.store, firstSink⟩, by rw [failed]; rfl⟩
  refine .inr ?_
  match firstEnd : first ⟨firstStore, Sink.unlimited⟩,
      secondEnd : second ⟨secondStore, Sink.unlimited⟩ with
  | none, none => rwa [firstEnd, secondEnd] at ended
  | none, some _ =>
      rw [firstEnd, secondEnd] at ended
      exact Ends.excused ended _
  | some _, none =>
      rw [firstEnd, secondEnd] at ended
      exact ended.elim
  | some (firstResult, firstAfter), some (secondResult, secondAfter) =>
      rw [firstEnd, secondEnd] at ended
      rcases ended with ⟨later, grown, ⟨storesAfter, sinksAfter⟩, alike⟩
      refine ⟨later, grown, ⟨storesAfter, comparison.sink_later grown sinks⟩, ?_⟩
      match firstResult, secondResult with
      | .ok (), .ok () => exact ⟨_, _, sinksAfter, rfl, rfl⟩
      | .error error, .error other => exact alike

theorem related_exhausted (present : comparison.absence ≠ .excluded) :
    comparison.Related world fails gives (Run.exhausted : Run ε α) (Run.exhausted : Run δ β) :=
  fun _ _ _ => .inr present

theorem related_exhausted_left (excused : comparison.absence = .excused) (second : Run δ β) :
    comparison.Related world fails gives (Run.exhausted : Run ε α) second :=
  fun _ _ _ => .inr (Ends.excused excused _)

end Comparison

end TemplateEngine

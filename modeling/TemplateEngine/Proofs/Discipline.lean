import TemplateEngine.Proofs.Correspondence.Interpretation

/-!
# Disciplines

A discipline says what holds all along one run: of its store, of its sink, of the values
it handles and of the scopes it binds in.  It gives a comparison of the run with another
one that does the same as long as the discipline is kept, and a correspondence in which
only what is equal and disciplined is related.

Compared with itself, a run keeps the discipline.  Compared with a run under other
effects, it has the same outcome.
-/

namespace TemplateEngine

/-- What holds along a run, and is kept by what evaluation and rendering do. -/
structure Discipline where
  World : Type
  Later : World → World → Prop
  vocabulary : Vocabulary
  store : World → Store → Prop
  sink : World → Sink → Prop
  value : World → Value → Prop
  setting : World → Environment → Prop
  context : World → Environment → Prop
  scope : World → Scope → Prop
  imported : World → Environment → Prop
  later_refl : ∀ world, Later world world
  later_trans : ∀ {first second third},
    Later first second → Later second third → Later first third
  sink_later : ∀ {world later kept}, Later world later → sink world kept → sink later kept
  value_later : ∀ {world later kept}, Later world later → value world kept → value later kept
  setting_later : ∀ {world later environment},
    Later world later → setting world environment → setting later environment
  context_later : ∀ {world later environment},
    Later world later → context world environment → context later environment
  scope_later : ∀ {world later kept}, Later world later → scope world kept → scope later kept
  sink_unlimited : ∀ world, sink world Sink.unlimited
  literal : ∀ world (literal : Literal), value world literal.value
  list : ∀ {world items}, (∀ item ∈ items, value world item) → value world (.list items)
  map : ∀ {world} {entries : Table Value},
    (∀ entry ∈ entries, value world entry.2) → value world (.map entries)
  member : ∀ {world target name found},
    value world target → target.member? name = some found → value world found
  item : ∀ {world target key found},
    value world target → target.item? key = some found → value world found
  operation : ∀ {world first second result} (operator : BinaryOperator),
    value world first → value world second → operator.apply first second = .ok result →
      value world result
  items : ∀ {world iterated items} targets iterable, value world iterated →
    Loop.items targets iterable iterated = .ok items → ∀ item ∈ items, value world item
  bindings : ∀ {world item} {bound : Table Value} targets, value world item →
    Loop.bindings targets item = .ok bound → ∀ entry ∈ bound, value world entry.2
  within : ∀ {world environment} inside,
    setting world environment → setting world (environment.within inside)
  context_setting : ∀ {world environment},
    setting world environment → context world environment
  lenient : ∀ {world environment},
    context world environment → context world environment.lenient
  filter : ∀ {world environment used target result} {arguments : Arguments},
    context world environment → vocabulary.filter used → value world target →
      (∀ argument ∈ arguments.positional, value world argument) →
        (∀ argument ∈ arguments.keyword, value world argument.2) →
          Expression.applyFilter environment used target arguments = .ok result →
            value world result
  closure : ∀ {world environment} {definition : Definition Node},
    setting world environment → scope world environment.scope →
      (vocabulary.macros → definition.Within vocabulary) →
        value world (.closure ⟨definition, environment⟩)
  rendered : ∀ {world environment written},
    setting world environment → sink world written →
      value world (Interpreter.renderedValue environment written.text)
  refer : ∀ {world environment included} name,
    setting world environment → environment.refer name = .ok included →
      imported world included
  write : ∀ {world written text} trim, vocabulary.text text → sink world written →
    sink world (written.add (Interpreter.trimmedText text trim))
  writeBox : ∀ {world written} text, vocabulary.registered → sink world written →
    sink world (written.add text)
  openChild : ∀ {world kept frames}, scope world kept → store world frames →
    ∃ later, Later world later ∧ store later (frames.childScope kept).2 ∧
      scope later (frames.childScope kept).1
  bind : ∀ {world kept frames name bound}, scope world kept → vocabulary.target name →
    value world bound → store world frames → store world (frames.bind kept name bound)
  bindModule : ∀ {world kept environment frames} (inContext : Bool), scope world kept →
    imported world environment → store world frames →
      let opened := if inContext then frames.childScope kept else frames.detachedScope kept
      let closures := (environment.within opened.1).closures
      ∃ later, Later world later ∧ store later (opened.2.bindAll opened.1 closures) ∧
        ∀ entry ∈ closures, value later entry.2

/-- Two things that are one, with a property. -/
def Shared {α : Type} (property : α → Prop) (first second : α) : Prop :=
  property first ∧ first = second

namespace Shared

variable {α : Type} {property : α → Prop}

theorem forall₂_iff {first second : List α} :
    List.Forall₂ (Shared property) first second ↔
      (∀ item ∈ first, property item) ∧ first = second := by
  have split := List.forall₂_and_left (p := property) (R := Eq) first second
  rw [List.forall₂_eq_eq_eq] at split
  exact split

theorem entries_iff {property : Value → Prop} {first second : Table Value} :
    EntriesRelated (Shared property) first second ↔
      (∀ entry ∈ first, property entry.2) ∧ first = second := by
  have same :
      (fun entry other : String × Value =>
          entry.1 = other.1 ∧ Shared property entry.2 other.2) =
        Shared fun entry => property entry.2 := by
    funext entry other
    exact propext ⟨fun ⟨names, kept, values⟩ => ⟨kept, Prod.ext names values⟩,
      fun ⟨kept, same⟩ => ⟨congrArg Prod.fst same, kept, congrArg Prod.snd same⟩⟩
  unfold EntriesRelated
  rw [same]
  exact forall₂_iff

theorem arguments {property : Value → Prop} {first second : Arguments}
    (related : ArgumentsRelated (Shared property) first second) :
    (∀ argument ∈ first.positional, property argument) ∧
      (∀ argument ∈ first.keyword, property argument.2) ∧ first = second := by
  rcases related with ⟨positional, keyword⟩
  rcases forall₂_iff.1 positional with ⟨keptPositional, samePositional⟩
  rcases entries_iff.1 keyword with ⟨keptKeyword, sameKeyword⟩
  refine ⟨keptPositional, keptKeyword, ?_⟩
  cases first
  cases second
  simp_all

/-- One result is alike itself as far as its properties are known. -/
theorem alike {ε : Type} {fails : ε → ε → Prop} {gives : α → α → Prop}
    (failsRefl : ∀ error, fails error error) {result : Except ε α}
    (given : ∀ value, result = .ok value → gives value value) :
    Alike fails gives result result := by
  cases result with
  | error error => exact failsRefl error
  | ok value => exact given value rfl

theorem option {found : Option α} (given : ∀ value, found = some value → property value) :
    Option.Rel (Shared property) found found := by
  cases found with
  | none => exact .none
  | some value => exact .some ⟨given value rfl, rfl⟩

end Shared

namespace Discipline

variable (discipline : Discipline) (absence : Absence)

/-- The comparison of runs that have the same outcome under a discipline. -/
def comparison : Comparison where
  World := discipline.World
  Later := discipline.Later
  absence := absence
  forgives := False
  store world := Shared (discipline.store world)
  sink world := Shared (discipline.sink world)
  fault := Eq
  failure := Eq
  later_refl := discipline.later_refl
  later_trans := discipline.later_trans
  sink_later grown shared := ⟨discipline.sink_later grown shared.1, shared.2⟩
  sink_unlimited world := ⟨discipline.sink_unlimited world, rfl⟩
  fault_refl _ := rfl
  failure_refl _ := rfl
  failure_evaluation same := congrArg _ same
  failure_wrapped _ same := congrArg _ same
  failure_isNotFound same := congrArg _ same

variable {discipline absence}
variable {world : discipline.World} {α : Type}

/-- No failure is forgiven under a discipline. -/
theorem ends_of_related {ε : Type} {fails : ε → ε → Prop}
    {gives : discipline.World → α → α → Prop} {first second : Run ε α}
    (related : (discipline.comparison absence).Related world fails gives first second)
    {firstState secondState : RunState}
    (states : (discipline.comparison absence).state world firstState secondState) :
    (discipline.comparison absence).Ends world fails gives (first firstState)
      (second secondState) :=
  related.ends not_false states

/-- A change of the store alone. -/
theorem related_modifyGet {gives : discipline.World → α → α → Prop}
    {change : RunState → α × RunState} {ε : Type} {fails : ε → ε → Prop}
    (changed : ∀ store sink, discipline.store world store → discipline.sink world sink →
      ∃ later, discipline.Later world later ∧
        discipline.store later (change ⟨store, sink⟩).2.store ∧
          discipline.sink later (change ⟨store, sink⟩).2.sink ∧
            gives later (change ⟨store, sink⟩).1 (change ⟨store, sink⟩).1) :
    (discipline.comparison absence).Related world fails gives (modifyGet change)
      (modifyGet change) := by
  rintro ⟨store, sink⟩ ⟨_, _⟩ ⟨⟨keptStore, rfl⟩, ⟨keptSink, rfl⟩⟩
  rcases changed store sink keptStore keptSink with ⟨later, grown, storeAfter, sinkAfter, given⟩
  exact .inr ⟨later, grown, ⟨⟨storeAfter, rfl⟩, ⟨sinkAfter, rfl⟩⟩, given⟩

theorem related_write {text : String}
    (written : ∀ sink, discipline.sink world sink → discipline.sink world (sink.add text)) :
    (discipline.comparison absence).Renders world (discipline.comparison absence).done
      (Run.write text) (Run.write text) := by
  rintro ⟨store, sink⟩ ⟨_, _⟩ ⟨⟨keptStore, rfl⟩, ⟨keptSink, rfl⟩⟩
  refine .inr ?_
  change Comparison.Ends _ _ _ _ (if sink.takes text then _ else _)
    (if sink.takes text then _ else _)
  split
  · exact ⟨world, discipline.later_refl world,
      ⟨⟨keptStore, rfl⟩, ⟨written sink keptSink, rfl⟩⟩, True.intro⟩
  · exact ⟨world, discipline.later_refl world,
      ⟨⟨keptStore, rfl⟩, ⟨keptSink, rfl⟩⟩, rfl⟩

theorem related_openWith {ε : Type} {fails : ε → ε → Prop}
    {gives : discipline.World → Scope → Prop} {make : Store → Scope × Store}
    (made : ∀ store, discipline.store world store → ∃ later, discipline.Later world later ∧
      discipline.store later (make store).2 ∧ gives later (make store).1) :
    (discipline.comparison absence).Related world fails (fun later => Shared (gives later))
      (Run.openWith make) (Run.openWith make) := by
  apply related_modifyGet
  intro store sink keptStore keptSink
  rcases made store keptStore with ⟨later, grown, storeAfter, given⟩
  exact ⟨later, grown, storeAfter, discipline.sink_later grown keptSink, given, rfl⟩

/-- What it says about two outcomes that they are compared under a discipline, where only equal
results are compared. -/
theorem outcome_of_ends_of_eq {ε : Type} {gives : discipline.World → α → α → Prop}
    (same : ∀ {later result other}, gives later result other → result = other)
    {first second : Option (Except ε α × RunState)}
    (ended : (discipline.comparison absence).Ends world Eq gives first second) :
    (first = none ∧ absence = .excused) ∨
      (first = second ∧ (absence = .excluded → second ≠ none)) := by
  match first, second with
  | none, none => exact .inr ⟨rfl, fun excluded => (ended excluded).elim⟩
  | none, some _ => exact .inl ⟨rfl, ended⟩
  | some _, none => exact ended.elim
  | some (firstResult, ⟨_, _⟩), some (secondResult, ⟨_, _⟩) =>
      rcases ended with ⟨_, _, ⟨⟨_, stores⟩, ⟨_, sinks⟩⟩, alike⟩
      cases stores
      cases sinks
      refine .inr ⟨?_, fun _ => Option.some_ne_none _⟩
      match firstResult, secondResult with
      | .ok result, .ok other => rw [same alike]
      | .error error, .error other => rw [show error = other from alike]

theorem outcome_of_ends {ε : Type} {first second : Option (Except ε Unit × RunState)}
    (ended : (discipline.comparison absence).Ends world Eq
      (discipline.comparison absence).done first second) :
    (first = none ∧ absence = .excused) ∨
      (first = second ∧ (absence = .excluded → second ≠ none)) :=
  outcome_of_ends_of_eq (fun _ => rfl) ended

/-- The correspondence of what is equal and disciplined. -/
def correspondence (discipline : Discipline) (absence : Absence) :
    Correspondence (discipline.comparison absence) where
  vocabulary := discipline.vocabulary
  value world := Shared (discipline.value world)
  setting world := Shared (discipline.setting world)
  context world := Shared (discipline.context world)
  scope world := Shared (discipline.scope world)
  imported world := Shared (discipline.imported world)
  value_later grown shared := ⟨discipline.value_later grown shared.1, shared.2⟩
  setting_later grown shared := ⟨discipline.setting_later grown shared.1, shared.2⟩
  context_later grown shared := ⟨discipline.context_later grown shared.1, shared.2⟩
  scope_later grown shared := ⟨discipline.scope_later grown shared.1, shared.2⟩
  literal world literal := ⟨discipline.literal world literal, rfl⟩
  list related := by
    rcases Shared.forall₂_iff.1 related with ⟨kept, rfl⟩
    exact ⟨discipline.list kept, rfl⟩
  map related := by
    rcases Shared.entries_iff.1 related with ⟨kept, rfl⟩
    exact ⟨discipline.map kept, rfl⟩
  checked := by
    rintro world value _ ⟨kept, rfl⟩
    cases value <;> first | exact rfl | exact ⟨kept, rfl⟩
  isTrue shared := congrArg _ shared.2
  display shared := congrArg _ shared.2
  member := by
    rintro world value _ name ⟨kept, rfl⟩
    exact Shared.option fun _ => discipline.member kept
  item := by
    rintro world value _ key _ ⟨kept, rfl⟩ ⟨_, rfl⟩
    exact Shared.option fun _ => discipline.item kept
  negation := by
    rintro world value _ ⟨kept, rfl⟩
    cases value <;> first | exact rfl | exact ⟨discipline.literal world (.float _), rfl⟩
  operation := by
    rintro world first _ left _ operator ⟨kept, rfl⟩ ⟨keptOther, rfl⟩
    exact Shared.alike (fun _ => rfl) fun _ applied =>
      ⟨discipline.operation operator kept keptOther applied, rfl⟩
  items := by
    rintro world value _ targets iterable ⟨kept, rfl⟩
    exact Shared.alike (fun _ => rfl) fun _ given =>
      Shared.forall₂_iff.2 ⟨discipline.items targets iterable kept given, rfl⟩
  bindings := by
    rintro world value _ targets ⟨kept, rfl⟩
    exact Shared.alike (fun _ => rfl) fun _ given =>
      Shared.entries_iff.2 ⟨discipline.bindings targets kept given, rfl⟩
  within := by
    rintro world environment _ scope _ ⟨kept, rfl⟩ ⟨_, rfl⟩
    exact ⟨discipline.within scope kept, rfl⟩
  context_setting shared := ⟨discipline.context_setting shared.1, shared.2⟩
  lenient shared := ⟨discipline.lenient shared.1, congrArg _ shared.2⟩
  undefined := by
    rintro world environment _ error ⟨kept, rfl⟩
    refine .inr (Shared.alike (fun _ => rfl) fun value given => ⟨?_, rfl⟩)
    unfold Expression.undefined at given
    split at given
    · cases given
    · cases given
      exact discipline.literal world .none
  filter := by
    rintro world environment _ used value _ arguments _ ⟨kept, rfl⟩ known ⟨keptValue, rfl⟩
      given
    rcases Shared.arguments given with ⟨positional, keyword, rfl⟩
    exact Shared.alike (fun _ => rfl) fun _ applied =>
      ⟨discipline.filter kept known keptValue positional keyword applied, rfl⟩
  test := by
    rintro world environment _ value _ arguments _ used negated ⟨kept, rfl⟩ ⟨_, rfl⟩ given
    rcases Shared.arguments given with ⟨-, -, rfl⟩
    refine Shared.alike (fun _ => rfl) fun result applied => ⟨?_, rfl⟩
    unfold Expression.applyTest at applied
    split at applied
    · rename_i found _
      cases held : found.holds value arguments with
      | error error =>
          rw [held] at applied
          cases applied
      | ok passed =>
          rw [held] at applied
          cases applied
          exact discipline.literal world (.bool _)
    · cases applied
  closure := by
    rintro world environment _ definition ⟨kept, rfl⟩ ⟨keptScope, _⟩ inside
    exact ⟨discipline.closure kept keptScope inside, rfl⟩
  rendered := by
    rintro world environment _ text _ ⟨kept, rfl⟩ ⟨sink, _, ⟨keptSink, rfl⟩, rfl, rfl⟩
    exact ⟨discipline.rendered kept keptSink, rfl⟩
  refer := by
    rintro world environment _ _ name _ _ ⟨kept, rfl⟩
    exact Shared.alike (fun _ => rfl) fun _ referred =>
      ⟨discipline.refer name kept referred, rfl⟩
  imported_lineage shared := congrArg _ shared.2
  write world trim known := related_write fun _ => discipline.write trim known
  writeBox world text known := related_write fun _ => discipline.writeBox text known
  openChild := by
    rintro world scope _ ⟨kept, rfl⟩
    exact related_openWith fun _ => discipline.openChild kept
  bind := by
    rintro world scope _ name value _ ⟨kept, rfl⟩ known ⟨keptValue, rfl⟩
    apply related_modifyGet
    intro store sink keptStore keptSink
    exact ⟨world, discipline.later_refl world,
      discipline.bind kept known keptValue keptStore, keptSink, True.intro⟩
  bindModule := by
    rintro world scope _ imported _ withContext ⟨kept, rfl⟩ ⟨keptImported, rfl⟩
    rintro ⟨store, sink⟩ ⟨_, _⟩ ⟨⟨keptStore, rfl⟩, ⟨keptSink, rfl⟩⟩
    obtain ⟨later, grown, storeAfter, given⟩ :=
      discipline.bindModule (withContext.getD true) kept keptImported keptStore
    exact .inr ⟨later, grown, ⟨⟨storeAfter, rfl⟩, ⟨discipline.sink_later grown keptSink, rfl⟩⟩,
      Shared.entries_iff.2 ⟨given, rfl⟩⟩

end Discipline

end TemplateEngine

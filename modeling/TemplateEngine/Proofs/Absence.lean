import TemplateEngine.Proofs.Extending
import TemplateEngine.Proofs.Isolation
import TemplateEngine.Proofs.Loading

/-!
# Missing templates

An include tag may say that a missing template is to be ignored.  It then passes over every
error that says that something was not found, and such an error also comes from a template that
is found but extends one that is not.  Nothing else is passed over: a template that is found,
with all that it extends, is included in the same way with those words and without them, however
broken it is.
-/

namespace TemplateEngine

namespace Loader

/-- A template where it was found: the loader for names in it, and what that loader reads. -/
structure Found where
  loader : Loader
  identifier : String
  source : String

/-- Look for a template as the tags do that refer to it. -/
def find (loader : Loader) (filename : String) : Except LoaderError Found := do
  let derived ← loader.inherit filename
  let identifier ← loader.resolve filename
  let source ← derived.read identifier
  return ⟨derived, identifier, source⟩

/-- Whether a loader does not find a template. -/
def Misses (loader : Loader) (filename : String) : Prop :=
  ∃ name, loader.find filename = .error (.notFound name)

theorem exists_inherit_of_read {loader : Loader} {filename source : String}
    (readable : loader.read filename = .ok source) :
    ∃ derived, loader.inherit filename = .ok derived := by
  cases loader with
  | memory templates =>
      cases held : templates.lookup filename with
      | none =>
          simp only [read, held] at readable
          cases readable
      | some text => exact ⟨_, if_pos (by simp [Table.has, held])⟩
  | directory tree root =>
      cases held : tree.read? (pathOf root filename) with
      | none =>
          simp only [read, held] at readable
          cases readable
      | some content => exact ⟨_, if_pos (by simp [FileTree.isFile, held])⟩

/-- A template that a loader reads is found if its path leads to it again. -/
theorem exists_find_of_read {loader : Loader} {filename source : String}
    (readable : loader.read filename = .ok source)
    (again : ∀ identifier, loader.resolve filename = .ok identifier →
      loader.Rereads identifier) :
    ∃ found, loader.find filename = .ok found := by
  obtain ⟨derived, inherited⟩ := exists_inherit_of_read readable
  obtain ⟨identifier, resolved, coherent, -⟩ := reads_resolved_iff inherited
  have present := (coherent.2 (again identifier resolved)).trans readable
  refine ⟨⟨derived, identifier, source⟩, ?_⟩
  simp only [find, inherited, resolved, present, bind, Except.bind]
  rfl

end Loader

/-! ## Errors that say that something was not found -/

/-- Whether something fails because a template was not found. -/
def NotFound {α : Type} (result : Except TemplateError α) : Prop :=
  ∃ error, result = .error error ∧ error.isNotFound

theorem not_notFound_ok {α : Type} (value : α) : ¬ NotFound (.ok value) := by
  rintro ⟨error, impossible, -⟩
  cases impossible

theorem notFound_error_iff {α : Type} {error : TemplateError} :
    NotFound (.error error : Except TemplateError α) ↔ error.isNotFound := by
  constructor
  · rintro ⟨_, same, notFound⟩
    cases same
    exact notFound
  · exact fun notFound => ⟨error, rfl, notFound⟩

theorem notFound_bind_iff {α β : Type} {first : Except TemplateError α}
    {next : α → Except TemplateError β} :
    NotFound (first >>= next) ↔
      NotFound first ∨ ∃ value, first = .ok value ∧ NotFound (next value) := by
  cases first with
  | error error =>
      change NotFound (.error error) ↔ _
      simp [notFound_error_iff]
  | ok value =>
      change NotFound (next value) ↔ _
      simp [not_notFound_ok]

theorem notFound_map_iff {α β : Type} {result : Except TemplateError α} {change : α → β} :
    NotFound (result.map change) ↔ NotFound result := by
  cases result with
  | error error => simp only [Except.map, notFound_error_iff]
  | ok value => exact iff_of_false (not_notFound_ok _) (not_notFound_ok _)

/-- Of the errors of a loader only one says so. -/
theorem notFound_loader_iff {α : Type} {result : Except LoaderError α} :
    NotFound (result.mapError .loader) ↔ ∃ name, result = .error (.notFound name) := by
  cases result with
  | error error =>
      cases error <;> simp [Except.mapError, notFound_error_iff, TemplateError.isNotFound]
  | ok value => simp [Except.mapError, not_notFound_ok]

/-- An error in a parent says as much when it is attributed to the parent. -/
theorem notFound_extended_iff {filename : String} {loaded : Except TemplateError Lineage} :
    NotFound (match loaded with
      | .ok lineage => .ok lineage
      | .error (.recursion name limit) => .error (.recursion name limit)
      | .error error => .error (.load filename error)) ↔ NotFound loaded := by
  cases loaded with
  | ok lineage => exact Iff.rfl
  | error error => cases error <;> simp [notFound_error_iff, TemplateError.isNotFound]

/-- An error in a template says as much when it is attributed to the template. -/
theorem notFound_attributed_iff {α : Type} {filename : String} {change : Lineage → α}
    {loaded : Except TemplateError Lineage} :
    NotFound (match loaded with
      | .error error => .error (.load filename error)
      | .ok lineage => .ok (change lineage)) ↔ NotFound loaded := by
  cases loaded with
  | ok lineage => exact iff_of_false (not_notFound_ok _) (not_notFound_ok _)
  | error error => simp only [notFound_error_iff, TemplateError.isNotFound]

namespace Lineage

variable {config : Config} {statements : Registry StatementKind} {loader : Loader}
  {filename identifier source : String}

/-- Whether one of the templates that a template extends, one after the other, is missing,
within a limit. -/
def ParentMissing (config : Config) (statements : Registry StatementKind) :
    Nat → Loader → String → Prop
  | 0, _, _ => False
  | limit + 1, loader, filename =>
      ∃ found parent, loader.find filename = .ok found ∧
        asked? config statements found.loader found.identifier found.source = some parent ∧
          (found.loader.Misses parent ∨ ParentMissing config statements limit found.loader parent)

/-- A parent is not found if it is missing itself or reading it says so. -/
theorem notFound_loadParent_iff
    {read : Loader → String → String → Except TemplateError Lineage} :
    NotFound (loadParent read loader filename) ↔
      loader.Misses filename ∨ ∃ found, loader.find filename = .ok found ∧
        NotFound (read found.loader found.identifier found.source) := by
  cases inherited : loader.inherit filename with
  | error error =>
      have unfound : loader.find filename = .error error := by
        simp only [Loader.find, inherited]
        rfl
      rw [Loader.Misses, unfound, loadParent, inherited]
      cases error <;> simp [notFound_error_iff, TemplateError.isNotFound]
  | ok derived =>
      have composed : (do
          let identifier ← (loader.resolve filename).mapError TemplateError.loader
          let source ← (derived.read identifier).mapError TemplateError.loader
          read derived identifier source) =
            (loader.find filename).mapError TemplateError.loader >>= fun found =>
              read found.loader found.identifier found.source := by
        simp only [Loader.find, inherited, bind, Except.bind]
        cases loader.resolve filename with
        | error error => rfl
        | ok identifier =>
            cases present : derived.read identifier <;>
              simp [Except.mapError, present, pure, Except.pure]
      rw [loadParent, inherited]
      refine notFound_extended_iff.trans ?_
      rw [composed, notFound_bind_iff, notFound_loader_iff]
      refine or_congr_right ?_
      cases loader.find filename <;> simp [Except.mapError]

/-- A source is not found if the parent that it asks for is not. -/
theorem notFound_read_iff {loadParent : Loading} :
    NotFound (read config statements loader identifier source loadParent) ↔
      ∃ parent, asked? config statements loader identifier source = some parent ∧
        NotFound (loadParent parent) := by
  have described : ¬ NotFound (outline config statements loader identifier source) := by
    rintro ⟨error, failed, notFound⟩
    obtain ⟨fault, rfl⟩ := exists_fault_of_outline failed
    cases notFound
  rw [read_eq, notFound_bind_iff]
  simp only [notFound_map_iff, described, and_false, exists_false, or_false]
  cases asked? config statements loader identifier source with
  | none =>
      refine iff_of_false (not_notFound_ok _) ?_
      rintro ⟨parent, impossible, -⟩
      cases impossible
  | some parent =>
      rw [Option.mapM_some]
      change NotFound ((loadParent parent).map some) ↔ _
      rw [notFound_map_iff]
      simp

theorem notFound_loadParent_ofSource_iff (depth : Nat) :
    NotFound (loadParent (ofSource config statements depth) loader filename) ↔
      loader.Misses filename ∨ ParentMissing config statements depth loader filename := by
  induction depth generalizing loader filename with
  | zero =>
      rw [notFound_loadParent_iff]
      refine or_congr_right (iff_of_false ?_ id)
      rintro ⟨found, -, failed⟩
      obtain ⟨parent, -, beyond⟩ := notFound_read_iff.1 failed
      exact Bool.false_ne_true (notFound_error_iff.1 beyond)
  | succ depth inductionHypothesis =>
      rw [notFound_loadParent_iff]
      refine or_congr_right ?_
      constructor
      · rintro ⟨found, finds, failed⟩
        obtain ⟨parent, asked, absent⟩ := notFound_read_iff.1 failed
        exact ⟨found, parent, finds, asked, inductionHypothesis.1 absent⟩
      · rintro ⟨found, parent, finds, asked, absent⟩
        exact ⟨found, finds, notFound_read_iff.2 ⟨parent, asked, inductionHypothesis.2 absent⟩⟩

end Lineage

namespace Environment

variable {environment : Environment} {filename : String}

/-- A template that is referred to is not found if it is missing or one that it extends is. -/
theorem notFound_refer_iff :
    NotFound (environment.refer filename) ↔
      environment.loader.Misses filename ∨
        Lineage.ParentMissing environment.config environment.registries.statements
          Lineage.maxDepth environment.loader filename := by
  rw [← Lineage.notFound_loadParent_ofSource_iff]
  unfold refer Lineage.loadParent
  cases environment.loader.inherit filename with
  | error error => simp only [notFound_error_iff]
  | ok derived => exact notFound_attributed_iff.trans notFound_extended_iff.symm

end Environment

namespace Place

variable (place : Place) (natives : Natives) (bound depth : Nat)

/-- Render a node at a place. -/
def renderNode (node : Node) : Option (Except TemplateError Unit × RunState) :=
  Interpreter.renderNode (Interpreter.effects natives (Interpreter.bounded natives bound))
    depth place.environment node place.state

/-- An outcome of a statement, with the text of the statement in its error. -/
def attributed (line : Nat) (statement : Statement Node)
    (ended : Except TemplateError Unit × RunState) : Except TemplateError Unit × RunState :=
  (ended.1.mapError (.wrapped (.statement line statement.text)), ended.2)

theorem renderNode_statement (tag : String) (statement : Statement Node) (position : Position) :
    place.renderNode natives bound depth (.statement tag statement position) =
      (place.render natives bound depth tag statement).map
        (attributed position.line statement) := by
  rw [renderNode, Interpreter.renderNode, Run.mapError_apply]
  rfl

/-- Whether an inclusion comes to the same with a missing template ignored and without, but for
the text of the statement in its error. -/
def IncludesAlike (tag : String) (filename : Expression) (withContext : Bool)
    (position : Position) : Prop :=
  ∃ outcome : Option (Except TemplateError Unit × RunState), ∀ ignoreMissing,
    place.renderNode natives bound depth
        (.statement tag (.inclusion filename ignoreMissing withContext) position) =
      outcome.map (attributed position.line (.inclusion filename ignoreMissing withContext))

variable {place natives bound depth} {filename : Expression} {value : Value} {after : RunState}
  {source : String}

/-- A template that is read, and that its path leads to again, is included alike whether a
missing template is to be ignored or not, unless one that it extends is missing: then the
inclusion fails because that was not found, and ignoring it is doing nothing. -/
theorem inclusion_ignores_missing
    (evaluated : place.evaluate natives bound depth filename = some (.ok value, after))
    (readable : place.environment.loader.read value.display = .ok source)
    (again : ∀ identifier, place.environment.loader.resolve value.display = .ok identifier →
      place.environment.loader.Rereads identifier)
    (tag : String) (withContext : Bool) (position : Position) :
    (¬ Lineage.ParentMissing place.environment.config place.environment.registries.statements
        Lineage.maxDepth place.environment.loader value.display →
      place.IncludesAlike natives bound depth tag filename withContext position) ∧
    (Lineage.ParentMissing place.environment.config place.environment.registries.statements
        Lineage.maxDepth place.environment.loader value.display →
      place.renderNode natives bound depth
          (.statement tag (.inclusion filename true withContext) position) =
        some (.ok (), after) ∧
      ∃ error, error.isNotFound ∧
        place.renderNode natives bound depth
            (.statement tag (.inclusion filename false withContext) position) =
          some (attributed position.line (.inclusion filename false withContext)
            (.error error, after))) := by
  obtain ⟨found, finds⟩ := Loader.exists_find_of_read readable again
  have present : ¬ place.environment.loader.Misses value.display := by
    rintro ⟨name, missed⟩
    cases finds.symm.trans missed
  have absent : NotFound (place.environment.refer value.display) ↔
      Lineage.ParentMissing place.environment.config place.environment.registries.statements
        Lineage.maxDepth place.environment.loader value.display :=
    Environment.notFound_refer_iff.trans (or_iff_right present)
  rw [← absent]
  constructor
  · intro complete
    refine ⟨place.render natives bound depth tag (.inclusion filename false withContext),
      fun ignoreMissing => ?_⟩
    rw [renderNode_statement, render_inclusion evaluated,
      render_inclusion evaluated]
    cases referred : place.environment.refer value.display with
    | ok included => rfl
    | error error =>
        rw [referred, notFound_error_iff] at complete
        simp [complete]
  · rintro ⟨error, referred, notFound⟩
    rw [renderNode_statement, renderNode_statement,
      render_inclusion evaluated,
      render_inclusion evaluated, referred]
    refine ⟨?_, error, notFound, rfl⟩
    simp only [notFound, Bool.and_true, if_true]
    rfl

/-- A place at which templates are found in memory. -/
def among (templates : Table String) : Place where
  environment := ⟨.default, .standard, ⟨0, 0, []⟩, .memory templates, .empty⟩
  state := ⟨Store.empty.newScope.2, Sink.unlimited⟩

/-- The name of a template there. -/
def child : Expression :=
  .literal (.string "child") .start

/-- What comes of including that template. -/
def childIncluded (templates : Table String) (ignoreMissing : Bool) :
    Option (Except TemplateError Unit × RunState) :=
  (among templates).renderNode Natives.standard 1 0
    (.statement "include" (.inclusion child ignoreMissing true) .start)

/-- A template that extends a missing one. -/
def orphan : Table String :=
  [("child", "\x7b% extends 'gone' %\x7d")]

/-- A template that extends a missing one can be read itself, and yet ignoring what is missing
ignores it. -/
theorem orphan_ignored :
    (among orphan).evaluate Natives.standard 1 0 child =
        some (.ok (.plain "child"), (among orphan).state) ∧
      (among orphan).environment.loader.read "child" = .ok "\x7b% extends 'gone' %\x7d" ∧
      ¬ (among orphan).IncludesAlike Natives.standard 1 0 "include" child true .start := by
  refine ⟨rfl, rfl, ?_⟩
  rintro ⟨outcome, same⟩
  have success : ∀ ignoreMissing,
      (childIncluded orphan ignoreMissing).map (fun ended => ended.1.isOk) =
        outcome.map fun ended => ended.1.isOk := by
    intro ignoreMissing
    rw [childIncluded, same, Option.map_map]
    congr 1
    funext ⟨result, after⟩
    cases result <;> rfl
  have differs : (childIncluded orphan true).map (fun ended => ended.1.isOk) ≠
      (childIncluded orphan false).map fun ended => ended.1.isOk := by decide +kernel
  exact differs ((success true).trans (success false).symm)

/-- A template that extends a broken one. -/
def broken : Table String :=
  [("child", "\x7b% extends 'base' %\x7d"), ("base", "\x7b% nothing %\x7d")]

theorem broken_complete (limit : Nat) :
    ¬ Lineage.ParentMissing .default Registries.standard.statements (limit + 2)
      (.memory broken) "child" := by
  rintro ⟨found, parent, finds, asked, absent⟩
  cases finds
  have base : Lineage.asked? .default Registries.standardStatements (.memory broken) "child"
      "\x7b% extends 'base' %\x7d" = some "base" := by decide +kernel
  cases base.symm.trans asked
  rcases absent with ⟨name, missed⟩ | ⟨found, parent, finds, asked, -⟩
  · cases missed
  · cases finds
    have alone : Lineage.asked? .default Registries.standardStatements (.memory broken) "base"
        "\x7b% nothing %\x7d" = none := by decide +kernel
    cases alone.symm.trans asked

/-- A template that extends a broken one fails as well if what is missing is to be ignored. -/
theorem inclusion_ignores_missing_broken :
    (among broken).IncludesAlike Natives.standard 1 0 "include" child true .start ∧
      (childIncluded broken true).map (fun ended => ended.1.isOk) = some false := by
  have evaluated : (among broken).evaluate Natives.standard 1 0 child =
      some (.ok (.plain "child"), (among broken).state) := rfl
  have alike := (inclusion_ignores_missing evaluated rfl (fun _ _ => True.intro) "include" true
    .start).1 (broken_complete 30)
  exact ⟨alike, by decide +kernel⟩

end Place

end TemplateEngine

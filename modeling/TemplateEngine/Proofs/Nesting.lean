import TemplateEngine.Proofs.Discipline.Stores

/-!
# Nested uses

At every point of a rendering some uses by name are in progress: macro calls, inclusions,
blocks and calls of `super`, each inside the next.  The interpreter does not know them; it
passes only the depth along.

A watched interpreter knows the uses in progress and goes on only where these and the
depth are lawful.  Elsewhere it fails with an error of its own.  A rendering that is the
same under a watched interpreter, whatever that error is, does not come to an unlawful
point.
-/

namespace TemplateEngine

/-! ## Renderings that are the same -/

namespace Discipline

/-- The discipline of all runs. -/
def unrestricted : Discipline :=
  StoreDiscipline.toDiscipline {
    World := Unit
    Later := fun _ _ => True
    vocabulary := .unrestricted
    store := fun _ _ => True
    scope := fun _ _ => True
    later_refl := fun _ => True.intro
    later_trans := fun _ _ => True.intro
    scope_later := fun _ _ => True.intro
    openChild := fun _ _ => ⟨(), True.intro, True.intro, True.intro⟩
    bind := fun _ _ _ _ => True.intro
    bindModule := fun _ _ _ _ => True.intro }

/-- Whatever is used by its name, the discipline of all runs is kept. -/
def unrestrictedUses (natives : Natives) : unrestricted.Uses natives :=
  StoreDiscipline.uses _ natives rfl (fun _ _ => ⟨(), True.intro, True.intro, True.intro⟩)
    (fun _ _ => True) (fun _ => True.intro) (fun _ _ => True.intro)
    (fun _ => ⟨(), True.intro, True.intro, True.intro⟩) fun _ _ => True.intro

/-- What a comparison of all runs says about two of them. -/
theorem outcome_of_renders {absence : Absence} {first second : Run TemplateError Unit}
    (related : (unrestricted.comparison absence).Renders ()
      (unrestricted.comparison absence).done first second) (state : RunState) :
    (first state = none ∧ absence = .excused) ∨
      (first state = second state ∧ (absence = .excluded → second state ≠ none)) :=
  outcome_of_ends (ends_of_related related ⟨⟨True.intro, rfl⟩, ⟨True.intro, rfl⟩⟩)

variable {absence : Absence}

theorem writeOutput_related (environment : Environment) (value : Value) :
    (unrestricted.comparison absence).Renders () (unrestricted.comparison absence).done
      (Interpreter.writeOutput environment value) (Interpreter.writeOutput environment value) :=
  related_write fun _ _ => True.intro

/-- Uses whose insides correspond have corresponding effects, whatever is used. -/
theorem handles_using (natives : Natives) {first second : Use → Interpreter} {depth : Nat}
    (calls : depth < Interpreter.maxDepth →
      (unrestricted.correspondence absence).Interprets (first .call) (depth + 1)
        (second .call) (depth + 1))
    (supers : ∀ stored, (unrestricted.correspondence absence).Interprets
      (first (.super depth stored)) stored (second (.super depth stored)) stored)
    (blocks : (unrestricted.correspondence absence).Interprets (first .block) depth
      (second .block) depth)
    (inclusions : depth < Interpreter.maxDepth →
      (unrestricted.correspondence absence).Interprets (first .inclusion) (depth + 1)
        (second .inclusion) (depth + 1)) :
    (unrestricted.correspondence absence).Handles
      (Interpreter.usingEffects natives Interpreter.writeOutput first) depth
      (Interpreter.usingEffects natives Interpreter.writeOutput second) depth :=
  (unrestrictedUses natives).handles (fun _ _ _ => writeOutput_related _ _) calls supers
    blocks inclusions

/-- More bound in reserve does not change an outcome. -/
theorem bounded_interprets (natives : Natives) (bound more : Nat) (depth : Nat) :
    (unrestricted.correspondence .excused).Interprets (Interpreter.bounded natives bound) depth
      (Interpreter.bounded natives (bound + more)) depth := by
  induction bound generalizing depth with
  | zero =>
      exact ⟨fun _ _ => Comparison.related_exhausted_left rfl _,
        fun _ _ => Comparison.related_exhausted_left rfl _⟩
  | succ bound inductionHypothesis =>
      have handles : (unrestricted.correspondence .excused).Handles
          (Interpreter.effects natives (Interpreter.bounded natives bound)) depth
          (Interpreter.effects natives (Interpreter.bounded natives (bound + more))) depth := by
        rw [Interpreter.effects_eq_usingEffects, Interpreter.effects_eq_usingEffects]
        exact handles_using natives (fun _ => inductionHypothesis _)
          (fun _ => inductionHypothesis _) (inductionHypothesis _)
          fun _ => inductionHypothesis _
      rw [Nat.add_right_comm]
      exact handles.interprets

end Discipline

namespace Template

/-- The result of rendering a template with an interpreter, and the text written. -/
def outcome? (interpreter : Interpreter) (template : Template) (data : Table Value)
    (limit : Option Nat) : Option (Except TemplateError Unit × String) :=
  let (scope, store) := Store.empty.scopeOf data
  ((template.render interpreter scope).run ⟨store, ⟨#[], limit⟩⟩).map
    fun (result, state) => (result, state.sink.text)

theorem execute?_eq_outcome? (natives : Natives) (bound : Nat) (template : Template)
    (data : Table Value) (limit : Option Nat) :
    template.execute? natives bound data limit =
      template.outcome? (Interpreter.bounded natives bound) data limit :=
  rfl

theorem outcome?_of_render {interpreter : Interpreter} {template : Template}
    {data : Table Value} {limit : Option Nat} {result : Except TemplateError Unit}
    {after : RunState}
    (ran : template.render interpreter (Store.empty.scopeOf data).1
      ⟨(Store.empty.scopeOf data).2, ⟨#[], limit⟩⟩ = some (result, after)) :
    template.outcome? interpreter data limit = some (result, after.sink.text) :=
  congrArg (Option.map _) ran

/-- The run behind an outcome. -/
theorem exists_of_outcome? {interpreter : Interpreter} {template : Template}
    {data : Table Value} {limit : Option Nat} {result : Except TemplateError Unit}
    {text : String} (found : template.outcome? interpreter data limit = some (result, text)) :
    ∃ after,
      template.render interpreter (Store.empty.scopeOf data).1
          ⟨(Store.empty.scopeOf data).2, ⟨#[], limit⟩⟩ = some (result, after) ∧
        after.sink.text = text := by
  rcases Option.map_eq_some_iff.1 found with ⟨⟨_, after⟩, ran, written⟩
  cases written
  exact ⟨after, ran, rfl⟩

variable {first second : Interpreter} (template : Template) (data : Table Value)
variable (limit : Option Nat)

/-- What a correspondence of interpreters says about the outcomes of a template. -/
theorem outcome?_of_interprets {absence : Absence}
    (interprets : (Discipline.unrestricted.correspondence absence).Interprets first 0 second 0) :
    (template.outcome? first data limit = none ∧ absence = .excused) ∨
      (template.outcome? first data limit = template.outcome? second data limit ∧
        (absence = .excluded → template.outcome? second data limit ≠ none)) := by
  have rendered : (Discipline.unrestricted.comparison absence).Renders ()
      (Discipline.unrestricted.comparison absence).done
      (template.render first (Store.empty.scopeOf data).1)
      (template.render second (Store.empty.scopeOf data).1) :=
    (Discipline.unrestrictedUses fun _ _ => .nil).related_render interprets template _
      (fun _ _ => True.intro) (Lineage.within_unrestricted _) fun _ _ => True.intro
  rcases Discipline.outcome_of_renders rendered
      ⟨(Store.empty.scopeOf data).2, ⟨#[], limit⟩⟩ with ⟨absent, excused⟩ | ⟨same, present⟩
  · exact .inl ⟨congrArg (Option.map _) absent, excused⟩
  · exact .inr ⟨congrArg (Option.map _) same, fun excluded absent =>
      present excluded (Option.map_eq_none_iff.1 absent)⟩

/-- An outcome is the same under every greater bound. -/
theorem execute?_mono {natives : Natives} {bound greater : Nat}
    {outcome : Except TemplateError Unit × String} (bounds : bound ≤ greater)
    (found : template.execute? natives bound data limit = some outcome) :
    template.execute? natives greater data limit = some outcome := by
  rcases Nat.exists_eq_add_of_le bounds with ⟨more, rfl⟩
  rcases template.outcome?_of_interprets data limit
      (Discipline.bounded_interprets natives bound more 0) with ⟨absent, _⟩ | ⟨same, _⟩
  · rw [execute?_eq_outcome?, absent] at found
    cases found
  · rw [execute?_eq_outcome?, ← same]
    exact found

end Template

/-! ## Watched renderings -/

namespace Effects

/-- Effects that fail with an error. -/
def failing (alarm : EvalError) : Effects where
  lookup _ _ := throw alarm
  call _ _ _ _ := throw alarm
  emit _ _ := throw (.evaluation alarm)
  block _ _ _ := throw (.evaluation alarm)
  inclusion _ _ _ _ := throw (.evaluation alarm)

/-- Effects that fail with an error unless the depth is lawful. -/
def guarded (effects : Effects) (lawful : Nat → Bool) (alarm : EvalError) : Effects where
  lookup := effects.lookup
  call depth := if lawful depth then effects.call depth else (failing alarm).call depth
  emit := effects.emit
  block environment depth :=
    if lawful depth then effects.block environment depth
    else (failing alarm).block environment depth
  inclusion environment depth :=
    if lawful depth then effects.inclusion environment depth
    else (failing alarm).inclusion environment depth

end Effects

namespace Interpreter

/-- The interpreter that has some effects where the depth is lawful, and fails where it is
not. -/
def ofLawful (lawful : Nat → Bool) (alarm : EvalError) (effects : Effects) : Interpreter where
  evaluate environment depth expression :=
    expression.evaluate
      (if lawful depth then effects.guarded lawful alarm else .failing alarm) depth environment
  render environment depth nodes :=
    renderNodes
      (if lawful depth then effects.guarded lawful alarm else .failing alarm) depth environment
      nodes

/-- The interpreter that knows the uses in progress, the innermost first, and looks at
them and at the depth wherever an interpretation begins and wherever something is used. -/
def watched (natives : Natives) (lawful : List Use → Nat → Bool) (alarm : EvalError) :
    Nat → List Use → Interpreter
  | 0, _ => exhausted
  | bound + 1, uses =>
      ofLawful (lawful uses) alarm
        (usingEffects natives writeOutput fun use =>
          watched natives lawful alarm bound (use :: uses))

end Interpreter

namespace Correspondence

variable {comparison : Comparison} {correspondence : Correspondence comparison}
variable {lawful : Nat → Bool} {alarm : EvalError} {first second : Effects} {depth : Nat}

theorem Handles.guarded (handles : correspondence.Handles first depth second depth)
    (alarm : EvalError) (allowed : lawful depth = true) :
    correspondence.Handles (first.guarded lawful alarm) depth second depth where
  lookup := handles.lookup
  call callee values given := by
    simp only [Effects.guarded, allowed, if_true]
    exact handles.call callee values given
  emit := handles.emit
  block environments known := by
    simp only [Effects.guarded, allowed, if_true]
    exact handles.block environments known
  inclusion withContext environments imported := by
    simp only [Effects.guarded, allowed, if_true]
    exact handles.inclusion withContext environments imported
  depth := handles.depth

theorem Handles.guarded_right (handles : correspondence.Handles first depth second depth)
    (alarm : EvalError) (allowed : lawful depth = true) :
    correspondence.Handles first depth (second.guarded lawful alarm) depth where
  lookup := handles.lookup
  call callee values given := by
    simp only [Effects.guarded, allowed, if_true]
    exact handles.call callee values given
  emit := handles.emit
  block environments known := by
    simp only [Effects.guarded, allowed, if_true]
    exact handles.block environments known
  inclusion withContext environments imported := by
    simp only [Effects.guarded, allowed, if_true]
    exact handles.inclusion withContext environments imported
  depth := handles.depth

/-- Where the depth is lawful, the guarded interpreter has the effects. -/
theorem Handles.interprets_lawful (handles : correspondence.Handles first depth second depth)
    (allowed : lawful depth = true) :
    correspondence.Interprets (.ofLawful lawful alarm first) depth (.ofEffects second) depth := by
  have guarded := (handles.guarded alarm allowed).interprets
  constructor
  · intro world firstEnvironment secondEnvironment expression
    simp only [Interpreter.ofLawful, allowed, if_true]
    exact guarded.evaluate
  · intro world firstEnvironment secondEnvironment nodes
    simp only [Interpreter.ofLawful, allowed, if_true]
    exact guarded.render

theorem handles_failing (alarm : EvalError) (depth : Nat) :
    correspondence.Handles (.failing alarm) depth (.failing alarm) depth where
  lookup _ _ := Comparison.related_throw (comparison.fault_refl alarm)
  call _ _ _ := Comparison.related_throw (comparison.fault_refl alarm)
  emit _ _ := Comparison.related_throw (comparison.failure_refl _)
  block _ _ := Comparison.related_throw (comparison.failure_refl _)
  inclusion _ _ _ := Comparison.related_throw (comparison.failure_refl _)
  depth _ := rfl

/-- Two guarded interpreters correspond if their effects do where the depth is lawful. -/
theorem interprets_guarded
    (handles : lawful depth = true → correspondence.Handles first depth second depth) :
    correspondence.Interprets (.ofLawful lawful alarm first) depth
      (.ofLawful lawful alarm second) depth := by
  have chosen : correspondence.Handles
      (if lawful depth then first.guarded lawful alarm else .failing alarm) depth
      (if lawful depth then second.guarded lawful alarm else .failing alarm) depth := by
    cases allowed : lawful depth with
    | false => exact handles_failing alarm depth
    | true => exact ((handles allowed).guarded alarm allowed).guarded_right alarm allowed
  exact ⟨fun inside environments => chosen.interprets.evaluate inside environments,
    fun inside environments => chosen.interprets.render inside environments⟩

end Correspondence

namespace Discipline

/-- Where a law persists as uses are entered, a rendering does not come to an unlawful
point. -/
theorem watched_interprets (natives : Natives) {lawful : List Use → Nat → Bool}
    (calls : ∀ {uses depth}, lawful uses depth = true → depth < Interpreter.maxDepth →
      lawful (.call :: uses) (depth + 1) = true)
    (inclusions : ∀ {uses depth}, lawful uses depth = true → depth < Interpreter.maxDepth →
      lawful (.inclusion :: uses) (depth + 1) = true)
    (blocks : ∀ {uses depth}, lawful uses depth = true → lawful (.block :: uses) depth = true)
    (supers : ∀ {uses depth} stored, lawful uses depth = true →
      lawful (.super depth stored :: uses) stored = true)
    (alarm : EvalError) (bound : Nat) {uses : List Use} {depth : Nat}
    (allowed : lawful uses depth = true) :
    (unrestricted.correspondence .matched).Interprets
      (Interpreter.watched natives lawful alarm bound uses) depth
      (Interpreter.bounded natives bound) depth := by
  induction bound generalizing uses depth with
  | zero => exact Correspondence.interprets_exhausted (by simp [comparison]) _ _
  | succ bound inductionHypothesis =>
      have handles : (unrestricted.correspondence .matched).Handles
          (Interpreter.usingEffects natives Interpreter.writeOutput fun use =>
            Interpreter.watched natives lawful alarm bound (use :: uses)) depth
          (Interpreter.effects natives (Interpreter.bounded natives bound)) depth := by
        rw [Interpreter.effects_eq_usingEffects]
        exact handles_using natives
          (fun shallow => inductionHypothesis (calls allowed shallow))
          (fun stored => inductionHypothesis (supers stored allowed))
          (inductionHypothesis (blocks allowed))
          fun shallow => inductionHypothesis (inclusions allowed shallow)
      exact handles.interprets_lawful allowed

end Discipline

end TemplateEngine

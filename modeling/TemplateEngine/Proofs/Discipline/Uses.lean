import TemplateEngine.Proofs.Discipline

/-!
# Disciplined uses

What a template uses by its name is interpreted inside the use.  A discipline that is
kept there, and by what the uses themselves do, is kept by the effects of the uses.  The
interpreter inside may differ from one use to the next.
-/

namespace TemplateEngine

/-- A use by name that is in progress. -/
inductive Use where
  /-- A macro call. -/
  | call
  | inclusion
  | block
  /-- A call of `super`, with the depth of the caller and the depth of the block. -/
  | super (caller block : Nat)
deriving DecidableEq

namespace Use

/-- The use that a call at a depth makes of a value. -/
def ofCallee (depth : Nat) : Value → Use
  | .function (.super _ stored _) => .super depth stored
  | _ => .call

end Use

namespace Interpreter

/-- Write the value of an output tag. -/
def writeOutput (environment : Environment) (value : Value) : Run TemplateError Unit :=
  Run.write (writtenText environment.config.autoescape value)

/-- The effects under which each use is interpreted by an interpreter of its own. -/
def usingEffects (natives : Natives) (emit : Environment → Value → Run TemplateError Unit)
    (inside : Use → Interpreter) : Effects where
  lookup := Run.lookup
  call depth callee value arguments :=
    callValue natives (inside (.ofCallee depth value)) depth callee value arguments
  emit := emit
  block environment depth name :=
    renderBlock (inside .block) environment depth (environment.lineage.blocksFor name)
  inclusion := includeTemplate (inside .inclusion)

theorem effects_eq_usingEffects (natives : Natives) (interpreter : Interpreter) :
    effects natives interpreter = usingEffects natives writeOutput fun _ => interpreter :=
  rfl

/-- The interpreter in which uses by name nest at most the given count, with an output of
its own. -/
def emitting (natives : Natives) (emit : Environment → Value → Run TemplateError Unit) :
    Nat → Interpreter
  | 0 => exhausted
  | bound + 1 => ofEffects (usingEffects natives emit fun _ => emitting natives emit bound)

theorem emitting_writeOutput (natives : Natives) (bound : Nat) :
    emitting natives writeOutput bound = bounded natives bound := by
  induction bound with
  | zero => rfl
  | succ bound inductionHypothesis =>
      rw [emitting, bounded, effects_eq_usingEffects, inductionHypothesis]

end Interpreter

/-! ## Keeping a discipline through uses -/

namespace Discipline

section Checks

variable {discipline : Discipline} {absence : Absence} {world : discipline.World}

/-- A value has to keep the discipline only if it passes the check. -/
theorem checks_self {value : Value}
    (given : value.isError = false → discipline.value world value) :
    (discipline.correspondence absence).checks world value value := by
  refine Shared.alike (fun _ => rfl) fun result checked => ⟨?_, rfl⟩
  cases value <;> cases checked <;> exact given rfl

theorem checks_of_found {found : Option Value}
    (given : ∀ value, found = some value → value.isError = false →
      discipline.value world value) :
    Option.Rel ((discipline.correspondence absence).checks world) found found := by
  cases found with
  | none => exact .none
  | some value => exact .some (checks_self (given value rfl))

end Checks

/-- What a discipline needs of the uses that are made by name. -/
structure Uses (discipline : Discipline) (natives : Natives) where
  /-- The scopes in which a use may open its own. -/
  outer : discipline.World → Scope → Prop
  lookup : ∀ {world kept frames name found}, discipline.vocabulary.name name →
    discipline.scope world kept → discipline.store world frames →
      frames.lookup kept name = some found → found.isError = false →
        discipline.value world found
  native : ∀ {world name} {arguments : Arguments},
    discipline.value world (.function (.native name)) →
      (∀ argument ∈ arguments.positional, discipline.value world argument) →
        (∀ argument ∈ arguments.keyword, discipline.value world argument.2) →
          (natives name arguments).isError = false →
            discipline.value world (natives name arguments)
  closure_setting : ∀ {world} {closure : Closure}, discipline.value world (.closure closure) →
    discipline.setting world closure.environment
  closure_outer : ∀ {world} {closure : Closure}, discipline.value world (.closure closure) →
    outer world closure.environment.scope
  closure_within : ∀ {world} {closure : Closure}, discipline.value world (.closure closure) →
    closure.definition.Within discipline.vocabulary
  super_setting : ∀ {world environment stored bodies},
    discipline.value world (.function (.super environment stored bodies)) →
      discipline.setting world environment
  super_outer : ∀ {world environment stored bodies},
    discipline.value world (.function (.super environment stored bodies)) →
      outer world environment.scope
  super_within : ∀ {world environment stored bodies},
    discipline.value world (.function (.super environment stored bodies)) →
      ∀ body ∈ bodies, Node.AllWithin discipline.vocabulary body.nodes
  super : ∀ {world environment stored bodies}, discipline.setting world environment →
    discipline.scope world environment.scope →
      (∀ body ∈ bodies, Node.AllWithin discipline.vocabulary body.nodes) →
        discipline.value world (.function (.super environment stored bodies))
  bindable : discipline.vocabulary.target "super"
  outer_scope : ∀ {world kept}, discipline.scope world kept → outer world kept
  outer_later : ∀ {world later kept},
    discipline.Later world later → outer world kept → outer later kept
  blocks : ∀ {world environment name body}, discipline.setting world environment →
    discipline.vocabulary.block name → body ∈ environment.lineage.blocksFor name →
      Node.AllWithin discipline.vocabulary body.nodes
  included_setting : ∀ {world included},
    discipline.imported world included → discipline.setting world included
  included_within : ∀ {world included},
    discipline.imported world included → included.lineage.Within discipline.vocabulary
  openChild : ∀ {world kept frames}, outer world kept → discipline.store world frames →
    ∃ later, discipline.Later world later ∧
      discipline.store later (frames.childScope kept).2 ∧
        discipline.scope later (frames.childScope kept).1
  /-- The scopes with a tree of their own, which a use releases at its end. -/
  root : discipline.World → Scope → Prop
  root_scope : ∀ {world kept}, root world kept → discipline.scope world kept
  root_later : ∀ {world later kept},
    discipline.Later world later → root world kept → root later kept
  newScope : ∀ {world frames}, discipline.store world frames →
    ∃ later, discipline.Later world later ∧ discipline.store later frames.newScope.2 ∧
      root later frames.newScope.1
  release : ∀ {world kept frames}, root world kept →
    discipline.store world frames → discipline.store world (frames.release kept)

section Handles

variable {discipline : Discipline} {absence : Absence} {natives : Natives}
variable {world : discipline.World}

theorem related_enter {first second : Interpreter} {depth : Nat} (name : String)
    (interprets : depth < Interpreter.maxDepth →
      (discipline.correspondence absence).Interprets first (depth + 1) second (depth + 1)) :
    (discipline.comparison absence).Renders world
      (fun _ inner other =>
        (discipline.correspondence absence).Interprets first inner second other)
      (Interpreter.enter depth name) (Interpreter.enter depth name) := by
  unfold Interpreter.enter
  split
  · exact Comparison.related_throw rfl
  · rename_i shallow
    exact Comparison.related_pure (interprets (Nat.lt_of_not_le shallow))

/-- A definition of a block is rendered in a scope of its own, where `super` may be
bound. -/
theorem Uses.related_openBlock (uses : discipline.Uses natives) {environment : Environment}
    (setting : discipline.setting world environment)
    (outer : uses.outer world environment.scope) (depth : Nat)
    {overridden : List (Body Node)}
    (inside : ∀ body ∈ overridden, Node.AllWithin discipline.vocabulary body.nodes) :
    (discipline.comparison absence).Renders world
      (discipline.correspondence absence).Environments
      (Interpreter.openBlock environment depth overridden)
      (Interpreter.openBlock environment depth overridden) := by
  apply Correspondence.openBlock_related overridden
    (⟨setting, rfl⟩ : Shared (discipline.setting world) environment environment)
    (related_openWith fun _ => uses.openChild outer) uses.bindable
  rintro later first _ ⟨⟨keptSetting, rfl⟩, ⟨keptScope, _⟩⟩ _
  exact ⟨uses.super keptSetting keptScope inside, rfl⟩

/-- A block is rendered by definitions within the vocabulary. -/
theorem Uses.related_renderBlock (uses : discipline.Uses natives)
    {first second : Interpreter} {depth : Nat}
    (interprets : (discipline.correspondence absence).Interprets first depth second depth)
    {environment : Environment} (setting : discipline.setting world environment)
    (outer : uses.outer world environment.scope) {bodies : List (Body Node)}
    (inside : ∀ body ∈ bodies, Node.AllWithin discipline.vocabulary body.nodes) :
    (discipline.comparison absence).Renders world (discipline.comparison absence).done
      (Interpreter.renderBlock first environment depth bodies)
      (Interpreter.renderBlock second environment depth bodies) := by
  apply Correspondence.renderBlock_related interprets inside
  rintro body overridden rfl
  exact uses.related_openBlock setting outer depth fun body member =>
    inside body (List.mem_cons_of_mem _ member)

variable {firstInside secondInside : Use → Interpreter} {depth : Nat}

/-- A call of a value that keeps the discipline has such a value. -/
theorem Uses.related_callValue (uses : discipline.Uses natives) {first second : Interpreter}
    {value : Value}
    (calls : ∀ closure, value = .closure closure → depth < Interpreter.maxDepth →
      (discipline.correspondence absence).Interprets first (depth + 1) second (depth + 1))
    (supers : ∀ environment stored bodies,
      value = .function (.super environment stored bodies) →
        (discipline.correspondence absence).Interprets first stored second stored)
    (callee : Expression) (kept : discipline.value world value)
    {arguments others : Arguments}
    (given : ArgumentsRelated (Shared (discipline.value world)) arguments others) :
    (discipline.comparison absence).Evaluates world
      (discipline.correspondence absence).result
      (Interpreter.callValue natives first depth callee value arguments)
      (Interpreter.callValue natives second depth callee value others) := by
  rcases Shared.arguments given with ⟨positional, keyword, rfl⟩
  match value with
  | .closure ⟨definition, environment⟩ =>
      refine (discipline.correspondence absence).callValue_closure_related natives callee
        (uses.closure_within kept) ⟨uses.closure_setting kept, rfl⟩ given
        (related_enter definition.name (calls _ rfl)) ?_ ?_
      · exact fun later grown => related_openWith fun _ =>
          uses.openChild (uses.outer_later grown (uses.closure_outer kept))
      · rintro error _ rfl
        rfl
  | .function (.native name) =>
      rw [Interpreter.callValue_native, Interpreter.callValue_native]
      have checks : (discipline.correspondence absence).checks world (natives name arguments) _ :=
        checks_self (uses.native kept positional keyword)
      exact Comparison.related_ofExcept (checks.attach fun _ => Correspondence.isError_of_checked)
  | .function (.super environment stored bodies) =>
      have setting := uses.super_setting kept
      refine (discipline.correspondence absence).callValue_super_related natives callee _ _
        ⟨setting, rfl⟩ (uses.related_renderBlock (supers _ _ _ rfl) setting (uses.super_outer kept)
          (uses.super_within kept)) ?_
      rintro error _ rfl
      rfl
  | .nil => exact Comparison.related_throw rfl
  | .bool _ => exact Comparison.related_throw rfl
  | .number _ => exact Comparison.related_throw rfl
  | .string _ _ => exact Comparison.related_throw rfl
  | .list _ => exact Comparison.related_throw rfl
  | .map _ => exact Comparison.related_throw rfl
  | .error _ => exact Comparison.related_throw rfl

/-- The scopes with trees of their own, under a discipline. -/
def Uses.roots (uses : discipline.Uses natives) (absence : Absence) :
    (discipline.correspondence absence).Roots where
  root world := Shared (uses.root world)
  scope := fun ⟨kept, same⟩ => ⟨uses.root_scope kept, same⟩
  later := fun grown ⟨kept, same⟩ => ⟨uses.root_later grown kept, same⟩
  opened _ := related_openWith fun _ => uses.newScope
  released := by
    rintro world scope _ store _ ⟨keptScope, rfl⟩ ⟨keptStore, rfl⟩
    exact ⟨uses.release keptScope keptStore, rfl⟩

/-- An included template is rendered within the vocabulary. -/
theorem Uses.related_inclusion (uses : discipline.Uses natives)
    {first second : Interpreter}
    (inclusions : depth < Interpreter.maxDepth →
      (discipline.correspondence absence).Interprets first (depth + 1) second (depth + 1))
    {environment included : Environment} (withContext : Bool)
    (outer : uses.outer world environment.scope)
    (kept : discipline.imported world included) :
    (discipline.comparison absence).Renders world (discipline.comparison absence).done
      (Interpreter.includeTemplate first environment depth included withContext)
      (Interpreter.includeTemplate second environment depth included withContext) := by
  refine Correspondence.includeTemplate_related (uses.roots absence) withContext
    ⟨uses.included_setting kept, rfl⟩ rfl (uses.included_within kept)
    (related_enter _ inclusions) ?_
  exact fun _ later grown =>
    related_openWith fun _ => uses.openChild (uses.outer_later grown outer)

/-- Uses whose insides correspond have corresponding effects. -/
theorem Uses.handles (uses : discipline.Uses natives)
    {firstEmit secondEmit : Environment → Value → Run TemplateError Unit}
    (emits : ∀ {world environment value}, discipline.setting world environment →
      discipline.value world value → value.isError = false →
        (discipline.comparison absence).Renders world (discipline.comparison absence).done
          (firstEmit environment value) (secondEmit environment value))
    (calls : depth < Interpreter.maxDepth →
      (discipline.correspondence absence).Interprets (firstInside .call) (depth + 1)
        (secondInside .call) (depth + 1))
    (supers : ∀ stored, (discipline.correspondence absence).Interprets
      (firstInside (.super depth stored)) stored (secondInside (.super depth stored)) stored)
    (blocks : (discipline.correspondence absence).Interprets (firstInside .block) depth
      (secondInside .block) depth)
    (inclusions : depth < Interpreter.maxDepth →
      (discipline.correspondence absence).Interprets (firstInside .inclusion) (depth + 1)
        (secondInside .inclusion) (depth + 1)) :
    (discipline.correspondence absence).Handles
      (Interpreter.usingEffects natives firstEmit firstInside) depth
      (Interpreter.usingEffects natives secondEmit secondInside) depth where
  lookup := by
    rintro world scope _ name ⟨kept, rfl⟩ known
    rintro ⟨store, sink⟩ ⟨_, _⟩ ⟨⟨keptStore, rfl⟩, ⟨keptSink, rfl⟩⟩
    exact .inr ⟨world, discipline.later_refl world, ⟨⟨keptStore, rfl⟩, ⟨keptSink, rfl⟩⟩,
      checks_of_found fun _ => uses.lookup known kept keptStore⟩
  call := by
    rintro world value _ arguments _ callee ⟨kept, rfl⟩ given
    refine uses.related_callValue ?_ ?_ callee kept given
    · rintro closure rfl
      exact calls
    · rintro environment stored bodies rfl
      exact supers stored
  emit := by
    rintro world environment _ value _ ⟨keptSetting, rfl⟩ ⟨⟨kept, rfl⟩, sound⟩
    exact emits keptSetting kept sound
  block := by
    rintro world environment _ name ⟨⟨keptSetting, rfl⟩, ⟨keptScope, _⟩⟩ known
    exact uses.related_renderBlock blocks keptSetting (uses.outer_scope keptScope)
      fun _ => uses.blocks keptSetting known
  inclusion := by
    rintro world environment _ included _ withContext ⟨⟨_, rfl⟩, ⟨keptScope, _⟩⟩
      ⟨keptIncluded, rfl⟩
    exact uses.related_inclusion inclusions withContext (uses.outer_scope keptScope)
      keptIncluded
  depth _ := rfl

/-- Two interpreters keep the discipline at every bound, and agree, if their outputs do. -/
theorem Uses.emitting_interprets (uses : discipline.Uses natives)
    {firstEmit secondEmit : Environment → Value → Run TemplateError Unit}
    (emits : ∀ {world environment value}, discipline.setting world environment →
      discipline.value world value → value.isError = false →
        (discipline.comparison absence).Renders world (discipline.comparison absence).done
          (firstEmit environment value) (secondEmit environment value))
    (present : absence ≠ .excluded) (bound depth : Nat) :
    (discipline.correspondence absence).Interprets
      (Interpreter.emitting natives firstEmit bound) depth
      (Interpreter.emitting natives secondEmit bound) depth := by
  induction bound generalizing depth with
  | zero => exact Correspondence.interprets_exhausted present depth depth
  | succ bound inductionHypothesis =>
      have handles : (discipline.correspondence absence).Handles
          (Interpreter.usingEffects natives firstEmit fun _ =>
            Interpreter.emitting natives firstEmit bound) depth
          (Interpreter.usingEffects natives secondEmit fun _ =>
            Interpreter.emitting natives secondEmit bound) depth :=
        uses.handles emits (fun _ => inductionHypothesis _) (fun _ => inductionHypothesis _)
          (inductionHypothesis _) fun _ => inductionHypothesis _
      exact handles.interprets

end Handles

/-! ## Renderings of templates -/

section Renderings

variable {discipline : Discipline} {absence : Absence} {natives : Natives}
variable {world : discipline.World} {first second : Interpreter}

/-- Renderings of one template correspond if the interpreters do at no depth. -/
theorem Uses.related_render (uses : discipline.Uses natives)
    (interprets : (discipline.correspondence absence).Interprets first 0 second 0)
    (template : Template) (data : Scope)
    (setting : ∀ world scope, discipline.setting world (template.environment scope))
    (inside : template.lineage.Within discipline.vocabulary)
    (copied : ∀ {world kept frames}, discipline.scope world kept →
      discipline.store world frames → discipline.store world (frames.update kept data)) :
    (discipline.comparison absence).Renders world (discipline.comparison absence).done
      (template.render first data) (template.render second data) := by
  refine Correspondence.render_related (uses.roots absence) interprets rfl inside ?_ ?_
  · rintro later scope _ ⟨_, rfl⟩
    exact ⟨setting later scope, rfl⟩
  · rintro later scope _ ⟨keptScope, rfl⟩
    apply related_modifyGet
    intro store sink keptStore keptSink
    exact ⟨later, discipline.later_refl later, copied keptScope keptStore, keptSink,
      True.intro⟩

end Renderings

end Discipline

end TemplateEngine

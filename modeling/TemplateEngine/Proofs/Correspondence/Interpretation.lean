import TemplateEngine.Proofs.Correspondence.Rendering
import TemplateEngine.Template

/-!
# Corresponding interpreters

Two interpreters correspond at a place if they evaluate and render what is within the
vocabulary there in corresponding ways.  From interpreters that correspond inside a use,
the effects of the use correspond: a macro call, a block, or another template.
-/

namespace TemplateEngine

/-! ## Calls of functions -/

namespace Interpreter

variable (natives : Natives) (interpreter : Interpreter)

theorem callValue_native (depth : Nat) (callee : Expression) (name : String)
    (arguments : Arguments) :
    callValue natives interpreter depth callee (.function (.native name)) arguments =
      Run.ofExcept (natives name arguments).checked := by
  rfl

private theorem lift_bind_apply {ε α β : Type} (action : SafeRun α) (rest : α → Run ε β)
    (state : RunState) :
    (do
      let value ← action
      rest value : Run ε β) state =
        (action state).bind fun ended => rest ended.1 ended.2 := by
  change ((action state).bind _).bind _ = _
  cases action state <;> rfl

private theorem callFunction_super_apply (environment : Environment) (stored : Nat)
    (bodies : List (Body Node)) (arguments : Arguments) (state : RunState) :
    callFunction natives interpreter (.super environment stored bodies) arguments state =
      (Run.capture (renderBlock interpreter environment stored bodies) state).map fun ended =>
        (match ended.1 with
          | .ok text => renderedValue environment text
          | .error error => .error error.message, ended.2) := by
  change ((Run.capture (renderBlock interpreter environment stored bodies) state).bind _) = _
  match Run.capture (renderBlock interpreter environment stored bodies) state with
  | none => rfl
  | some (.ok text, after) => rfl
  | some (.error error, after) => rfl

/-- A call of `super` renders the definitions that are overridden, and fails with the
message of the failure there. -/
theorem callValue_super (depth : Nat) (callee : Expression) (environment : Environment)
    (stored : Nat) (bodies : List (Body Node)) (arguments : Arguments) :
    callValue natives interpreter depth callee (.function (.super environment stored bodies))
        arguments =
      (do
        let text ←
          (Run.capture (renderBlock interpreter environment stored bodies)).mapError
            fun error => .reported error.message
        return renderedValue environment text) := by
  funext state
  have called :
      callValue natives interpreter depth callee
          (.function (.super environment stored bodies)) arguments state =
        (callFunction natives interpreter (.super environment stored bodies) arguments
          state).bind fun ended => (Run.ofExcept ended.1.checked) ended.2 :=
    lift_bind_apply _ _ state
  rw [called, callFunction_super_apply, Run.bind_apply, Run.mapError_apply]
  match Run.capture (renderBlock interpreter environment stored bodies) state with
  | none => rfl
  | some (.ok text, after) => rfl
  | some (.error error, after) => rfl

end Interpreter

namespace Correspondence

open Comparison

variable {comparison : Comparison} {correspondence : Correspondence comparison}

/-- Two interpreters, each at a depth of its own, that do related things. -/
structure Interprets (correspondence : Correspondence comparison) (first : Interpreter)
    (firstDepth : Nat) (second : Interpreter) (secondDepth : Nat) : Prop where
  evaluate : ∀ {world firstEnvironment secondEnvironment expression},
    expression.Within correspondence.vocabulary →
      correspondence.Environments world firstEnvironment secondEnvironment →
        comparison.Evaluates world correspondence.result
          (first.evaluate firstEnvironment firstDepth expression)
          (second.evaluate secondEnvironment secondDepth expression)
  render : ∀ {world firstEnvironment secondEnvironment nodes},
    Node.AllWithin correspondence.vocabulary nodes →
      correspondence.Environments world firstEnvironment secondEnvironment →
        comparison.Renders world comparison.done
          (first.render firstEnvironment firstDepth nodes)
          (second.render secondEnvironment secondDepth nodes)

theorem Handles.interprets {firstEffects secondEffects : Effects}
    {firstDepth secondDepth : Nat}
    (handles : correspondence.Handles firstEffects firstDepth secondEffects secondDepth) :
    correspondence.Interprets (.ofEffects firstEffects) firstDepth
      (.ofEffects secondEffects) secondDepth :=
  ⟨fun inside environments => evaluate_related handles _ inside environments.contexts,
    fun inside environments => renderNodes_related handles _ inside environments⟩

/-- Where runs without an outcome are allowed, the exhausted interpreter corresponds to
itself. -/
theorem interprets_exhausted (present : comparison.absence ≠ .excluded)
    (firstDepth secondDepth : Nat) :
    correspondence.Interprets .exhausted firstDepth .exhausted secondDepth :=
  ⟨fun _ _ => related_exhausted present, fun _ _ => related_exhausted present⟩

variable {world : comparison.World}
variable {firstInterpreter secondInterpreter : Interpreter} {firstDepth secondDepth : Nat}

/-! ## Macro calls -/

theorem at?_related {relates : Value → Value → Prop} {arguments others : Arguments}
    (related : ArgumentsRelated relates arguments others) (place : Nat) :
    Option.Rel relates (arguments.at? place) (others.at? place) :=
  getElem?_related related.positional place

theorem checkArguments_eq {relates : Value → Value → Prop} {arguments others : Arguments}
    (definition : Definition Node) (related : ArgumentsRelated relates arguments others) :
    Interpreter.checkArguments definition arguments =
      Interpreter.checkArguments definition others := by
  have unknown :
      (arguments.keyword.find? fun argument =>
          !(Table.has definition.parameters argument.1)).map Prod.fst =
        (others.keyword.find? fun argument =>
          !(Table.has definition.parameters argument.1)).map Prod.fst := by
    have keyword := related.keyword
    generalize arguments.keyword = entries at keyword
    generalize others.keyword = otherEntries at keyword
    induction keyword with
    | nil => rfl
    | cons same _ induction =>
        simp only [List.find?_cons, same.1]
        split
        · simp [same.1]
        · exact induction
  unfold Interpreter.checkArguments
  rw [related.positional.length_eq]
  revert unknown
  cases arguments.keyword.find? _ <;> cases others.keyword.find? _ <;> intro unknown
  · rfl
  · simp at unknown
  · simp at unknown
  · simp only [Option.map_some, Option.some.injEq] at unknown
    simp only [unknown]

/-- The values of a parameter are related, whether given or by default. -/
theorem parameterValue_related
    (interprets : correspondence.Interprets firstInterpreter firstDepth secondInterpreter
      secondDepth)
    {firstEnvironment secondEnvironment : Environment}
    (environments : correspondence.Environments world firstEnvironment secondEnvironment)
    {arguments others : Arguments}
    (given : ArgumentsRelated (correspondence.value world) arguments others)
    (callee : String) (place : Nat) (parameter : String) {default : Option Expression}
    (inside : Expression.OptionWithin correspondence.vocabulary default) :
    comparison.Renders world correspondence.value
      (Interpreter.parameterValue firstInterpreter firstEnvironment firstDepth callee
        arguments place parameter default)
      (Interpreter.parameterValue secondInterpreter secondEnvironment secondDepth callee
        others place parameter default) := by
  have positional := at?_related given place
  have keyword := given.keyword.lookup parameter
  unfold Interpreter.parameterValue Arguments.named?
  generalize arguments.at? place = first at positional
  generalize others.at? place = second at positional
  generalize arguments.keyword.lookup parameter = named at keyword
  generalize others.keyword.lookup parameter = otherNamed at keyword
  cases positional with
  | some positional =>
      cases keyword with
      | some _ => exact related_throw (comparison.failure_refl _)
      | none => exact related_pure positional
  | none =>
      cases keyword with
      | some keyword => exact related_pure keyword
      | none =>
          cases default with
          | none => exact related_pure (correspondence.literal world .none)
          | some expression =>
              have evaluated := (interprets.evaluate inside environments).mono
                fun _ _ _ _ (related : correspondence.result _ _ _) => related.1
              exact evaluated.mapError fun _ _ faults =>
                comparison.failure_wrapped _ (comparison.failure_evaluation faults)

theorem bindParameters_related
    (interprets : correspondence.Interprets firstInterpreter firstDepth secondInterpreter
      secondDepth)
    {firstEnvironment secondEnvironment : Environment}
    (environments : correspondence.Environments world firstEnvironment secondEnvironment)
    {arguments others : Arguments}
    (given : ArgumentsRelated (correspondence.value world) arguments others)
    (callee : String) (place : Nat) {parameters : List (String × Option Expression)}
    (inside : Expression.ParametersWithin correspondence.vocabulary parameters) :
    comparison.Renders world comparison.done
      (Interpreter.bindParameters firstInterpreter firstEnvironment firstDepth callee
        arguments place parameters)
      (Interpreter.bindParameters secondInterpreter secondEnvironment secondDepth callee
        others place parameters) := by
  induction parameters generalizing place world with
  | nil => exact related_pure True.intro
  | cons parameter rest induction =>
      rcases parameter with ⟨name, default⟩
      rcases inside (name, default) List.mem_cons_self with ⟨inName, inDefault⟩
      refine (parameterValue_related interprets environments given callee place name
        inDefault).bind ?_
      intro later grown value other related
      have scopes := correspondence.scope_later grown environments.scope
      apply (correspondence.bind scopes inName related).bind
      intro final further _ _ _
      have grown := comparison.later_trans grown further
      exact induction (environments.advance grown) (arguments_later grown given) (place + 1)
        fun parameter member => inside parameter (List.mem_cons_of_mem _ member)

/-- Calls of related macros that enter depths at which the interpreters correspond. -/
theorem callClosure_related
    {definition : Definition Node} {firstEnvironment secondEnvironment : Environment}
    {arguments others : Arguments} (inside : definition.Within correspondence.vocabulary)
    (settings : correspondence.setting world firstEnvironment secondEnvironment)
    (given : ArgumentsRelated (correspondence.value world) arguments others)
    (entered : comparison.Renders world
      (fun _ inner otherInner =>
        correspondence.Interprets firstInterpreter inner secondInterpreter otherInner)
      (Interpreter.enter firstDepth definition.name)
      (Interpreter.enter secondDepth definition.name))
    (opened : ∀ later, comparison.Later world later →
      comparison.Renders later correspondence.scope (Run.openChild firstEnvironment.scope)
        (Run.openChild secondEnvironment.scope)) :
    comparison.Renders world
      (fun later value other =>
        ∃ text otherText, comparison.texts later text otherText ∧
          value = Interpreter.renderedValue firstEnvironment text ∧
            other = Interpreter.renderedValue secondEnvironment otherText)
      (Interpreter.callClosure firstInterpreter ⟨definition, firstEnvironment⟩ arguments
        firstDepth)
      (Interpreter.callClosure secondInterpreter ⟨definition, secondEnvironment⟩ others
        secondDepth) := by
  rcases inside with ⟨inName, inParameters, inNodes⟩
  apply entered.bind
  intro later grown inner otherInner interprets
  have rendered : comparison.Renders later comparison.done
      (Interpreter.renderClosure firstInterpreter ⟨definition, firstEnvironment⟩ arguments
        inner)
      (Interpreter.renderClosure secondInterpreter ⟨definition, secondEnvironment⟩ others
        otherInner) := by
    apply (opened later grown).bind
    intro final further firstScope secondScope scopes
    have grown := comparison.later_trans grown further
    have environments : correspondence.Environments final
        (firstEnvironment.within firstScope) (secondEnvironment.within secondScope) :=
      ⟨correspondence.within (correspondence.setting_later grown settings) scopes, scopes⟩
    have given := arguments_later grown given
    have checked : comparison.Renders final comparison.done
        ((Run.ofExcept (Interpreter.checkArguments definition arguments)).mapError
          TemplateError.evaluation)
        ((Run.ofExcept (Interpreter.checkArguments definition others)).mapError
          TemplateError.evaluation) := by
      rw [checkArguments_eq definition given]
      exact (related_ofExcept (Alike.refl comparison.fault_refl (fun _ => True.intro) _)).mapError
        fun _ _ => comparison.failure_evaluation
    apply checked.bind
    intro last finishing _ _ _
    refine (bindParameters_related interprets (environments.advance finishing)
      (arguments_later finishing given) definition.name 0 inParameters).bind ?_
    intro closing ending _ _ _
    exact interprets.render inNodes ((environments.advance finishing).advance ending)
  apply rendered.capture.bind
  intro final _ text otherText texts
  exact related_pure ⟨text, otherText, texts, rfl, rfl⟩

/-- Calls of related macros have related values. -/
theorem callValue_closure_related (correspondence : Correspondence comparison)
    {definition : Definition Node} {firstEnvironment secondEnvironment : Environment}
    {arguments others : Arguments} (natives : Natives) (callee : Expression)
    (inside : definition.Within correspondence.vocabulary)
    (settings : correspondence.setting world firstEnvironment secondEnvironment)
    (given : ArgumentsRelated (correspondence.value world) arguments others)
    (entered : comparison.Renders world
      (fun _ inner otherInner =>
        correspondence.Interprets firstInterpreter inner secondInterpreter otherInner)
      (Interpreter.enter firstDepth definition.name)
      (Interpreter.enter secondDepth definition.name))
    (opened : ∀ later, comparison.Later world later →
      comparison.Renders later correspondence.scope (Run.openChild firstEnvironment.scope)
        (Run.openChild secondEnvironment.scope))
    (failed : ∀ error other, comparison.failure error other →
      comparison.fault (.macroFailed definition.name error.message)
        (.macroFailed definition.name other.message)) :
    comparison.Evaluates world correspondence.result
      (Interpreter.callValue natives firstInterpreter firstDepth callee
        (.closure ⟨definition, firstEnvironment⟩) arguments)
      (Interpreter.callValue natives secondInterpreter secondDepth callee
        (.closure ⟨definition, secondEnvironment⟩) others) := by
  have called := callClosure_related inside settings given entered opened
  refine Related.mono (called.mapError failed) ?_
  rintro later grown value other ⟨text, otherText, texts, rfl, rfl⟩
  exact ⟨correspondence.rendered (correspondence.setting_later grown settings) texts, rfl⟩

/-! ## Blocks -/

/-- A definition of a block is rendered in related scopes, where `super` may be bound. -/
theorem openBlock_related {firstEnvironment secondEnvironment : Environment}
    (overridden : List (Body Node))
    (settings : correspondence.setting world firstEnvironment secondEnvironment)
    (opened : comparison.Renders world correspondence.scope
      (Run.openChild firstEnvironment.scope) (Run.openChild secondEnvironment.scope))
    (bindable : correspondence.vocabulary.target "super")
    (super : ∀ later first second, correspondence.Environments later first second →
      first.lineage = firstEnvironment.lineage →
        correspondence.value later (.function (.super first firstDepth overridden))
          (.function (.super second secondDepth overridden))) :
    comparison.Renders world correspondence.Environments
      (Interpreter.openBlock firstEnvironment firstDepth overridden)
      (Interpreter.openBlock secondEnvironment secondDepth overridden) := by
  apply opened.bind
  intro later grown firstScope secondScope scopes
  have environments : correspondence.Environments later (firstEnvironment.within firstScope)
      (secondEnvironment.within secondScope) :=
    ⟨correspondence.within (correspondence.setting_later grown settings) scopes, scopes⟩
  split
  · apply (correspondence.bind scopes bindable (super later _ _ environments rfl)).bind
    intro final further _ _ _
    exact related_pure (environments.advance further)
  · exact related_pure environments

/-- A block whose definition is rendered in related scopes. -/
theorem renderBlock_related
    (interprets : correspondence.Interprets firstInterpreter firstDepth secondInterpreter
      secondDepth)
    {firstEnvironment secondEnvironment : Environment} {bodies : List (Body Node)}
    (inside : ∀ body ∈ bodies, Node.AllWithin correspondence.vocabulary body.nodes)
    (opened : ∀ body overridden, bodies = body :: overridden →
      comparison.Renders world correspondence.Environments
        (Interpreter.openBlock firstEnvironment firstDepth overridden)
        (Interpreter.openBlock secondEnvironment secondDepth overridden)) :
    comparison.Renders world comparison.done
      (Interpreter.renderBlock firstInterpreter firstEnvironment firstDepth bodies)
      (Interpreter.renderBlock secondInterpreter secondEnvironment secondDepth bodies) := by
  cases bodies with
  | nil => exact related_pure True.intro
  | cons body overridden =>
      apply (opened body overridden rfl).bind
      intro later _ firstEnvironment secondEnvironment environments
      exact interprets.render (inside body List.mem_cons_self) environments

/-- Calls of `super` have related values if what it stands for is rendered alike. -/
theorem callValue_super_related (correspondence : Correspondence comparison)
    {firstEnvironment secondEnvironment : Environment}
    {firstStored secondStored : Nat} {bodies : List (Body Node)} (natives : Natives)
    (callee : Expression) (arguments others : Arguments)
    (settings : correspondence.setting world firstEnvironment secondEnvironment)
    (rendered : comparison.Renders world comparison.done
      (Interpreter.renderBlock firstInterpreter firstEnvironment firstStored bodies)
      (Interpreter.renderBlock secondInterpreter secondEnvironment secondStored bodies))
    (failed : ∀ error other, comparison.failure error other →
      comparison.fault (.reported error.message) (.reported other.message)) :
    comparison.Evaluates world correspondence.result
      (Interpreter.callValue natives firstInterpreter firstDepth callee
        (.function (.super firstEnvironment firstStored bodies)) arguments)
      (Interpreter.callValue natives secondInterpreter secondDepth callee
        (.function (.super secondEnvironment secondStored bodies)) others) := by
  rw [Interpreter.callValue_super, Interpreter.callValue_super]
  apply (rendered.capture.mapError failed).bind
  intro later grown text other texts
  exact related_pure
    ⟨correspondence.rendered (correspondence.setting_later grown settings) texts, rfl⟩

/-! ## Templates -/

theorem prepare_related
    (interprets : correspondence.Interprets firstInterpreter firstDepth secondInterpreter
      secondDepth)
    {firstEnvironment secondEnvironment : Environment}
    (environments : correspondence.Environments world firstEnvironment secondEnvironment)
    {layers : List Layer}
    (inside : ∀ layer ∈ layers, Node.AllWithin correspondence.vocabulary layer.nodes) :
    comparison.Renders world comparison.done
      (Interpreter.prepare firstInterpreter firstEnvironment firstDepth layers)
      (Interpreter.prepare secondInterpreter secondEnvironment secondDepth layers) := by
  induction layers generalizing world with
  | nil => exact related_pure True.intro
  | cons layer rest induction =>
      have prepared : Node.AllWithin correspondence.vocabulary
          (layer.nodes.filter Interpreter.isPreparation) := by
        rw [Node.allWithin_iff]
        intro node member
        exact (Node.allWithin_iff _ _).1 (inside layer List.mem_cons_self) node
          (List.mem_filter.1 member).1
      apply (interprets.render prepared environments).capture.bind
      intro later grown _ _ _
      exact induction (environments.advance grown) fun layer member =>
        inside layer (List.mem_cons_of_mem _ member)

private theorem root_mem_layers (lineage : Lineage) : lineage.root ∈ lineage.layers := by
  unfold Lineage.root Lineage.layers
  cases found : lineage.ancestors.getLast? with
  | none => exact List.mem_cons_self
  | some layer => exact List.mem_cons_of_mem _ (List.mem_of_getLast? found)

/-- The page of a lineage in related environments. -/
theorem page_related
    (interprets : correspondence.Interprets firstInterpreter firstDepth secondInterpreter
      secondDepth)
    {firstEnvironment secondEnvironment : Environment}
    (environments : correspondence.Environments world firstEnvironment secondEnvironment)
    {lineage : Lineage} (inside : lineage.Within correspondence.vocabulary) :
    comparison.Renders world comparison.done
      (do
        Interpreter.prepare firstInterpreter firstEnvironment firstDepth lineage.derived
        firstInterpreter.render firstEnvironment firstDepth lineage.root.nodes)
      (do
        Interpreter.prepare secondInterpreter secondEnvironment secondDepth lineage.derived
        secondInterpreter.render secondEnvironment secondDepth lineage.root.nodes) := by
  refine (prepare_related interprets environments fun layer member =>
    (inside layer (List.dropLast_subset _ member)).nodes).bind ?_
  intro later grown _ _ _
  exact interprets.render (inside _ (root_mem_layers _)).nodes
    (environments.advance grown)

/-- The pages of environments with the same lineage. -/
theorem execute_related
    (interprets : correspondence.Interprets firstInterpreter firstDepth secondInterpreter
      secondDepth)
    {firstEnvironment secondEnvironment : Environment}
    (environments : correspondence.Environments world firstEnvironment secondEnvironment)
    (lineages : firstEnvironment.lineage = secondEnvironment.lineage)
    (inside : firstEnvironment.lineage.Within correspondence.vocabulary) :
    comparison.Renders world comparison.done
      (firstInterpreter.execute firstEnvironment firstDepth)
      (secondInterpreter.execute secondEnvironment secondDepth) := by
  unfold Interpreter.execute
  rw [← lineages]
  exact page_related interprets environments inside

/-- The scopes with trees of their own, in which whole templates are rendered, and which are
released at the end. -/
structure Roots (correspondence : Correspondence comparison) where
  root : comparison.World → Scope → Scope → Prop
  scope : ∀ {world first second}, root world first second →
    correspondence.scope world first second
  later : ∀ {world later first second},
    comparison.Later world later → root world first second → root later first second
  opened : ∀ world,
    comparison.Renders world root (Run.openWith (·.newScope)) (Run.openWith (·.newScope))
  released : ∀ {world first second firstStore secondStore}, root world first second →
    comparison.store world firstStore secondStore →
      comparison.store world (firstStore.release first) (secondStore.release second)

/-- All related scopes, if each of them may be released. -/
def rootsOfScopes (correspondence : Correspondence comparison)
    (opened : ∀ world, comparison.Renders world correspondence.scope
      (Run.openWith (·.newScope)) (Run.openWith (·.newScope)))
    (released : ∀ {world first second firstStore secondStore},
      correspondence.scope world first second → comparison.store world firstStore secondStore →
        comparison.store world (firstStore.release first) (secondStore.release second)) :
    correspondence.Roots where
  root := correspondence.scope
  scope scopes := scopes
  later := correspondence.scope_later
  opened := opened
  released := released

/-- Inclusions of templates with the same lineage, in scopes of which those of a tree of
their own are released. -/
theorem includeTemplate_related (roots : correspondence.Roots)
    {firstEnvironment secondEnvironment included other : Environment}
    (withContext : Bool)
    (settings : correspondence.setting world included other)
    (lineages : included.lineage = other.lineage)
    (inside : included.lineage.Within correspondence.vocabulary)
    (entered : comparison.Renders world
      (fun _ inner otherInner =>
        correspondence.Interprets firstInterpreter inner secondInterpreter otherInner)
      (Interpreter.enter firstDepth included.lineage.identifier)
      (Interpreter.enter secondDepth other.lineage.identifier))
    (opened : withContext = true → ∀ later, comparison.Later world later →
      comparison.Renders later correspondence.scope (Run.openChild firstEnvironment.scope)
        (Run.openChild secondEnvironment.scope)) :
    comparison.Renders world comparison.done
      (Interpreter.includeTemplate firstInterpreter firstEnvironment firstDepth included
        withContext)
      (Interpreter.includeTemplate secondInterpreter secondEnvironment secondDepth other
        withContext) := by
  apply entered.bind
  intro later grown inner otherInner interprets
  have executed : ∀ final, comparison.Later later final → ∀ firstScope secondScope,
      correspondence.scope final firstScope secondScope →
        comparison.Renders final comparison.done
          (firstInterpreter.execute (included.within firstScope) inner)
          (secondInterpreter.execute (other.within secondScope) otherInner) := by
    intro final further firstScope secondScope scopes
    have settings := correspondence.setting_later (comparison.later_trans grown further) settings
    exact execute_related interprets ⟨correspondence.within settings scopes, scopes⟩ lineages
      inside
  cases withContext with
  | true => exact (opened rfl later grown).bind executed
  | false =>
      apply (roots.opened later).bind
      intro final further firstScope secondScope scopes
      exact (executed final further firstScope secondScope (roots.scope scopes)).releasing
        fun last finishing _ _ stores => roots.released (roots.later finishing scopes) stores

/-- Renderings of templates, each with a copy of its data in a tree of scopes of its own. -/
theorem render_related_of_execute (roots : correspondence.Roots)
    {template other : Template} {data otherData : Scope}
    (copied : ∀ later, comparison.Later world later → ∀ firstScope secondScope,
      correspondence.scope later firstScope secondScope →
        comparison.Renders later comparison.done
          (modify fun state => { state with store := state.store.update firstScope data })
          (modify fun state => { state with
            store := state.store.update secondScope otherData }))
    (executed : ∀ later firstScope secondScope,
      correspondence.scope later firstScope secondScope →
        comparison.Renders later comparison.done
          (firstInterpreter.execute (template.environment firstScope) 0)
          (secondInterpreter.execute (other.environment secondScope) 0)) :
    comparison.Renders world comparison.done (template.render firstInterpreter data)
      (other.render secondInterpreter otherData) := by
  apply (roots.opened world).bind
  intro later grown firstScope secondScope scopes
  apply (copied later grown firstScope secondScope (roots.scope scopes)).bind
  intro final further _ _ _
  have scopes := roots.later further scopes
  exact (executed final firstScope secondScope (roots.scope scopes)).releasing
    fun last finishing _ _ stores => roots.released (roots.later finishing scopes) stores

/-- Renderings of templates with the same lineage. -/
theorem render_related (roots : correspondence.Roots) {template other : Template}
    {data otherData : Scope}
    (interprets : correspondence.Interprets firstInterpreter 0 secondInterpreter 0)
    (lineages : template.lineage = other.lineage)
    (inside : template.lineage.Within correspondence.vocabulary)
    (settings : ∀ later firstScope secondScope,
      correspondence.scope later firstScope secondScope →
        correspondence.setting later (template.environment firstScope)
          (other.environment secondScope))
    (copied : ∀ later firstScope secondScope,
      correspondence.scope later firstScope secondScope →
        comparison.Renders later comparison.done
          (modify fun state => { state with store := state.store.update firstScope data })
          (modify fun state => { state with
            store := state.store.update secondScope otherData })) :
    comparison.Renders world comparison.done (template.render firstInterpreter data)
      (other.render secondInterpreter otherData) := by
  refine render_related_of_execute roots (fun later _ => copied later) ?_
  intro later firstScope secondScope scopes
  exact execute_related interprets ⟨settings later firstScope secondScope scopes, scopes⟩
    lineages inside

end Correspondence

end TemplateEngine

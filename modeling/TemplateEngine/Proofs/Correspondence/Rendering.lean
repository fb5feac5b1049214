import TemplateEngine.Proofs.Correspondence.Evaluation

/-!
# Corresponding renderings

The renderings of the same nodes under corresponding effects correspond.  The induction
is on the nodes: bodies that stand in a template are followed, and blocks and other
templates are left to the effects.
-/

namespace TemplateEngine

namespace Run

variable {ε : Type}

theorem bindAll_cons (scope : Scope) (entry : String × Value)
    (rest : List (String × Value)) :
    (bindAll scope (entry :: rest) : Run ε Unit) =
      (do
        Run.bind scope entry.1 entry.2
        bindAll scope rest) := rfl

end Run

namespace Correspondence

open Comparison

variable {comparison : Comparison} {correspondence : Correspondence comparison}

/-- Binding related values to the same names. -/
theorem bindAll_related {world : comparison.World} {firstScope secondScope : Scope}
    {entries others : List (String × Value)}
    (scopes : correspondence.scope world firstScope secondScope)
    (targets : ∀ entry ∈ entries, correspondence.vocabulary.target entry.1)
    (related : EntriesRelated (correspondence.value world) entries others) :
    comparison.Renders world comparison.done (Run.bindAll firstScope entries)
      (Run.bindAll secondScope others) := by
  induction entries generalizing others world with
  | nil =>
      cases related
      exact related_pure True.intro
  | cons entry rest induction =>
      cases related with
      | @cons _ other _ otherRest same restRelated =>
          rw [Run.bindAll_cons, Run.bindAll_cons, ← same.1]
          apply (correspondence.bind scopes (targets entry List.mem_cons_self) same.2).bind
          intro later grown _ _ _
          exact induction (correspondence.scope_later grown scopes)
            (fun entry member => targets entry (List.mem_cons_of_mem _ member))
            (entries_later grown restRelated)

variable {firstEffects secondEffects : Effects} {firstDepth secondDepth : Nat}
variable {world : comparison.World} {first second : Environment}

/-! ## Expressions in statements and output tags -/

theorem evaluateAt_related
    (handles : correspondence.Handles firstEffects firstDepth secondEffects secondDepth)
    (site : Expression → Site) {expression : Expression}
    (inside : expression.Within correspondence.vocabulary)
    (environments : correspondence.Environments world first second) :
    comparison.Renders world correspondence.result
      (Interpreter.evaluateAt firstEffects firstDepth first site expression)
      (Interpreter.evaluateAt secondEffects secondDepth second site expression) :=
  (evaluate_related handles expression inside environments.contexts).mapError fun _ _ faults =>
    comparison.failure_wrapped _ (comparison.failure_evaluation faults)

/-- The same expression is chosen on both sides. -/
theorem chosen_related
    (handles : correspondence.Handles firstEffects firstDepth secondEffects secondDepth)
    {output : Output} (inside : output.Within correspondence.vocabulary)
    (environments : correspondence.Environments world first second) :
    comparison.Renders world
      (fun _ chosen other =>
        chosen = other ∧ Expression.OptionWithin correspondence.vocabulary chosen)
      (Interpreter.chosen firstEffects firstDepth first output)
      (Interpreter.chosen secondEffects secondDepth second output) := by
  rcases output with ⟨expression, condition, alternative, position⟩
  rcases inside with ⟨inExpression, inCondition, inAlternative⟩
  cases condition with
  | none => exact related_pure ⟨rfl, inExpression⟩
  | some condition =>
      apply (evaluateAt_related handles Site.condition inCondition environments).bind
      intro later _ value other related
      rw [correspondence.isTrue related.1]
      split
      · exact related_pure ⟨rfl, inExpression⟩
      · exact related_pure ⟨rfl, inAlternative⟩

theorem renderOutput_related
    (handles : correspondence.Handles firstEffects firstDepth secondEffects secondDepth)
    {output : Output} (inside : output.Within correspondence.vocabulary)
    (environments : correspondence.Environments world first second) :
    comparison.Renders world comparison.done
      (Interpreter.renderOutput firstEffects firstDepth first output)
      (Interpreter.renderOutput secondEffects secondDepth second output) := by
  apply (chosen_related handles inside environments).bind
  rintro later grown chosen _ ⟨rfl, inChosen⟩
  cases chosen with
  | none => exact related_pure True.intro
  | some expression =>
      refine (evaluateAt_related handles Site.output inChosen
        (environments.advance grown)).bind ?_
      intro final further value other related
      exact handles.emit ((environments.advance grown).advance further).setting related

/-! ## Loops -/

/-- A loop binds its targets only. -/
theorem target_of_mem_bindings {targets : List String} {item : Value}
    {entries : List (String × Value)} (bound : Loop.bindings targets item = .ok entries)
    {entry : String × Value} (member : entry ∈ entries) : entry.1 ∈ targets := by
  unfold Loop.bindings at bound
  split at bound
  · cases bound
    rw [List.mem_singleton] at member
    simp [member]
  · split at bound
    · cases bound
      exact (List.of_mem_zip member).1
    · cases bound
  · cases bound

theorem openItem_related {item other : Value} {targets : List String}
    (inside : ∀ target ∈ targets, correspondence.vocabulary.target target)
    (environments : correspondence.Environments world first second)
    (items : correspondence.value world item other) :
    comparison.Renders world correspondence.Environments (Loop.openItem first targets item)
      (Loop.openItem second targets other) := by
  apply (correspondence.openChild environments.scope).bind
  intro later grown firstScope secondScope scopes
  have alike :
      Alike comparison.fault
        (fun entries others =>
          EntriesRelated (correspondence.value later) entries others ∧
            ∀ entry ∈ entries, entry.1 ∈ targets)
        (Loop.bindings targets item) (Loop.bindings targets other) :=
    (correspondence.bindings targets (correspondence.value_later grown items)).attach
      fun _ bound _ member => target_of_mem_bindings bound member
  have bound : comparison.Renders later
      (fun final entries others =>
        EntriesRelated (correspondence.value final) entries others ∧
          ∀ entry ∈ entries, entry.1 ∈ targets)
      ((Run.ofExcept (Loop.bindings targets item)).mapError TemplateError.evaluation)
      ((Run.ofExcept (Loop.bindings targets other)).mapError TemplateError.evaluation) :=
    (related_ofExcept alike).mapError fun _ _ => comparison.failure_evaluation
  apply bound.bind
  rintro final further entries others ⟨related, names⟩
  have scopes := correspondence.scope_later further scopes
  refine (bindAll_related scopes (fun entry member => inside _ (names entry member))
    related).bind ?_
  intro last finishing _ _ _
  have settings := (((environments.advance grown).advance further).advance finishing).setting
  have scopes := correspondence.scope_later finishing scopes
  exact related_pure ⟨correspondence.within settings scopes, scopes⟩

/-- Related items pass related checks. -/
theorem keep_related {firstPasses secondPasses : Value → Run TemplateError Bool}
    {items others : List Value}
    (related : List.Forall₂ (correspondence.value world) items others)
    (passes : ∀ later, comparison.Later world later → ∀ item other,
      correspondence.value later item other →
        comparison.Renders later (fun _ passed other => passed = other) (firstPasses item)
          (secondPasses other)) :
    comparison.Renders world (fun later => List.Forall₂ (correspondence.value later))
      (Loop.keep firstPasses items) (Loop.keep secondPasses others) := by
  induction items generalizing others world with
  | nil =>
      cases related
      exact related_pure .nil
  | cons item rest induction =>
      cases related with
      | @cons _ other _ otherRest itemRelated restRelated =>
          apply (passes world (comparison.later_refl world) item other itemRelated).bind
          rintro later grown passed _ rfl
          refine (induction (forall_value_later grown restRelated) fun final further =>
            passes final (comparison.later_trans grown further)).bind ?_
          intro final further kept otherKept keptRelated
          have item := correspondence.value_later further
            (correspondence.value_later grown itemRelated)
          split
          · exact related_pure (.cons item keptRelated)
          · exact related_pure keptRelated

/-- What a loop tells about its state is related to itself. -/
theorem info_related (world : comparison.World) (index length : Nat) :
    correspondence.value world (Loop.info index length) (Loop.info index length) := by
  have number : ∀ count : Nat,
      correspondence.value world (Value.ofNat count) (Value.ofNat count) :=
    fun count => correspondence.literal world (.float (Number.ofNat count))
  apply correspondence.map
  exact .cons ⟨rfl, number _⟩ (.cons ⟨rfl, number _⟩ (.cons ⟨rfl, number _⟩
    (.cons ⟨rfl, number _⟩ (.cons ⟨rfl, (bool_related _).1⟩ (.cons ⟨rfl, (bool_related _).1⟩
      (.cons ⟨rfl, number _⟩ .nil))))))

/-- Visiting related items, with related renderings of the body. -/
theorem visit_related {targets : List String} {length : Nat}
    {firstBody secondBody : Environment → Run TemplateError Unit}
    (inside : ∀ target ∈ targets, correspondence.vocabulary.target target)
    (insideLoop : correspondence.vocabulary.target "loop") {items others : List Value}
    (index : Nat) (environments : correspondence.Environments world first second)
    (related : List.Forall₂ (correspondence.value world) items others)
    (body : ∀ later, comparison.Later world later → ∀ inner otherInner,
      correspondence.Environments later inner otherInner →
        comparison.Renders later comparison.done (firstBody inner) (secondBody otherInner)) :
    comparison.Renders world comparison.done
      (Loop.visit first targets length firstBody index items)
      (Loop.visit second targets length secondBody index others) := by
  induction items generalizing others world index with
  | nil =>
      cases related
      exact related_pure True.intro
  | cons item rest induction =>
      cases related with
      | @cons _ other _ otherRest itemRelated restRelated =>
          apply (openItem_related inside environments itemRelated).bind
          intro later grown inner otherInner inners
          refine (correspondence.bind inners.scope insideLoop
            (info_related later index length)).bind ?_
          intro final further _ _ _
          have soFar := comparison.later_trans grown further
          apply (body final soFar inner otherInner (inners.advance further)).bind
          intro last finishing _ _ _
          have grown := comparison.later_trans soFar finishing
          exact induction (index + 1) (environments.advance grown)
            (forall_value_later grown restRelated)
            fun beyond after => body beyond (comparison.later_trans grown after)

theorem loopItems_related
    (handles : correspondence.Handles firstEffects firstDepth secondEffects secondDepth)
    {targets : List String} {iterable : Expression} {condition : Option Expression}
    (inTargets : ∀ target ∈ targets, correspondence.vocabulary.target target)
    (inIterable : iterable.Within correspondence.vocabulary)
    (inCondition : Expression.OptionWithin correspondence.vocabulary condition)
    (environments : correspondence.Environments world first second) :
    comparison.Renders world (fun later => List.Forall₂ (correspondence.value later))
      (Interpreter.loopItems firstEffects firstDepth first targets iterable condition)
      (Interpreter.loopItems secondEffects secondDepth second targets iterable condition) := by
  apply (evaluateAt_related handles (.role "loop iterable") inIterable environments).bind
  intro later grown value other related
  have items : comparison.Renders later
      (fun final => List.Forall₂ (correspondence.value final))
      ((Run.ofExcept (Loop.items targets iterable value)).mapError TemplateError.evaluation)
      ((Run.ofExcept (Loop.items targets iterable other)).mapError TemplateError.evaluation) :=
    (related_ofExcept (correspondence.items targets iterable related.1)).mapError
      fun _ _ => comparison.failure_evaluation
  apply items.bind
  intro final further found others foundRelated
  cases condition with
  | none => exact related_pure foundRelated
  | some condition =>
      apply keep_related foundRelated
      intro last finishing item otherItem itemRelated
      refine (openItem_related inTargets
        (((environments.advance grown).advance further).advance finishing) itemRelated).bind ?_
      intro beyond after inner otherInner inners
      apply (evaluateAt_related handles (.role "loop filter") inCondition inners).bind
      intro closing _ passed otherPassed passes
      exact related_pure (correspondence.isTrue passes.1)

/-! ## References to other templates -/

/-- The evaluated names of a template, one of those that the expression can have. -/
theorem evaluateName_related
    (handles : correspondence.Handles firstEffects firstDepth secondEffects secondDepth)
    {filename : Expression} (inside : filename.Within correspondence.vocabulary)
    (environments : correspondence.Environments world first second) :
    comparison.Renders world
      (fun later name other =>
        correspondence.result later name other ∧ filename.MayName name.display)
      (Interpreter.evaluateAs firstEffects firstDepth first "filename" filename)
      (Interpreter.evaluateAs secondEffects secondDepth second "filename" filename) := by
  refine (evaluateAt_related handles (.role "filename") inside environments).attach ?_
  intro state value after ran
  rw [Interpreter.evaluateAt, Run.mapError_apply] at ran
  obtain ⟨⟨result, ended⟩, evaluated, changed⟩ := Option.map_eq_some_iff.1 ran
  cases result with
  | error error => cases changed
  | ok found =>
      cases changed
      exact ⟨firstEffects, firstDepth, first, state, value, _, evaluated, rfl⟩

theorem referred_related
    (handles : correspondence.Handles firstEffects firstDepth secondEffects secondDepth)
    {filename : Expression} {described : Statement Node}
    (inside : filename.Within correspondence.vocabulary)
    (known : correspondence.vocabulary.statement described)
    (refers : ∀ {name}, filename.MayName name → described.MayRefer name)
    (environments : correspondence.Environments world first second) :
    comparison.Renders world correspondence.imported
      (Interpreter.referred firstEffects firstDepth first filename)
      (Interpreter.referred secondEffects secondDepth second filename) := by
  apply (evaluateName_related handles inside environments).bind
  rintro later grown name other ⟨related, named⟩
  rw [← correspondence.display related.1]
  exact related_ofExcept (correspondence.refer name.display known (refers named)
    (environments.advance grown).setting)

theorem renderInclusion_related
    (handles : correspondence.Handles firstEffects firstDepth secondEffects secondDepth)
    {filename : Expression} (inside : filename.Within correspondence.vocabulary)
    (ignoreMissing withContext : Bool)
    (known : correspondence.vocabulary.statement (.inclusion filename ignoreMissing withContext))
    (environments : correspondence.Environments world first second) :
    comparison.Renders world comparison.done
      (Interpreter.renderInclusion firstEffects firstDepth first filename ignoreMissing
        withContext)
      (Interpreter.renderInclusion secondEffects secondDepth second filename ignoreMissing
        withContext) := by
  apply (evaluateName_related handles inside environments).bind
  rintro later grown name other ⟨related, named⟩
  rw [← correspondence.display related.1]
  have environments := environments.advance grown
  have referred := correspondence.refer name.display known named environments.setting
  match found : first.refer name.display, otherFound : second.refer name.display with
  | .ok included, .ok otherIncluded =>
      rw [found, otherFound] at referred
      exact handles.inclusion withContext environments referred
  | .error error, .error otherError =>
      rw [found, otherFound] at referred
      simp only [comparison.failure_isNotFound referred]
      split
      · exact related_pure True.intro
      · exact related_throw referred
  | .ok _, .error _ =>
      rw [found, otherFound] at referred
      exact referred.elim
  | .error _, .ok _ =>
      rw [found, otherFound] at referred
      exact referred.elim

theorem importModule_related {included other : Environment} {target : String}
    (inside : correspondence.vocabulary.target target) (withContext : Option Bool)
    (environments : correspondence.Environments world first second)
    (imported : correspondence.imported world included other) :
    comparison.Renders world comparison.done
      (Interpreter.importModule first included target withContext)
      (Interpreter.importModule second other target withContext) := by
  apply (correspondence.bindModule withContext environments.scope imported).bind
  intro later grown closures others related
  exact correspondence.bind (environments.advance grown).scope inside
    (correspondence.map related)

/-- The entries of a table that some names select, under other names. -/
theorem selected_related {closures others : Table Value} (names : List (String × String))
    (related : EntriesRelated (correspondence.value world) closures others) :
    EntriesRelated (correspondence.value world)
      (names.filterMap fun (target, name) =>
        (closures.lookup name).map fun closure => (target, closure))
      (names.filterMap fun (target, name) =>
        (others.lookup name).map fun closure => (target, closure)) := by
  induction names with
  | nil => exact .nil
  | cons selection rest induction =>
      rcases selection with ⟨target, name⟩
      have one := related.lookup name
      revert one
      cases first : closures.lookup name <;> cases second : others.lookup name <;> intro one
      · simpa [first, second] using induction
      · nomatch one
      · nomatch one
      · cases one with
        | some one =>
            simp only [List.filterMap_cons, first, second, Option.map_some]
            exact .cons ⟨rfl, one⟩ induction

theorem importNames_related {included other : Environment} {names : List (String × String)}
    (inside : ∀ imported ∈ names, correspondence.vocabulary.target imported.1)
    (withContext : Option Bool)
    (environments : correspondence.Environments world first second)
    (imported : correspondence.imported world included other) :
    comparison.Renders world comparison.done
      (Interpreter.importNames first included names withContext)
      (Interpreter.importNames second other names withContext) := by
  have lineages := correspondence.imported_lineage imported
  have missing : included.missingMacro? names = other.missingMacro? names := by
    simp [Environment.missingMacro?, lineages]
  unfold Interpreter.importNames
  rw [missing, lineages]
  split
  · exact related_throw (comparison.failure_refl _)
  · apply (correspondence.bindModule withContext environments.scope imported).bind
    intro later grown closures others related
    refine bindAll_related (environments.advance grown).scope ?_
      (selected_related names related)
    intro entry member
    rcases List.mem_filterMap.1 member with ⟨selection, chosen, bound⟩
    rcases Option.map_eq_some_iff.1 bound with ⟨closure, _, rfl⟩
    exact inside selection chosen

/-! ## Nodes -/

theorem boxShows_related
    (handles : correspondence.Handles firstEffects firstDepth secondEffects secondDepth)
    {condition : Option Expression}
    (inside : Expression.OptionWithin correspondence.vocabulary condition)
    (environments : correspondence.Environments world first second) :
    comparison.Renders world (fun _ shown other => shown = other)
      (Interpreter.boxShows firstEffects firstDepth first condition)
      (Interpreter.boxShows secondEffects secondDepth second condition) := by
  cases condition with
  | none => exact related_pure rfl
  | some expression =>
      apply (evaluateAt_related handles (.role "box") inside environments).bind
      intro later _ value other related
      exact related_pure (correspondence.isTrue related.1)

/-- A scope is opened inside the current one, and something is rendered in it. -/
theorem openChild_bind_related {firstBody secondBody : Environment → Run TemplateError Unit}
    (environments : correspondence.Environments world first second)
    (body : ∀ later, comparison.Later world later → ∀ inner otherInner,
      correspondence.Environments later inner otherInner →
        comparison.Renders later comparison.done (firstBody inner) (secondBody otherInner)) :
    comparison.Renders world comparison.done
      (do
        let scope ← Run.openChild first.scope
        firstBody (first.within scope))
      (do
        let scope ← Run.openChild second.scope
        secondBody (second.within scope)) := by
  apply (correspondence.openChild environments.scope).bind
  intro later grown firstScope secondScope scopes
  exact body later grown _ _
    ⟨correspondence.within (correspondence.setting_later grown environments.setting) scopes,
      scopes⟩

mutual

/-- Rendering under corresponding effects. -/
theorem renderNode_related
    (handles : correspondence.Handles firstEffects firstDepth secondEffects secondDepth)
    (node : Node) (inside : node.Within correspondence.vocabulary)
    {world : comparison.World} {first second : Environment}
    (environments : correspondence.Environments world first second) :
    comparison.Renders world comparison.done
      (Interpreter.renderNode firstEffects firstDepth first node)
      (Interpreter.renderNode secondEffects secondDepth second node) := by
  match node, inside with
  | .comment _ _, _ => exact related_pure True.intro
  | .data text trim _, inside => exact correspondence.write world trim inside
  | .output _, inside => exact renderOutput_related handles inside environments
  | .statement tag statement _, inside =>
      exact (renderStatement_related handles tag statement inside.1 inside.2
        environments).mapError
        fun _ _ => comparison.failure_wrapped _
  | .wrapper ⟨nodes, _, _⟩, inside =>
      exact renderNodes_related handles nodes inside environments

theorem renderNodes_related
    (handles : correspondence.Handles firstEffects firstDepth secondEffects secondDepth)
    (nodes : List Node) (inside : Node.AllWithin correspondence.vocabulary nodes)
    {world : comparison.World} {first second : Environment}
    (environments : correspondence.Environments world first second) :
    comparison.Renders world comparison.done
      (Interpreter.renderNodes firstEffects firstDepth first nodes)
      (Interpreter.renderNodes secondEffects secondDepth second nodes) := by
  match nodes, inside with
  | [], _ => exact related_pure True.intro
  | node :: rest, ⟨inNode, inRest⟩ =>
      apply (renderNode_related handles node inNode environments).bind
      intro later grown _ _ _
      exact renderNodes_related handles rest inRest (environments.advance grown)

theorem renderOptional_related
    (handles : correspondence.Handles firstEffects firstDepth secondEffects secondDepth)
    (body : Option (Body Node)) (inside : Node.OptionWithin correspondence.vocabulary body)
    {world : comparison.World} {first second : Environment}
    (environments : correspondence.Environments world first second) :
    comparison.Renders world comparison.done
      (Interpreter.renderOptional firstEffects firstDepth first body)
      (Interpreter.renderOptional secondEffects secondDepth second body) := by
  match body, inside with
  | none, _ => exact related_pure True.intro
  | some ⟨nodes, _, _⟩, inside =>
      exact renderNodes_related handles nodes inside environments

theorem renderBranches_related
    (handles : correspondence.Handles firstEffects firstDepth secondEffects secondDepth)
    (branches : List (Expression × Body Node))
    (inside : Node.BranchesWithin correspondence.vocabulary branches)
    {world : comparison.World} {first second : Environment}
    (environments : correspondence.Environments world first second) :
    comparison.Renders world (fun _ found other => found = other)
      (Interpreter.renderBranches firstEffects firstDepth first branches)
      (Interpreter.renderBranches secondEffects secondDepth second branches) := by
  match branches, inside with
  | [], _ => exact related_pure rfl
  | (condition, ⟨nodes, _, _⟩) :: rest, ⟨inCondition, inNodes, inRest⟩ =>
      simp only [Interpreter.renderBranches]
      apply (evaluateAt_related handles (.role "condition") inCondition environments).bind
      intro later grown value other related
      rw [correspondence.isTrue related.1]
      split
      · apply (renderNodes_related handles nodes inNodes (environments.advance grown)).bind
        intro final _ _ _ _
        exact related_pure rfl
      · exact renderBranches_related handles rest inRest (environments.advance grown)

theorem renderStatement_related
    (handles : correspondence.Handles firstEffects firstDepth secondEffects secondDepth)
    (tag : String) (statement : Statement Node)
    (known : correspondence.vocabulary.statement statement)
    (inside : Node.StatementWithin correspondence.vocabulary statement)
    {world : comparison.World} {first second : Environment}
    (environments : correspondence.Environments world first second) :
    comparison.Renders world comparison.done
      (Interpreter.renderStatement firstEffects firstDepth first tag statement)
      (Interpreter.renderStatement secondEffects secondDepth second tag statement) := by
  match statement, inside with
  | .conditional branches otherwise, ⟨inBranches, inOtherwise⟩ =>
      simp only [Interpreter.renderStatement]
      apply (renderBranches_related handles branches inBranches environments).bind
      rintro later grown found _ rfl
      split
      · exact renderOptional_related handles otherwise inOtherwise
          (environments.advance grown)
      · exact related_pure True.intro
  | .loop targets iterable filter ⟨nodes, _, _⟩ empty,
      ⟨inTargets, inLoop, inIterable, inFilter, inNodes, inEmpty⟩ =>
      simp only [Interpreter.renderStatement]
      apply (loopItems_related handles inTargets inIterable inFilter environments).bind
      intro later grown items others related
      have environments := environments.advance grown
      rw [related.length_eq, show items.isEmpty = others.isEmpty by
        cases related <;> rfl]
      split
      · exact openChild_bind_related environments fun _ _ _ _ inner =>
          renderOptional_related handles empty inEmpty inner
      · exact visit_related inTargets inLoop 0 environments related fun _ _ _ _ inner =>
          renderNodes_related handles nodes inNodes inner
  | .assignment target value, ⟨inTarget, inValue⟩ =>
      simp only [Interpreter.renderStatement]
      apply (evaluateAt_related handles (.role "assignment") inValue environments).bind
      intro later grown value other related
      exact correspondence.bind (environments.advance grown).scope inTarget related.1
  | .capture target ⟨nodes, _, _⟩, ⟨inTarget, inNodes⟩ =>
      simp only [Interpreter.renderStatement]
      refine (openChild_bind_related environments fun _ _ _ _ inner =>
        renderNodes_related handles nodes inNodes inner).capture.bind ?_
      intro later grown text other related
      have environments := environments.advance grown
      exact correspondence.bind environments.scope inTarget
        (correspondence.rendered environments.setting related)
  | .block name, inside => exact handles.block environments inside
  | .parent _, _ => exact related_pure True.intro
  | .definition ⟨name, parameters, ⟨nodes, endTag, start⟩, position⟩,
      ⟨inName, inside⟩ =>
      exact correspondence.bind environments.scope inName
        (correspondence.closure environments.setting environments.scope
          fun known => ⟨inName, inside known⟩)
  | .importModule filename target withContext, ⟨inFilename, inTarget⟩ =>
      simp only [Interpreter.renderStatement]
      apply (referred_related handles inFilename known id environments).bind
      intro later grown included other imported
      exact importModule_related inTarget withContext (environments.advance grown) imported
  | .importNames filename names withContext, ⟨inFilename, inNames⟩ =>
      simp only [Interpreter.renderStatement]
      apply (referred_related handles inFilename known id environments).bind
      intro later grown included other imported
      exact importNames_related inNames withContext (environments.advance grown) imported
  | .inclusion filename ignoreMissing withContext, inside =>
      exact renderInclusion_related handles inside ignoreMissing withContext known environments
  | .box label condition ⟨nodes, _, _⟩ other, ⟨inBox, inCondition, inNodes, inOther⟩ =>
      have head : comparison.Renders world comparison.done
          (Run.write ("[" ++ tag ++ ":" ++ label ++ "@" ++ toString firstDepth ++ ":"))
          (Run.write ("[" ++ tag ++ ":" ++ label ++ "@" ++ toString secondDepth ++ ":")) := by
        rw [handles.depth inBox]
        exact correspondence.writeBox world _ inBox
      simp only [Interpreter.renderStatement]
      apply head.bind
      intro later grown _ _ _
      have environments := environments.advance grown
      apply (boxShows_related handles inCondition environments).bind
      rintro final further shown _ rfl
      have environments := environments.advance further
      apply (correspondence.openChild environments.scope).bind
      intro last finishing firstScope secondScope scopes
      have inner : correspondence.Environments last (first.within firstScope)
          (second.within secondScope) :=
        ⟨correspondence.within
          (correspondence.setting_later finishing environments.setting) scopes, scopes⟩
      split
      · apply (renderNodes_related handles nodes inNodes inner).bind
        intro closing _ _ _ _
        exact correspondence.writeBox closing _ inBox
      · apply (renderOptional_related handles other inOther inner).bind
        intro closing _ _ _ _
        exact correspondence.writeBox closing _ inBox

end

end Correspondence

end TemplateEngine

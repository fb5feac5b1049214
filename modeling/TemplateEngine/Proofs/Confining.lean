import TemplateEngine.Proofs.Escaping
import TemplateEngine.Proofs.Lifting
import TemplateEngine.Proofs.Matching.Closed

/-!
# Renderings confined to a vocabulary

That a rendering keeps to a vocabulary is a property of the rendering.  It is one of the
templates alone if all of them are within the vocabulary that the rendering can get to, and
nothing in the data that can be called leads out of it.
-/

namespace TemplateEngine

/-- An environment whose template is within a vocabulary, with every template that it can refer
to, directly or through others. -/
structure Environment.Confined (vocabulary : Vocabulary) (environment : Environment) : Prop where
  lineage : environment.lineage.Within vocabulary
  referred : ∀ {loader identifier lineage}, environment.loader.Reaches loader →
    Lineage.load environment.config environment.registries.statements loader identifier =
        .ok lineage →
      lineage.Within vocabulary

/-- Whether a callable, if the value is one, is confined to a vocabulary. -/
def Value.Confined (vocabulary : Vocabulary) : Value → Prop
  | .closure callee =>
      callee.environment.Confined vocabulary ∧ callee.definition.Within vocabulary
  | .function (.super environment _ bodies) =>
      environment.Confined vocabulary ∧ ∀ body ∈ bodies, Node.AllWithin vocabulary body.nodes
  | _ => True

theorem Value.aboutCallables_confined (vocabulary : Vocabulary) :
    Value.AboutCallables (Value.Confined vocabulary) := by
  intro value scalar
  cases value <;> first
    | exact True.intro
    | cases scalar

theorem Loader.Reaches.trans {origin middle loader : Loader} (reached : origin.Reaches middle)
    (further : middle.Reaches loader) : origin.Reaches loader := by
  induction further with
  | refl => exact reached
  | inherit _ inherited inductionHypothesis => exact inductionHypothesis.inherit inherited

namespace Environment.Confined

variable {vocabulary : Vocabulary} {environment included : Environment}

theorem within (confined : environment.Confined vocabulary) (scope : Scope) :
    (environment.within scope).Confined vocabulary :=
  ⟨confined.lineage, confined.referred⟩

theorem refer (confined : environment.Confined vocabulary) {filename : String}
    (referred : environment.refer filename = .ok included) : included.Confined vocabulary := by
  obtain ⟨derived, identifier, lineage, inherited, _, loaded, rfl⟩ :=
    Environment.exists_of_refer referred
  have reached : environment.loader.Reaches derived := .inherit .refl inherited
  exact ⟨confined.referred reached loaded,
    fun further => confined.referred (reached.trans further)⟩

theorem closures (confined : environment.Confined vocabulary) :
    ∀ entry ∈ environment.closures, entry.2.Every (Value.Confined vocabulary) := by
  intro entry member
  obtain ⟨definition, present, rfl⟩ := List.mem_map.1 member
  have listed := List.mem_mergeSort.1 present
  exact ⟨confined,
    (confined.lineage environment.lineage.layer List.mem_cons_self).macros definition listed⟩

end Environment.Confined

namespace Discipline

variable {vocabulary : Vocabulary}

/-- The discipline of renderings in which all that may be used by its name is within a
vocabulary that is also about macros. -/
def confining (vocabulary : Vocabulary) (macros : vocabulary.macros) : Discipline where
  World := Unit
  Later _ _ := True
  vocabulary := vocabulary
  store _ frames := frames.Holds (Value.Every (Value.Confined vocabulary))
  sink _ _ := True
  value _ value := value.Every (Value.Confined vocabulary)
  setting _ environment := environment.Confined vocabulary
  context _ _ := True
  scope _ _ := True
  imported _ environment := environment.Confined vocabulary
  later_refl _ := True.intro
  later_trans _ _ := True.intro
  sink_later _ _ := True.intro
  value_later _ every := every
  setting_later _ confined := confined
  context_later _ _ := True.intro
  scope_later _ _ := True.intro
  sink_unlimited _ := True.intro
  literal _ literal := (Value.aboutCallables_confined vocabulary).basic.every_literal literal
  list every := Value.every_list.2 every
  map every := Value.every_map.2 every
  member every selected := every.member selected
  item every selected := (Value.aboutCallables_confined vocabulary).basic.every_item every selected
  operation _ left right applied :=
    (Value.aboutCallables_confined vocabulary).basic.every_operation left right applied
  items _ _ every iterated :=
    (Value.aboutCallables_confined vocabulary).basic.every_items every iterated
  bindings _ every given := every.bindings given
  within scope confined := confined.within scope
  context_setting _ := True.intro
  lenient _ := True.intro
  filter := by
    intro _ environment used target result arguments _ _ every positional keyword applied
    refine Expression.every_of_applyFilter (fun filter _ _ => ?_) applied
    exact Filter.every_of_aboutCallables (Value.aboutCallables_confined vocabulary) filter _ every
      positional keyword
  closure confined _ within := ⟨confined, within macros⟩
  rendered _ _ := True.intro
  refer _ confined referred := confined.refer referred
  write _ _ _ := True.intro
  writeBox _ _ _ := True.intro
  openChild _ held := ⟨(), True.intro, held.addFrame _, True.intro⟩
  bind _ _ every held := held.bind every _
  bindModule := by
    intro _ scope environment frames inContext _ confined held
    have closures := (confined.within
      (if inContext then frames.childScope scope else frames.detachedScope scope).1).closures
    refine ⟨(), True.intro, Store.Holds.bindAll ?_ closures _, closures⟩
    cases inContext with
    | true => exact held.addFrame _
    | false => exact held.addFrame _

/-- What is used by its name stays within the vocabulary. -/
def confiningUses {natives : Natives} (macros : vocabulary.macros)
    (bindable : vocabulary.target "super")
    (keeps : natives.Keeps (Value.Confined vocabulary)) :
    (confining vocabulary macros).Uses natives where
  outer _ _ := True
  lookup _ _ held looked _ := held.lookup looked
  native _ positional keyword _ := keeps _ _ positional keyword
  closure_setting confined := confined.1
  closure_outer _ := True.intro
  closure_within confined := confined.2
  super_setting confined := confined.1
  super_outer _ := True.intro
  super_within confined := confined.2
  super confined _ within := ⟨confined, within⟩
  bindable := bindable
  outer_scope _ := True.intro
  outer_later _ _ := True.intro
  blocks confined _ member := confined.lineage.blocksFor _ _ member
  included_setting confined := confined
  included_within confined := confined.lineage
  openChild _ held := ⟨(), True.intro, held.addFrame _, True.intro⟩
  root _ _ := True
  root_scope _ := True.intro
  root_later _ _ := True.intro
  newScope held := ⟨(), True.intro, held.addFrame _, True.intro⟩
  release _ held := held.release _

/-- Where all that may be used by its name is within the vocabulary, the interpreter that is
restricted to the vocabulary does what the other one does. -/
theorem confining_interprets {natives : Natives} (macros : vocabulary.macros)
    (bindable : vocabulary.target "super") (keeps : natives.Keeps (Value.Confined vocabulary))
    (bound depth : Nat) :
    ((confining vocabulary macros).correspondence .matched).Interprets
      (Interpreter.keeping natives vocabulary bound) depth
      (Interpreter.bounded natives bound) depth := by
  induction bound generalizing depth with
  | zero => exact Correspondence.interprets_exhausted (by simp [comparison]) depth depth
  | succ bound inductionHypothesis =>
      have handles : ((confining vocabulary macros).correspondence .matched).Handles
          (Interpreter.effects natives (Interpreter.keeping natives vocabulary bound)) depth
          (Interpreter.effects natives (Interpreter.bounded natives bound)) depth := by
        rw [Interpreter.effects_eq_usingEffects, Interpreter.effects_eq_usingEffects]
        exact (confiningUses macros bindable keeps).handles
          (fun _ _ _ => related_write fun _ _ => True.intro)
          (fun _ => inductionHypothesis _) (fun _ => inductionHypothesis _)
          (inductionHypothesis _) fun _ => inductionHypothesis _
      exact handles.interprets.restrict

end Discipline

end TemplateEngine

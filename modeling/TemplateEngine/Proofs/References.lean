import TemplateEngine.Proofs.Contents
import TemplateEngine.Proofs.Loading
import TemplateEngine.Proofs.Nesting
import Mathlib.Data.List.TakeWhile

/-!
# Where names of templates are looked up

A name in a tag is looked up by the loader of the environment in which the tag is rendered.
That loader belongs to the lineage of the environment: it is rooted at the directory of the
most derived template there, and it serves the tags of all templates of the lineage.  The
name of a parent is looked up where the template is read that extends it, by a loader that is
rooted at the directory of that template.  Only the template of the rendering itself may be
given another loader.

So a name is relative to the template that contains the tag if it names a parent, and if the
tag stands in the most derived template of its lineage.  Elsewhere in the templates that are
extended it is relative to the one that derives from them all.
-/

namespace TemplateEngine

/-! ## Paths of directories -/

namespace FileTree

/-- Segments that name nothing lead to no file. -/
theorem fileFrom?_eq_none_of_silent (tree : FileTree) (directory : List String)
    {segments : List String} (silent : ∀ segment ∈ segments, segment = "" ∨ segment = ".") :
    tree.fileFrom? directory segments = none := by
  induction segments with
  | nil => rfl
  | cons segment rest inductionHypothesis =>
      rw [fileFrom?, if_pos (silent segment List.mem_cons_self)]
      exact inductionHypothesis fun segment member => silent segment (List.mem_cons_of_mem _ member)

end FileTree

namespace Loader

/-- The directory of a file with an absolute path has an absolute path. -/
theorem isAbsolute_directoryOf {tree : FileTree} {path : String}
    (absolute : Path.isAbsolute path = true) (present : tree.isFile path = true) :
    Path.isAbsolute (directoryOf path) = true := by
  obtain ⟨rest, characters⟩ : ∃ rest, path.toList = '/' :: rest := by
    cases listed : path.toList with
    | nil => simp [Path.isAbsolute, listed] at absolute
    | cons first rest =>
        obtain rfl : first = '/' := by simpa [Path.isAbsolute, listed] using absolute
        exact ⟨rest, rfl⟩
  unfold directoryOf Path.parent?
  simp only [characters, Path.splitStart]
  split
  · simp [Path.isAbsolute]
  · rename_i dropped
    -- All segments of the path name nothing, so that there is no file.
    have silent : ∀ segment ∈ Path.segments path, segment = "" ∨ segment = "." := by
      simp only [Path.dropSilent, List.reverse_reverse, List.dropWhile_eq_nil_iff,
        List.mem_reverse] at dropped
      simp only [Path.segments, characters, Path.splitSlashes, List.map_cons, List.mem_cons,
        List.mem_map]
      rintro segment (rfl | ⟨characters, member, rfl⟩)
      · exact .inl rfl
      · have named := dropped characters member
        simp only [Path.isSilent, Bool.or_eq_true, beq_iff_eq] at named
        rcases named with rfl | rfl
        · exact .inl rfl
        · exact .inr rfl
    have nothing := tree.fileFrom?_eq_none_of_silent [] silent
    simp [FileTree.isFile, FileTree.read?, absolute, nothing] at present

variable {tree : FileTree} {root name : String} {derived : Loader}

/-- The loader derived for a file is rooted at the directory of the file. -/
theorem directory_of_inherit (inherited : (directory tree root).inherit name = .ok derived) :
    tree.isFile (Path.join root name) = true ∧
      derived = .directory tree (directoryOf (Path.join root name)) := by
  simp only [inherit, pathOf_eq_join] at inherited
  split at inherited
  · rename_i present
    cases inherited
    exact ⟨present, rfl⟩
  · cases inherited

end Loader

/-! ## Reading the templates of a lineage -/

namespace Lineage

variable {config : Config} {statements : Registry StatementKind} {loader : Loader}
variable {identifier source : String} {lineage : Lineage}

theorem identifier_of_read {loadParent : String → Except TemplateError Lineage}
    (given : read config statements loader identifier source loadParent = .ok lineage) :
    lineage.identifier = identifier := by
  unfold read at given
  cases lexed : (Token.tokenize config source).mapError TemplateError.parse with
  | error error => simp [lexed, bind, Except.bind] at given
  | ok tokens =>
      simp only [lexed, bind, Except.bind] at given
      split at given
      · cases given
      · rename_i ended _
        cases given
        rcases ended with ⟨_, ⟨_, parent, _, _⟩⟩
        cases parent <;> rfl

/-- A lineage has the name under which it was read. -/
theorem identifier_of_ofSource {depth : Nat}
    (given : ofSource config statements depth loader identifier source = .ok lineage) :
    lineage.identifier = identifier := by
  cases depth <;> exact identifier_of_read given

theorem identifier_of_load (given : load config statements loader identifier = .ok lineage) :
    lineage.identifier = identifier := by
  unfold load at given
  cases found : (loader.read identifier).mapError TemplateError.loader with
  | error error => simp [found, bind, Except.bind] at given
  | ok source =>
      simp only [found, bind, Except.bind] at given
      exact identifier_of_ofSource given

/-- Read a source and those that it extends, each one only with a loader that passes a check
for its name. -/
def surveyed (check : Loader → String → Bool) (alarm : TemplateError) (config : Config)
    (statements : Registry StatementKind) :
    Nat → Loader → String → String → Except TemplateError Lineage
  | 0, loader, identifier, source =>
      if check loader identifier then ofSource config statements 0 loader identifier source
      else .error alarm
  | depth + 1, loader, identifier, source =>
      if check loader identifier then
        read config statements loader identifier source
          (loadParent (surveyed check alarm config statements depth) loader)
      else .error alarm

/-- A template that is extended is read with a loader for its own directory. -/
theorem surveyed_eq_ofSource {tree : FileTree} {check : Loader → String → Bool}
    (passes : ∀ identifier,
      check (.directory tree (Loader.directoryOf identifier)) identifier = true)
    (alarm : TemplateError) (depth : Nat) {root : String}
    (passed : check (.directory tree root) identifier = true) :
    surveyed check alarm config statements depth (.directory tree root) identifier source =
      ofSource config statements depth (.directory tree root) identifier source := by
  induction depth generalizing root identifier source with
  | zero => exact if_pos passed
  | succ depth inductionHypothesis =>
      have parents :
          loadParent (surveyed check alarm config statements depth) (.directory tree root) =
            loadParent (ofSource config statements depth) (.directory tree root) := by
        funext filename
        unfold loadParent
        cases inherited : (Loader.directory tree root).inherit filename with
        | error error => rfl
        | ok derived =>
            obtain ⟨_, rfl⟩ := Loader.directory_of_inherit inherited
            let path := Path.join root filename
            have read : ∀ source,
                surveyed check alarm config statements depth
                    (.directory tree (Loader.directoryOf path)) path source =
                  ofSource config statements depth (.directory tree (Loader.directoryOf path))
                    path source :=
              fun source => inductionHypothesis (passes path)
            simp only [Loader.resolve, Loader.pathOf_eq_join, Except.mapError, bind, Except.bind,
              path, read]
      rw [surveyed, if_pos passed, parents, ofSource]

end Lineage

/-! ## Where nodes stand -/

/-- The statements in a layer, with those in the bodies of its blocks and macros. -/
def Layer.statements (layer : Layer) : List (Statement Node) :=
  Node.allStatements layer.nodes ++
    (layer.blocks.flatMap fun entry => Node.allStatements entry.2.nodes) ++
      layer.macros.flatMap fun entry => Node.allStatements entry.2.body.nodes

namespace Lineage

/-- Whether a statement stands in one of the templates of a lineage. -/
def Has (lineage : Lineage) (described : Statement Node) : Prop :=
  ∃ layer ∈ lineage.layers, described ∈ layer.statements

/-- Whether all statements in some nodes stand in the templates of a lineage. -/
def Covers (lineage : Lineage) (nodes : List Node) : Prop :=
  ∀ described ∈ Node.allStatements nodes, lineage.Has described

theorem allWithin_iff_covers {lineage : Lineage} {nodes : List Node} :
    Node.AllWithin (.stating lineage.Has) nodes ↔ lineage.Covers nodes :=
  Node.allWithin_stating_iff nodes

theorem definition_within_iff {lineage : Lineage} {definition : Definition Node} :
    definition.Within (.stating lineage.Has) ↔ lineage.Covers definition.body.nodes :=
  Definition.within_stating_iff definition

/-- The templates of a lineage consist of what stands in them. -/
theorem within_has (lineage : Lineage) : lineage.Within (.stating lineage.Has) := by
  intro layer listed
  refine ⟨allWithin_iff_covers.2 ?_, fun entry member => allWithin_iff_covers.2 ?_,
    fun entry member => definition_within_iff.2 ?_⟩
  · exact fun described inside =>
      ⟨layer, listed, List.mem_append_left _ (List.mem_append_left _ inside)⟩
  · exact fun described inside => ⟨layer, listed, List.mem_append_left _
      (List.mem_append_right _ (List.mem_flatMap.2 ⟨entry, member, inside⟩))⟩
  · exact fun described inside => ⟨layer, listed,
      List.mem_append_right _ (List.mem_flatMap.2 ⟨entry, member, inside⟩)⟩

end Lineage

namespace Template

variable (template : Template) (tree : FileTree)

/-- Whether the loader of an environment is rooted at the directory of the most derived
template of the lineage there, or belongs to the template of the rendering. -/
def Roots (environment : Environment) : Prop :=
  ∃ root, environment.loader = .directory tree root ∧ Path.isAbsolute root = true ∧
    (root = Loader.directoryOf environment.lineage.identifier ∨
      environment.loader = template.loader ∧ environment.lineage = template.lineage)

/-- Whether nodes are rendered in an environment that is rooted and has the lineage in which
their statements stand. -/
structure Places (environment : Environment) (nodes : List Node) : Prop where
  roots : template.Roots tree environment
  covers : environment.lineage.Covers nodes

/-- Whether a callable, if the value is one, renders nodes where they belong. -/
def Placed : Value → Prop
  | .closure callee => template.Places tree callee.environment callee.definition.body.nodes
  | .function (.super environment _ bodies) =>
      template.Roots tree environment ∧
        ∀ body ∈ bodies, environment.lineage.Covers body.nodes
  | _ => True

variable {template tree}

theorem aboutCallables_placed : Value.AboutCallables (template.Placed tree) := by
  intro value scalar
  cases value <;> first
    | exact True.intro
    | cases scalar

theorem Roots.within {environment : Environment} (roots : template.Roots tree environment)
    (scope : Scope) : template.Roots tree (environment.within scope) :=
  roots

/-- A rooted environment refers to a template by the path of its file, and its own loader is
the one for the directory of the file. -/
theorem Roots.refer {environment included : Environment} {filename : String}
    (roots : template.Roots tree environment)
    (referred : environment.refer filename = .ok included) :
    ∃ root, environment.loader = .directory tree root ∧ Path.isAbsolute root = true ∧
      tree.isFile (Path.join root filename) = true ∧
      included.lineage.identifier = Path.join root filename ∧
      included.loader = .directory tree (Loader.directoryOf (Path.join root filename)) := by
  obtain ⟨root, rooted, absolute, _⟩ := roots
  obtain ⟨derived, identifier, lineage, inherited, resolved, loaded, rfl⟩ :=
    Environment.exists_of_refer referred
  rw [rooted] at inherited resolved
  obtain ⟨present, rfl⟩ := Loader.directory_of_inherit inherited
  obtain rfl : Path.join root filename = identifier := by
    rw [← Loader.pathOf_eq_join]
    exact Except.ok.inj resolved
  exact ⟨root, rooted, absolute, present, Lineage.identifier_of_load loaded, rfl⟩

theorem Roots.referred {environment included : Environment} {filename : String}
    (roots : template.Roots tree environment)
    (referred : environment.refer filename = .ok included) : template.Roots tree included := by
  obtain ⟨root, _, absolute, present, identified, derived⟩ := roots.refer referred
  refine ⟨_, derived, ?_, .inl (by rw [identified])⟩
  exact Loader.isAbsolute_directoryOf (Path.isAbsolute_join filename absolute) present

/-- The macros of a template are closed over the environment in which they stand. -/
theorem Roots.closures {environment : Environment} (roots : template.Roots tree environment) :
    ∀ entry ∈ environment.closures, entry.2.Every (template.Placed tree) := by
  intro entry member
  obtain ⟨definition, present, rfl⟩ := List.mem_map.1 member
  have listed := List.mem_mergeSort.1 present
  have within := environment.lineage.within_has environment.lineage.layer List.mem_cons_self
  exact ⟨roots, Lineage.definition_within_iff.1 (within.macros definition listed)⟩

end Template

/-- Whether native functions return what holds of all their arguments. -/
def Natives.Keeps (holds : Value → Prop) (natives : Natives) : Prop :=
  ∀ name (arguments : Arguments), (∀ argument ∈ arguments.positional, argument.Every holds) →
    (∀ argument ∈ arguments.keyword, argument.2.Every holds) →
      (natives name arguments).Every holds

/-! ## The discipline of places -/

namespace Discipline

/-- The discipline of what is rendered for one lineage.  Only the vocabulary and the settings
depend on the lineage, and so the comparisons are the same for all of them. -/
def placing (template : Template) (tree : FileTree) (lineage : Lineage) : Discipline where
  World := Unit
  Later _ _ := True
  vocabulary := .stating lineage.Has
  store _ frames := frames.Holds (Value.Every (template.Placed tree))
  sink _ _ := True
  value _ value := value.Every (template.Placed tree)
  setting _ environment := template.Roots tree environment ∧ environment.lineage = lineage
  context _ _ := True
  scope _ _ := True
  imported _ environment := template.Roots tree environment
  later_refl _ := True.intro
  later_trans _ _ := True.intro
  sink_later _ _ := True.intro
  value_later _ every := every
  setting_later _ setting := setting
  context_later _ _ := True.intro
  scope_later _ _ := True.intro
  sink_unlimited _ := True.intro
  literal _ literal := Template.aboutCallables_placed.basic.every_literal literal
  list every := Value.every_list.2 every
  map every := Value.every_map.2 every
  member every selected := every.member selected
  item every selected := Template.aboutCallables_placed.basic.every_item every selected
  operation _ left right applied :=
    Template.aboutCallables_placed.basic.every_operation left right applied
  items _ _ every iterated := Template.aboutCallables_placed.basic.every_items every iterated
  bindings _ every given := every.bindings given
  within scope setting := ⟨setting.1.within scope, setting.2⟩
  context_setting _ := True.intro
  lenient _ := True.intro
  filter := by
    intro _ environment used target result arguments _ _ every positional keyword applied
    refine Expression.every_of_applyFilter (fun filter _ _ => ?_) applied
    exact Filter.every_of_aboutCallables Template.aboutCallables_placed filter _ every positional
      keyword
  closure := by
    rintro _ environment definition ⟨roots, rfl⟩ _ within
    exact ⟨roots, Lineage.definition_within_iff.1 (within True.intro)⟩
  rendered _ _ := True.intro
  refer _ setting referred := setting.1.referred referred
  write _ _ _ := True.intro
  writeBox _ _ _ := True.intro
  openChild _ held := ⟨(), True.intro, held.addFrame _, True.intro⟩
  bind _ _ every held := held.bind every _
  bindModule := by
    intro _ scope environment frames inContext _ roots held
    have placed := (roots.within
      (if inContext then frames.childScope scope else frames.detachedScope scope).1).closures
    refine ⟨(), True.intro, Store.Holds.bindAll ?_ placed _, placed⟩
    cases inContext with
    | true => exact held.addFrame _
    | false => exact held.addFrame _

variable {template : Template} {tree : FileTree} {lineage : Lineage} {absence : Absence}
variable {first second : Interpreter} {depth : Nat}

theorem placing_openChild (scope : Scope) :
    ((placing template tree lineage).comparison absence).Renders ()
      ((placing template tree lineage).correspondence absence).scope (Run.openChild scope)
      (Run.openChild scope) :=
  ((placing template tree lineage).correspondence absence).openChild
    (⟨True.intro, rfl⟩ : Shared (fun _ => True) scope scope)

/-- Definitions of a block that stand in the lineage are rendered where they stand. -/
theorem placing_renderBlock {environment : Environment} {bodies : List (Body Node)}
    (interprets : ((placing template tree environment.lineage).correspondence absence).Interprets
      first depth second depth)
    (roots : template.Roots tree environment)
    (covers : ∀ body ∈ bodies, environment.lineage.Covers body.nodes) :
    ((placing template tree environment.lineage).comparison absence).Renders ()
      ((placing template tree environment.lineage).comparison absence).done
      (Interpreter.renderBlock first environment depth bodies)
      (Interpreter.renderBlock second environment depth bodies) := by
  refine Correspondence.renderBlock_related interprets
    (fun body member => Lineage.allWithin_iff_covers.2 (covers body member)) ?_
  rintro body overridden rfl
  refine Correspondence.openBlock_related overridden ⟨⟨roots, rfl⟩, rfl⟩
    (placing_openChild environment.scope) True.intro ?_
  rintro _ inside _ ⟨⟨⟨roots, same⟩, rfl⟩, _⟩ _
  refine ⟨⟨roots, fun body member => ?_⟩, rfl⟩
  rw [same]
  exact covers body (List.mem_cons_of_mem _ member)

/-- Inside a call, what is rendered has its own lineage. -/
theorem placing_callValue {natives : Natives} (keeps : natives.Keeps (template.Placed tree))
    (interprets : ∀ lineage depth,
      ((placing template tree lineage).correspondence absence).Interprets first depth second
        depth)
    (callee : Expression) {value : Value} (placed : value.Every (template.Placed tree))
    {arguments others : Arguments}
    (given : ArgumentsRelated (Shared (Value.Every (template.Placed tree))) arguments others) :
    ((placing template tree lineage).comparison absence).Evaluates ()
      ((placing template tree lineage).correspondence absence).result
      (Interpreter.callValue natives first depth callee value arguments)
      (Interpreter.callValue natives second depth callee value others) := by
  match value with
  | .closure ⟨definition, environment⟩ =>
      refine Correspondence.callValue_closure_related
        ((placing template tree environment.lineage).correspondence absence) natives callee
        (Lineage.definition_within_iff.2 placed.covers) ⟨⟨placed.roots, rfl⟩, rfl⟩ given
        (related_enter definition.name fun _ => interprets environment.lineage _)
        (fun _ _ => placing_openChild environment.scope) ?_
      rintro error _ rfl
      rfl
  | .function (.native name) =>
      rcases Shared.arguments given with ⟨positional, keyword, rfl⟩
      rw [Interpreter.callValue_native, Interpreter.callValue_native]
      exact Comparison.related_ofExcept
        ((((placing template tree lineage).correspondence absence).checked
          ⟨keeps name arguments positional keyword, rfl⟩).attach
            fun _ => Correspondence.isError_of_checked)
  | .function (.super environment stored bodies) =>
      refine Correspondence.callValue_super_related
        ((placing template tree environment.lineage).correspondence absence) natives callee _ _
        ⟨⟨placed.1, rfl⟩, rfl⟩
        (placing_renderBlock (interprets environment.lineage stored) placed.1 placed.2) ?_
      rintro error _ rfl
      rfl
  | .nil => exact Comparison.related_throw rfl
  | .bool _ => exact Comparison.related_throw rfl
  | .number _ => exact Comparison.related_throw rfl
  | .string _ _ => exact Comparison.related_throw rfl
  | .list _ => exact Comparison.related_throw rfl
  | .map _ => exact Comparison.related_throw rfl
  | .error _ => exact Comparison.related_throw rfl

/-- The scopes with trees of their own.  Any scope may be released. -/
def placingRoots (template : Template) (tree : FileTree) (lineage : Lineage) (absence : Absence) :
    ((placing template tree lineage).correspondence absence).Roots :=
  Correspondence.rootsOfScopes _
    (fun _ => related_openWith fun _ held => ⟨(), True.intro, held.addFrame _, True.intro⟩) (by
      rintro _ scope _ _ _ ⟨_, rfl⟩ ⟨held, rfl⟩
      exact ⟨held.release scope, rfl⟩)

theorem placing_includeTemplate
    (interprets : ∀ lineage depth,
      ((placing template tree lineage).correspondence absence).Interprets first depth second
        depth)
    (environment : Environment) {included : Environment} (withContext : Bool)
    (roots : template.Roots tree included) :
    ((placing template tree lineage).comparison absence).Renders ()
      ((placing template tree lineage).comparison absence).done
      (Interpreter.includeTemplate first environment depth included withContext)
      (Interpreter.includeTemplate second environment depth included withContext) := by
  exact Correspondence.includeTemplate_related
    (placingRoots template tree included.lineage absence) withContext
    ⟨⟨roots, rfl⟩, rfl⟩ rfl included.lineage.within_has
    (related_enter _ fun _ => interprets included.lineage _)
    (fun _ _ _ => placing_openChild environment.scope)

/-- What is used by its name is rendered where it stands. -/
theorem placing_handles {natives : Natives} (keeps : natives.Keeps (template.Placed tree))
    (interprets : ∀ lineage depth,
      ((placing template tree lineage).correspondence absence).Interprets first depth second
        depth) :
    ((placing template tree lineage).correspondence absence).Handles
      (Interpreter.effects natives first) depth (Interpreter.effects natives second) depth where
  lookup := by
    rintro _ scope _ name ⟨_, rfl⟩ _
    rintro ⟨store, sink⟩ ⟨_, _⟩ ⟨⟨held, rfl⟩, ⟨_, rfl⟩⟩
    exact .inr ⟨(), True.intro, ⟨⟨held, rfl⟩, ⟨True.intro, rfl⟩⟩,
      checks_of_found fun _ found _ => held.lookup found⟩
  call := by
    rintro _ value _ arguments _ callee ⟨placed, rfl⟩ given
    exact placing_callValue keeps interprets callee placed given
  emit := by
    rintro _ environment _ value _ ⟨_, rfl⟩ ⟨⟨_, rfl⟩, _⟩
    exact related_write fun _ _ => True.intro
  block := by
    rintro _ environment _ name ⟨⟨⟨roots, rfl⟩, rfl⟩, _⟩ _
    refine placing_renderBlock (interprets environment.lineage depth) roots
      fun body member => ?_
    obtain ⟨layer, listed, found⟩ := List.mem_filterMap.1 member
    have within := environment.lineage.within_has layer listed
    exact Lineage.allWithin_iff_covers.1 (within.blocks _ (Table.mem_of_lookup found))
  inclusion := by
    rintro _ environment _ included _ withContext ⟨⟨_, rfl⟩, _⟩ ⟨roots, rfl⟩
    exact placing_includeTemplate interprets environment withContext roots
  depth _ := rfl

end Discipline

/-! ## Renderings in which every place is checked -/

namespace Interpreter

/-- The interpreter that renders nodes only in environments that pass a check for them, at
every nesting of uses, and else fails. -/
def surveyed (natives : Natives) (check : Environment → List Node → Bool) (alarm : TemplateError) :
    Nat → Interpreter
  | 0 => exhausted
  | bound + 1 =>
      let plain := ofEffects (effects natives (surveyed natives check alarm bound))
      { plain with
        render := fun environment depth nodes =>
          if check environment nodes then plain.render environment depth nodes
          else throw alarm }

end Interpreter

namespace Discipline

variable {template : Template} {tree : FileTree}

/-- A check that passes where nodes are rendered in their places makes no difference. -/
theorem surveyed_interprets {natives : Natives} (keeps : natives.Keeps (template.Placed tree))
    {check : Environment → List Node → Bool}
    (passes : ∀ environment nodes, template.Places tree environment nodes →
      check environment nodes = true)
    (alarm : TemplateError) (bound : Nat) (lineage : Lineage) (depth : Nat) :
    ((placing template tree lineage).correspondence .matched).Interprets
      (Interpreter.surveyed natives check alarm bound) depth
      (Interpreter.bounded natives bound) depth := by
  -- The lineage varies, because calls and inclusions go on in lineages of their own.
  induction bound generalizing lineage depth with
  | zero => exact Correspondence.interprets_exhausted (by simp [comparison]) depth depth
  | succ bound inductionHypothesis =>
      have handles : ((placing template tree lineage).correspondence .matched).Handles
          (Interpreter.effects natives (Interpreter.surveyed natives check alarm bound)) depth
          (Interpreter.effects natives (Interpreter.bounded natives bound)) depth :=
        placing_handles keeps inductionHypothesis
      have plain := handles.interprets
      refine ⟨plain.evaluate, ?_⟩
      rintro _ environment _ nodes inside ⟨⟨⟨roots, rfl⟩, rfl⟩, scopes⟩
      have passed := passes environment nodes ⟨roots, Lineage.allWithin_iff_covers.1 inside⟩
      simp only [Interpreter.surveyed, passed, if_true]
      exact plain.render inside ⟨⟨⟨roots, rfl⟩, rfl⟩, scopes⟩

/-- A template is rendered in its own environment, with its own loader. -/
theorem placing_render {first second : Interpreter}
    (interprets : ((placing template tree template.lineage).correspondence .matched).Interprets
      first 0 second 0)
    (roots : ∀ scope, template.Roots tree (template.environment scope)) (data : Scope) :
    ((placing template tree template.lineage).comparison .matched).Renders ()
      ((placing template tree template.lineage).comparison .matched).done
      (template.render first data) (template.render second data) := by
  refine Correspondence.render_related (placingRoots template tree template.lineage .matched)
    interprets rfl template.lineage.within_has ?_ ?_
  · rintro _ scope _ ⟨_, rfl⟩
    exact ⟨⟨roots scope, rfl⟩, rfl⟩
  · rintro _ scope _ ⟨_, rfl⟩
    exact related_modifyGet fun store sink held _ =>
      ⟨(), True.intro, held.bindAll (held _) scope, True.intro, True.intro⟩

end Discipline

namespace Template

variable {natives : Natives} {template : Template} {tree : FileTree} {root : String}

theorem roots_environment (rooted : template.loader = .directory tree root)
    (absolute : Path.isAbsolute root = true) (scope : Scope) :
    template.Roots tree (template.environment scope) :=
  ⟨root, rooted, absolute, .inr ⟨rfl, rfl⟩⟩

theorem surveyed_outcome_eq_execute? (rooted : template.loader = .directory tree root)
    (absolute : Path.isAbsolute root = true) (keeps : natives.Keeps (template.Placed tree))
    {data : Table Value} (placed : ∀ entry ∈ data, entry.2.Every (template.Placed tree))
    (limit : Option Nat) {check : Environment → List Node → Bool}
    (passes : ∀ environment nodes, template.Places tree environment nodes →
      check environment nodes = true)
    (alarm : TemplateError) (bound : Nat) :
    template.outcome? (Interpreter.surveyed natives check alarm bound) data limit =
      template.execute? natives bound data limit := by
  have rendered := Discipline.placing_render
    (Discipline.surveyed_interprets keeps passes alarm bound template.lineage 0)
    (roots_environment rooted absolute) (Store.empty.scopeOf data).1
  have stored : (Store.empty.scopeOf data).2.Holds (Value.Every (template.Placed tree)) :=
    Store.holds_scopeOf placed
  have start : ((Discipline.placing template tree template.lineage).comparison .matched).state ()
      ⟨(Store.empty.scopeOf data).2, ⟨#[], limit⟩⟩
      ⟨(Store.empty.scopeOf data).2, ⟨#[], limit⟩⟩ :=
    ⟨⟨stored, rfl⟩, ⟨True.intro, rfl⟩⟩
  have ended := Discipline.outcome_of_ends (Discipline.ends_of_related rendered start)
  rcases ended with ⟨_, excused⟩ | ⟨same, _⟩
  · cases excused
  · exact congrArg (Option.map _) same

/-- With a loader whose root is absolute, a name in a tag is relative to the directory of the
most derived template of the lineage in which the tag stands, or to the root where that is
the lineage of the rendering itself: a check that nodes are rendered in such environments
never fails.  So it is relative to the template that contains the tag if that stands in the
same directory.  Each template that is extended is read with the loader for its own directory,
so that the name of its own parent is relative to it: a check of that never fails either. -/
theorem references_resolved (rooted : template.loader = .directory tree root)
    (absolute : Path.isAbsolute root = true) (keeps : natives.Keeps (template.Placed tree))
    {data : Table Value} (placed : ∀ entry ∈ data, entry.2.Every (template.Placed tree))
    (limit : Option Nat) :
    (∀ check : Environment → List Node → Bool,
      (∀ environment nodes, template.Places tree environment nodes →
        check environment nodes = true) →
      ∀ alarm bound,
        template.outcome? (Interpreter.surveyed natives check alarm bound) data limit =
          template.execute? natives bound data limit) ∧
    (∀ environment nodes, template.Places tree environment nodes →
      ∃ directory,
        (directory = Loader.directoryOf environment.lineage.identifier ∨
          directory = root ∧ environment.lineage = template.lineage) ∧
        (∀ name, environment.loader.resolve name = .ok (Path.join directory name) ∧
          ∀ included, environment.refer name = .ok included →
            included.lineage.identifier = Path.join directory name ∧
              included.loader =
                .directory tree (Loader.directoryOf (Path.join directory name))) ∧
        ∀ described ∈ Node.allStatements nodes,
          ∃ layer ∈ environment.lineage.layers, described ∈ layer.statements ∧
            (Loader.directoryOf layer.identifier = directory → ∀ name,
              environment.loader.resolve name =
                .ok (Path.join (Loader.directoryOf layer.identifier) name))) ∧
    ∀ check : Loader → String → Bool,
      (∀ identifier,
        check (.directory tree (Loader.directoryOf identifier)) identifier = true) →
      ∀ alarm config statements depth directory identifier source,
        check (.directory tree directory) identifier = true →
          Lineage.surveyed check alarm config statements depth (.directory tree directory)
              identifier source =
            Lineage.ofSource config statements depth (.directory tree directory) identifier
              source := by
  refine ⟨fun check => surveyed_outcome_eq_execute? rooted absolute keeps placed limit, ?_,
    fun check passes alarm _ _ depth _ _ _ =>
      Lineage.surveyed_eq_ofSource passes alarm depth⟩
  intro environment nodes places
  obtain ⟨directory, loader, _, origin⟩ := places.roots
  have resolved : ∀ name,
      environment.loader.resolve name = .ok (Path.join directory name) := by
    intro name
    rw [loader, ← Loader.pathOf_eq_join]
    rfl
  refine ⟨directory, ?_, fun name => ⟨resolved name, fun included referred => ?_⟩, ?_⟩
  · refine origin.imp_right fun ⟨same, lineage⟩ => ⟨?_, lineage⟩
    rw [loader, rooted] at same
    exact (Loader.directory.inj same).2
  · obtain ⟨other, same, _, _, identified, derived⟩ := places.roots.refer referred
    obtain rfl : directory = other := (Loader.directory.inj (loader.symm.trans same)).2
    exact ⟨identified, derived⟩
  · intro described inside
    obtain ⟨layer, listed, stands⟩ := places.covers described inside
    exact ⟨layer, listed, stands, fun same => same ▸ resolved⟩

/-- A template that extends another one in a directory below, which includes a template. -/
def inheriting : Template where
  identifier := "/t/page"
  lineage :=
    ⟨⟨"/t/page", [.statement "extends" (.parent "sub/base") .start], [], []⟩,
      [⟨"/t/sub/base",
        [.statement "include" (.inclusion (.literal (.string "x") .start) false true) .start],
        [], []⟩]⟩
  config := .default
  registries := .standard
  loader := .directory .empty "/t"

/-- The name in the extended template is not relative to the directory of that template. -/
theorem references_resolved_inheriting :
    inheriting.loader = .directory .empty "/t" ∧ Path.isAbsolute "/t" = true ∧
      Natives.Keeps (inheriting.Placed .empty) (fun _ _ => .nil) ∧
      ∃ layer ∈ inheriting.lineage.layers,
        .inclusion (.literal (.string "x") .start) false true ∈ layer.statements ∧
          Loader.directoryOf layer.identifier = "/t/sub" ∧
          (inheriting.environment default).loader.resolve "x" = .ok "/t/x" := by
  have absolute : Path.isAbsolute "/t" = true := by decide
  have keeps : Natives.Keeps (inheriting.Placed .empty) (fun _ _ => .nil) :=
    fun _ _ _ _ => True.intro
  have empty : ∀ entry ∈ ([] : Table Value), entry.2.Every (inheriting.Placed .empty) :=
    fun _ member => by cases member
  have resolved := references_resolved (rfl : inheriting.loader = .directory .empty "/t")
    absolute keeps empty none
  obtain ⟨directory, origin, resolves⟩ := resolved.2.1 (inheriting.environment default) []
    ⟨roots_environment rfl absolute default, fun _ member => by cases member⟩
  obtain rfl : directory = "/t" := by
    rcases origin with same | ⟨same, _⟩
    · exact same.trans (by decide)
    · exact same
  exact ⟨rfl, absolute, keeps, _, List.mem_cons_of_mem _ List.mem_cons_self,
    List.mem_cons_self, by decide, (resolves.1 "x").1⟩

end Template

end TemplateEngine

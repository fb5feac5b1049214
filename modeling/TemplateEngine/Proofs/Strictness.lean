import TemplateEngine.Proofs.Likeness.Stores
import TemplateEngine.Proofs.Nesting
import TemplateEngine.Proofs.Scanning

/-!
# Strict mode

In strict mode an undefined name is an error.  Nothing else depends on it, and no error
becomes an ordinary value again.  So whatever succeeds in strict mode succeeds without it in
the same way: a template is read alike, its rendering writes the same, and what it binds
differs in nothing but the configurations that macros have recorded.
-/

namespace TemplateEngine

/-! ## Reading a template -/

namespace Token

theorem layout_lenient (config : Config) (previous : Option Lexeme) (lexemes : List Lexeme) :
    layout config.lenient previous lexemes = layout config previous lexemes := by
  induction lexemes generalizing previous with
  | nil => rfl
  | cons lexeme rest inductionHypothesis =>
      have same : layoutLexeme config.lenient previous rest.head? lexeme =
          layoutLexeme config previous rest.head? lexeme := by
        cases lexeme <;> rfl
      rw [layout, layout, same, inductionHypothesis]

theorem tokenize_lenient (config : Config) (source : String) :
    tokenize config.lenient source = tokenize config source := by
  have same : layout config.lenient none = layout config none :=
    funext (layout_lenient config none)
  rw [tokenize_eq, tokenize_eq, same]
  rfl

end Token

namespace SourceSetting

/-- The setting in which undefined names are allowed. -/
def lenient (setting : SourceSetting) : SourceSetting :=
  { setting with config := setting.config.lenient }

end SourceSetting

namespace SourceReader

variable (setting : SourceSetting)

/-- Reading a node does not depend on strict mode, if the reading of bodies does not. -/
theorem node_lenient (bound : Nat) (bodies : BodyReader) :
    node setting.lenient bound bodies = node setting bound bodies :=
  rfl

theorem nodesUntil_lenient (bound : Nat) :
    nodesUntil setting.lenient bound = nodesUntil setting bound := by
  induction bound with
  | zero => rfl
  | succ bound inductionHypothesis =>
      funext names start
      simp only [nodesUntil, inductionHypothesis, node_lenient]
      rfl

theorem nodesToEnd_lenient (bound : Nat) :
    nodesToEnd setting.lenient bound = nodesToEnd setting bound := by
  induction bound with
  | zero => rfl
  | succ bound inductionHypothesis =>
      simp only [nodesToEnd, inductionHypothesis, nodesUntil_lenient, node_lenient]
      rfl

end SourceReader

namespace Lineage

theorem read_lenient (config : Config) (statements : Registry StatementKind) (loader : Loader)
    (identifier source : String) (loadParent : String → Except TemplateError Lineage) :
    read config.lenient statements loader identifier source loadParent =
      read config statements loader identifier source loadParent := by
  have nodes : ∀ (tokens : List Token) (finish : Position),
      SourceReader.nodesToEnd
          ⟨identifier, config.lenient, loader, statements, finish, loadParent⟩ tokens.length =
        SourceReader.nodesToEnd
          ⟨identifier, config, loader, statements, finish, loadParent⟩ tokens.length :=
    fun tokens finish => SourceReader.nodesToEnd_lenient
      ⟨identifier, config, loader, statements, finish, loadParent⟩ tokens.length
  simp only [read, Token.tokenize_lenient, nodes]

theorem ofSource_lenient (config : Config) (statements : Registry StatementKind)
    (depth : Nat) :
    ofSource config.lenient statements depth = ofSource config statements depth := by
  induction depth with
  | zero =>
      funext loader identifier source
      exact read_lenient config statements loader identifier source _
  | succ depth inductionHypothesis =>
      funext loader identifier source
      rw [ofSource, ofSource, inductionHypothesis, read_lenient]

theorem load_lenient (config : Config) (statements : Registry StatementKind)
    (loader : Loader) (identifier : String) :
    load config.lenient statements loader identifier =
      load config statements loader identifier := by
  rw [load, load, ofSource_lenient]

end Lineage

/-! ## Environments -/

namespace Environment

/-- Whether an environment is another one, or that one without strict mode. -/
def Relaxes (first second : Environment) : Prop :=
  second = first ∨ second = first.lenient

namespace Relaxes

variable {first second : Environment}

theorem refl (environment : Environment) : environment.Relaxes environment :=
  .inl rfl

theorem lenient (relaxes : first.Relaxes second) : first.lenient.Relaxes second.lenient := by
  rcases relaxes with rfl | rfl
  · exact refl _
  · exact .inl rfl

theorem within (relaxes : first.Relaxes second) (scope : Scope) :
    (first.within scope).Relaxes (second.within scope) := by
  rcases relaxes with rfl | rfl
  · exact refl _
  · exact .inr rfl

theorem scope_eq (relaxes : first.Relaxes second) : second.scope = first.scope := by
  rcases relaxes with rfl | rfl <;> rfl

theorem lineage_eq (relaxes : first.Relaxes second) : second.lineage = first.lineage := by
  rcases relaxes with rfl | rfl <;> rfl

theorem registries_eq (relaxes : first.Relaxes second) :
    second.registries = first.registries := by
  rcases relaxes with rfl | rfl <;> rfl

theorem autoescape_eq (relaxes : first.Relaxes second) :
    second.config.autoescape = first.config.autoescape := by
  rcases relaxes with rfl | rfl <;> rfl

theorem strictUndefined (relaxes : first.Relaxes second)
    (lenient : first.config.strictUndefined = false) :
    second.config.strictUndefined = false := by
  rcases relaxes with rfl | rfl
  · exact lenient
  · rfl

/-- The same template is found and read without strict mode. -/
theorem refer_lenient (environment : Environment) (name : String) :
    environment.lenient.refer name = (environment.refer name).map Environment.lenient := by
  unfold Environment.refer Environment.lenient
  simp only [Lineage.load_lenient]
  cases environment.loader.inherit name with
  | error error => rfl
  | ok derived =>
      cases (environment.loader.resolve name).mapError TemplateError.loader with
      | error error => rfl
      | ok identifier =>
          cases loaded : Lineage.load environment.config environment.registries.statements
              derived identifier with
          | error error => simp only [bind, Except.bind, loaded]; rfl
          | ok lineage => simp only [bind, Except.bind, loaded]; rfl

/-- The same templates are referred to, whatever the mode. -/
theorem refer {fails : TemplateError → TemplateError → Prop}
    (failsRefl : ∀ error, fails error error) (relaxes : first.Relaxes second) (name : String) :
    Alike fails Relaxes (first.refer name) (second.refer name) := by
  rcases relaxes with rfl | rfl
  · exact Alike.refl failsRefl refl _
  · rw [refer_lenient]
    cases first.refer name with
    | error error => exact failsRefl error
    | ok included => exact .inr rfl

/-- The macros of a template, closed over environments that differ in nothing else. -/
theorem closures (relaxes : first.Relaxes second) :
    EntriesRelated (Value.Like Relaxes) first.closures second.closures := by
  unfold Environment.closures
  rw [relaxes.lineage_eq]
  refine List.forall₂_map_left_iff.2 (List.forall₂_map_right_iff.2 ?_)
  exact List.forall₂_same.2 fun entry _ => ⟨rfl, .closure entry.2 relaxes⟩

end Relaxes

end Environment

/-! ## The comparison with a lenient run -/

namespace Comparison

/-- The comparison of a run with one that differs from it in strict mode at most.  Where the
first one fails, nothing is asked of the other one. -/
def relaxing : Comparison where
  World := Unit
  Later _ _ := True
  absence := .matched
  forgives := True
  store _ := Store.Like Environment.Relaxes
  sink _ := Eq
  fault _ _ := True
  failure first second := first.isNotFound = second.isNotFound
  later_refl _ := True.intro
  later_trans _ _ := True.intro
  sink_later _ same := same
  sink_unlimited _ := rfl
  fault_refl _ := True.intro
  failure_refl _ := rfl
  failure_evaluation _ := rfl
  failure_wrapped _ same := same
  failure_isNotFound same := same

variable {ε α : Type} {fails : ε → ε → Prop} {gives : Unit → α → α → Prop}

/-- Changes of alike stores that are alike. -/
theorem relaxing_modifyGet {change change' : RunState → α × RunState}
    (changed : ∀ {first second : Store} (sink : Sink),
      first.Like Environment.Relaxes second →
        (change ⟨first, sink⟩).2.store.Like Environment.Relaxes
            (change' ⟨second, sink⟩).2.store ∧
          (change ⟨first, sink⟩).2.sink = (change' ⟨second, sink⟩).2.sink ∧
            gives () (change ⟨first, sink⟩).1 (change' ⟨second, sink⟩).1) :
    relaxing.Related () fails gives (modifyGet change) (modifyGet change') := by
  rintro ⟨first, sink⟩ ⟨second, _⟩ ⟨stores, rfl⟩
  rcases changed sink stores with ⟨stores, sinks, given⟩
  exact .inr ⟨(), True.intro, ⟨stores, sinks⟩, given⟩

theorem relaxing_openWith {make : Store → Scope × Store}
    (made : ∀ {first second : Store}, first.Like Environment.Relaxes second →
      (make first).1 = (make second).1 ∧
        (make first).2.Like Environment.Relaxes (make second).2) :
    relaxing.Related () fails (fun _ => Eq) (Run.openWith make) (Run.openWith make) :=
  relaxing_modifyGet fun _ stores => ⟨(made stores).2, rfl, (made stores).1⟩

theorem relaxing_bindAll (scope : Scope) {entries others : List (String × Value)}
    (alike : EntriesRelated (Value.Like Environment.Relaxes) entries others) :
    relaxing.Related () fails relaxing.done (Run.bindAll scope entries)
      (Run.bindAll scope others) :=
  relaxing_modifyGet fun _ stores => ⟨stores.bindAll scope alike, rfl, True.intro⟩

theorem relaxing_write (text : String) :
    relaxing.Renders () relaxing.done (Run.write text) (Run.write text) := by
  rintro ⟨first, sink⟩ ⟨second, _⟩ ⟨stores, rfl⟩
  refine .inr ?_
  change relaxing.Ends _ _ _ (if sink.takes text then _ else _)
    (if sink.takes text then _ else _)
  split
  · exact ⟨(), True.intro, ⟨stores, rfl⟩, True.intro⟩
  · exact ⟨(), True.intro, ⟨stores, rfl⟩, rfl⟩

end Comparison

namespace Correspondence

open Comparison Environment

/-- Nothing is asked of errors of evaluations. -/
private theorem anyFault {α β : Type} {fails : EvalError → EvalError → Prop}
    {gives : α → β → Prop} {first : Except EvalError α} {second : Except EvalError β}
    (alike : Alike fails gives first second) :
    Alike Comparison.relaxing.fault gives first second :=
  alike.weaken fun _ _ _ => True.intro

/-- What corresponds in a run and a run without strict mode. -/
def relaxing : Correspondence Comparison.relaxing where
  vocabulary := .unrestricted
  value _ := Value.Like Relaxes
  setting _ := Relaxes
  context _ := Relaxes
  scope _ := Eq
  imported _ := Relaxes
  value_later _ like := like
  setting_later _ relaxes := relaxes
  context_later _ relaxes := relaxes
  scope_later _ same := same
  literal _ literal := .refl Relaxes.refl literal.value
  list alike := .list (Value.likeItems_iff.2 alike)
  map alike := .map (Value.likeEntries_iff.2 alike)
  checked like := anyFault like.checked
  isTrue like := like.isTrue_eq
  display like := like.display_eq
  member name like := like.member name
  item like keys := like.item keys
  negation like := anyFault like.negation
  operation operator left right := anyFault (left.operation operator right)
  items targets iterable like := anyFault (like.items targets iterable)
  bindings targets like := anyFault (like.bindings targets)
  within := by
    rintro _ first second scope _ relaxes rfl
    exact relaxes.within scope
  context_setting relaxes := relaxes
  lenient relaxes := relaxes.lenient
  undefined := by
    intro _ first second error relaxes
    unfold Expression.undefined
    split
    · exact .inl ⟨True.intro, error, rfl⟩
    · rename_i lenient
      have lenient := relaxes.strictUndefined (Bool.eq_false_iff.2 lenient)
      rw [if_neg (by simp [lenient])]
      exact .inr .nil
  filter := by
    intro _ first second used value other arguments others relaxes _ like given
    unfold Expression.applyFilter
    rw [relaxes.registries_eq, relaxes.autoescape_eq]
    split
    · rename_i filter _
      exact anyFault (filter.like_apply first.config.autoescape like given).checked
    · exact True.intro
  test := by
    intro _ first second value other arguments others used negated relaxes like given
    unfold Expression.applyTest
    rw [relaxes.registries_eq]
    split
    · rename_i predicate _
      have answers := anyFault (predicate.holds_alike like given)
      generalize predicate.holds value arguments = answer at answers
      generalize predicate.holds other others = otherAnswer at answers
      cases answer <;> cases otherAnswer <;> cases answers
      · exact True.intro
      · exact .bool _
    · exact True.intro
  closure relaxes _ _ := .closure _ relaxes
  rendered := by
    rintro _ first second text _ relaxes ⟨sink, _, rfl, rfl, rfl⟩
    unfold Interpreter.renderedValue
    rw [relaxes.autoescape_eq]
    exact .string _ _
  refer name _ _ relaxes := relaxes.refer Comparison.relaxing.failure_refl name
  imported_lineage relaxes := relaxes.lineage_eq.symm
  write _ _ _ := relaxing_write _
  writeBox _ text _ := relaxing_write text
  openChild := by
    rintro _ scope _ rfl
    exact relaxing_openWith fun stores => stores.childScope scope
  bind := by
    rintro _ scope _ name value other rfl _ like
    exact relaxing_modifyGet fun _ stores => ⟨stores.bind scope name like, rfl, True.intro⟩
  bindModule := by
    rintro _ scope _ first second withContext rfl relaxes
    have opened : Comparison.relaxing.Renders () (fun _ => Eq)
        (Run.openWith fun store =>
          if withContext.getD true then store.childScope scope else store.detachedScope scope)
        (Run.openWith fun store =>
          if withContext.getD true then store.childScope scope
          else store.detachedScope scope) := by
      apply relaxing_openWith
      intro firstStore secondStore stores
      split
      · exact stores.childScope scope
      · exact stores.detachedScope scope
    apply opened.bind
    rintro _ _ moduleScope _ rfl
    have closures := (relaxes.within moduleScope).closures
    apply (relaxing_bindAll moduleScope closures).bind
    intro _ _ _ _ _
    exact related_pure closures

/-! ### Uses by name -/

variable {natives : Natives} {first second : Environment} {interpreter : Interpreter}

theorem relaxing_enter (depth : Nat) (name : String)
    (interprets : ∀ inner, relaxing.Interprets interpreter inner interpreter inner) :
    Comparison.relaxing.Renders ()
      (fun _ inner other => relaxing.Interprets interpreter inner interpreter other)
      (Interpreter.enter depth name) (Interpreter.enter depth name) := by
  unfold Interpreter.enter
  split
  · exact related_throw rfl
  · exact related_pure (interprets _)

theorem relaxing_openChild (same : second.scope = first.scope) :
    Comparison.relaxing.Renders () (fun _ => Eq) (Run.openChild first.scope)
      (Run.openChild second.scope) :=
  relaxing.openChild same.symm

theorem relaxing_openBlock (relaxes : first.Relaxes second) (depth : Nat)
    (overridden : List (Body Node)) :
    Comparison.relaxing.Renders () relaxing.Environments
      (Interpreter.openBlock first depth overridden)
      (Interpreter.openBlock second depth overridden) := by
  apply openBlock_related overridden relaxes (relaxing_openChild relaxes.scope_eq) True.intro
  rintro _ inner otherInner ⟨relaxes, _⟩ _
  exact .super depth overridden relaxes

theorem relaxing_renderBlock {depth : Nat}
    (interprets : relaxing.Interprets interpreter depth interpreter depth)
    (relaxes : first.Relaxes second) (bodies : List (Body Node)) :
    Comparison.relaxing.Renders () Comparison.relaxing.done
      (Interpreter.renderBlock interpreter first depth bodies)
      (Interpreter.renderBlock interpreter second depth bodies) :=
  renderBlock_related interprets (fun _ _ => Node.allWithin_unrestricted _)
    fun _ overridden _ => relaxing_openBlock relaxes depth overridden

/-- Calls of alike values with alike arguments have alike values. -/
theorem relaxing_callValue (uniform : natives.Uniform Relaxes)
    (interprets : ∀ inner, relaxing.Interprets interpreter inner interpreter inner)
    (depth : Nat) (callee : Expression) {value other : Value} {arguments others : Arguments}
    (like : Value.Like Relaxes value other)
    (given : ArgumentsRelated (Value.Like Relaxes) arguments others) :
    Comparison.relaxing.Evaluates () relaxing.result
      (Interpreter.callValue natives interpreter depth callee value arguments)
      (Interpreter.callValue natives interpreter depth callee other others) := by
  cases like with
  | closure definition relaxes =>
      exact relaxing.callValue_closure_related natives callee
        (Definition.within_unrestricted definition) relaxes given
        (relaxing_enter depth definition.name interprets)
        (fun _ _ => relaxing_openChild relaxes.scope_eq) fun _ _ _ => True.intro
  | native name =>
      rw [Interpreter.callValue_native, Interpreter.callValue_native]
      exact related_ofExcept
        ((anyFault (uniform name given).checked).attach fun _ => isError_of_checked)
  | super stored bodies relaxes =>
      exact relaxing.callValue_super_related natives callee _ _ relaxes
        (relaxing_renderBlock (interprets stored) relaxes bodies) fun _ _ _ => True.intro
  | _ => exact related_throw True.intro

/-- The scopes with trees of their own.  Any scope may be released. -/
def relaxingRoots : relaxing.Roots :=
  relaxing.rootsOfScopes (fun _ => relaxing_openWith fun stores => stores.newScope) (by
    rintro _ scope _ _ _ rfl stores
    exact stores.release scope)

theorem relaxing_includeTemplate
    (interprets : ∀ inner, relaxing.Interprets interpreter inner interpreter inner)
    (depth : Nat) {included other : Environment} (withContext : Bool)
    (same : second.scope = first.scope) (relaxes : included.Relaxes other) :
    Comparison.relaxing.Renders () Comparison.relaxing.done
      (Interpreter.includeTemplate interpreter first depth included withContext)
      (Interpreter.includeTemplate interpreter second depth other withContext) := by
  have lineages := relaxes.lineage_eq
  have entered := relaxing_enter depth included.lineage.identifier interprets
  refine includeTemplate_related relaxingRoots withContext relaxes
    lineages.symm (Lineage.within_unrestricted _) ?_ ?_
  · rwa [lineages]
  · exact fun _ _ _ => relaxing_openChild same

/-- What is used by its name has alike effects without strict mode. -/
theorem relaxing_handles (uniform : natives.Uniform Relaxes)
    (interprets : ∀ inner, relaxing.Interprets interpreter inner interpreter inner)
    (depth : Nat) :
    relaxing.Handles (Interpreter.effects natives interpreter) depth
      (Interpreter.effects natives interpreter) depth where
  lookup := by
    rintro _ scope _ name rfl _
    rintro ⟨first, sink⟩ ⟨second, _⟩ ⟨stores, rfl⟩
    exact .inr ⟨(), True.intro, ⟨stores, rfl⟩,
      Correspondence.checks_of_values (stores.lookup scope name)⟩
  call callee like given := relaxing_callValue uniform interprets depth callee like given
  emit := by
    rintro _ firstEnvironment secondEnvironment value other relaxes ⟨like, _⟩
    change Comparison.relaxing.Renders () _ (Run.write _) (Run.write _)
    rw [relaxes.autoescape_eq, like.writtenText_eq]
    exact relaxing_write _
  block := by
    rintro _ firstEnvironment secondEnvironment name ⟨relaxes, _⟩ _
    change Comparison.relaxing.Renders () _ (Interpreter.renderBlock _ _ _ _)
      (Interpreter.renderBlock _ _ _ _)
    rw [relaxes.lineage_eq]
    exact relaxing_renderBlock (interprets depth) relaxes _
  inclusion withContext environments relaxes :=
    relaxing_includeTemplate interprets depth withContext environments.setting.scope_eq relaxes
  depth _ := rfl

/-- At every bound, interpretations with and without strict mode are alike. -/
theorem relaxing_interprets (uniform : natives.Uniform Relaxes) (bound depth : Nat) :
    relaxing.Interprets (Interpreter.bounded natives bound) depth
      (Interpreter.bounded natives bound) depth := by
  induction bound generalizing depth with
  | zero => exact interprets_exhausted (by simp [Comparison.relaxing]) depth depth
  | succ bound inductionHypothesis =>
      exact (relaxing_handles uniform inductionHypothesis depth).interprets

end Correspondence

/-! ## Renderings -/

namespace Template

/-- The template read by a configuration without strict mode. -/
def lenient (template : Template) : Template :=
  { template with config := template.config.lenient }

variable (config : Config) (registries : Registries) (loader : Loader)

/-- Strict mode has no part in the reading of templates. -/
theorem load_lenient (identifier : String) :
    load identifier config.lenient registries loader =
      (load identifier config registries loader).map lenient := by
  unfold load
  rw [Lineage.load_lenient]
  cases Lineage.load config registries.statements loader identifier <;> rfl

theorem ofSource_lenient (identifier source : String) :
    ofSource identifier source config.lenient registries loader =
      (ofSource identifier source config registries loader).map lenient := by
  unfold ofSource
  rw [Lineage.ofSource_lenient]
  cases Lineage.ofSource config registries.statements Lineage.maxDepth loader identifier
    source <;> rfl

variable {natives : Natives} (template : Template) (bound : Nat)

theorem renderIn_relaxing (uniform : natives.Uniform Environment.Relaxes) (scope : Scope)
    (depth : Nat) :
    Comparison.relaxing.Renders () Comparison.relaxing.done
      (template.renderIn (Interpreter.bounded natives bound) scope depth)
      (template.lenient.renderIn (Interpreter.bounded natives bound) scope depth) :=
  Correspondence.execute_related (Correspondence.relaxing_interprets uniform bound depth)
    ⟨.inr rfl, rfl⟩ rfl (Lineage.within_unrestricted _)

theorem render_relaxing (uniform : natives.Uniform Environment.Relaxes) (data : Scope) :
    Comparison.relaxing.Renders () Comparison.relaxing.done
      (template.render (Interpreter.bounded natives bound) data)
      (template.lenient.render (Interpreter.bounded natives bound) data) := by
  refine Correspondence.render_related Correspondence.relaxingRoots
    (Correspondence.relaxing_interprets uniform bound 0) rfl (Lineage.within_unrestricted _) ?_ ?_
  · rintro _ scope _ rfl
    exact .inr rfl
  · rintro _ scope _ rfl
    exact Comparison.relaxing_modifyGet fun _ stores =>
      ⟨stores.bindAll scope (stores.bindings data.frame), rfl, True.intro⟩

/-- What succeeds ends in the same way without strict mode. -/
theorem ends_of_relaxing {first second : Run TemplateError Unit} {store : Store} {sink : Sink}
    {after : RunState}
    (related : Comparison.relaxing.Renders () Comparison.relaxing.done first second)
    (succeeded : first ⟨store, sink⟩ = some (.ok (), after)) :
    ∃ final, second ⟨store, sink⟩ = some (.ok (), ⟨final, after.sink⟩) ∧
      after.store.Like Environment.Relaxes final := by
  rcases related ⟨store, sink⟩ ⟨store, sink⟩ ⟨.refl Environment.Relaxes.refl, rfl⟩ with
    ⟨_, error, failed, found⟩ | ended
  · rw [succeeded] at found
    cases found
  · rw [succeeded] at ended
    match found : second ⟨store, sink⟩ with
    | none =>
        rw [found] at ended
        exact ended.elim
    | some (.error error, _) =>
        rw [found] at ended
        rcases ended with ⟨_, _, _, impossible⟩
        exact impossible.elim
    | some (.ok (), ⟨final, written⟩) =>
        rw [found] at ended
        rcases ended with ⟨_, _, ⟨stores, sinks⟩, _⟩
        cases sinks
        exact ⟨final, rfl, stores⟩

/-- Strict mode is conservative.  A template is read in the same way without it, also
where it is referred to.  A rendering that succeeds in strict mode succeeds without it: it
writes the same, and the scopes that it leaves behind have the same bindings, but for the
configurations that macros have recorded. -/
theorem lenient_conservative (uniform : natives.Uniform Environment.Relaxes) :
    (∀ config registries loader identifier,
      load identifier config.lenient registries loader =
        (load identifier config registries loader).map lenient ∧
      ∀ source, ofSource identifier source config.lenient registries loader =
        (ofSource identifier source config registries loader).map lenient) ∧
    ∀ (template : Template) (bound : Nat),
      (∀ scope depth store sink after,
        template.renderIn (Interpreter.bounded natives bound) scope depth ⟨store, sink⟩ =
            some (.ok (), after) →
          ∃ final,
            template.lenient.renderIn (Interpreter.bounded natives bound) scope depth
                ⟨store, sink⟩ = some (.ok (), ⟨final, after.sink⟩) ∧
              after.store.Like Environment.Relaxes final) ∧
      ∀ data limit text,
        template.execute? natives bound data limit = some (.ok (), text) →
          template.lenient.execute? natives bound data limit = some (.ok (), text) := by
  refine ⟨fun config registries loader identifier =>
    ⟨load_lenient config registries loader identifier,
      ofSource_lenient config registries loader identifier⟩, fun template bound => ⟨?_, ?_⟩⟩
  · intro scope depth store sink after
    exact ends_of_relaxing (renderIn_relaxing template bound uniform scope depth)
  · intro data limit text succeeded
    rw [execute?_eq_outcome?] at succeeded ⊢
    rcases exists_of_outcome? succeeded with ⟨after, ran, written⟩
    rcases ends_of_relaxing (render_relaxing template bound uniform _) ran with
      ⟨final, ended, _⟩
    rw [outcome?_of_render ended, written]

/-- A template in strict mode that gives a name without a value, with a default, to a macro
that writes it between two stars. -/
def defaulting : Template where
  identifier := "page"
  lineage :=
    let body : Body Node :=
      ⟨[.data "*" ⟨false, false⟩ .start, .output ⟨.name "text" .start, none, none, .start⟩,
        .data "*" ⟨false, false⟩ .start], none, .start⟩
    let argument : Expression :=
      .filter (.name "missing" .start) "default" ⟨[.literal (.string "x") .start], []⟩ .start
    ⟨⟨"page",
      [.statement "macro" (.definition ⟨"star", [("text", none)], body, .start⟩) .start,
        .output ⟨.call (.name "star" .start) ⟨[argument], []⟩ .start, none, none, .start⟩],
      [], []⟩, []⟩
  config := { Config.default with strictUndefined := true }
  registries := .standard
  loader := .empty

/-- What it writes in strict mode it writes without it. -/
theorem lenient_conservative_defaulting :
    Natives.standard.Uniform Environment.Relaxes ∧
      defaulting.execute? Natives.standard 2 [] none = some (.ok (), "*x*") ∧
      defaulting.lenient.execute? Natives.standard 2 [] none = some (.ok (), "*x*") := by
  have written : defaulting.execute? Natives.standard 2 [] none = some (.ok (), "*x*") := rfl
  exact ⟨Natives.standard_uniform, written,
    ((lenient_conservative Natives.standard_uniform).2 defaulting 2).2 [] none "*x*" written⟩

end Template

end TemplateEngine

import TemplateEngine.Proofs.Correspondence.Interpretation
import TemplateEngine.Proofs.Matching.Stores

/-!
# Matching renderings

Two renderings of the same nodes match if they start in matching stores and in environments
that stand for each other: their stores match at the end, both write alike or fail with
errors that are told alike.  Plain and guarded scopes have a correspondence each.  Calls
lead from one to the other, as a macro is rendered in scopes of the kind of its own.

What is left open is how a block is rendered in guarded scopes, because there the two
renderings may have different definitions of it.
-/

namespace TemplateEngine

/-! ## Errors as they are told -/

namespace TemplateError

/-- An error of which nothing is left of the values that it is about but how they are
described. -/
def told : TemplateError → TemplateError
  | .evaluation error => .evaluation (.reported error.message)
  | .wrapped site source => .wrapped site source.told
  | .loaderInherit filename origin source => .loaderInherit filename origin source.told
  | .load filename source => .load filename source.told
  | error => error

theorem message_told (error : TemplateError) : error.told.message = error.message := by
  induction error with
  | evaluation error => rfl
  | wrapped site source inductionHypothesis =>
      exact congrArg (site.text ++ ": " ++ ·) inductionHypothesis
  | loaderInherit filename origin source inductionHypothesis =>
      exact congrArg (s!"Failed to inherit loader from '{filename}' ({origin}): " ++ ·)
        inductionHypothesis
  | load filename source inductionHypothesis =>
      exact congrArg (s!"Unable to load template '{filename}': " ++ ·) inductionHypothesis
  | _ => rfl

theorem isNotFound_told (error : TemplateError) : error.told.isNotFound = error.isNotFound := by
  induction error with
  | evaluation error => rfl
  | wrapped site source inductionHypothesis => exact inductionHypothesis
  | loaderInherit filename origin source inductionHypothesis => exact inductionHypothesis
  | load filename source inductionHypothesis => exact inductionHypothesis
  | loader error => rfl
  | _ => rfl

/-- Errors that are told alike are worded alike. -/
theorem message_eq_of_told {first second : TemplateError} (same : first.told = second.told) :
    first.message = second.message := by
  rw [← message_told first, same, message_told]

end TemplateError

/-! ## References of environments that agree -/

namespace Environment

/-- Which template is referred to does not depend on the scope. -/
theorem refer_within (environment : Environment) (scope : Scope) (name : String) :
    (environment.within scope).refer name =
      (environment.refer name).map fun included => included.within scope := by
  unfold Environment.refer Environment.within
  cases environment.loader.inherit name with
  | error error => rfl
  | ok derived =>
      cases (environment.loader.resolve name).mapError TemplateError.loader with
      | error error => rfl
      | ok identifier =>
          cases loaded : Lineage.load environment.config environment.registries.statements
              derived identifier with
          | error error => simp only [bind, Except.bind, loaded]; rfl
          | ok lineage => simp only [bind, Except.bind, loaded]; rfl

/-- Environments that agree refer to the same templates. -/
theorem Agrees.refer {first second : Environment} (agrees : first.Agrees second)
    (name : String) :
    Alike (fun error other => error = other)
      (fun included other => included.Agrees other ∧ included.lineage = other.lineage)
      (first.refer name) (second.refer name) := by
  have moved : second = first.within second.scope := by
    cases first
    cases second
    obtain ⟨rfl, rfl, rfl, rfl⟩ := agrees
    rfl
  rw [moved, refer_within]
  cases first.refer name with
  | error error => rfl
  | ok included => exact ⟨⟨rfl, rfl, rfl, rfl⟩, rfl⟩

end Environment

namespace Matching

open Comparison Value.Like

variable (matching : Matching)

/-- The comparison of matching renderings. -/
def comparison : Comparison where
  World := Pairing
  Later := Pairing.Grows
  absence := matching.absence
  forgives := matching.forgives
  store := matching.Stores
  sink _ := matching.sink
  fault := sameMessage
  failure first second := first.told = second.told
  later_refl := Pairing.Grows.refl
  later_trans := Pairing.Grows.trans
  sink_later _ same := same
  sink_unlimited _ := matching.sink_unlimited
  fault_refl := sameMessage_refl
  failure_refl _ := rfl
  failure_evaluation same :=
    congrArg (fun message => TemplateError.evaluation (.reported message)) same
  failure_wrapped site same := congrArg (TemplateError.wrapped site) same
  failure_isNotFound {first second} same := by
    rw [← first.isNotFound_told, same, second.isNotFound_told]

variable {matching} {pairing : Pairing} {kind : FrameKind}

/-! ## Matching values -/

theorem forall₂_values_iff {items others : List Value} :
    List.Forall₂ (matching.Values pairing) items others ↔
      List.Forall₂ (Value.Like (matching.Relates pairing)) items others ∧
        ∀ item ∈ items, Value.Every (matching.Holds pairing) item := by
  constructor
  · intro values
    refine ⟨values.imp fun _ _ one => one.like, fun item member => ?_⟩
    induction values with
    | nil => cases member
    | cons one _ inductionHypothesis =>
        rcases List.mem_cons.1 member with rfl | member
        · exact one.every
        · exact inductionHypothesis member
  · rintro ⟨like, every⟩
    induction like with
    | nil => exact .nil
    | cons one _ inductionHypothesis =>
        rw [List.forall_mem_cons] at every
        exact .cons ⟨one, every.1⟩ (inductionHypothesis every.2)

theorem entries_values_iff {entries others : Table Value} :
    EntriesRelated (matching.Values pairing) entries others ↔
      EntriesRelated (Value.Like (matching.Relates pairing)) entries others ∧
        ∀ entry ∈ entries, Value.Every (matching.Holds pairing) entry.2 := by
  unfold EntriesRelated
  constructor
  · intro values
    refine ⟨values.imp fun _ _ one => ⟨one.1, one.2.like⟩, fun entry member => ?_⟩
    induction values with
    | nil => cases member
    | cons one _ inductionHypothesis =>
        rcases List.mem_cons.1 member with rfl | member
        · exact one.2.every
        · exact inductionHypothesis member
  · rintro ⟨like, every⟩
    induction like with
    | nil => exact .nil
    | cons one _ inductionHypothesis =>
        rw [List.forall_mem_cons] at every
        exact .cons ⟨one.1, one.2, every.1⟩ (inductionHypothesis every.2)

theorem arguments_like {arguments others : Arguments}
    (given : ArgumentsRelated (matching.Values pairing) arguments others) :
    ArgumentsRelated (Value.Like (matching.Relates pairing)) arguments others :=
  ⟨(forall₂_values_iff.1 given.positional).1, (entries_values_iff.1 given.keyword).1⟩

/-- Alike results match if the first one holds what values may hold. -/
theorem alike_values {ε : Type} {fails : ε → ε → Prop} {first second : Except ε Value}
    (alike : Alike fails (Value.Like (matching.Relates pairing)) first second)
    (every : ∀ value, first = .ok value → Value.Every (matching.Holds pairing) value) :
    Alike fails (matching.Values pairing) first second :=
  (alike.attach every).mono fun _ _ both => ⟨both.1, both.2⟩

theorem option_values {first second : Option Value}
    (like : Option.Rel (Value.Like (matching.Relates pairing)) first second)
    (every : ∀ value, first = some value → Value.Every (matching.Holds pairing) value) :
    Option.Rel (matching.Values pairing) first second := by
  cases like with
  | none => exact .none
  | some like => exact .some ⟨like, every _ rfl⟩

/-- What is made of no callables matches itself. -/
theorem values_of_every {value : Value}
    (uncallable : Value.Every (fun value => value.isCallable = false) value) :
    matching.Values pairing value value := by
  refine ⟨Value.like_of_every value (uncallable.mono ?_),
    uncallable.mono fun value => aboutCallables_holds value⟩
  intro value uncallable
  cases value with
  | closure callee => cases uncallable
  | function callee => cases uncallable
  | _ => exact True.intro

private theorem basic : Value.Basic (matching.Holds pairing) :=
  aboutCallables_holds.basic

/-! ## Changes of matching stores -/

variable {ε α : Type} {fails : ε → ε → Prop} {gives : Pairing → α → α → Prop}

/-- Changes of matching stores after which they match at a later pairing. -/
theorem related_modifyGet {change change' : RunState → α × RunState}
    (changed : ∀ {first second : Store} (sink other : Sink),
      matching.Stores pairing first second → matching.sink sink other →
        ∃ later, pairing.Grows later ∧
          matching.Stores later (change ⟨first, sink⟩).2.store
              (change' ⟨second, other⟩).2.store ∧
            matching.sink (change ⟨first, sink⟩).2.sink (change' ⟨second, other⟩).2.sink ∧
              gives later (change ⟨first, sink⟩).1 (change' ⟨second, other⟩).1) :
    matching.comparison.Related pairing fails gives (modifyGet change) (modifyGet change') := by
  rintro ⟨first, sink⟩ ⟨second, other⟩ ⟨stores, sinks⟩
  obtain ⟨later, grown, stores, sinks, given⟩ := changed sink other stores sinks
  exact .inr ⟨later, grown, ⟨stores, sinks⟩, given⟩

theorem related_openWith {relates : Pairing → Scope → Scope → Prop}
    {make make' : Store → Scope × Store}
    (made : ∀ {first second : Store}, matching.Stores pairing first second →
      ∃ later, pairing.Grows later ∧ matching.Stores later (make first).2 (make' second).2 ∧
        relates later (make first).1 (make' second).1) :
    matching.comparison.Related pairing fails relates (Run.openWith make)
      (Run.openWith make') := by
  refine related_modifyGet fun sink other stores sinks => ?_
  obtain ⟨later, grown, stores, scopes⟩ := made stores
  exact ⟨later, grown, stores, sinks, scopes⟩

theorem related_openChild {firstScope secondScope : Scope}
    (outer : pairing.Outer kind firstScope secondScope) :
    matching.comparison.Related pairing fails (fun later => later.Scopes kind)
      (Run.openChild firstScope) (Run.openChild secondScope) :=
  related_openWith fun stores => stores.openChild outer

theorem related_openNew :
    matching.comparison.Related pairing fails (fun later => later.Scopes kind)
      (Run.openWith (·.newScope)) (Run.openWith (·.newScope)) :=
  related_openWith fun stores => stores.openNew kind

theorem related_bindAll {firstScope secondScope : Scope} {entries others : Table Value}
    (scopes : pairing.Scopes kind firstScope secondScope)
    (related : EntriesRelated (matching.Values pairing) entries others) :
    matching.comparison.Related pairing fails matching.comparison.done
      (Run.bindAll firstScope entries) (Run.bindAll secondScope others) :=
  related_modifyGet fun _ _ stores sinks =>
    ⟨pairing, .refl pairing, stores.bindAll scopes related, sinks, True.intro⟩

theorem related_write (text : String) :
    matching.comparison.Renders pairing matching.comparison.done (Run.write text)
      (Run.write text) := by
  rintro ⟨first, sink⟩ ⟨second, other⟩ ⟨stores, sinks⟩
  refine .inr ?_
  change matching.comparison.Ends _ _ _ (if sink.takes text then _ else _)
    (if other.takes text then _ else _)
  rw [matching.sink_takes sinks]
  split
  · exact ⟨pairing, .refl pairing, ⟨stores, matching.sink_add sinks text⟩, True.intro⟩
  · exact ⟨pairing, .refl pairing, ⟨stores, sinks⟩, rfl⟩

/-! ## The correspondences of plain and of guarded scopes -/

/-- The macros of matching templates, closed over environments that stand for each other. -/
theorem values_closures {first second : Environment}
    (settings : matching.settings kind first second) (lineages : first.lineage = second.lineage)
    (inside : first.lineage.Within (matching.vocabularies kind))
    (scopes : pairing.Scopes kind first.scope second.scope) :
    EntriesRelated (matching.Values pairing) first.closures second.closures := by
  unfold Environment.closures
  rw [← lineages]
  refine List.forall₂_map_left_iff.2 (List.forall₂_map_right_iff.2 (List.forall₂_same.2 ?_))
  intro entry member
  have present : entry ∈ first.lineage.layer.macros := (List.mergeSort_perm _ _).mem_iff.1 member
  exact ⟨rfl, .closure entry.2 ⟨kind, settings, scopes⟩,
    ⟨kind, scopes.knows, (inside _ List.mem_cons_self).macros entry present⟩⟩

variable (matching) in
/-- Environments of templates that are referred to in scopes of a kind. -/
structure Imported (kind : FrameKind) (included other : Environment) : Prop where
  settings : matching.settings kind included other
  lineages : included.lineage = other.lineage
  inside : included.lineage.Within (matching.vocabularies kind)

theorem imported_refer {first second : Environment} {described : Statement Node} {name : String}
    (known : (matching.vocabularies kind).statement described)
    (named : described.MayRefer name) (settings : matching.settings kind first second) :
    Alike (fun error other => error.told = other.told) (matching.Imported kind)
      (first.refer name) (second.refer name) := by
  cases kind with
  | plain =>
      refine ((Environment.Agrees.refer settings name).weaken fun _ _ =>
        congrArg TemplateError.told).mono ?_
      exact fun _ _ agrees => ⟨agrees.1, agrees.2, Lineage.within_unrestricted _⟩
  | guarded =>
      refine ((matching.refer known named settings).weaken
        fun _ _ => congrArg TemplateError.told).mono ?_
      exact fun _ _ guarded => ⟨guarded.1, guarded.2.1, guarded.2.2⟩

/-- Modules are bound in scopes of the kind of the importing ones. -/
theorem bindModule_renders {firstScope secondScope : Scope} {included other : Environment}
    (withContext : Option Bool) (scopes : pairing.Scopes kind firstScope secondScope)
    (imported : matching.Imported kind included other) :
    matching.comparison.Renders pairing (fun later => EntriesRelated (matching.Values later))
      (Interpreter.bindModule firstScope included withContext)
      (Interpreter.bindModule secondScope other withContext) := by
  have opened : matching.comparison.Renders pairing (fun later => later.Scopes kind)
      (Run.openWith fun store =>
        if withContext.getD true then store.childScope firstScope
        else store.detachedScope firstScope)
      (Run.openWith fun store =>
        if withContext.getD true then store.childScope secondScope
        else store.detachedScope secondScope) := by
    apply related_openWith
    intro first second stores
    cases withContext.getD true with
    | true => exact stores.openChild scopes.toOuter
    | false => exact stores.openDetached kind scopes.trees
  apply opened.bind
  intro later _ firstModule secondModule modules
  have closures : EntriesRelated (matching.Values later)
      (included.within firstModule).closures (other.within secondModule).closures :=
    values_closures (settings_within firstModule secondModule imported.settings)
      imported.lineages imported.inside modules
  apply (related_bindAll modules closures).bind
  intro final grown _ _ _
  exact related_pure (entries_grow grown closures)

variable (matching) in
/-- What corresponds in scopes of a kind. -/
def correspondence (kind : FrameKind) : Correspondence matching.comparison where
  vocabulary := matching.vocabularies kind
  value := matching.Values
  setting _ := matching.settings kind
  context _ first second :=
    second.config = first.config ∧ second.registries = first.registries
  scope pairing := pairing.Scopes kind
  imported _ := matching.Imported kind
  value_later grown values := values.grow grown
  setting_later _ settings := settings
  context_later _ contexts := contexts
  scope_later grown scopes := scopes.grow grown
  literal _ literal :=
    values_of_every (Value.AboutCallables.basic (fun _ same => same) |>.every_literal literal)
  list values := by
    obtain ⟨like, every⟩ := forall₂_values_iff.1 values
    exact ⟨.list (Value.likeItems_iff.2 like), Value.every_list.2 every⟩
  map values := by
    obtain ⟨like, every⟩ := entries_values_iff.1 values
    exact ⟨.map (Value.likeEntries_iff.2 like), Value.every_map.2 every⟩
  checked := by
    intro _ first second values
    refine alike_values values.like.checked fun value given => ?_
    cases first <;> cases given <;> exact values.every
  isTrue values := values.like.isTrue_eq
  display values := values.like.display_eq
  member name values := option_values (values.like.member name) fun _ => values.every.member
  item values keys :=
    option_values (values.like.item keys.like) fun _ => basic.every_item values.every
  negation := by
    intro _ first second values
    refine alike_values values.like.negation fun value given => ?_
    cases first <;> cases given
    exact True.intro
  operation operator left right :=
    alike_values (left.like.operation operator right.like) fun _ =>
      basic.every_operation left.every right.every
  items targets iterable values :=
    ((values.like.items targets iterable).attach fun _ =>
      basic.every_items values.every).mono fun _ _ => forall₂_values_iff.2
  bindings targets values :=
    ((values.like.bindings targets).attach fun _ => values.every.bindings).mono
      fun _ _ => entries_values_iff.2
  within settings _ := settings_within _ _ settings
  context_setting settings := ⟨settings_config settings, settings_registries settings⟩
  lenient contexts := ⟨congrArg Config.lenient contexts.1, contexts.2⟩
  undefined := by
    intro pairing first second error contexts
    unfold Expression.undefined
    rw [contexts.1]
    split
    · exact .inr (sameMessage_refl error)
    · exact .inr (values_of_every rfl)
  filter := by
    intro pairing first second used value other arguments others contexts _ values given
    unfold Expression.applyFilter
    rw [contexts.1, contexts.2]
    split
    · rename_i filter _
      have like := filter.like_apply first.config.autoescape values.like (arguments_like given)
      have every := filter.every_of_aboutCallables aboutCallables_holds
        first.config.autoescape values.every (forall₂_values_iff.1 given.positional).2
        (entries_values_iff.1 given.keyword).2
      refine alike_values like.checked fun value made => ?_
      generalize filter.apply first.config.autoescape _ arguments = result at *
      cases result <;> cases made <;> exact every
    · exact sameMessage_refl _
  test := by
    intro pairing first second value other arguments others used negated contexts values given
    unfold Expression.applyTest
    rw [contexts.2]
    split
    · rename_i predicate _
      have answers := predicate.holds_alike values.like (arguments_like given)
      generalize predicate.holds value arguments = answer at answers
      generalize predicate.holds other others = otherAnswer at answers
      match answer, otherAnswer, answers with
      | .ok _, .ok _, rfl => exact values_of_every rfl
      | .error _, .error _, same => exact same
    · exact sameMessage_refl _
  closure := by
    intro pairing first second definition settings scopes inside
    refine ⟨.closure definition ⟨kind, settings, scopes⟩, kind, scopes.knows, inside ?_⟩
    cases kind with
    | plain => exact True.intro
    | guarded => exact matching.macros
  rendered := by
    rintro pairing first second _ _ settings ⟨sink, other, sinks, rfl, rfl⟩
    unfold Interpreter.renderedValue
    rw [settings_config settings, matching.sink_text sinks]
    exact values_of_every rfl
  refer _ known named settings := imported_refer known named settings
  imported_lineage imported := imported.lineages
  write _ _ _ := related_write _
  writeBox _ text _ := related_write text
  openChild scopes := related_openChild scopes.toOuter
  bind := by
    intro pairing firstScope secondScope name value other scopes _ values
    exact related_modifyGet fun _ _ stores sinks =>
      ⟨pairing, .refl pairing, stores.bind scopes name values, sinks, True.intro⟩
  bindModule withContext scopes imported := bindModule_renders withContext scopes imported

/-! ## Uses by name -/

variable (matching) in
/-- Interpreters that do matching things in scopes of both kinds. -/
def Interprets (first second : Interpreter) : Prop :=
  ∀ kind depth, (matching.correspondence kind).Interprets first depth second depth

variable (matching) in
/-- Whether native functions that values may hold give matching values. -/
def Admits (natives : Natives) : Prop :=
  ∀ {pairing name arguments others}, matching.native name →
    ArgumentsRelated (matching.Values pairing) arguments others →
      matching.Values pairing (natives name arguments) (natives name others)

variable {firstInterpreter secondInterpreter : Interpreter} {natives : Natives} {depth : Nat}

theorem related_enter (interprets : matching.Interprets firstInterpreter secondInterpreter)
    (kind : FrameKind) (name : String) :
    matching.comparison.Renders pairing
      (fun _ inner other =>
        (matching.correspondence kind).Interprets firstInterpreter inner secondInterpreter other)
      (Interpreter.enter depth name) (Interpreter.enter depth name) := by
  unfold Interpreter.enter
  split
  · exact related_throw rfl
  · exact related_pure (interprets kind _)

theorem related_openBlock {first second : Environment} {overridden : List (Body Node)}
    (settings : matching.settings kind first second)
    (outer : pairing.Outer kind first.scope second.scope)
    (inside : ∀ body ∈ overridden, Node.AllWithin (matching.vocabularies kind) body.nodes) :
    matching.comparison.Renders pairing (matching.correspondence kind).Environments
      (Interpreter.openBlock first depth overridden)
      (Interpreter.openBlock second depth overridden) := by
  apply Correspondence.openBlock_related overridden settings (related_openChild outer)
  · cases kind with
    | plain => exact True.intro
    | guarded => exact matching.target "super"
  · rintro later inner other ⟨settings, scopes⟩ _
    exact ⟨.super depth overridden ⟨kind, settings, scopes⟩, kind, scopes.knows, inside⟩

/-- The same definitions of a block are rendered in scopes that can be opened. -/
theorem related_renderBlock {first second : Environment} {bodies : List (Body Node)}
    (interprets : (matching.correspondence kind).Interprets firstInterpreter depth
      secondInterpreter depth)
    (settings : matching.settings kind first second)
    (outer : pairing.Outer kind first.scope second.scope)
    (inside : ∀ body ∈ bodies, Node.AllWithin (matching.vocabularies kind) body.nodes) :
    matching.comparison.Renders pairing matching.comparison.done
      (Interpreter.renderBlock firstInterpreter first depth bodies)
      (Interpreter.renderBlock secondInterpreter second depth bodies) := by
  apply Correspondence.renderBlock_related interprets inside
  rintro body overridden rfl
  exact related_openBlock settings outer fun other member =>
    inside other (List.mem_cons_of_mem _ member)

/-- Calls of matching values.  What is called is rendered in scopes of the kind of its own,
whatever the kind of the scopes of the callers. -/
theorem related_callValue (interprets : matching.Interprets firstInterpreter secondInterpreter)
    (admits : matching.Admits natives) (callee : Expression) {value other : Value}
    {arguments others : Arguments} (values : matching.Values pairing value other)
    (given : ArgumentsRelated (matching.Values pairing) arguments others) :
    matching.comparison.Evaluates pairing (matching.correspondence kind).result
      (Interpreter.callValue natives firstInterpreter depth callee value arguments)
      (Interpreter.callValue natives secondInterpreter depth callee other others) := by
  have described := values.like.describe_eq
  obtain ⟨like, every⟩ := values
  cases like with
  | closure definition relates =>
      obtain ⟨_, settings, scopes⟩ := relates
      obtain ⟨own, known, inside⟩ := every
      obtain rfl := pairing.kind_eq known scopes.frames
      change matching.comparison.Evaluates pairing (matching.correspondence own).result _ _
      exact (matching.correspondence own).callValue_closure_related natives callee inside
        settings given (related_enter interprets own definition.name)
        (fun _ grown => related_openChild (scopes.toOuter.grow grown)) fun _ _ same =>
          congrArg (fun reason => (EvalError.macroFailed definition.name reason).message)
            (TemplateError.message_eq_of_told same)
  | native name =>
      rw [Interpreter.callValue_native, Interpreter.callValue_native]
      have checked := (matching.correspondence kind).checked (admits every given)
      exact related_ofExcept (checked.attach fun _ => Correspondence.isError_of_checked)
  | super stored bodies relates =>
      obtain ⟨_, settings, scopes⟩ := relates
      obtain ⟨own, known, inside⟩ := every
      obtain rfl := pairing.kind_eq known scopes.frames
      change matching.comparison.Evaluates pairing (matching.correspondence own).result _ _
      exact (matching.correspondence own).callValue_super_related natives callee arguments
        others settings (related_renderBlock (interprets own stored) settings scopes.toOuter inside)
        fun _ _ => TemplateError.message_eq_of_told
  | nil => exact related_throw rfl
  | _ =>
      exact related_throw
        (congrArg (fun shown : String => s!"'{callee.text}' is not callable ({shown})") described)

/-- The scopes with trees of their own.  Any two paired scopes may be released. -/
def roots (matching : Matching) (kind : FrameKind) : (matching.correspondence kind).Roots :=
  (matching.correspondence kind).rootsOfScopes (fun _ => related_openNew)
    fun scopes stores => stores.release scopes

theorem related_inclusion (interprets : matching.Interprets firstInterpreter secondInterpreter)
    {first second included other : Environment} (withContext : Bool)
    (outer : withContext = true → pairing.Outer kind first.scope second.scope)
    (imported : matching.Imported kind included other) :
    matching.comparison.Renders pairing matching.comparison.done
      (Interpreter.includeTemplate firstInterpreter first depth included withContext)
      (Interpreter.includeTemplate secondInterpreter second depth other withContext) := by
  refine Correspondence.includeTemplate_related (matching.roots kind) withContext
    imported.settings imported.lineages imported.inside ?_ ?_
  · rw [imported.lineages]
    exact related_enter interprets kind other.lineage.identifier
  · exact fun inContext _ grown => related_openChild ((outer inContext).grow grown)

/-- Uses by name match if their insides match, and if blocks in guarded scopes do. -/
theorem handles (interprets : matching.Interprets firstInterpreter secondInterpreter)
    (admits : matching.Admits natives)
    (blocks : ∀ {pairing first second name}, matching.setting first second →
      pairing.Scopes .guarded first.scope second.scope → matching.vocabulary.block name →
        matching.comparison.Renders pairing matching.comparison.done
          (Interpreter.renderBlock firstInterpreter first depth (first.lineage.blocksFor name))
          (Interpreter.renderBlock secondInterpreter second depth
            (second.lineage.blocksFor name)))
    (kind : FrameKind) :
    (matching.correspondence kind).Handles (Interpreter.effects natives firstInterpreter) depth
      (Interpreter.effects natives secondInterpreter) depth where
  lookup := by
    intro pairing firstScope secondScope name scopes known
    rintro ⟨first, sink⟩ ⟨second, other⟩ ⟨stores, sinks⟩
    refine .inr ⟨pairing, .refl pairing, ⟨stores, sinks⟩,
      Correspondence.checks_of_values (stores.lookup scopes.chains ?_)⟩
    rintro rfl
    exact matching.name known
  call callee values given := related_callValue interprets admits callee values given
  emit := by
    rintro pairing first second value other settings ⟨values, _⟩
    change matching.comparison.Renders pairing _ (Run.write _) (Run.write _)
    rw [settings_config settings, values.like.writtenText_eq]
    exact related_write _
  block := by
    rintro pairing first second name ⟨settings, scopes⟩ known
    change matching.comparison.Renders pairing _ (Interpreter.renderBlock _ _ _ _)
      (Interpreter.renderBlock _ _ _ _)
    cases kind with
    | plain =>
        rw [show second.lineage = first.lineage from settings.lineage]
        exact related_renderBlock (interprets .plain depth) settings scopes.toOuter
          fun _ _ => Node.allWithin_unrestricted _
    | guarded => exact blocks settings scopes known
  inclusion withContext environments imported :=
    related_inclusion interprets withContext (fun _ => environments.scope.toOuter) imported
  depth _ := rfl

end Matching

end TemplateEngine

import TemplateEngine.Interpreter.Render
import TemplateEngine.Proofs.Comparison
import TemplateEngine.Proofs.Vocabulary

/-!
# Correspondences

A correspondence refines a comparison of runs for one place of a rendering: it relates
values, settings and scopes, and it is kept by every operation that evaluation and
rendering apply to them.  What remains is what happens where something is used by its
name, and that is related separately, for two records of effects at two depths.
-/

namespace TemplateEngine

/-- Two lists of entries with the same names in the same order and related values. -/
def EntriesRelated (relates : Value → Value → Prop) (first second : List (String × Value)) :
    Prop :=
  List.Forall₂ (fun entry other => entry.1 = other.1 ∧ relates entry.2 other.2) first second

/-- Under each name related entries have related values. -/
theorem EntriesRelated.lookup {relates : Value → Value → Prop}
    {first second : List (String × Value)} (related : EntriesRelated relates first second)
    (name : String) : Option.Rel relates (first.lookup name) (second.lookup name) := by
  induction related with
  | nil => exact .none
  | @cons entry other rest otherRest same _ induction =>
      rcases entry with ⟨key, value⟩
      rcases other with ⟨_, otherValue⟩
      rcases same with ⟨rfl, values⟩
      rw [List.lookup_cons, List.lookup_cons]
      cases name == key with
      | true => exact .some values
      | false => exact induction

/-- At each place of related lists there are related values. -/
theorem getElem?_related {relates : Value → Value → Prop} {items others : List Value}
    (related : List.Forall₂ relates items others) (place : Nat) :
    Option.Rel relates items[place]? others[place]? := by
  induction related generalizing place with
  | nil => exact .none
  | cons head _ induction =>
      cases place with
      | zero => exact .some head
      | succ place => simpa using induction place

/-- Arguments with related values, given in the same way. -/
structure ArgumentsRelated (relates : Value → Value → Prop) (first second : Arguments) :
    Prop where
  positional : List.Forall₂ relates first.positional second.positional
  keyword : EntriesRelated relates first.keyword second.keyword

/-- Whether a name is the displayed form of some value that an expression can have. -/
def Expression.MayName (expression : Expression) (name : String) : Prop :=
  ∃ effects depth environment state value after,
    expression.evaluate effects depth environment state = some (.ok value, after) ∧
      value.display = name

/-- Whether a statement can refer to the template of a name. -/
def Statement.MayRefer (described : Statement Node) (name : String) : Prop :=
  match described with
  | .importModule filename _ _ => filename.MayName name
  | .importNames filename _ _ => filename.MayName name
  | .inclusion filename _ _ => filename.MayName name
  | _ => False

/-- What is related at one place of two renderings that are compared.  A setting is what a
rendering depends on besides its scope, a context what an evaluation depends on. -/
structure Correspondence (comparison : Comparison) where
  vocabulary : Vocabulary
  value : comparison.World → Value → Value → Prop
  setting : comparison.World → Environment → Environment → Prop
  context : comparison.World → Environment → Environment → Prop
  /-- The scopes of the two renderings themselves, in which they bind names. -/
  scope : comparison.World → Scope → Scope → Prop
  /-- The environments of templates that are referred to. -/
  imported : comparison.World → Environment → Environment → Prop
  value_later : ∀ {world later first second},
    comparison.Later world later → value world first second → value later first second
  setting_later : ∀ {world later first second},
    comparison.Later world later → setting world first second → setting later first second
  context_later : ∀ {world later first second},
    comparison.Later world later → context world first second → context later first second
  scope_later : ∀ {world later first second},
    comparison.Later world later → scope world first second → scope later first second
  literal : ∀ world (literal : Literal), value world literal.value literal.value
  list : ∀ {world first second},
    List.Forall₂ (value world) first second → value world (.list first) (.list second)
  map : ∀ {world first second},
    EntriesRelated (value world) first second → value world (.map first) (.map second)
  checked : ∀ {world first second}, value world first second →
    Alike comparison.fault (value world) first.checked second.checked
  isTrue : ∀ {world first second}, value world first second → first.isTrue = second.isTrue
  display : ∀ {world first second},
    value world first second → first.display = second.display
  member : ∀ {world first second} name, value world first second →
    Option.Rel (value world) (first.member? name) (second.member? name)
  item : ∀ {world first second key other},
    value world first second → value world key other →
      Option.Rel (value world) (first.item? key) (second.item? other)
  negation : ∀ {world first second}, value world first second →
    Alike comparison.fault (value world) (Expression.negation first)
      (Expression.negation second)
  operation : ∀ {world first second left right} (operator : BinaryOperator),
    value world first second → value world left right →
      Alike comparison.fault (value world) (operator.apply first left)
        (operator.apply second right)
  items : ∀ {world first second} targets iterable, value world first second →
    Alike comparison.fault (List.Forall₂ (value world)) (Loop.items targets iterable first)
      (Loop.items targets iterable second)
  bindings : ∀ {world first second} targets, value world first second →
    Alike comparison.fault (EntriesRelated (value world)) (Loop.bindings targets first)
      (Loop.bindings targets second)
  within : ∀ {world first second firstScope secondScope},
    setting world first second → scope world firstScope secondScope →
      setting world (first.within firstScope) (second.within secondScope)
  context_setting : ∀ {world first second},
    setting world first second → context world first second
  lenient : ∀ {world first second},
    context world first second → context world first.lenient second.lenient
  undefined : ∀ {world first second} error, context world first second →
    comparison.Settled comparison.fault (value world) (Expression.undefined first error)
      (Expression.undefined second error)
  filter : ∀ {world first second used value' other arguments others},
    context world first second → vocabulary.filter used → value world value' other →
      ArgumentsRelated (value world) arguments others →
        Alike comparison.fault (value world)
          (Expression.applyFilter first used value' arguments)
          (Expression.applyFilter second used other others)
  test : ∀ {world first second value' other arguments others} used negated,
    context world first second → value world value' other →
      ArgumentsRelated (value world) arguments others →
        Alike comparison.fault (value world)
          (Expression.applyTest first used negated value' arguments)
          (Expression.applyTest second used negated other others)
  closure : ∀ {world first second} {definition : Definition Node},
    setting world first second → scope world first.scope second.scope →
      (vocabulary.macros → definition.Within vocabulary) →
        value world (.closure ⟨definition, first⟩) (.closure ⟨definition, second⟩)
  rendered : ∀ {world first second text other},
    setting world first second → comparison.texts world text other →
      value world (Interpreter.renderedValue first text)
        (Interpreter.renderedValue second other)
  refer : ∀ {world first second described} name, vocabulary.statement described →
    described.MayRefer name → setting world first second →
      Alike comparison.failure (imported world) (first.refer name) (second.refer name)
  imported_lineage : ∀ {world first second},
    imported world first second → first.lineage = second.lineage
  write : ∀ {text} world trim, vocabulary.text text →
    comparison.Renders world comparison.done (Run.write (Interpreter.trimmedText text trim))
      (Run.write (Interpreter.trimmedText text trim))
  writeBox : ∀ world text, vocabulary.registered →
    comparison.Renders world comparison.done (Run.write text) (Run.write text)
  openChild : ∀ {world first second}, scope world first second →
    comparison.Renders world scope (Run.openChild first) (Run.openChild second)
  bind : ∀ {world first second name value' other},
    scope world first second → vocabulary.target name → value world value' other →
      comparison.Renders world comparison.done (Run.bind first name value')
        (Run.bind second name other)
  bindModule : ∀ {world firstScope secondScope first second} withContext,
    scope world firstScope secondScope → imported world first second →
      comparison.Renders world (fun later => EntriesRelated (value later))
        (Interpreter.bindModule firstScope first withContext)
        (Interpreter.bindModule secondScope second withContext)

namespace Correspondence

variable {comparison : Comparison} (correspondence : Correspondence comparison)

/-- Environments with related settings and related scopes. -/
structure Environments (world : comparison.World) (first second : Environment) : Prop where
  setting : correspondence.setting world first second
  scope : correspondence.scope world first.scope second.scope

/-- Environments with related contexts and related scopes. -/
structure Contexts (world : comparison.World) (first second : Environment) : Prop where
  context : correspondence.context world first second
  scope : correspondence.scope world first.scope second.scope

/-- Related values of expressions, which are never failed evaluations. -/
def result (world : comparison.World) (first second : Value) : Prop :=
  correspondence.value world first second ∧ first.isError = false

/-- Values of which a check makes related ones.  A name may be bound to a failed evaluation, which
is related to none. -/
def checks (world : comparison.World) (first second : Value) : Prop :=
  Alike comparison.fault (correspondence.value world) first.checked second.checked

variable {correspondence} in
theorem checks_of_values {world : comparison.World} {first second : Option Value}
    (related : Option.Rel (correspondence.value world) first second) :
    Option.Rel (correspondence.checks world) first second := by
  cases related with
  | none => exact .none
  | some values => exact .some (correspondence.checked values)

/-- Two records of effects, each at a depth of its own, that do related things. -/
structure Handles (first : Effects) (firstDepth : Nat) (second : Effects)
    (secondDepth : Nat) : Prop where
  lookup : ∀ {world firstScope secondScope name},
    correspondence.scope world firstScope secondScope → correspondence.vocabulary.name name →
      comparison.Evaluates world (fun later => Option.Rel (correspondence.checks later))
        (first.lookup firstScope name) (second.lookup secondScope name)
  call : ∀ {world value other arguments others} callee,
    correspondence.value world value other →
      ArgumentsRelated (correspondence.value world) arguments others →
        comparison.Evaluates world correspondence.result
          (first.call firstDepth callee value arguments)
          (second.call secondDepth callee other others)
  emit : ∀ {world firstEnvironment secondEnvironment value other},
    correspondence.setting world firstEnvironment secondEnvironment →
      correspondence.result world value other →
        comparison.Renders world comparison.done (first.emit firstEnvironment value)
          (second.emit secondEnvironment other)
  block : ∀ {world firstEnvironment secondEnvironment name},
    correspondence.Environments world firstEnvironment secondEnvironment →
      correspondence.vocabulary.block name →
        comparison.Renders world comparison.done
          (first.block firstEnvironment firstDepth name)
          (second.block secondEnvironment secondDepth name)
  inclusion : ∀ {world firstEnvironment secondEnvironment included other} withContext,
    correspondence.Environments world firstEnvironment secondEnvironment →
      correspondence.imported world included other →
        comparison.Renders world comparison.done
          (first.inclusion firstEnvironment firstDepth included withContext)
          (second.inclusion secondEnvironment secondDepth other withContext)
  depth : correspondence.vocabulary.registered → firstDepth = secondDepth

end Correspondence

end TemplateEngine

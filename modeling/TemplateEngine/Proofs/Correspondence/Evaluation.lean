import TemplateEngine.Proofs.Correspondence
import TemplateEngine.Proofs.Operations

/-!
# Corresponding evaluations

The evaluations of one expression under corresponding effects correspond.  The induction
is on the expression; only reading a name and calling a value leave it, and there the
correspondence of the effects is used.
-/

namespace TemplateEngine.Correspondence

open Comparison

variable {comparison : Comparison} {correspondence : Correspondence comparison}
variable {world : comparison.World}

theorem forall_value_later {later : comparison.World} {first second : List Value}
    (grown : comparison.Later world later)
    (related : List.Forall₂ (correspondence.value world) first second) :
    List.Forall₂ (correspondence.value later) first second :=
  related.imp fun _ _ one => correspondence.value_later grown one

theorem entries_later {later : comparison.World} {first second : List (String × Value)}
    (grown : comparison.Later world later)
    (related : EntriesRelated (correspondence.value world) first second) :
    EntriesRelated (correspondence.value later) first second :=
  related.imp fun _ _ one => ⟨one.1, correspondence.value_later grown one.2⟩

theorem arguments_later {later : comparison.World} {first second : Arguments}
    (grown : comparison.Later world later)
    (related : ArgumentsRelated (correspondence.value world) first second) :
    ArgumentsRelated (correspondence.value later) first second :=
  ⟨forall_value_later grown related.positional, entries_later grown related.keyword⟩

theorem Environments.advance {later : comparison.World} {first second : Environment}
    (grown : comparison.Later world later)
    (environments : correspondence.Environments world first second) :
    correspondence.Environments later first second :=
  ⟨correspondence.setting_later grown environments.setting,
    correspondence.scope_later grown environments.scope⟩

theorem Environments.contexts {first second : Environment}
    (environments : correspondence.Environments world first second) :
    correspondence.Contexts world first second :=
  ⟨correspondence.context_setting environments.setting, environments.scope⟩

theorem Contexts.advance {later : comparison.World} {first second : Environment}
    (grown : comparison.Later world later)
    (contexts : correspondence.Contexts world first second) :
    correspondence.Contexts later first second :=
  ⟨correspondence.context_later grown contexts.context,
    correspondence.scope_later grown contexts.scope⟩

theorem Contexts.lenient {first second : Environment}
    (contexts : correspondence.Contexts world first second) :
    correspondence.Contexts world first.lenient second.lenient :=
  ⟨correspondence.lenient contexts.context, contexts.scope⟩

theorem bool_related (value : Bool) :
    correspondence.result world (.bool value) (.bool value) :=
  ⟨correspondence.literal world (.bool value), rfl⟩

/-! ## Values that are not failed evaluations -/

theorem isError_of_checked {value result : Value} (checked : value.checked = .ok result) :
    result.isError = false := by
  cases value <;> cases checked <;> rfl

theorem isError_of_undefined {environment : Environment} {error : EvalError} {result : Value}
    (undefined : Expression.undefined environment error = .ok result) :
    result.isError = false := by
  unfold Expression.undefined at undefined
  split at undefined <;> cases undefined
  rfl

theorem isError_of_foundOr {environment : Environment} {error : EvalError}
    {found : Option Value} {result : Value}
    (given : Expression.foundOr environment error found = .ok result) :
    result.isError = false := by
  cases found with
  | none => exact isError_of_undefined given
  | some value => exact isError_of_checked given

theorem isError_of_applyFilter {environment : Environment} {used : String} {value : Value}
    {arguments : Arguments} {result : Value}
    (applied : Expression.applyFilter environment used value arguments = .ok result) :
    result.isError = false := by
  unfold Expression.applyFilter at applied
  split at applied
  · exact isError_of_checked applied
  · cases applied

theorem isError_of_applyTest {environment : Environment} {used : String} {negated : Bool}
    {value : Value} {arguments : Arguments} {result : Value}
    (applied : Expression.applyTest environment used negated value arguments = .ok result) :
    result.isError = false := by
  unfold Expression.applyTest at applied
  split at applied
  · rename_i found _
    cases held : found.holds value arguments <;> rw [held] at applied <;> cases applied
    rfl
  · cases applied

theorem isError_of_negation {value result : Value}
    (negated : Expression.negation value = .ok result) : result.isError = false := by
  cases value <;> cases negated
  rfl

theorem isError_of_operation {operator : BinaryOperator} {first second result : Value}
    (applied : operator.apply first second = .ok result) : result.isError = false := by
  cases BinaryOperator.gives_of_apply applied <;> rfl

/-- What is found, or stands for what is not found, is related. -/
theorem foundOr_related {first second : Environment} {found other : Option Value}
    (error : EvalError) (context : correspondence.context world first second)
    (related : Option.Rel (correspondence.checks world) found other) :
    comparison.Settled comparison.fault (correspondence.value world)
      (Expression.foundOr first error found) (Expression.foundOr second error other) := by
  cases related with
  | none => exact correspondence.undefined error context
  | some related => exact .inr related

/-- The entries of a dictionary stay related when one is added. -/
theorem storeLast_related {first second : Table Value} {value other : Value} (key : String)
    (entries : EntriesRelated (correspondence.value world) first second)
    (related : correspondence.value world value other) :
    EntriesRelated (correspondence.value world) (first.storeLast key value)
      (second.storeLast key other) := by
  refine List.rel_append ?_ (.cons ⟨rfl, related⟩ .nil)
  induction entries with
  | nil => exact .nil
  | @cons entry entry' rest rest' same _ induction =>
      rcases entry with ⟨name, value⟩
      rcases entry' with ⟨name', value'⟩
      rcases same with ⟨rfl, values⟩
      simp only [Table.without, List.filter_cons]
      by_cases distinct : (name != key) = true
      · rw [if_pos distinct, if_pos distinct]
        exact .cons ⟨rfl, values⟩ induction
      · rw [if_neg distinct, if_neg distinct]
        exact induction

/-! ## Operators, given the evaluations of their operands -/

section Operators

variable {firstLeft firstRight secondLeft secondRight : Run EvalError Value}

theorem operation_related (operator : BinaryOperator)
    (left : comparison.Evaluates world correspondence.result firstLeft secondLeft)
    (right : ∀ later, comparison.Later world later →
      comparison.Evaluates later correspondence.result firstRight secondRight) :
    comparison.Evaluates world correspondence.result
      (do
        let first ← firstLeft
        let second ← firstRight
        Run.ofExcept (operator.apply first second))
      (do
        let first ← secondLeft
        let second ← secondRight
        Run.ofExcept (operator.apply first second)) := by
  apply left.bind
  intro later grown value other related
  apply (right later grown).bind
  intro final further operand otherOperand operands
  exact related_ofExcept
    ((correspondence.operation operator (correspondence.value_later further related.1)
      operands.1).attach fun _ => isError_of_operation)

theorem conjunction_related
    (left : comparison.Evaluates world correspondence.result firstLeft secondLeft)
    (right : ∀ later, comparison.Later world later →
      comparison.Evaluates later correspondence.result firstRight secondRight) :
    comparison.Evaluates world correspondence.result
      (do
        let first ← firstLeft
        if first.isTrue then
          let second ← firstRight
          return .bool second.isTrue
        else return .bool false)
      (do
        let first ← secondLeft
        if first.isTrue then
          let second ← secondRight
          return .bool second.isTrue
        else return .bool false) := by
  apply left.bind
  intro later grown value other related
  rw [correspondence.isTrue related.1]
  split
  · apply (right later grown).bind
    intro final _ operand otherOperand operands
    rw [correspondence.isTrue operands.1]
    exact related_pure (bool_related _)
  · exact related_pure (bool_related _)

theorem disjunction_related
    (left : comparison.Evaluates world correspondence.result firstLeft secondLeft)
    (right : ∀ later, comparison.Later world later →
      comparison.Evaluates later correspondence.result firstRight secondRight) :
    comparison.Evaluates world correspondence.result
      (do
        let first ← firstLeft
        if first.isTrue then return .bool true
        else
          let second ← firstRight
          return .bool second.isTrue)
      (do
        let first ← secondLeft
        if first.isTrue then return .bool true
        else
          let second ← secondRight
          return .bool second.isTrue) := by
  apply left.bind
  intro later grown value other related
  rw [correspondence.isTrue related.1]
  split
  · exact related_pure (bool_related _)
  · apply (right later grown).bind
    intro final _ operand otherOperand operands
    rw [correspondence.isTrue operands.1]
    exact related_pure (bool_related _)

end Operators

/-! ## Expressions -/

section Fundamental

variable {firstEffects secondEffects : Effects} {firstDepth secondDepth : Nat}

mutual

/-- Evaluation under corresponding effects. -/
theorem evaluate_related
    (handles : correspondence.Handles firstEffects firstDepth secondEffects secondDepth)
    (expression : Expression) (inside : expression.Within correspondence.vocabulary)
    {world : comparison.World} {first second : Environment}
    (contexts : correspondence.Contexts world first second) :
    comparison.Evaluates world correspondence.result
      (expression.evaluate firstEffects firstDepth first)
      (expression.evaluate secondEffects secondDepth second) := by
  match expression, inside with
  | .literal literal _, _ =>
      exact related_pure
        ⟨correspondence.literal world literal, by cases literal <;> rfl⟩
  | .name identifier _, inside =>
      simp only [Expression.evaluate]
      apply (handles.lookup contexts.scope inside).bind
      intro later grown found other related
      exact related_settled
        ((foundOr_related _ (contexts.advance grown).context related).attach
          fun _ => isError_of_foundOr)
  | .list items _, inside =>
      simp only [Expression.evaluate]
      apply (evaluateItems_related handles items inside contexts).bind
      intro later _ values others related
      exact related_pure ⟨correspondence.list related, rfl⟩
  | .dict entries _, inside =>
      simp only [Expression.evaluate]
      apply (evaluateEntries_related handles entries inside contexts .nil).bind
      intro later _ values others related
      exact related_pure ⟨correspondence.map related, rfl⟩
  | .member target selected _, inside =>
      simp only [Expression.evaluate]
      apply (evaluate_related handles target inside contexts).bind
      intro later grown value other related
      exact related_settled ((foundOr_related _ (contexts.advance grown).context
        (checks_of_values (correspondence.member selected related.1))).attach
          fun _ => isError_of_foundOr)
  | .item target index _, ⟨inTarget, inIndex⟩ =>
      simp only [Expression.evaluate]
      apply (evaluate_related handles target inTarget contexts).bind
      intro later grown value other related
      apply (evaluate_related handles index inIndex (contexts.advance grown)).bind
      intro final further key otherKey keys
      exact related_settled ((foundOr_related _
        ((contexts.advance grown).advance further).context
        (checks_of_values (correspondence.item (correspondence.value_later further related.1)
          keys.1))).attach
          fun _ => isError_of_foundOr)
  | .call callee arguments _, ⟨inCallee, inArguments⟩ =>
      simp only [Expression.evaluate]
      apply (evaluate_related handles callee inCallee contexts).bind
      intro later grown value other related
      refine (evaluateArguments_related handles arguments inArguments
        (contexts.advance grown)).bind ?_
      intro final further given others givenRelated
      exact handles.call callee (correspondence.value_later further related.1) givenRelated
  | .filter target used arguments _, ⟨inFilter, inTarget, inArguments⟩ =>
      simp only [Expression.evaluate]
      have applied : ∀ later, comparison.Later world later → ∀ value other,
          correspondence.result later value other →
            comparison.Evaluates later correspondence.result
              (do
                let given ← Expression.evaluateArguments firstEffects firstDepth first arguments
                Run.ofExcept (Expression.applyFilter first used value given))
              (do
                let given ←
                  Expression.evaluateArguments secondEffects secondDepth second arguments
                Run.ofExcept (Expression.applyFilter second used other given)) := by
        intro later grown value other related
        refine (evaluateArguments_related handles arguments inArguments
          (contexts.advance grown)).bind ?_
        intro final further given others givenRelated
        exact related_ofExcept ((correspondence.filter
          ((contexts.advance grown).advance further).context inFilter
          (correspondence.value_later further related.1) givenRelated).attach
            fun _ => isError_of_applyFilter)
      split
      · exact (evaluate_related handles target inTarget contexts.lenient).bind applied
      · exact (evaluate_related handles target inTarget contexts).bind applied
  | .test target used arguments negated _, ⟨inTarget, inArguments⟩ =>
      simp only [Expression.evaluate]
      apply (evaluate_related handles target inTarget contexts.lenient).bind
      intro later grown value other related
      refine (evaluateArguments_related handles arguments inArguments
        (contexts.advance grown)).bind ?_
      intro final further given others givenRelated
      exact related_ofExcept ((correspondence.test used negated
        ((contexts.advance grown).advance further).context
        (correspondence.value_later further related.1) givenRelated).attach
          fun _ => isError_of_applyTest)
  | .unary .not operand _, inside =>
      simp only [Expression.evaluate]
      apply (evaluate_related handles operand inside contexts).bind
      intro later _ value other related
      rw [correspondence.isTrue related.1]
      exact related_pure (bool_related _)
  | .unary .negate operand _, inside =>
      simp only [Expression.evaluate]
      apply (evaluate_related handles operand inside contexts).bind
      intro later _ value other related
      exact related_ofExcept
        ((correspondence.negation related.1).attach fun _ => isError_of_negation)
  | .binary operator left right _, ⟨inLeft, inRight⟩ =>
      have leftRelated := evaluate_related handles left inLeft contexts
      have rightRelated : ∀ later, comparison.Later world later →
          comparison.Evaluates later correspondence.result
            (right.evaluate firstEffects firstDepth first)
            (right.evaluate secondEffects secondDepth second) :=
        fun _ grown => evaluate_related handles right inRight (contexts.advance grown)
      cases operator with
      | and => exact conjunction_related leftRelated rightRelated
      | or => exact disjunction_related leftRelated rightRelated
      | _ => exact operation_related _ leftRelated rightRelated

theorem evaluateItems_related
    (handles : correspondence.Handles firstEffects firstDepth secondEffects secondDepth)
    (items : List Expression) (inside : Expression.AllWithin correspondence.vocabulary items)
    {world : comparison.World} {first second : Environment}
    (contexts : correspondence.Contexts world first second) :
    comparison.Evaluates world (fun later => List.Forall₂ (correspondence.value later))
      (Expression.evaluateItems firstEffects firstDepth first items)
      (Expression.evaluateItems secondEffects secondDepth second items) := by
  match items, inside with
  | [], _ => exact related_pure .nil
  | item :: rest, ⟨inItem, inRest⟩ =>
      simp only [Expression.evaluateItems]
      apply (evaluate_related handles item inItem contexts).bind
      intro later grown value other related
      apply (evaluateItems_related handles rest inRest (contexts.advance grown)).bind
      intro final further values others valuesRelated
      exact related_pure
        (.cons (correspondence.value_later further related.1) valuesRelated)

theorem evaluateEntries_related
    (handles : correspondence.Handles firstEffects firstDepth secondEffects secondDepth)
    (entries : List (Expression × Expression))
    (inside : Expression.EntriesWithin correspondence.vocabulary entries)
    {world : comparison.World} {first second : Environment}
    (contexts : correspondence.Contexts world first second)
    {before otherBefore : Table Value}
    (beforeRelated : EntriesRelated (correspondence.value world) before otherBefore) :
    comparison.Evaluates world (fun later => EntriesRelated (correspondence.value later))
      (Expression.evaluateEntries firstEffects firstDepth first before entries)
      (Expression.evaluateEntries secondEffects secondDepth second otherBefore entries) := by
  match entries, inside with
  | [], _ => exact related_pure beforeRelated
  | (key, value) :: rest, ⟨inKey, inValue, inRest⟩ =>
      simp only [Expression.evaluateEntries]
      apply (evaluate_related handles key inKey contexts).bind
      intro later grown name otherName names
      apply (evaluate_related handles value inValue (contexts.advance grown)).bind
      intro final further stored other related
      rw [correspondence.display names.1]
      have before := entries_later further (entries_later grown beforeRelated)
      exact evaluateEntries_related handles rest inRest
        ((contexts.advance grown).advance further) (storeLast_related _ before related.1)

theorem evaluateKeywords_related
    (handles : correspondence.Handles firstEffects firstDepth secondEffects secondDepth)
    (keywords : List (String × Expression))
    (inside : Expression.KeywordsWithin correspondence.vocabulary keywords)
    {world : comparison.World} {first second : Environment}
    (contexts : correspondence.Contexts world first second) :
    comparison.Evaluates world (fun later => EntriesRelated (correspondence.value later))
      (Expression.evaluateKeywords firstEffects firstDepth first keywords)
      (Expression.evaluateKeywords secondEffects secondDepth second keywords) := by
  match keywords, inside with
  | [], _ => exact related_pure .nil
  | (keyword, expression) :: rest, ⟨inExpression, inRest⟩ =>
      simp only [Expression.evaluateKeywords]
      apply (evaluate_related handles expression inExpression contexts).bind
      intro later grown value other related
      apply (evaluateKeywords_related handles rest inRest (contexts.advance grown)).bind
      intro final further values others valuesRelated
      exact related_pure
        (.cons ⟨rfl, correspondence.value_later further related.1⟩ valuesRelated)

theorem evaluateArguments_related
    (handles : correspondence.Handles firstEffects firstDepth secondEffects secondDepth)
    (arguments : CallArguments Expression)
    (inside : Expression.ArgumentsWithin correspondence.vocabulary arguments)
    {world : comparison.World} {first second : Environment}
    (contexts : correspondence.Contexts world first second) :
    comparison.Evaluates world
      (fun later => ArgumentsRelated (correspondence.value later))
      (Expression.evaluateArguments firstEffects firstDepth first arguments)
      (Expression.evaluateArguments secondEffects secondDepth second arguments) := by
  match arguments, inside with
  | ⟨positional, keyword⟩, ⟨inPositional, inKeyword⟩ =>
      simp only [Expression.evaluateArguments]
      apply (evaluateItems_related handles positional inPositional contexts).bind
      intro later grown values others valuesRelated
      refine (evaluateKeywords_related handles keyword inKeyword
        (contexts.advance grown)).bind ?_
      intro final further named otherNamed namedRelated
      exact related_pure ⟨forall_value_later further valuesRelated, namedRelated⟩

end

end Fundamental

end TemplateEngine.Correspondence

import TemplateEngine.Value.Operators

/-!
# What operators give

An operator gives a truth value, a number, a string that is not marked safe, or two lists
one after the other.
-/

namespace TemplateEngine.BinaryOperator

/-- The values that an operator can give for two operands. -/
inductive Gives (first second : Value) : Value → Prop where
  | bool (value : Bool) : Gives first second (.bool value)
  | number (value : Float) : Gives first second (.number value)
  | plain (content : String) : Gives first second (.plain content)
  | append {items others : List Value} : first = .list items → second = .list others →
      Gives first second (.list (items ++ others))

variable {first second result : Value}

private theorem gives_of_map {α : Type} {tested : Except EvalError α} {holds : α → Bool}
    (applied : (tested.map fun value => Value.bool (holds value)) = .ok result) :
    Gives first second result := by
  cases tested <;> cases applied
  exact .bool _

private theorem gives_of_sum (applied : first.sum second = .ok result) :
    Gives first second result := by
  unfold Value.sum at applied
  split at applied <;> cases applied
  · exact .number _
  · exact .append rfl rfl
  · exact .plain _

private theorem gives_of_repetition {text : String} {count : Float}
    (applied : Value.repetition text count = .ok result) : Gives first second result := by
  unfold Value.repetition at applied
  split at applied
  · cases applied
  · split at applied
    · cases applied
    · split at applied <;> cases applied
      exact .plain _

private theorem gives_of_product (applied : first.product second = .ok result) :
    Gives first second result := by
  unfold Value.product at applied
  split at applied
  · cases applied
    exact .number _
  · exact gives_of_repetition applied
  · cases applied

private theorem gives_of_arithmetic {operator : BinaryOperator}
    {operation : Float → Float → Float}
    (applied : Value.arithmetic operator operation first second = .ok result) :
    Gives first second result := by
  unfold Value.arithmetic at applied
  split at applied <;> cases applied
  exact .number _

private theorem gives_of_division {operator : BinaryOperator}
    {operation : Float → Float → Float}
    (applied : Value.division operator operation first second = .ok result) :
    Gives first second result := by
  unfold Value.division at applied
  split at applied
  · split at applied <;> cases applied
    exact .number _
  · cases applied

theorem gives_of_apply {operator : BinaryOperator}
    (applied : operator.apply first second = .ok result) : Gives first second result := by
  cases operator with
  | or => cases applied; exact .bool _
  | and => cases applied; exact .bool _
  | equal => cases applied; exact .bool _
  | notEqual => cases applied; exact .bool _
  | concat => cases applied; exact .plain _
  | less => exact gives_of_map applied
  | lessEqual => exact gives_of_map applied
  | greater => exact gives_of_map applied
  | greaterEqual => exact gives_of_map applied
  | isIn =>
      have found : ((first.isIn second).map fun found => Value.bool (id found)) = .ok result :=
        applied
      exact gives_of_map found
  | notIn => exact gives_of_map applied
  | add => exact gives_of_sum applied
  | subtract => exact gives_of_arithmetic applied
  | multiply => exact gives_of_product applied
  | divide => exact gives_of_division applied
  | floorDivide => exact gives_of_division applied
  | modulo => exact gives_of_division applied

end TemplateEngine.BinaryOperator

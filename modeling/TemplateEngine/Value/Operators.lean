import TemplateEngine.Error
import TemplateEngine.Text.Search
import TemplateEngine.Value.Equality

/-!
# Operators on values

Arithmetic takes numbers, and subtraction and division also take booleans as numbers.
Addition joins strings and lists too, and multiplication repeats a string.  Numbers
compare with numbers and strings with strings; equality takes all values.
-/

namespace TemplateEngine

namespace Value

/-- The most bytes that a repeated string may have. -/
def maxRepetition : Nat := Nat.pow 2 24

/-- A text some count of times in a row. -/
def repetition (text : String) (count : Float) : Except EvalError Value :=
  match Number.integer? count with
  | none => .error (.cannotRepeat count)
  | some times =>
      if times < 0 then .error (.cannotRepeat count)
      else if times.toNat ≤ maxRepetition ∧
          text.utf8ByteSize * times.toNat ≤ maxRepetition then
        .ok (.plain (Text.repeated text times.toNat))
      else .error .repeatTooLarge

/-- The order of two values. -/
def order (left right : Value) : Except EvalError Ordering :=
  match left, right with
  | .number first, .number second =>
      match Number.compare? first second with
      | some ordering => .ok ordering
      | none => .error .unordered
  | .string first _, .string second _ => .ok (compare first second)
  | _, _ => .error (.cannotCompare left right)

/-- Whether a value occurs in a container: a text in a string, an item in a list, or a
key in a map. -/
def isIn (value container : Value) : Except EvalError Bool :=
  match container with
  | .string content _ => .ok (Text.contains content value.display)
  | .list items => .ok (value.occursIn items)
  | .map entries => .ok (value.string?.any (Table.has entries))
  | _ => .error (.notContainer container)

/-- The sum of two numbers, or two strings or lists one after the other. -/
def sum (left right : Value) : Except EvalError Value :=
  match left, right with
  | .number first, .number second => .ok (.number (first + second))
  | .list first, .list second => .ok (.list (first ++ second))
  | .string first _, .string second _ => .ok (.plain (first ++ second))
  | _, _ => .error (.unsupportedOperands .add left right)

/-- The product of two numbers, or a repeated string. -/
def product (left right : Value) : Except EvalError Value :=
  match left, right with
  | .number first, .number second => .ok (.number (first * second))
  | .string content _, .number count => repetition content count
  | _, _ => .error (.unsupportedOperands .multiply left right)

/-- An operation on what two values count as numbers. -/
def arithmetic (operator : BinaryOperator) (operation : Float → Float → Float)
    (left right : Value) : Except EvalError Value :=
  match left.number?, right.number? with
  | some first, some second => .ok (.number (operation first second))
  | _, _ => .error (.unsupportedOperands operator left right)

/-- An operation whose second operand may not be zero. -/
def division (operator : BinaryOperator) (operation : Float → Float → Float)
    (left right : Value) : Except EvalError Value :=
  match left.number?, right.number? with
  | some first, some second =>
      if second == 0.0 then .error .divisionByZero
      else .ok (.number (operation first second))
  | _, _ => .error (.unsupportedOperands operator left right)

end Value

namespace BinaryOperator

/-- The value of an operation on the values of both operands. -/
def apply (operator : BinaryOperator) (left right : Value) : Except EvalError Value :=
  match operator with
  | .or => .ok (.bool (left.isTrue || right.isTrue))
  | .and => .ok (.bool (left.isTrue && right.isTrue))
  | .equal => .ok (.bool (left.equals right))
  | .notEqual => .ok (.bool (!left.equals right))
  | .less => (left.order right).map fun ordering => .bool (ordering == .lt)
  | .lessEqual => (left.order right).map fun ordering => .bool (ordering != .gt)
  | .greater => (left.order right).map fun ordering => .bool (ordering == .gt)
  | .greaterEqual => (left.order right).map fun ordering => .bool (ordering != .lt)
  | .isIn => (left.isIn right).map .bool
  | .notIn => (left.isIn right).map fun found => .bool (!found)
  | .concat => .ok (.plain (left.display ++ right.display))
  | .add => left.sum right
  | .subtract => Value.arithmetic .subtract (fun first second => first - second) left right
  | .multiply => left.product right
  | .divide => Value.division .divide (fun first second => first / second) left right
  | .floorDivide =>
      Value.division .floorDivide
        (fun first second => Number.floor (first / second)) left right
  | .modulo =>
      Value.division .modulo
        (fun first second => first - second * Number.floor (first / second)) left right

end BinaryOperator

end TemplateEngine

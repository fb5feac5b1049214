import TemplateEngine.Arguments
import TemplateEngine.Error

/-!
# Tests

A test answers a question about a value.  Questions about divisibility need whole
numbers.
-/

namespace TemplateEngine

namespace Value

/-- Whether a value is neither absent nor a failed evaluation. -/
def isDefined (value : Value) : Bool :=
  !(value.isNil || value.isError)

/-- The integer that a test needs a value to be. -/
def integerFor (value : Value) (test : String) : Except EvalError Int :=
  match value with
  | .number numeral =>
      match Number.clampedInteger? numeral with
      | some integer => .ok integer
      | none => .error (.notWhole test value)
  | _ => .error (.notWhole test value)

/-- Whether a value is divisible by the first argument. -/
def isDivisible (value : Value) (arguments : Arguments) : Except EvalError Bool := do
  let dividend ← value.integerFor "divisibleby"
  match arguments.get? 0 "num" with
  | none => throw .missingDivisor
  | some argument =>
      let divisor ← argument.integerFor "divisibleby"
      if divisor = 0 then throw .divisionByZero
      else return dividend.tmod divisor == 0

end Value

namespace Predicate

/-- Whether a test holds of a value. -/
def holds (predicate : Predicate) (value : Value) (arguments : Arguments) :
    Except EvalError Bool :=
  match predicate with
  | .defined => .ok value.isDefined
  | .undefined => .ok (!value.isDefined)
  | .none => .ok value.isNil
  | .string => .ok value.isString
  | .number => .ok value.isNumber
  | .mapping => .ok value.isMap
  | .sequence => .ok value.isList
  | .callable => .ok value.isCallable
  | .odd => (value.integerFor "odd").map fun integer => integer.tmod 2 != 0
  | .even => (value.integerFor "even").map fun integer => integer.tmod 2 == 0
  | .divisibleBy => value.isDivisible arguments

end Predicate

end TemplateEngine

import TemplateEngine.Filter
import TemplateEngine.Predicate
import TemplateEngine.Run
import TemplateEngine.Value.Operators

/-!
# Evaluating expressions

Evaluation follows the structure of an expression and applies filters, tests and
operators.  Where it has to look outside the expression, to read a name or to call a
value, what happens is a parameter.  An expression never has a failed evaluation as its
value: such a value becomes the error of the evaluation.
-/

namespace TemplateEngine

/-- What happens where the meaning of a piece of a template is not in that piece.  Calls,
blocks and inclusions are given the depth of the place where they stand. -/
structure Effects where
  /-- Read a name in a scope. -/
  lookup : Scope → String → Run EvalError (Option Value)
  /-- Call the value that an expression has. -/
  call : Nat → Expression → Value → Arguments → Run EvalError Value
  /-- Write the value of an output tag. -/
  emit : Environment → Value → Run TemplateError Unit
  /-- Render a block by its name. -/
  block : Environment → Nat → String → Run TemplateError Unit
  /-- Render another template, given by its environment, with the scope or without. -/
  inclusion : Environment → Nat → Environment → Bool → Run TemplateError Unit

namespace Literal

/-- The value of a literal. -/
def value : Literal → Value
  | .none => .nil
  | .bool value => .bool value
  | .integer value => .ofInt value
  | .float value => .number value
  | .string value => .plain value

end Literal

namespace Value

/-- A value, unless it is a failed evaluation. -/
def checked : Value → Except EvalError Value
  | .error message => .error (.reported message)
  | value => .ok value

end Value

namespace Expression

/-- The value of what is undefined: nothing, or an error in strict mode. -/
def undefined (environment : Environment) (error : EvalError) : Except EvalError Value :=
  if environment.config.strictUndefined then .error error else .ok .nil

/-- A value that was found, or the value of what is undefined. -/
def foundOr (environment : Environment) (error : EvalError) :
    Option Value → Except EvalError Value
  | some value => value.checked
  | none => undefined environment error

/-- Whether a filter looks at undefined values instead of failing on them. -/
def inspectsUndefined (name : String) : Bool :=
  name == "default" || name == "d"

/-- Apply the filter of a name. -/
def applyFilter (environment : Environment) (name : String) (value : Value)
    (arguments : Arguments) : Except EvalError Value :=
  match environment.registries.filters.get? name with
  | some found => (found.apply environment.config.autoescape value arguments).checked
  | none => .error (.unknownFilter name)

/-- Apply the test of a name. -/
def applyTest (environment : Environment) (name : String) (negated : Bool) (value : Value)
    (arguments : Arguments) : Except EvalError Value :=
  match environment.registries.tests.get? name with
  | some found => (found.holds value arguments).map fun passed => .bool (passed != negated)
  | none => .error (.unknownTest name)

/-- The negative of a number. -/
def negation : Value → Except EvalError Value
  | .number value => .ok (.number (-value))
  | value => .error (.cannotNegate value)

mutual

/-- The value of an expression. -/
def evaluate (effects : Effects) (depth : Nat) (environment : Environment) :
    Expression → Run EvalError Value
  | .literal value _ => return value.value
  | .name identifier _ => do
      let found ← effects.lookup environment.scope identifier
      Run.ofExcept (foundOr environment (.undefinedName identifier) found)
  | .list items _ => return .list (← evaluateItems effects depth environment items)
  | .dict entries _ => return .map (← evaluateEntries effects depth environment [] entries)
  | .member target selected _ => do
      let value ← evaluate effects depth environment target
      Run.ofExcept (foundOr environment (.noMember target selected) (value.member? selected))
  | .item target index _ => do
      let value ← evaluate effects depth environment target
      let key ← evaluate effects depth environment index
      Run.ofExcept (foundOr environment (.noItem target index) (value.item? key))
  | .call callee arguments _ => do
      let value ← evaluate effects depth environment callee
      let arguments ← evaluateArguments effects depth environment arguments
      effects.call depth callee value arguments
  | .filter target used arguments _ => do
      let value ←
        if inspectsUndefined used then evaluate effects depth environment.lenient target
        else evaluate effects depth environment target
      let arguments ← evaluateArguments effects depth environment arguments
      Run.ofExcept (applyFilter environment used value arguments)
  | .test target used arguments negated _ => do
      let value ← evaluate effects depth environment.lenient target
      let arguments ← evaluateArguments effects depth environment arguments
      Run.ofExcept (applyTest environment used negated value arguments)
  | .unary .not operand _ => do
      let value ← evaluate effects depth environment operand
      return .bool (!value.isTrue)
  | .unary .negate operand _ => do
      let value ← evaluate effects depth environment operand
      Run.ofExcept (negation value)
  | .binary .and left right _ => do
      let first ← evaluate effects depth environment left
      if first.isTrue then
        let second ← evaluate effects depth environment right
        return .bool second.isTrue
      else return .bool false
  | .binary .or left right _ => do
      let first ← evaluate effects depth environment left
      if first.isTrue then return .bool true
      else
        let second ← evaluate effects depth environment right
        return .bool second.isTrue
  | .binary operator left right _ => do
      let first ← evaluate effects depth environment left
      let second ← evaluate effects depth environment right
      Run.ofExcept (operator.apply first second)

/-- The values of several expressions in turn. -/
def evaluateItems (effects : Effects) (depth : Nat) (environment : Environment) :
    List Expression → Run EvalError (List Value)
  | [] => return []
  | first :: rest => do
      let value ← evaluate effects depth environment first
      let values ← evaluateItems effects depth environment rest
      return value :: values

/-- The entries of a dictionary, added in turn to those before them.  The displayed form
of a key is the key. -/
def evaluateEntries (effects : Effects) (depth : Nat) (environment : Environment)
    (before : Table Value) : List (Expression × Expression) → Run EvalError (Table Value)
  | [] => return before
  | (key, value) :: rest => do
      let key ← evaluate effects depth environment key
      let value ← evaluate effects depth environment value
      evaluateEntries effects depth environment (before.storeLast key.display value) rest

/-- The values of named arguments in turn. -/
def evaluateKeywords (effects : Effects) (depth : Nat) (environment : Environment) :
    List (String × Expression) → Run EvalError (List (String × Value))
  | [] => return []
  | (keyword, first) :: rest => do
      let value ← evaluate effects depth environment first
      let values ← evaluateKeywords effects depth environment rest
      return (keyword, value) :: values

/-- The values of arguments, first the positional ones. -/
def evaluateArguments (effects : Effects) (depth : Nat) (environment : Environment) :
    CallArguments Expression → Run EvalError Arguments
  | ⟨positional, keyword⟩ => do
      let positional ← evaluateItems effects depth environment positional
      let keyword ← evaluateKeywords effects depth environment keyword
      return ⟨positional, keyword⟩

end

end Expression

end TemplateEngine

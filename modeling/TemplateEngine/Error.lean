import TemplateEngine.Expression.Text
import TemplateEngine.SyntaxError
import TemplateEngine.Value.Text

/-!
# Errors

What can go wrong when templates are read and rendered.  Errors are causes and carry
what they are about; their wording is decided here and nowhere else.  An error that
passes a construct of a template on its way out is wrapped with the site of it.
-/

namespace TemplateEngine

/-- Why an expression has no value. -/
inductive EvalError where
  | undefinedName (name : String)
  | noMember (target : Expression) (name : String)
  | noItem (target index : Expression)
  | unknownFilter (name : String)
  | unknownTest (name : String)
  | cannotNegate (value : Value)
  | undefinedCallee (callee : Expression)
  | notCallable (callee : Expression) (value : Value)
  | macroFailed (name reason : String)
  | tooManyArguments (name : String) (declared given : Nat)
  | unknownParameter (name parameter : String)
  | repeatedParameter (name parameter : String)
  | divisionByZero
  | unsupportedOperands (operator : BinaryOperator) (left right : Value)
  | cannotRepeat (count : Float)
  | repeatTooLarge
  /-- A comparison with the number that is not a number. -/
  | unordered
  | cannotCompare (left right : Value)
  | notContainer (value : Value)
  | notWhole (test : String) (value : Value)
  | missingDivisor
  | notIterable (iterable : Expression) (value : Value)
  | cannotUnpack (value : Value) (count : Nat)
  | needsString (filter : String)
  | needsTwoArguments
  | needsList
  | noLength (value : Value)
  /-- The message of a value that is itself a failed evaluation. -/
  | reported (message : String)

namespace EvalError

/-- The wording of an evaluation error. -/
def message : EvalError → String
  | .undefinedName name => s!"'{name}' is undefined"
  | .noMember target name => s!"'{target.text}' has no attribute '{name}'"
  | .noItem target index => s!"'{target.text}' has no item {index.text}"
  | .unknownFilter name => s!"Unknown filter '{name}'"
  | .unknownTest name => s!"Unknown test '{name}'"
  | .cannotNegate value => s!"Cannot negate {value.describe}"
  | .undefinedCallee callee => s!"'{callee.text}' is undefined and cannot be called"
  | .notCallable callee value => s!"'{callee.text}' is not callable ({value.describe})"
  | .macroFailed name reason => s!"Error calling macro '{name}': {reason}"
  | .tooManyArguments name declared given =>
      s!"Macro '{name}' takes {declared} argument(s), {given} given"
  | .unknownParameter name parameter =>
      s!"Macro '{name}' has no parameter named '{parameter}'"
  | .repeatedParameter name parameter =>
      s!"Macro '{name}' got multiple values for parameter '{parameter}'"
  | .divisionByZero => "Division by zero"
  | .unsupportedOperands operator left right =>
      s!"Unsupported operands for '{operator.symbol}': {left.describe} and {right.describe}"
  | .cannotRepeat count => s!"Cannot repeat a string {Number.text count} times"
  | .repeatTooLarge => "String repeat too large"
  | .unordered => "Cannot compare NaN"
  | .cannotCompare left right => s!"Cannot compare {left.describe} and {right.describe}"
  | .notContainer value => s!"{value.describe} is not a container"
  | .notWhole test value => s!"Test '{test}' expects an integer, got {value.describe}"
  | .missingDivisor => "Test 'divisibleby' expects a divisor"
  | .notIterable iterable value => s!"'{iterable.text}' is not iterable ({value.describe})"
  | .cannotUnpack value count => s!"Cannot unpack {value.describe} into {count} variables"
  | .needsString filter => s!"Filter '{filter}' expects a string"
  | .needsTwoArguments => "Filter 'replace' expects two arguments"
  | .needsList => "Filter 'join' expects a list"
  | .noLength value => s!"Object of type {value.describe} has no length"
  | .reported message => message

/-- The value of a failed evaluation. -/
def toValue (error : EvalError) : Value :=
  .error error.message

end EvalError

/-- The construct of a template that an error passes. -/
inductive Site where
  /-- An expression that plays a role in a statement. -/
  | role (role : String) (expression : Expression)
  | condition (expression : Expression)
  | output (expression : Expression)
  | statement (line : Nat) (text : String)
  | parameterDefault (parameter : String) (line : Nat)
  /-- A site in its own words. -/
  | other (text : String)

namespace Site

/-- The wording of a site. -/
def text : Site → String
  | .role played expression =>
      s!"Unable to evaluate {played} at line {expression.line}: {expression.text}"
  | .condition expression =>
      s!"Unable to render condition at line {expression.line}: {expression.text}"
  | .output expression =>
      s!"Unable to render expression at line {expression.line}: {expression.text}"
  | .statement line text => s!"Unable to execute statement at line {line}: {text}"
  | .parameterDefault parameter line =>
      s!"Unable to evaluate default of parameter '{parameter}' at line {line}"
  | .other text => text

end Site

/-- Why a template cannot be read or rendered. -/
inductive TemplateError where
  | parse (error : SyntaxError)
  | evaluation (error : EvalError)
  | wrapped (site : Site) (source : TemplateError)
  | loader (error : LoaderError)
  /-- No loader can be derived for a template named in another one. -/
  | loaderInherit (filename loader : String) (source : TemplateError)
  | load (filename : String) (source : TemplateError)
  | registry (error : RegistryError)
  /-- Templates or macros nest deeper than allowed. -/
  | recursion (name : String) (limit : Nat)
  | missingMacro (name template : String)
  /-- The sink rejects a write. -/
  | output
  | invalidData (message : String)

namespace TemplateError

/-- The wording of an error. -/
def message : TemplateError → String
  | .parse error => error.message
  | .evaluation error => error.message
  | .wrapped site source => site.text ++ ": " ++ source.message
  | .loader error => error.message
  | .loaderInherit filename origin source =>
      s!"Failed to inherit loader from '{filename}' ({origin}): " ++ source.message
  | .load filename source => s!"Unable to load template '{filename}': " ++ source.message
  | .registry error => error.message
  | .recursion name limit => s!"Recursion too deep at '{name}' (max depth {limit})"
  | .missingMacro name template => s!"Macro '{name}' not found in template '{template}'"
  | .output => "Unable to write output: an error occurred when formatting an argument"
  | .invalidData message => s!"Invalid template data: {message}"

/-- The innermost error below all sites. -/
def rootCause : TemplateError → TemplateError
  | .wrapped _ source => source.rootCause
  | error => error

/-- Whether an error is that a template does not exist, directly or as the source of
another error. -/
def isNotFound : TemplateError → Bool
  | .loader (.notFound _) => true
  | .wrapped _ source => source.isNotFound
  | .loaderInherit _ _ source => source.isNotFound
  | .load _ source => source.isNotFound
  | _ => false

/-- An error and the errors that are its sources, the outermost first. -/
def chain : TemplateError → List TemplateError
  | .wrapped site source => .wrapped site source :: source.chain
  | .loaderInherit filename origin source =>
      .loaderInherit filename origin source :: source.chain
  | .load filename source => .load filename source :: source.chain
  | error => [error]

end TemplateError

end TemplateEngine

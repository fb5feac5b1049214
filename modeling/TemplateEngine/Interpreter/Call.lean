import TemplateEngine.Interpreter

/-!
# Calls

A macro call binds the parameters in a new scope inside the scope of the macro's
definition and renders the body there; its value is the text of the body.  A block
renders its most derived definition, in which `super` is a function that renders the
next one.
-/

namespace TemplateEngine.Interpreter

/-- Whether a macro can take some arguments at all. -/
def checkArguments (definition : Definition Node) (arguments : Arguments) :
    Except EvalError Unit :=
  let declared := definition.parameters.length
  if declared < arguments.positional.length then
    .error (.tooManyArguments definition.name declared arguments.positional.length)
  else
    match arguments.keyword.find? fun argument =>
        !(Table.has definition.parameters argument.1) with
    | some argument => .error (.unknownParameter definition.name argument.1)
    | none => .ok ()

/-- The value of the parameter at a place.  A default is evaluated where the parameters
before it are bound. -/
def parameterValue (interpreter : Interpreter) (environment : Environment) (depth : Nat)
    (callee : String) (arguments : Arguments) (place : Nat) (parameter : String)
    (default : Option Expression) : Run TemplateError Value :=
  match arguments.at? place, arguments.named? parameter with
  | some _, some _ => throw (.evaluation (.repeatedParameter callee parameter))
  | some value, none => return value
  | none, some value => return value
  | none, none =>
      match default with
      | some expression =>
          (interpreter.evaluate environment depth expression).mapError fun error =>
            .wrapped (.parameterDefault parameter expression.line) (.evaluation error)
      | none => return .nil

/-- Bind the parameters from a place on. -/
def bindParameters (interpreter : Interpreter) (environment : Environment) (depth : Nat)
    (callee : String) (arguments : Arguments) :
    Nat → List (String × Option Expression) → Run TemplateError Unit
  | _, [] => return ()
  | place, (parameter, default) :: rest => do
      let value ←
        parameterValue interpreter environment depth callee arguments place parameter default
      Run.bind environment.scope parameter value
      bindParameters interpreter environment depth callee arguments (place + 1) rest

/-- Render the body of a macro with its parameters bound. -/
def renderClosure (interpreter : Interpreter) (closure : Closure) (arguments : Arguments)
    (depth : Nat) : Run TemplateError Unit := do
  let scope ← Run.openChild closure.environment.scope
  let environment := closure.environment.within scope
  (Run.ofExcept (checkArguments closure.definition arguments)).mapError .evaluation
  bindParameters interpreter environment depth closure.name arguments 0
    closure.definition.parameters
  interpreter.render environment depth closure.definition.body.nodes

/-- Call a macro at the depth of the caller. -/
def callClosure (interpreter : Interpreter) (closure : Closure) (arguments : Arguments)
    (depth : Nat) : Run TemplateError Value := do
  let inside ← enter depth closure.name
  let text ← Run.capture (renderClosure interpreter closure arguments inside)
  return renderedValue closure.environment text

/-- Open the scope of a definition of a block.  If it overrides others, `super` stands for
them there. -/
def openBlock (environment : Environment) (depth : Nat) (overridden : List (Body Node)) :
    Run TemplateError Environment := do
  let scope ← Run.openChild environment.scope
  let inside := environment.within scope
  if !overridden.isEmpty then
    Run.bind scope "super" (.function (.super inside depth overridden))
  return inside

/-- Render the first of some definitions of a block, which overrides the others. -/
def renderBlock (interpreter : Interpreter) (environment : Environment) (depth : Nat) :
    List (Body Node) → Run TemplateError Unit
  | [] => return ()
  | body :: overridden => do
      let inside ← openBlock environment depth overridden
      interpreter.render inside depth body.nodes

/-- Call a function that is not a macro. -/
def callFunction (natives : Natives) (interpreter : Interpreter) :
    Function → Arguments → SafeRun Value
  | .native name, arguments => return natives name arguments
  | .super environment depth bodies, _ => do
      match ← Run.attempt (Run.capture (renderBlock interpreter environment depth bodies))
      with
      | .ok text => return renderedValue environment text
      | .error error => return .error error.message

/-- Call a value that is written as an expression. -/
def callValue (natives : Natives) (interpreter : Interpreter) (depth : Nat)
    (callee : Expression) (value : Value) (arguments : Arguments) : Run EvalError Value :=
  match value with
  | .closure closure =>
      (callClosure interpreter closure arguments depth).mapError fun error =>
        .macroFailed closure.name error.message
  | .function function => do
      let result ← callFunction natives interpreter function arguments
      Run.ofExcept result.checked
  | .nil => throw (.undefinedCallee callee)
  | value => throw (.notCallable callee value)

end TemplateEngine.Interpreter

import TemplateEngine.Interpreter.Call
import TemplateEngine.Interpreter.Loop
import TemplateEngine.Interpreter.Page
import TemplateEngine.Interpreter.Reference
import TemplateEngine.Node.Text

/-!
# Rendering

The meaning of output tags, statements and nodes, given the effects of what is used by
its name.  Only the bodies that stand in a template are followed here, so rendering is
by recursion on nodes.

An interpreter for every nesting of uses is built from the one for fewer: no render
depends on how many there are in reserve, as long as there are enough.
-/

namespace TemplateEngine.Interpreter

/-- The text that an output tag writes for a value. -/
def writtenText (autoescape : Bool) (value : Value) : String :=
  if autoescape && value.isUnsafeString then value.escaped else value.display

/-- What was rendered is written as it is, with autoescaping and without. -/
theorem writtenText_renderedValue (environment : Environment) (text : String) :
    writtenText environment.config.autoescape (renderedValue environment text) = text := by
  unfold writtenText renderedValue
  cases environment.config.autoescape <;> rfl

/-- The text of literal data without the blanks next to tags with a dash. -/
def trimmedText (text : String) (trim : Trim) : String :=
  let blank := fun character => character == ' ' || character == '\t' || character == '\n'
  let characters := text.toList
  let characters := if trim.left then characters.dropWhile blank else characters
  String.ofList (if trim.right then Text.dropWhileEnd blank characters else characters)

/-- The value of an expression; an error is attributed to a site. -/
def evaluateAt (effects : Effects) (depth : Nat) (environment : Environment)
    (site : Expression → Site) (expression : Expression) : Run TemplateError Value :=
  (expression.evaluate effects depth environment).mapError fun error =>
    .wrapped (site expression) (.evaluation error)

/-- The value of an expression that plays a role in a statement. -/
def evaluateAs (effects : Effects) (depth : Nat) (environment : Environment) (role : String)
    (expression : Expression) : Run TemplateError Value :=
  evaluateAt effects depth environment (.role role) expression

/-- The expression that an output tag writes, if any. -/
def chosen (effects : Effects) (depth : Nat) (environment : Environment) (output : Output) :
    Run TemplateError (Option Expression) := do
  match output.condition with
  | none => return some output.expression
  | some condition =>
      let value ← evaluateAt effects depth environment .condition condition
      return if value.isTrue then some output.expression else output.alternative

/-- Render an output tag. -/
def renderOutput (effects : Effects) (depth : Nat) (environment : Environment)
    (output : Output) : Run TemplateError Unit := do
  match ← chosen effects depth environment output with
  | none => return ()
  | some expression =>
      let value ← evaluateAt effects depth environment .output expression
      effects.emit environment value

/-- The items that a loop visits. -/
def loopItems (effects : Effects) (depth : Nat) (environment : Environment)
    (targets : List String) (iterable : Expression) (condition : Option Expression) :
    Run TemplateError (List Value) := do
  let value ← evaluateAs effects depth environment "loop iterable" iterable
  let items ← (Run.ofExcept (Loop.items targets iterable value)).mapError .evaluation
  match condition with
  | none => return items
  | some condition =>
      Loop.keep (fun item => do
        let inside ← Loop.openItem environment targets item
        let passed ← evaluateAs effects depth inside "loop filter" condition
        return passed.isTrue) items

/-- The environment of the template that an expression names. -/
def referred (effects : Effects) (depth : Nat) (environment : Environment)
    (filename : Expression) : Run TemplateError Environment := do
  let name ← evaluateAs effects depth environment "filename" filename
  Run.ofExcept (environment.refer name.display)

/-- Render an include tag. -/
def renderInclusion (effects : Effects) (depth : Nat)
    (environment : Environment) (filename : Expression)
    (ignoreMissing withContext : Bool) : Run TemplateError Unit := do
  let name ← evaluateAs effects depth environment "filename" filename
  match environment.refer name.display with
  | .ok included => effects.inclusion environment depth included withContext
  | .error error =>
      if ignoreMissing && error.isNotFound then return () else throw error

/-- Whether a box shows its first body. -/
def boxShows (effects : Effects) (depth : Nat) (environment : Environment) :
    Option Expression → Run TemplateError Bool
  | none => return true
  | some expression => do
      let value ← evaluateAs effects depth environment "box" expression
      return value.isTrue

mutual

/-- Render a node. -/
def renderNode (effects : Effects) (depth : Nat)
    (environment : Environment) : Node → Run TemplateError Unit
  | .comment _ _ => return ()
  | .data text trim _ => Run.write (trimmedText text trim)
  | .output output => renderOutput effects depth environment output
  | .statement tag statement position =>
      (renderStatement effects depth environment tag statement).mapError fun error =>
        .wrapped (.statement position.line statement.text) error
  | .wrapper ⟨nodes, _, _⟩ => renderNodes effects depth environment nodes

/-- Render nodes in turn. -/
def renderNodes (effects : Effects) (depth : Nat)
    (environment : Environment) : List Node → Run TemplateError Unit
  | [] => return ()
  | node :: rest => do
      renderNode effects depth environment node
      renderNodes effects depth environment rest

/-- Render a body that may be absent. -/
def renderOptional (effects : Effects) (depth : Nat)
    (environment : Environment) : Option (Body Node) → Run TemplateError Unit
  | none => return ()
  | some ⟨nodes, _, _⟩ => renderNodes effects depth environment nodes

/-- Render the body of the first branch whose condition holds, and tell whether there is
one. -/
def renderBranches (effects : Effects) (depth : Nat)
    (environment : Environment) :
    List (Expression × Body Node) → Run TemplateError Bool
  | [] => return false
  | (condition, ⟨nodes, _, _⟩) :: rest => do
      let value ← evaluateAs effects depth environment "condition" condition
      if value.isTrue then
        renderNodes effects depth environment nodes
        return true
      else renderBranches effects depth environment rest

/-- Render the statement of a tag. -/
def renderStatement (effects : Effects) (depth : Nat)
    (environment : Environment) (tag : String) :
    Statement Node → Run TemplateError Unit
  | .conditional branches otherwise => do
      if !(← renderBranches effects depth environment branches) then
        renderOptional effects depth environment otherwise
  | .loop targets iterable condition ⟨nodes, _, _⟩ empty => do
      let items ← loopItems effects depth environment targets iterable condition
      if items.isEmpty then
        let scope ← Run.openChild environment.scope
        renderOptional effects depth (environment.within scope) empty
      else
        Loop.visit environment targets items.length
          (fun inside => renderNodes effects depth inside nodes) 0 items
  | .assignment target expression => do
      let value ← evaluateAs effects depth environment "assignment" expression
      Run.bind environment.scope target value
  | .capture target ⟨nodes, _, _⟩ => do
      let text ← Run.capture do
        let scope ← Run.openChild environment.scope
        renderNodes effects depth (environment.within scope) nodes
      Run.bind environment.scope target (renderedValue environment text)
  | .block name => effects.block environment depth name
  | .parent _ => return ()
  | .definition definition =>
      Run.bind environment.scope definition.name (.closure ⟨definition, environment⟩)
  | .importModule filename target withContext => do
      let imported ← referred effects depth environment filename
      importModule environment imported target withContext
  | .importNames filename names withContext => do
      let imported ← referred effects depth environment filename
      importNames environment imported names withContext
  | .inclusion filename ignoreMissing withContext =>
      renderInclusion effects depth environment filename ignoreMissing withContext
  | .box label condition ⟨nodes, _, _⟩ other => do
      Run.write ("[" ++ tag ++ ":" ++ label ++ "@" ++ toString depth ++ ":")
      let shown ← boxShows effects depth environment condition
      let scope ← Run.openChild environment.scope
      if shown then renderNodes effects depth (environment.within scope) nodes
      else renderOptional effects depth (environment.within scope) other
      Run.write "]"

end

/-- The interpreter that follows the structure of what it is given and has some
effects. -/
def ofEffects (effects : Effects) : Interpreter :=
  ⟨fun environment depth expression => expression.evaluate effects depth environment,
    fun environment depth nodes => renderNodes effects depth environment nodes⟩

/-- The effects under which what is used by its name means what an interpreter says. -/
def effects (natives : Natives) (interpreter : Interpreter) : Effects where
  lookup := Run.lookup
  call := callValue natives interpreter
  emit := fun environment value =>
    Run.write (writtenText environment.config.autoescape value)
  block := fun environment depth name =>
    renderBlock interpreter environment depth (environment.lineage.blocksFor name)
  inclusion := includeTemplate interpreter

/-- The interpreter in which uses by name nest at most the given count. -/
def bounded (natives : Natives) : Nat → Interpreter
  | 0 => exhausted
  | bound + 1 => ofEffects (effects natives (bounded natives bound))

end TemplateEngine.Interpreter

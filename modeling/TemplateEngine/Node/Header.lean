import TemplateEngine.Expression.Reader
import TemplateEngine.Expression.Text
import TemplateEngine.Node

/-!
# The headers of tags

What stands inside a tag besides its name: the expression of an output tag, and the
targets, conditions, parameters and file names of the statements.
-/

namespace TemplateEngine.TagReader

/-- The content of an output tag at a position. -/
def output (position : Position) : TagReader Output := do
  let written ← expression
  if ← accepts "if" then
    let condition ← expression
    if ← accepts "else" then
      let alternative ← expression
      finish
      return ⟨written, some condition, some alternative, position⟩
    else
      finish
      return ⟨written, some condition, none, position⟩
  else
    finish
    return ⟨written, none, none, position⟩

/-- An expression that fills the rest of a tag. -/
def wholeExpression : TagReader Expression := do
  let value ← expression
  finish
  return value

/-- More names after a comma each, at most the given count. -/
def moreNames (what : String) : Nat → TagReader (List String)
  | 0 => return []
  | bound + 1 => do
      if ← acceptsOperator "," then
        let token ← name what
        return token.text :: (← moreNames what bound)
      else return []

/-- One or more names separated by commas. -/
def names (what : String) : TagReader (List String) := do
  let first ← name what
  let cursor ← get
  return first.text :: (← moreNames what cursor.remaining.length)

/-- The targets, iterable and filter of a loop. -/
structure LoopHeader where
  targets : List String
  iterable : Expression
  filter : Option Expression

/-- The header of a loop. -/
def loopHeader : TagReader LoopHeader := do
  let targets ← names "a loop variable"
  if ← accepts "in" then
    let iterable ← expression
    let filter ← if ← accepts "if" then some <$> expression else pure none
    finish
    return ⟨targets, iterable, filter⟩
  else fail "Expected 'in'"

/-- The target of an assignment, and its value unless a body follows. -/
def assignmentHeader : TagReader (String × Option Expression) := do
  let target ← name "a variable name"
  if ← acceptsOperator "=" then
    let value ← wholeExpression
    return (target.text, some value)
  else
    finish
    return (target.text, none)

/-- The name of a block. -/
def blockHeader : TagReader String := do
  let token ← name "a block name"
  finish
  return token.text

/-- The end of a tag that may repeat a name; another name is a fault. -/
def closingName (expected : String) (fault : String → SyntaxFault) : TagReader Unit := do
  match ← kind? .name with
  | some token =>
      if token.text = expected then finish
      else throw ⟨fault token.text, token.position⟩
  | none => finish

/-- The file name of a parent, which has to be a string literal. -/
def parentHeader : TagReader String := do
  match ← expression with
  | .literal (.string filename) _ =>
      finish
      return filename
  | other => throw ⟨.parentNotLiteral other.text, other.position⟩

/-- A parameter of a macro that is not among those before it. -/
def parameter (definition : String) (before : List (String × Option Expression)) :
    TagReader (String × Option Expression) := do
  let token ← name "a parameter name"
  if before.any (·.1 == token.text) then
    throw ⟨.duplicateParameter token.text definition, token.position⟩
  else if ← acceptsOperator "=" then
    let value ← expression
    return (token.text, some value)
  else return (token.text, none)

/-- The parameters of a macro up to the closing parenthesis, with those before. -/
def parametersFrom (definition : String) :
    Nat → List (String × Option Expression) →
      TagReader (List (String × Option Expression))
  | 0, _ => fail "Expected ','"
  | bound + 1, gathered => do
      if ← acceptsOperator ")" then return gathered
      else
        if !gathered.isEmpty then
          let _ ← operator ","
        let next ← parameter definition gathered
        parametersFrom definition bound (gathered ++ [next])

/-- The name and parameters of a macro. -/
def definitionHeader : TagReader (String × List (String × Option Expression)) := do
  let token ← name "a macro name"
  let _ ← operator "("
  let cursor ← get
  let parameters ← parametersFrom token.text (cursor.remaining.length + 1) []
  finish
  return (token.text, parameters)

/-- The words that say whether a template sees the scope it is used in, if they come
next. -/
def contextModifier : TagReader (Option Bool) := do
  let cursor ← get
  match cursor.current? with
  | some token =>
      if (token.isName "with" || token.isName "without") &&
          (cursor.peek? 1).any (·.isName "context") then
        set cursor.advance.advance
        return some (token.text == "with")
      else return none
  | none => return none

/-- Require that a tag has tokens left. -/
def notEmpty (requirement : String) : TagReader Unit := do
  let cursor ← get
  if cursor.atEnd then fail requirement else return ()

/-- What an import without names lacks. -/
def importRequirement : String :=
  "You must at least specify one macro to import"

/-- The file, name and context of a module import. -/
def importModuleHeader : TagReader (Statement Node) := do
  notEmpty importRequirement
  let filename ← expression
  if ← accepts "as" then
    let token ← name "a module alias"
    let withContext ← contextModifier
    finish
    return .importModule filename token.text withContext
  else fail "Expected 'as' keyword"

/-- One imported name, as alias and macro name. -/
def importedName : TagReader (String × String) := do
  let token ← name "a macro name"
  if ← accepts "as" then
    let target ← name "a macro alias"
    return (target.text, token.text)
  else return (token.text, token.text)

/-- The imported names up to the end of the tag or its context, with those before. -/
def importedNames :
    Nat → List (String × String) → TagReader (List (String × String) × Option Bool)
  | 0, gathered => return (gathered, none)
  | bound + 1, gathered => do
      if (← get).atEnd then return (gathered, none)
      else
        let imported ← importedName
        let withContext ← contextModifier
        if withContext.isSome || (← get).atEnd then
          return (gathered ++ [imported], withContext)
        else
          let _ ← operator ","
          importedNames bound (gathered ++ [imported])

/-- The file, names and context of an import of macros. -/
def importNamesHeader : TagReader (Statement Node) := do
  notEmpty importRequirement
  let filename ← expression
  if ← accepts "import" then
    let cursor ← get
    let (imported, withContext) ← importedNames (cursor.remaining.length + 1) []
    finish
    if imported.isEmpty then fail importRequirement
    else return .importNames filename imported withContext
  else fail "Expected 'import' keyword"

/-- The file and options of an inclusion. -/
def inclusionHeader : TagReader (Statement Node) := do
  notEmpty "Expected a template to include"
  let filename ← expression
  let ignoreMissing ← accepts "ignore"
  if ignoreMissing then
    if !(← accepts "missing") then fail "Expected 'missing' after 'ignore'"
  let withContext ← contextModifier
  finish
  return .inclusion filename ignoreMissing (withContext.getD true)

/-- The condition of a box, which may be absent. -/
def boxHeader : TagReader (Option Expression) := do
  if (← get).atEnd then return none
  else some <$> wholeExpression

end TemplateEngine.TagReader

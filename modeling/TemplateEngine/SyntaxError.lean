import TemplateEngine.Position

/-!
# Syntax errors

What can be wrong with the text of a template, and where.  A fault is a cause; the
wording of the message follows from it.
-/

namespace TemplateEngine

/-- The causes of a syntax error. -/
inductive SyntaxFault where
  /-- A tag is not closed before the end of the source. -/
  | unclosedTag (delimiter : String)
  | unclosedComment
  | unterminatedString
  | unexpectedCharacter (character : Char)
  /-- The source ends inside a body that one of some tags would close. -/
  | unexpectedEnd (expected : List String)
  | endOfTemplate
  | endInsideTag
  | emptyExpression
  | unexpectedToken (token : String)
  | expectedStatementName (found : String)
  | unknownStatement (name : String)
  | duplicateBlock (name : String)
  | secondParent
  /-- Tokens are left over where a tag should end. -/
  | trailingToken (token : String)
  /-- The tokens of a tag do not go on as they should; absent means its end. -/
  | unmet (requirement : String) (found : Option String)
  | unexpectedInExpression (token : String)
  | invalidInteger (token : String)
  | blockClosedBy (name closing : String)
  | definitionClosedBy (name closing : String)
  | duplicateParameter (parameter definition : String)
  /-- The parent of a template is not named by a string literal. -/
  | parentNotLiteral (expression : String)
  /-- A fault in its own words. -/
  | other (message : String)
deriving DecidableEq

namespace SyntaxFault

/-- The wording of a fault. -/
def message : SyntaxFault → String
  | .unclosedTag delimiter => s!"Unclosed tag, expected '{delimiter}'"
  | .unclosedComment => "Unclosed comment, expected '#\x7d'"
  | .unterminatedString => "Unterminated string literal"
  | .unexpectedCharacter character => s!"Unexpected character '{character}'"
  | .unexpectedEnd expected =>
      "Unexpected end of template, expected one of: " ++ ", ".intercalate expected
  | .endOfTemplate => "Unexpected end of template"
  | .endInsideTag => "Unexpected end of template inside tag"
  | .emptyExpression => "Empty expression"
  | .unexpectedToken token => s!"Unexpected token '{token}'"
  | .expectedStatementName found => s!"Expected a statement name, found '{found}'"
  | .unknownStatement name => s!"Unknown statement '{name}'"
  | .duplicateBlock name => s!"Block '{name}' defined twice"
  | .secondParent => "Template may only extend one parent"
  | .trailingToken token => s!"Unexpected '{token}' at end of tag"
  | .unmet requirement (some token) => s!"{requirement}, found '{token}'"
  | .unmet requirement none => s!"{requirement}, found end of tag"
  | .unexpectedInExpression token => s!"Unexpected '{token}' in expression"
  | .invalidInteger token => s!"Invalid integer '{token}'"
  | .blockClosedBy name closing => s!"Block '{name}' closed by 'endblock {closing}'"
  | .definitionClosedBy name closing => s!"Macro '{name}' closed by 'endmacro {closing}'"
  | .duplicateParameter parameter definition =>
      s!"Duplicate parameter '{parameter}' in macro '{definition}'"
  | .parentNotLiteral expression =>
      s!"extends expects a string literal, found {expression}"
  | .other message => message

end SyntaxFault

/-- A fault at a position of the source. -/
structure SyntaxError where
  fault : SyntaxFault
  position : Position
deriving DecidableEq

namespace SyntaxError

/-- The wording of a syntax error with its position. -/
def message (error : SyntaxError) : String :=
  s!"Parse error at line {error.position.line}, column {error.position.column}: " ++
    error.fault.message

end SyntaxError

end TemplateEngine

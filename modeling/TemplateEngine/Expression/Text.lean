import TemplateEngine.Expression
import TemplateEngine.Number.Text
import TemplateEngine.Text.Quoted

/-!
# The text of an expression

Messages show an expression in a form close to its source.  Binary operations are
always in parentheses, and no other expression is.
-/

namespace TemplateEngine

namespace Literal

/-- The text of a literal. -/
def text : Literal → String
  | .none => "none"
  | .bool value => if value then "true" else "false"
  | .integer value => toString value
  | .float value => Number.plain value
  | .string value => Text.quoted value

end Literal

namespace UnaryOperator

/-- The text in front of an operand. -/
def text : UnaryOperator → String
  | .not => "not "
  | .negate => "-"

end UnaryOperator

namespace Expression

/-- Texts separated by commas. -/
def commaSeparated (texts : List String) : String :=
  ", ".intercalate texts

mutual

/-- The text of an expression. -/
def text : Expression → String
  | .literal value _ => value.text
  | .name identifier _ => identifier
  | .list items _ => "[" ++ commaSeparated (itemTexts items) ++ "]"
  | .dict entries _ => "\x7b" ++ commaSeparated (entryTexts entries) ++ "\x7d"
  | .member target memberName _ => text target ++ "." ++ memberName
  | .item target index _ => text target ++ "[" ++ text index ++ "]"
  | .call callee arguments _ => text callee ++ argumentsText arguments
  | .filter target filterName arguments _ =>
      text target ++ "|" ++ filterName ++
        if arguments.isEmpty then "" else argumentsText arguments
  | .test target testName arguments negated _ =>
      text target ++ " is " ++ (if negated then "not " else "") ++ testName ++
        if arguments.isEmpty then "" else argumentsText arguments
  | .unary operator operand _ => operator.text ++ text operand
  | .binary operator left right _ =>
      "(" ++ text left ++ " " ++ operator.symbol ++ " " ++ text right ++ ")"

/-- The text of arguments in parentheses. -/
def argumentsText : CallArguments Expression → String
  | ⟨positional, keyword⟩ =>
      "(" ++ commaSeparated (itemTexts positional ++ keywordTexts keyword) ++ ")"

/-- The texts of several expressions. -/
def itemTexts : List Expression → List String
  | [] => []
  | first :: rest => text first :: itemTexts rest

/-- The texts of the entries of a dictionary. -/
def entryTexts : List (Expression × Expression) → List String
  | [] => []
  | (key, value) :: rest => (text key ++ ": " ++ text value) :: entryTexts rest

/-- The texts of arguments with a name. -/
def keywordTexts : List (String × Expression) → List String
  | [] => []
  | (keyword, value) :: rest => (keyword ++ "=" ++ text value) :: keywordTexts rest

end

end Expression

end TemplateEngine

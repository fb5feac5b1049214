import TemplateEngine.Expression.Text
import TemplateEngine.Node

/-!
# The text of a statement

A message about a statement shows the beginning of its tag, without its bodies.
-/

namespace TemplateEngine

namespace Statement

/-- The words that say whether a template sees the scope it is used in. -/
def contextText : Option Bool → String
  | some true => " with context"
  | some false => " without context"
  | none => ""

/-- A parameter with its default expression. -/
def parameterText (parameter : String × Option Expression) : String :=
  match parameter.2 with
  | some default => parameter.1 ++ "=" ++ default.text
  | none => parameter.1

/-- A macro name with its alias, if they differ. -/
def importedText (imported : String × String) : String :=
  if imported.1 = imported.2 then imported.2 else imported.2 ++ " as " ++ imported.1

/-- The text of a statement. -/
def text {ν : Type} : Statement ν → String
  | .conditional ((condition, _) :: _) _ => "if " ++ condition.text
  | .conditional [] _ => "if"
  | .loop targets iterable filter _ _ =>
      "for " ++ Expression.commaSeparated targets ++ " in " ++ iterable.text ++
        match filter with
        | some condition => " if " ++ condition.text
        | none => ""
  | .assignment target value => "set " ++ target ++ " = " ++ value.text
  | .capture target _ => "set " ++ target
  | .block name => "block " ++ name
  | .parent filename => "extends " ++ Text.quoted filename
  | .definition defined =>
      "macro " ++ defined.name ++ "(" ++
        Expression.commaSeparated (defined.parameters.map parameterText) ++ ")"
  | .importModule filename target withContext =>
      "import " ++ filename.text ++ " as " ++ target ++ contextText withContext
  | .importNames filename names withContext =>
      "from " ++ filename.text ++ " import " ++
        Expression.commaSeparated (names.map importedText) ++ contextText withContext
  | .inclusion filename ignoreMissing withContext =>
      "include " ++ filename.text ++ (if ignoreMissing then " ignore missing" else "") ++
        if withContext then "" else " without context"
  | .box _ _ _ _ => "box"

/-- Whether a statement does something when it is rendered. -/
def isExecutable {ν : Type} : Statement ν → Bool
  | .parent _ => false
  | _ => true

end Statement

end TemplateEngine

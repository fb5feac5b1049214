import TemplateEngine.Text.Escape
import TemplateEngine.Text.Quoted
import TemplateEngine.Text.Search
import TemplateEngine.Value

/-!
# The text of a value

An output tag writes the displayed form of a value: a string is its own text and an
absent value is empty.  Inside lists and maps, strings are in single quotes and an
absent value is spelled out.  Messages show the described form, which also names the
type.
-/

namespace TemplateEngine.Value

/-- A string in single quotes; only single quotes inside are escaped. -/
def singleQuoted (content : String) : String :=
  "'" ++ Text.replace content "'" "\\'" ++ "'"

mutual

/-- The displayed form of a value. -/
def display : Value → String
  | .nil => ""
  | .bool value => if value then "True" else "False"
  | .number value => Number.text value
  | .string content _ => content
  | .list items => "[" ++ ", ".intercalate (nestedItems items) ++ "]"
  | .map entries => "\x7b" ++ ", ".intercalate (nestedEntries entries) ++ "\x7d"
  | .closure callee => "<macro " ++ callee.name ++ ">"
  | .function callee => "<function " ++ callee.name ++ ">"
  | .error message => message

/-- The form of a value inside a list or map. -/
def nested : Value → String
  | .nil => "None"
  | .string content _ => singleQuoted content
  | .bool value => if value then "True" else "False"
  | .number value => Number.text value
  | .list items => "[" ++ ", ".intercalate (nestedItems items) ++ "]"
  | .map entries => "\x7b" ++ ", ".intercalate (nestedEntries entries) ++ "\x7d"
  | .closure callee => "<macro " ++ callee.name ++ ">"
  | .function callee => "<function " ++ callee.name ++ ">"
  | .error message => message

/-- The forms of the items of a list. -/
def nestedItems : List Value → List String
  | [] => []
  | item :: rest => nested item :: nestedItems rest

/-- The forms of the entries of a map. -/
def nestedEntries : List (String × Value) → List String
  | [] => []
  | (key, value) :: rest => ("'" ++ key ++ "': " ++ nested value) :: nestedEntries rest

end

/-- The name of the type of a value. -/
def typeName : Value → String
  | .nil => "none"
  | .bool _ => "bool"
  | .number _ => "number"
  | .string _ _ => "string"
  | .list _ => "list"
  | .map _ => "map"
  | .closure _ => "macro"
  | .function _ => "function"
  | .error _ => "error"

/-- The described form of a value. -/
def describe : Value → String
  | .string content false => "String(" ++ Text.quoted content ++ ")"
  | .string content true => "SafeString(" ++ Text.quoted content ++ ")"
  | .error message => "Error(" ++ Text.quoted message ++ ")"
  | value => value.typeName ++ "(" ++ value.nested ++ ")"

/-- The displayed form with markup escaped. -/
def escaped (value : Value) : String :=
  Text.escapeMarkup value.display

end TemplateEngine.Value

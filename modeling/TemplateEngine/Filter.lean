import TemplateEngine.Arguments
import TemplateEngine.Error
import TemplateEngine.Text.Search

/-!
# Filters

A filter turns a value and arguments into another value.  Filters that change a string
keep its safe mark.  Only `join` depends on the configuration: it escapes the unsafe
items of a list when autoescaping is on, and then vouches for the result.
-/

namespace TemplateEngine.Filter

/-- Change the text of a value.  A safe string stays safe, numbers and booleans are
changed in their displayed form, and an absent value becomes the empty string. -/
def onText (name : String) (change : String → String) : Value → Value
  | .string content mark => .string (change content) mark
  | .nil => .plain ""
  | .error message => .error message
  | .number value => .plain (change (Value.number value).display)
  | .bool value => .plain (change (Value.bool value).display)
  | _ => (EvalError.needsString name).toValue

/-- Replace the occurrences of the first argument by the second. -/
def replaceText (value : Value) (arguments : Arguments) : Value :=
  match arguments.get? 0 "old", arguments.get? 1 "new" with
  | some old, some new =>
      onText "replace" (fun text => Text.replace text old.display new.display) value
  | _, _ => EvalError.needsTwoArguments.toValue

/-- The count of characters, items or entries; an absent value has none. -/
def lengthOf (value : Value) : Value :=
  match value.length? with
  | some count => .ofNat count
  | none => if value.isNil then .ofNat 0 else (EvalError.noLength value).toValue

/-- The text that an item contributes to a joined list. -/
def joinedItem (autoescape : Bool) (item : Value) : String :=
  if autoescape && item.isUnsafeString then item.escaped else item.display

/-- The items of a list in a row with a separator between them. -/
def joinItems (autoescape : Bool) (value : Value) (arguments : Arguments) : Value :=
  match value with
  | .list items =>
      let separator := ((arguments.get? 0 "d").map Value.display).getD ""
      let joined := separator.intercalate (items.map (joinedItem autoescape))
      .string joined (autoescape && items.any Value.isUnsafeString)
  | _ => EvalError.needsList.toValue

/-- A value, or another one if the value is absent; on demand also if it counts as
false. -/
def defaultOf (value : Value) (arguments : Arguments) : Value :=
  let fallback := (arguments.get? 0 "default_value").getD (.plain "")
  let boolean := (arguments.get? 1 "boolean").any Value.isTrue
  if value.isNil || (boolean && !value.isTrue) then fallback else value

/-- Mark the text of a value as safe. -/
def markSafe : Value → Value
  | .error message => .error message
  | .string content _ => .safe content
  | value => .safe value.display

/-- Escape the text of a value, unless it is marked as safe. -/
def escapeText : Value → Value
  | .error message => .error message
  | .string content true => .safe content
  | value => .safe value.escaped

/-- The value that a filter makes of a value. -/
def apply (autoescape : Bool) (filter : Filter) (value : Value) (arguments : Arguments) :
    Value :=
  match filter with
  | .upper => onText "upper" Text.upper value
  | .lower => onText "lower" Text.lower value
  | .capitalize => onText "capitalize" Text.capitalize value
  | .title => onText "title" Text.title value
  | .trim => onText "trim" Text.trim value
  | .replace => replaceText value arguments
  | .length => lengthOf value
  | .first => (value.item? (.ofInt 0)).getD .nil
  | .last => (value.item? (.ofInt (-1))).getD .nil
  | .join => joinItems autoescape value arguments
  | .default => defaultOf value arguments
  | .safe => markSafe value
  | .escape => escapeText value

end TemplateEngine.Filter

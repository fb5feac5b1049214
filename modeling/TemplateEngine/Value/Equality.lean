import TemplateEngine.Value

/-!
# Equality of values

Strings are equal when their contents are, whatever their marks.  Maps are equal when
they have equally many entries and the same value under each key, whatever their
order.  Macros and functions equal nothing.
-/

namespace TemplateEngine.Value

mutual

/-- Whether two values are equal. -/
def equals : Value → Value → Bool
  | .nil, .nil => true
  | .bool left, .bool right => left == right
  | .number left, .number right => left == right
  | .string left _, .string right _ => left == right
  | .list left, .list right => equalItems left right
  | .map left, .map right => left.length == right.length && equalEntries left right
  | .error left, .error right => left == right
  | _, _ => false

/-- Whether two lists have equal items. -/
def equalItems : List Value → List Value → Bool
  | [], [] => true
  | left :: lefts, right :: rights => equals left right && equalItems lefts rights
  | _, _ => false

/-- Whether each entry has an equal value under its key in another map. -/
def equalEntries : List (String × Value) → List (String × Value) → Bool
  | [], _ => true
  | (key, left) :: rest, entries =>
      (match entries.lookup key with
        | some right => equals left right
        | none => false) &&
        equalEntries rest entries

end

/-- Whether a list has an item that equals a value. -/
def occursIn (value : Value) (items : List Value) : Bool :=
  items.any fun item => item.equals value

end TemplateEngine.Value

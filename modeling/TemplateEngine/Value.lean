import TemplateEngine.Environment
import TemplateEngine.Json

/-!
# Values

The values of expressions.  A string carries a mark that it is safe, meaning that it
is written without escaping.  A map lists its entries in order, each key once.  A
failed evaluation may itself become a value.
-/

namespace TemplateEngine

/-- A macro with the environment of its definition, against which the free names of
its body are resolved. -/
structure Closure where
  definition : Definition Node
  environment : Environment

namespace Closure

/-- The name of a macro. -/
def name (closure : Closure) : String :=
  closure.definition.name

end Closure

/-- A callable that is not a macro. -/
inductive Function where
  /-- A function of the program that renders, known by its name. -/
  | native (name : String)
  /-- The definitions of a block that are overridden where this function is bound. -/
  | super (environment : Environment) (depth : Nat) (bodies : List (Body Node))

namespace Function

/-- The name of a function. -/
def name : Function → String
  | .native name => name
  | .super _ _ _ => "super"

end Function

/-- A value. -/
inductive Value where
  | nil
  | bool (value : Bool)
  | number (value : Float)
  | string (content : String) (safe : Bool)
  | list (items : List Value)
  | map (entries : List (String × Value))
  | closure (closure : Closure)
  | function (function : Function)
  | error (message : String)
deriving Inhabited

namespace Value

/-- A string that is escaped when it is written. -/
def plain (content : String) : Value :=
  .string content false

/-- A string that is written as it is. -/
def safe (content : String) : Value :=
  .string content true

/-- A whole number. -/
def ofInt (value : Int) : Value :=
  .number (Number.ofInt value)

/-- A count. -/
def ofNat (value : Nat) : Value :=
  .number (Number.ofNat value)

/-- Whether a value is absent. -/
def isNil : Value → Bool
  | .nil => true
  | _ => false

/-- Whether a value is a failed evaluation. -/
def isError : Value → Bool
  | .error _ => true
  | _ => false

/-- Whether a value is a string. -/
def isString : Value → Bool
  | .string _ _ => true
  | _ => false

/-- Whether a value is a string that is written as it is. -/
def isSafe : Value → Bool
  | .string _ safe => safe
  | _ => false

/-- Whether a value is a string that has to be escaped. -/
def isUnsafeString : Value → Bool
  | .string _ safe => !safe
  | _ => false

/-- Whether a value is a number. -/
def isNumber : Value → Bool
  | .number _ => true
  | _ => false

/-- Whether a value is a map. -/
def isMap : Value → Bool
  | .map _ => true
  | _ => false

/-- Whether a value is a list. -/
def isList : Value → Bool
  | .list _ => true
  | _ => false

/-- Whether a value can be called. -/
def isCallable : Value → Bool
  | .closure _ => true
  | .function _ => true
  | _ => false

/-- Whether a value counts as true: it is neither absent, false, zero, empty, nor a
failed evaluation. -/
def isTrue : Value → Bool
  | .nil => false
  | .bool value => value
  | .number value => value != 0.0
  | .string content _ => !content.isEmpty
  | .list items => !items.isEmpty
  | .map entries => !entries.isEmpty
  | .closure _ => true
  | .function _ => true
  | .error _ => false

/-- The content of a string. -/
def string? : Value → Option String
  | .string content _ => some content
  | _ => none

/-- The number that a value counts as. -/
def number? : Value → Option Float
  | .number value => some value
  | .bool value => some (if value then 1.0 else 0.0)
  | _ => none

/-- The message of a failed evaluation. -/
def error? : Value → Option String
  | .error message => some message
  | _ => none

/-- The count of characters, items or entries. -/
def length? : Value → Option Nat
  | .string content _ => some content.length
  | .list items => some items.length
  | .map entries => some entries.length
  | _ => none

/-- The place that a number selects among some items: negative numbers count from the
end, and a fractional number selects nothing. -/
def index? (selector : Float) (size : Nat) : Option Nat := do
  let value ← Number.clampedInteger? selector
  let place := if value < 0 then size + value else value
  if 0 ≤ place ∧ place < size then some place.toNat else none

/-- The member of a value with a name. -/
def member? (value : Value) (name : String) : Option Value :=
  match value with
  | .map entries => entries.lookup name
  | _ => none

/-- The item of a value at a key. -/
def item? (value key : Value) : Option Value :=
  match value, key with
  | .map entries, .string name _ => entries.lookup name
  | .list items, .number place => do items[← index? place items.length]?
  | .string content _, .number place => do
      let characters := content.toList
      let character ← characters[← index? place characters.length]?
      return .plain (String.ofList [character])
  | _, _ => none

mutual

/-- The value of JSON data. -/
def ofJson : Json → Value
  | .null => .nil
  | .bool value => .bool value
  | .integer value => .ofInt value
  | .float value => .number value
  | .string value => .plain value
  | .array items => .list (ofJsonItems items)
  | .object members => .map (ofJsonMembers members)

/-- The values of the items of an array. -/
def ofJsonItems : List Json → List Value
  | [] => []
  | item :: rest => ofJson item :: ofJsonItems rest

/-- The values of the members of an object. -/
def ofJsonMembers : List (String × Json) → List (String × Value)
  | [] => []
  | (name, value) :: rest => (name, ofJson value) :: ofJsonMembers rest

end

end Value

end TemplateEngine

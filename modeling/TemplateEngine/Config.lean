import TemplateEngine.Json

/-!
# Configuration

Five switches control how a template is read and rendered; all are off unless set.
A configuration is written as a JSON object with one member per switch.  An array
is read too, as the switches in their order of declaration.
-/

namespace TemplateEngine

/-- The switches of a template. -/
structure Config where
  /-- Escape written strings that are not marked safe. -/
  autoescape : Bool
  /-- Drop the first newline after a block tag. -/
  trimBlocks : Bool
  /-- Drop the spaces and tabs between the start of a line and a block tag. -/
  lstripBlocks : Bool
  /-- Undefined names are errors. -/
  strictUndefined : Bool
  /-- Keep one newline at the end of the source. -/
  keepTrailingNewline : Bool
deriving DecidableEq

namespace Config

/-- Every switch off. -/
def default : Config :=
  ⟨false, false, false, false, false⟩

/-- The same configuration with undefined names allowed. -/
def lenient (config : Config) : Config :=
  { config with strictUndefined := false }

/-- The switch that a member of an object sets, absent for a name that is no
switch. -/
def setter? : String → Option (Bool → Config → Config)
  | "autoescape" => some fun value config => { config with autoescape := value }
  | "trim-blocks" => some fun value config => { config with trimBlocks := value }
  | "lstrip-blocks" => some fun value config => { config with lstripBlocks := value }
  | "strict-undefined" => some fun value config => { config with strictUndefined := value }
  | "keep-trailing-newline" =>
      some fun value config => { config with keepTrailingNewline := value }
  | _ => none

/-- The switches in their order of declaration. -/
def switches : List String :=
  ["autoescape", "trim-blocks", "lstrip-blocks", "strict-undefined",
    "keep-trailing-newline"]

/-- Set one switch from a JSON value.  An unknown name is ignored, whatever its
value; a known one needs a boolean. -/
def set? (config : Config) (name : String) (value : Json) : Option Config :=
  match setter? name with
  | none => some config
  | some set =>
      match value with
      | .bool value => some (set value config)
      | _ => none

/-- Set several switches in turn. -/
def setAll? (config : Config) (members : List (String × Json)) : Option Config :=
  members.foldlM (fun config member => config.set? member.1 member.2) config

/-- Read a configuration.  Missing switches are off; an array may not have more
items than there are switches. -/
def ofJson? : Json → Option Config
  | .object members => setAll? default members
  | .array items =>
      if items.length ≤ switches.length then setAll? default (switches.zip items)
      else none
  | _ => none

/-- A configuration as a JSON object. -/
def toJson (config : Config) : Json :=
  .ofMembers
    [("autoescape", .bool config.autoescape),
      ("trim-blocks", .bool config.trimBlocks),
      ("lstrip-blocks", .bool config.lstripBlocks),
      ("strict-undefined", .bool config.strictUndefined),
      ("keep-trailing-newline", .bool config.keepTrailingNewline)]

end Config

end TemplateEngine

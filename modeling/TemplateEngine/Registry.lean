import TemplateEngine.Table
import TemplateEngine.Text.Quoted

/-!
# Registries

A registry maps names to capabilities.  Registering refuses to overwrite, replacing
refuses to create, and updating merges with the other registry winning.
-/

namespace TemplateEngine

/-- Capabilities by name, with the word that names their kind in messages. -/
structure Registry (α : Type) where
  kind : String
  entries : Table α

/-- Why a registry cannot be changed. -/
inductive RegistryError where
  | alreadyRegistered (kind name : String)
  | notRegistered (kind name : String)
deriving DecidableEq

namespace RegistryError

/-- The wording of a registry error. -/
def message : RegistryError → String
  | .alreadyRegistered kind name => s!"{kind} with name '{name}' is already registered"
  | .notRegistered kind name =>
      s!"{kind} with name '{name}' does not exist (therefore cannot be overridden)"

end RegistryError

namespace Registry

variable {α : Type}

/-- A registry without entries. -/
def empty (kind : String) : Registry α := ⟨kind, []⟩

/-- A registry of some entries; of two with one name the later counts. -/
def ofEntries (kind : String) (entries : List (String × α)) : Registry α :=
  ⟨kind, Table.storeAll [] entries⟩

/-- The capability of a name. -/
def get? (registry : Registry α) (name : String) : Option α :=
  registry.entries.lookup name

/-- Whether a name is registered. -/
def has (registry : Registry α) (name : String) : Bool :=
  Table.has registry.entries name

/-- Add a capability under a new name. -/
def register (registry : Registry α) (name : String) (value : α) :
    Except RegistryError (Registry α) :=
  if registry.has name then .error (.alreadyRegistered registry.kind name)
  else .ok { registry with entries := registry.entries.store name value }

/-- Exchange the capability of a name. -/
def replace (registry : Registry α) (name : String) (value : α) :
    Except RegistryError (Registry α) :=
  if registry.has name then
    .ok { registry with entries := registry.entries.store name value }
  else .error (.notRegistered registry.kind name)

/-- Add the entries of another registry, which win. -/
def update (registry other : Registry α) : Registry α :=
  { registry with entries := Table.storeAll registry.entries other.entries }

/-- The registered names in code point order. -/
def names (registry : Registry α) : List String :=
  Table.sortedNames registry.entries

/-- The count of entries. -/
def size (registry : Registry α) : Nat :=
  registry.entries.length

/-- The kind and names of a registry. -/
def describe (registry : Registry α) : String :=
  "Registry \x7b kind: " ++ Text.quoted registry.kind ++ ", names: " ++
    Text.quotedList registry.names ++ " \x7d"

end Registry

end TemplateEngine

import TemplateEngine.Error
import TemplateEngine.Store

/-!
# Render data

The top-level bindings of a rendering come from a JSON object.
-/

namespace TemplateEngine

namespace Table

/-- The bindings that JSON data makes: those of an object, or none for absent data. -/
def ofJson : Json → Except TemplateError (Table Value)
  | .object members => .ok (Value.ofJsonMembers members)
  | .null => .ok []
  | other => .error (.invalidData ("expected a JSON object, got " ++ other.compact))

end Table

namespace Store

/-- A scope of its own with some bindings. -/
def scopeOf (store : Store) (bindings : Table Value) : Scope × Store :=
  let (scope, extended) := store.newScope
  (scope, extended.bindAll scope bindings)

end Store

end TemplateEngine

import TemplateEngine.Data
import TemplateEngine.Interpreter.Render
import TemplateEngine.Natives

/-!
# Templates

A template that is read can be rendered any number of times.  Each rendering has a tree
of scopes of its own, into which the data is copied, so that nothing a template binds is
seen from outside.
-/

namespace TemplateEngine

/-- A template that is ready to be rendered, with what it was read with. -/
structure Template where
  identifier : String
  lineage : Lineage
  config : Config
  registries : Registries
  loader : Loader

namespace Template

/-- Read a template from its source.  The loader serves the templates it refers to. -/
def ofSource (identifier source : String) (config : Config) (registries : Registries)
    (loader : Loader) : Except TemplateError Template := do
  let lineage ←
    Lineage.ofSource config registries.statements Lineage.maxDepth loader identifier source
  return ⟨identifier, lineage, config, registries, loader⟩

/-- Read a template that a loader finds by its name. -/
def load (identifier : String) (config : Config) (registries : Registries)
    (loader : Loader) : Except TemplateError Template := do
  let lineage ← Lineage.load config registries.statements loader identifier
  return ⟨identifier, lineage, config, registries, loader⟩

/-- The macros that a template defines itself. -/
def macros (template : Template) : Table (Definition Node) :=
  template.lineage.layer.macros

/-- The environment of a template over a scope. -/
def environment (template : Template) (scope : Scope) : Environment :=
  ⟨template.config, template.registries, scope, template.loader, template.lineage⟩

/-- Render a template in a scope. -/
def renderIn (interpreter : Interpreter) (template : Template) (scope : Scope)
    (depth : Nat) : Run TemplateError Unit :=
  interpreter.execute (template.environment scope) depth

/-- Render a template with a copy of the bindings of a scope, in a tree of scopes that is
released at the end. -/
def render (interpreter : Interpreter) (template : Template) (data : Scope) :
    Run TemplateError Unit := do
  let scope ← Run.openWith (·.newScope)
  modify fun state => { state with store := state.store.update scope data }
  Run.releasing scope (renderIn interpreter template scope 0)

/-- The result of rendering a template with some data, and the text written.  There is
none if uses of macros, blocks and templates nest beyond the bound. -/
def execute? (natives : Natives) (bound : Nat) (template : Template) (data : Table Value)
    (limit : Option Nat) : Option (Except TemplateError Unit × String) :=
  let (scope, store) := Store.empty.scopeOf data
  let action := template.render (Interpreter.bounded natives bound) scope
  (action.run ⟨store, ⟨#[], limit⟩⟩).map fun (result, state) => (result, state.sink.text)

end Template

end TemplateEngine

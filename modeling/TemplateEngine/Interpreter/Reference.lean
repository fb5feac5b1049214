import TemplateEngine.Interpreter
import TemplateEngine.Node.Reader

/-!
# References to other templates

An import or include finds a template with the loader of the environment and reads it
with a loader derived for it.  The macros of an imported template are bound in a module
scope, where they can use each other.
-/

namespace TemplateEngine

namespace Environment

/-- Read the template of a name, in which the names of further templates are those that
its own loader finds. -/
def refer (environment : Environment) (filename : String) :
    Except TemplateError Environment :=
  match environment.loader.inherit filename with
  | .error error =>
      .error (.loaderInherit filename environment.loader.text (.loader error))
  | .ok derived =>
      let loaded : Except TemplateError Lineage := do
        let identifier ← (environment.loader.resolve filename).mapError .loader
        Lineage.load environment.config environment.registries.statements derived identifier
      match loaded with
      | .error error => .error (.load filename error)
      | .ok lineage =>
          .ok { environment with
            loader := derived
            lineage := lineage }

/-- The macros of the template of an environment, closed over it. -/
def closures (environment : Environment) : Table Value :=
  (Table.sorted environment.lineage.layer.macros).map fun entry =>
    (entry.1, .closure ⟨entry.2, environment⟩)

/-- The first of some imported macros that a template lacks. -/
def missingMacro? (environment : Environment) (names : List (String × String)) :
    Option String :=
  (names.find? fun imported =>
    !(Table.has environment.lineage.layer.macros imported.2)).map Prod.snd

end Environment

namespace Interpreter

/-- Bind the macros of a template in a module scope.  With context that scope is inside
the importing one; without, it stands alone. -/
def bindModule (scope : Scope) (imported : Environment) (withContext : Option Bool) :
    Run TemplateError (Table Value) := do
  let moduleScope ←
    Run.openWith fun store =>
      if withContext.getD true then store.childScope scope else store.detachedScope scope
  let closures := (imported.within moduleScope).closures
  Run.bindAll moduleScope closures
  return closures

/-- Bind the macros of a template to one name. -/
def importModule (environment imported : Environment) (target : String)
    (withContext : Option Bool) : Run TemplateError Unit := do
  let closures ← bindModule environment.scope imported withContext
  Run.bind environment.scope target (.map closures)

/-- Bind macros of a template to names. -/
def importNames (environment imported : Environment) (names : List (String × String))
    (withContext : Option Bool) : Run TemplateError Unit := do
  match imported.missingMacro? names with
  | some missing => throw (.missingMacro missing imported.lineage.identifier)
  | none =>
      let closures ← bindModule environment.scope imported withContext
      Run.bindAll environment.scope
        (names.filterMap fun (target, name) =>
          (closures.lookup name).map fun closure => (target, closure))

end Interpreter

end TemplateEngine

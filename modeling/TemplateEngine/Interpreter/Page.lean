import TemplateEngine.Interpreter

/-!
# Pages

The page of a template is what its lineage renders.  The root layer gives the page its
structure; of the layers that derive from it only the statements run, before it, and
their blocks replace those of the page.
-/

namespace TemplateEngine.Interpreter

/-- Whether a node runs although the output of its layer is dropped. -/
def isPreparation : Node → Bool
  | .statement tag _ _ => tag != "block"
  | _ => false

/-- Run the statements of derived layers, whose output is dropped. -/
def prepare (interpreter : Interpreter) (environment : Environment) (depth : Nat) :
    List Layer → Run TemplateError Unit
  | [] => return ()
  | layer :: rest => do
      let _ ←
        Run.capture (interpreter.render environment depth (layer.nodes.filter isPreparation))
      prepare interpreter environment depth rest

/-- Render the template of an environment: its root layer gives the page its structure,
after the statements of the layers that derive from it. -/
def execute (interpreter : Interpreter) (environment : Environment) (depth : Nat) :
    Run TemplateError Unit := do
  prepare interpreter environment depth environment.lineage.derived
  interpreter.render environment depth environment.lineage.root.nodes

/-- Render another template in place.  With context its scope is inside the including
one; without, it is the root of a tree of its own that is released at the end. -/
def includeTemplate (interpreter : Interpreter) (environment : Environment) (depth : Nat)
    (included : Environment) (withContext : Bool) : Run TemplateError Unit := do
  let inside ← enter depth included.lineage.identifier
  if withContext then
    let scope ← Run.openChild environment.scope
    interpreter.execute (included.within scope) inside
  else
    let scope ← Run.openWith (·.newScope)
    Run.releasing scope (interpreter.execute (included.within scope) inside)

end TemplateEngine.Interpreter

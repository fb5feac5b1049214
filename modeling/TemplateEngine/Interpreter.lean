import TemplateEngine.Evaluate

/-!
# Interpreters

Rendering follows the structure of a template, except where something is used by its
name: a macro, a block, or another template.  An interpreter is the meaning of
expressions and nodes that such a use refers to.  The depth that is passed along counts
the includes and macro calls around the place that is interpreted.
-/

namespace TemplateEngine

/-- The meaning of expressions and of nodes in an environment at a depth. -/
structure Interpreter where
  evaluate : Environment → Nat → Expression → Run EvalError Value
  render : Environment → Nat → List Node → Run TemplateError Unit

namespace Interpreter

/-- The interpreter under which nothing has an outcome. -/
def exhausted : Interpreter :=
  ⟨fun _ _ _ => Run.exhausted, fun _ _ _ => Run.exhausted⟩

/-- How deep includes and macro calls may nest. -/
def maxDepth : Nat := 32

/-- The depth inside an include or macro call. -/
def enter (depth : Nat) (name : String) : Run TemplateError Nat :=
  if maxDepth ≤ depth then throw (.recursion name maxDepth) else return depth + 1

/-- The value of what was rendered.  Under autoescaping it is already escaped. -/
def renderedValue (environment : Environment) (text : String) : Value :=
  .string text environment.config.autoescape

end Interpreter

end TemplateEngine

import TemplateEngine.Interpreter

/-!
# Loops

A loop visits the items of a list, the characters of a string, or the keys of a map;
with several targets it visits the entries of a map as pairs.  A filter is applied to
all items before the first one is visited.
-/

namespace TemplateEngine.Loop

/-- The items that a value has for a loop with some targets. -/
def items (targets : List String) (iterable : Expression) :
    Value → Except EvalError (List Value)
  | .list items => .ok items
  | .map entries =>
      if 1 < targets.length then
        .ok (entries.map fun entry => .list [.plain entry.1, entry.2])
      else .ok (entries.map fun entry => .plain entry.1)
  | .string content _ =>
      .ok (content.toList.map fun character => .plain (String.ofList [character]))
  | .nil => .ok []
  | value => .error (.notIterable iterable value)

/-- What an item binds: itself to a single target, or its own items to several. -/
def bindings (targets : List String) (item : Value) :
    Except EvalError (List (String × Value)) :=
  match targets, item with
  | [target], item => .ok [(target, item)]
  | targets, .list values =>
      if values.length = targets.length then .ok (targets.zip values)
      else .error (.cannotUnpack (.list values) targets.length)
  | targets, item => .error (.cannotUnpack item targets.length)

/-- The state of a loop in one of its iterations. -/
def info (index length : Nat) : Value :=
  .map
    [("index", .ofNat (index + 1)), ("index0", .ofNat index),
      ("revindex", .ofNat (length - index)), ("revindex0", .ofNat (length - index - 1)),
      ("first", .bool (index == 0)), ("last", .bool (index + 1 == length)),
      ("length", .ofNat length)]

/-- Open the scope of an item, with the targets bound. -/
def openItem (environment : Environment) (targets : List String) (item : Value) :
    Run TemplateError Environment := do
  let scope ← Run.openChild environment.scope
  let bound ← (Run.ofExcept (bindings targets item)).mapError .evaluation
  Run.bindAll scope bound
  return environment.within scope

/-- The items of a list that pass a check. -/
def keep (passes : Value → Run TemplateError Bool) :
    List Value → Run TemplateError (List Value)
  | [] => return []
  | item :: rest => do
      let passed ← passes item
      let kept ← keep passes rest
      return if passed then item :: kept else kept

/-- Visit the items from an index on, each in a scope of its own. -/
def visit (environment : Environment) (targets : List String) (length : Nat)
    (render : Environment → Run TemplateError Unit) :
    Nat → List Value → Run TemplateError Unit
  | _, [] => return ()
  | index, item :: rest => do
      let inside ← openItem environment targets item
      Run.bind inside.scope "loop" (info index length)
      render inside
      visit environment targets length render (index + 1) rest

end TemplateEngine.Loop

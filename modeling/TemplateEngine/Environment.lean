import TemplateEngine.Capability
import TemplateEngine.Config
import TemplateEngine.Loader
import TemplateEngine.Node

/-!
# Environments

An environment is what the meaning of a piece of a template depends on, apart from
the bindings themselves: the configuration, the capabilities, the scope, the loader
for names of other templates, and the lineage whose blocks are rendered.
-/

namespace TemplateEngine

/-- A scope: one frame of bindings and, nearest first, the frames around it.  All of
them belong to one tree of scopes. -/
structure Scope where
  tree : Nat
  frame : Nat
  ancestors : List Nat
deriving DecidableEq, Inhabited

namespace Scope

/-- The frames of a scope in the order in which names are looked up. -/
def chain (scope : Scope) : List Nat :=
  scope.frame :: scope.ancestors

/-- The scope of a new frame inside another scope. -/
def child (scope : Scope) (frame : Nat) : Scope :=
  ⟨scope.tree, frame, scope.chain⟩

@[simp]
theorem chain_child (scope : Scope) (frame : Nat) :
    (scope.child frame).chain = frame :: scope.chain := rfl

end Scope

/-- What rendering and evaluating depend on. -/
structure Environment where
  config : Config
  registries : Registries
  scope : Scope
  loader : Loader
  /-- The template being rendered, with the templates it extends. -/
  lineage : Lineage

namespace Environment

/-- The environment with another scope. -/
def within (environment : Environment) (scope : Scope) : Environment :=
  { environment with scope := scope }

/-- The environment in which undefined names are allowed. -/
def lenient (environment : Environment) : Environment :=
  { environment with config := environment.config.lenient }

end Environment

end TemplateEngine

import TemplateEngine.Node

/-!
# Walking a tree

A walk visits nodes from the first to the last.  The visitor decides at each node
whether its children are visited next; only wrappers have children.
-/

namespace TemplateEngine

/-- What happens after a node is visited. -/
inductive Walk where
  | children
  | skip
deriving DecidableEq

namespace Node

variable {μ : Type → Type} [Monad μ]

mutual

/-- Visit a node, and its children if the visitor asks for them. -/
def walk (visit : Node → μ Walk) : Node → μ Unit
  | .wrapper ⟨nodes, endTag, position⟩ => do
      match ← visit (.wrapper ⟨nodes, endTag, position⟩) with
      | .children => walkAll visit nodes
      | .skip => return ()
  | node => do
      let _ ← visit node
      return ()

/-- Visit several nodes in turn. -/
def walkAll (visit : Node → μ Walk) : List Node → μ Unit
  | [] => return ()
  | node :: rest => do
      walk visit node
      walkAll visit rest

end

end Node

end TemplateEngine

import TemplateEngine.Proofs.Matching
import TemplateEngine.Proofs.Super
import TemplateEngine.Proofs.Truncation

/-!
# Blocks that forward to those they override

A definition of a block forwards if all that its body does is to write `super()`.  A lineage
that adds such definitions to another one has the same page: its most derived layer prepares
nothing, and a block that forwards renders the definitions of the other lineage.  Only the way
there differs.  The call of `super` opens a scope more, uses up more of the bound, and writes
the text to a sink of its own before it is written to the page as a whole.
-/

namespace TemplateEngine

/-! ## Lineages that add nothing -/

/-- Whether all that a body does is to write what it overrides. -/
def Body.Forwards (body : Body Node) : Prop :=
  ∃ start finish position,
    body.nodes = [.output ⟨Interpreter.superCall start finish, none, none, position⟩]

/-- Whether a node does nothing where it stands in a template that extends another one, but
for the definition of a block. -/
def Node.AddsNothing : Node → Prop
  | .comment _ _ => True
  | .data _ _ _ => True
  | .statement _ (.parent _) _ => True
  | .statement tag (.block _) _ => tag = "block"
  | _ => False

/-- The file that a node declares to be extended, if it does. -/
def Node.parent? : Node → Option String
  | .statement _ (.parent filename) _ => some filename
  | _ => none

theorem Node.parent?_eq_some_iff {node : Node} {filename : String} :
    node.parent? = some filename ↔
      ∃ tag position, node = .statement tag (.parent filename) position := by
  constructor
  · intro declared
    unfold parent? at declared
    split at declared
    · rw [Option.some.inj declared]
      exact ⟨_, _, rfl⟩
    · cases declared
  · rintro ⟨tag, position, rfl⟩
    rfl

instance : DecidablePred Node.AddsNothing
  | .comment _ _ => inferInstanceAs (Decidable True)
  | .data _ _ _ => inferInstanceAs (Decidable True)
  | .output _ => inferInstanceAs (Decidable False)
  | .wrapper _ => inferInstanceAs (Decidable False)
  | .statement tag described _ =>
      match described with
      | .parent _ => inferInstanceAs (Decidable True)
      | .block _ => inferInstanceAs (Decidable (tag = "block"))
      | .conditional _ _ => inferInstanceAs (Decidable False)
      | .loop _ _ _ _ _ => inferInstanceAs (Decidable False)
      | .assignment _ _ => inferInstanceAs (Decidable False)
      | .capture _ _ => inferInstanceAs (Decidable False)
      | .definition _ => inferInstanceAs (Decidable False)
      | .importModule _ _ _ => inferInstanceAs (Decidable False)
      | .importNames _ _ _ => inferInstanceAs (Decidable False)
      | .inclusion _ _ _ => inferInstanceAs (Decidable False)
      | .box _ _ _ _ => inferInstanceAs (Decidable False)

/-- Whether a node writes a call of `super` without arguments. -/
def Node.writesSuper : Node → Bool
  | .output ⟨.call (.name identifier _) ⟨[], []⟩ _, none, none, _⟩ => identifier == "super"
  | _ => false

theorem Node.writesSuper_iff {node : Node} :
    node.writesSuper = true ↔ ∃ start finish position,
      node = .output ⟨Interpreter.superCall start finish, none, none, position⟩ := by
  constructor
  · intro writes
    unfold writesSuper at writes
    split at writes
    · rw [beq_iff_eq.1 writes]
      exact ⟨_, _, _, rfl⟩
    · cases writes
  · rintro ⟨start, finish, position, rfl⟩
    rfl

instance : DecidablePred Body.Forwards
  | ⟨[node], _, _⟩ => decidable_of_iff (node.writesSuper = true) (by
      simp only [Node.writesSuper_iff, Body.Forwards, List.cons.injEq, and_true])
  | ⟨[], _, _⟩ => .isFalse (by simp [Body.Forwards])
  | ⟨_ :: _ :: _, _, _⟩ => .isFalse (by simp [Body.Forwards])

namespace Lineage

/-- Whether a lineage extends another one and adds nothing to it, but for definitions of its
blocks that forward. -/
structure Forwards (child parent : Lineage) : Prop where
  ancestors : child.ancestors = parent.layers
  nodes : ∀ node ∈ child.layer.nodes, node.AddsNothing
  blocks : ∀ entry ∈ child.layer.blocks, entry.2.Forwards ∧ parent.blocksFor entry.1 ≠ []

namespace Forwards

variable {child parent : Lineage}

theorem layers (forwards : child.Forwards parent) :
    child.layers = child.layer :: parent.layers :=
  congrArg (child.layer :: ·) forwards.ancestors

/-- A block has the definitions of the parent, and maybe one more, which forwards to them. -/
theorem blocksFor (forwards : child.Forwards parent) (name : String) :
    child.blocksFor name = parent.blocksFor name ∨
      ∃ body next rest, body.Forwards ∧ parent.blocksFor name = next :: rest ∧
        child.blocksFor name = body :: next :: rest := by
  unfold Lineage.blocksFor
  rw [forwards.layers, List.filterMap_cons]
  cases found : child.layer.blocks.lookup name with
  | none => exact .inl rfl
  | some body =>
      obtain ⟨forward, overrides⟩ := forwards.blocks _ (Table.mem_of_lookup found)
      obtain ⟨next, rest, defined⟩ := List.exists_cons_of_ne_nil overrides
      rw [Lineage.blocksFor] at defined
      exact .inr ⟨body, next, rest, forward, defined, by rw [defined]⟩

theorem derived (forwards : child.Forwards parent) :
    child.derived = child.layer :: parent.derived := by
  unfold Lineage.derived
  rw [forwards.layers]
  rfl

theorem root (forwards : child.Forwards parent) : child.root = parent.root := by
  unfold Lineage.root
  rw [forwards.ancestors, Lineage.layers, List.getLast?_cons, Option.getD_some]

/-- What runs of the most derived layer does nothing. -/
theorem preparations (forwards : child.Forwards parent) :
    ∀ node ∈ child.layer.nodes.filter Interpreter.isPreparation,
      ∃ tag filename position, node = .statement tag (.parent filename) position := by
  intro node member
  obtain ⟨present, prepares⟩ := List.mem_filter.1 member
  have adds := forwards.nodes node present
  unfold Node.AddsNothing at adds
  split at adds
  · cases prepares
  · cases prepares
  · exact ⟨_, _, _, rfl⟩
  · subst adds
    cases prepares
  · exact adds.elim

end Forwards

end Lineage

namespace Interpreter

variable {environment : Environment} {parent : Lineage} {depth : Nat}

theorem renderNodes_of_parents (effects : Effects) (depth : Nat) (environment : Environment)
    {nodes : List Node}
    (parents : ∀ node ∈ nodes,
      ∃ tag filename position, node = .statement tag (.parent filename) position) :
    renderNodes effects depth environment nodes = pure () := by
  induction nodes with
  | nil => rfl
  | cons node rest inductionHypothesis =>
      rw [List.forall_mem_cons] at parents
      obtain ⟨⟨tag, filename, position, rfl⟩, others⟩ := parents
      rw [renderNodes, inductionHypothesis others]
      rfl

theorem renderNodes_singleton (effects : Effects) (depth : Nat) (environment : Environment)
    (node : Node) :
    renderNodes effects depth environment [node] = renderNode effects depth environment node := by
  rw [renderNodes, renderNodes]
  exact bind_pure_unit

/-- Under the exhausted interpreter no page has an outcome. -/
theorem page_exhausted (environment : Environment) (depth : Nat) (layers : List Layer)
    (nodes : List Node) :
    (do
      prepare exhausted environment depth layers
      exhausted.render environment depth nodes) = Run.exhausted := by
  cases layers <;> rfl

/-- The page of a lineage that adds nothing is that of its parent. -/
theorem execute_of_forwards (natives : Natives) (bound : Nat)
    (forwards : environment.lineage.Forwards parent) :
    (bounded natives bound).execute environment depth =
      (do
        prepare (bounded natives bound) environment depth parent.derived
        (bounded natives bound).render environment depth parent.root.nodes) := by
  cases bound with
  | zero => exact (page_exhausted _ _ _ _).trans (page_exhausted _ _ _ _).symm
  | succ bound =>
      have prepared : Run.capture ((bounded natives (bound + 1)).render environment depth
          (environment.lineage.layer.nodes.filter isPreparation)) = pure "" := by
        change Run.capture (renderNodes _ depth environment _) = _
        rw [renderNodes_of_parents _ depth environment forwards.preparations]
        rfl
      rw [execute, forwards.derived, forwards.root, prepare, prepared, pure_bind]

/-- A definition that overrides others is rendered in a new scope with `super`. -/
theorem openBlock_bind_apply (place : Environment) (depth : Nat) (next : Body Node)
    (rest : List (Body Node)) (action : Environment → Run TemplateError Unit) (store : Store)
    (sink : Sink) :
    (openBlock place depth (next :: rest) >>= action) ⟨store, sink⟩ =
      action (place.within (store.childScope place.scope).1)
        ⟨store.withSuper place.scope
          (.function (.super (place.within (store.childScope place.scope).1) depth
            (next :: rest))), sink⟩ :=
  rfl

/-- Under the exhausted interpreter no definition has an outcome. -/
theorem renderBlock_exhausted (place : Environment) (depth : Nat) (body : Body Node)
    (overridden : List (Body Node)) :
    renderBlock exhausted place depth (body :: overridden) = Run.exhausted := by
  funext state
  obtain ⟨inside, after, opened, _⟩ := openBlock_apply place depth overridden state
  change (openBlock place depth overridden >>= _) state = none
  rw [Run.bind_apply, opened]
  rfl

/-- A block that forwards renders what it overrides to a sink of its own, and writes the text
of that. -/
theorem renderBlock_of_forwards (natives : Natives) (bound : Nat) (place : Environment)
    (depth : Nat) {body : Body Node} (forwards : body.Forwards) (next : Body Node)
    (rest : List (Body Node)) :
    ∃ change : TemplateError → TemplateError,
      renderBlock (bounded natives (bound + 1)) place depth (body :: next :: rest) =
        (do
          let inside ← openBlock place depth (next :: rest)
          let text ← (Run.capture
            (renderBlock (bounded natives bound) inside depth (next :: rest))).mapError change
          Run.write text) := by
  obtain ⟨start, finish, position, nodes⟩ := forwards
  refine ⟨fun error => .wrapped (.output (superCall start finish))
    (.evaluation (.reported error.message)), ?_⟩
  have unbound : Node.AllWithin (.notBinding "super") body.nodes := by
    rw [nodes]
    exact ⟨⟨⟨True.intro, True.intro, True.intro⟩, True.intro, True.intro⟩, True.intro⟩
  rw [renderBlock_eq_reading natives bound place depth body (next :: rest) unbound, nodes]
  congr 1
  funext inside
  rw [renderNodes_singleton, renderNode, renderOutput, chosen, pure_bind]
  simp only [evaluateAt, evaluate_superCall, superResult]
  funext state
  simp only [Run.bind_apply, Run.mapError_apply]
  rcases Run.capture (renderBlock (bounded natives bound) inside depth (next :: rest)) state with
    _ | ⟨error | text, after⟩
  · rfl
  · rfl
  · change Run.write (writtenText inside.config.autoescape (renderedValue inside text)) after =
      Run.write text after
    rw [writtenText_renderedValue]

end Interpreter

end TemplateEngine

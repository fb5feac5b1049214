import TemplateEngine.Proofs.Nesting
import TemplateEngine.Proofs.Super

/-!
# Termination

Loops visit the items they have computed before, and includes and macro calls are cut off
by the depth.  What may nest without bound are the bodies of blocks, because a body may
place a block, or call `super`, and come back to itself at the same depth.

A rendering has an outcome exactly if the bodies of blocks in progress stay below some
count.  The measure is the count that is left, and under it the depth that is left.
-/

namespace TemplateEngine

namespace Use

/-- Whether a use renders a body of a block. -/
def rendersBlock : Use → Bool
  | .call => false
  | .inclusion => false
  | .block => true
  | .super _ _ => true

/-- The count of bodies of blocks in progress. -/
def bodies (uses : List Use) : Nat :=
  uses.countP rendersBlock

/-- Whether at most some count of bodies of blocks are in progress. -/
def bodiesAtMost (most : Nat) (uses : List Use) (_ : Nat) : Bool :=
  decide (bodies uses ≤ most)

end Use

namespace Discipline

variable (natives : Natives) {absence : Absence}

/-- A watched interpreter is the plain one as long as the bound is used up before the
bodies exceed their count. -/
theorem watched_interprets_of_bound (alarm : EvalError) (most bound : Nat)
    (uses : List Use) (depth : Nat) (room : Use.bodies uses + bound ≤ most + 1) :
    (unrestricted.correspondence .matched).Interprets
      (Interpreter.watched natives (Use.bodiesAtMost most) alarm bound uses) depth
      (Interpreter.bounded natives bound) depth := by
  induction bound generalizing uses depth with
  | zero => exact Correspondence.interprets_exhausted (by simp [comparison]) _ _
  | succ bound inductionHypothesis =>
      have inside : ∀ use depth, (unrestricted.correspondence .matched).Interprets
          (Interpreter.watched natives (Use.bodiesAtMost most) alarm bound (use :: uses)) depth
          (Interpreter.bounded natives bound) depth := by
        intro use depth
        apply inductionHypothesis
        have counted : Use.bodies (use :: uses) ≤ Use.bodies uses + 1 := by
          simp only [Use.bodies, List.countP_cons]
          split <;> omega
        omega
      have handles : (unrestricted.correspondence .matched).Handles
          (Interpreter.usingEffects natives Interpreter.writeOutput fun use =>
            Interpreter.watched natives (Use.bodiesAtMost most) alarm bound (use :: uses)) depth
          (Interpreter.effects natives (Interpreter.bounded natives bound)) depth := by
        rw [Interpreter.effects_eq_usingEffects]
        exact handles_using natives (fun _ => inside _ _) (fun _ => inside _ _) (inside _ _)
          fun _ => inside _ _
      exact handles.interprets_lawful (decide_eq_true (by omega))

/-- More bound in reserve does not change an outcome of a watched rendering. -/
theorem watched_interprets_more (lawful : List Use → Nat → Bool) (alarm : EvalError)
    (bound more : Nat) (uses : List Use) (depth : Nat) :
    (unrestricted.correspondence .excused).Interprets
      (Interpreter.watched natives lawful alarm bound uses) depth
      (Interpreter.watched natives lawful alarm (bound + more) uses) depth := by
  induction bound generalizing uses depth with
  | zero =>
      exact ⟨fun _ _ => Comparison.related_exhausted_left rfl _,
        fun _ _ => Comparison.related_exhausted_left rfl _⟩
  | succ bound inductionHypothesis =>
      rw [Nat.add_right_comm]
      exact Correspondence.interprets_guarded
        (fun _ => handles_using natives (fun _ => inductionHypothesis _ _)
          (fun _ => inductionHypothesis _ _) (inductionHypothesis _ _)
          fun _ => inductionHypothesis _ _)

/-- Where bodies are limited in count and one more is an error, a rendering has an outcome. -/
theorem watched_interprets_total (alarm : EvalError) (most bound : Nat)
    (uses : List Use) (depth : Nat)
    (enough : (most + 1 - Use.bodies uses) * (Interpreter.maxDepth + 2) +
      (Interpreter.maxDepth + 1 - depth) < bound) :
    (unrestricted.correspondence .excluded).Interprets
      (Interpreter.watched natives (Use.bodiesAtMost most) alarm bound uses) depth
      (Interpreter.watched natives (Use.bodiesAtMost most) alarm bound uses) depth := by
  induction bound generalizing uses depth with
  | zero => omega
  | succ bound inductionHypothesis =>
      apply Correspondence.interprets_guarded
      intro allowed
      have few : Use.bodies uses ≤ most := of_decide_eq_true allowed
      have entering : ∀ use, use.rendersBlock = false → depth < Interpreter.maxDepth →
          (unrestricted.correspondence .excluded).Interprets
            (Interpreter.watched natives (Use.bodiesAtMost most) alarm bound (use :: uses))
            (depth + 1)
            (Interpreter.watched natives (Use.bodiesAtMost most) alarm bound (use :: uses))
            (depth + 1) := by
        intro use other shallow
        apply inductionHypothesis
        have counted : Use.bodies (use :: uses) = Use.bodies uses := by
          simp [Use.bodies, other]
        rw [counted]
        omega
      have rendering : ∀ use depth, use.rendersBlock = true →
          (unrestricted.correspondence .excluded).Interprets
            (Interpreter.watched natives (Use.bodiesAtMost most) alarm bound (use :: uses))
            depth
            (Interpreter.watched natives (Use.bodiesAtMost most) alarm bound (use :: uses))
            depth := by
        intro use inner block
        apply inductionHypothesis
        have counted : Use.bodies (use :: uses) = Use.bodies uses + 1 := by
          simp [Use.bodies, block]
        have split : most + 1 - Use.bodies uses = (most + 1 - (Use.bodies uses + 1)) + 1 := by
          omega
        rw [split, Nat.add_mul] at enough
        rw [counted]
        omega
      exact handles_using natives (entering .call rfl) (fun stored => rendering _ _ rfl)
        (rendering _ _ rfl) (entering .inclusion rfl)

end Discipline

namespace Template

variable (natives : Natives) (template : Template) (data : Table Value) (limit : Option Nat)

theorem watched_outcome_eq_execute? {most bound : Nat} (alarm : EvalError)
    (bounds : bound ≤ most + 1) :
    template.outcome? (Interpreter.watched natives (Use.bodiesAtMost most) alarm bound []) data
        limit =
      template.execute? natives bound data limit := by
  have interprets := Discipline.watched_interprets_of_bound natives alarm most bound [] 0
    (by simpa [Use.bodies] using bounds)
  rcases template.outcome?_of_interprets data limit interprets with ⟨_, excused⟩ | ⟨same, _⟩
  · cases excused
  · exact same

theorem watched_outcome_mono {lawful : List Use → Nat → Bool} {alarm : EvalError}
    {bound greater : Nat} {outcome : Except TemplateError Unit × String}
    (bounds : bound ≤ greater)
    (found : template.outcome? (Interpreter.watched natives lawful alarm bound []) data limit =
      some outcome) :
    template.outcome? (Interpreter.watched natives lawful alarm greater []) data limit =
      some outcome := by
  rcases Nat.exists_eq_add_of_le bounds with ⟨more, rfl⟩
  rcases template.outcome?_of_interprets data limit
      (Discipline.watched_interprets_more natives lawful alarm bound more [] 0) with
    ⟨absent, _⟩ | ⟨same, _⟩
  · rw [absent] at found
    cases found
  · rw [← same]
    exact found

/-- There is an outcome where bodies are limited in count and one more is an error. -/
theorem exists_watched_outcome (alarm : EvalError) (most : Nat) :
    ∃ bound outcome,
      template.outcome? (Interpreter.watched natives (Use.bodiesAtMost most) alarm bound [])
        data limit = some outcome := by
  refine ⟨(most + 1) * (Interpreter.maxDepth + 2) + (Interpreter.maxDepth + 1) + 1, ?_⟩
  have interprets := Discipline.watched_interprets_total natives alarm most
    ((most + 1) * (Interpreter.maxDepth + 2) + (Interpreter.maxDepth + 1) + 1) [] 0
    (by simp [Use.bodies])
  rcases template.outcome?_of_interprets data limit interprets with ⟨_, excused⟩ | ⟨_, present⟩
  · cases excused
  · exact Option.ne_none_iff_exists'.1 (present rfl)

/-- A rendering has an outcome if and only if, for some count, it never has more bodies of
blocks in progress than that: loops, includes and macro calls alone always end. -/
theorem terminates_iff_bodies_bounded :
    (∃ bound, (template.execute? natives bound data limit).isSome = true) ↔
      ∃ most, ∀ alarm bound,
        template.outcome?
            (Interpreter.watched natives (Use.bodiesAtMost most) alarm bound []) data limit =
          template.execute? natives bound data limit := by
  constructor
  · rintro ⟨most, present⟩
    rcases Option.isSome_iff_exists.1 present with ⟨outcome, found⟩
    refine ⟨most, ?_⟩
    intro alarm bound
    rcases Nat.le_total bound most with within | beyond
    · exact watched_outcome_eq_execute? _ _ _ _ alarm (Nat.le_succ_of_le within)
    · have watched :=
        watched_outcome_eq_execute? natives template data limit alarm (Nat.le_succ most)
      rw [execute?_mono _ _ _ beyond found]
      exact watched_outcome_mono _ _ _ _ beyond (watched.trans found)
  · rintro ⟨most, same⟩
    have ended := exists_watched_outcome natives template data limit (.reported "") most
    rcases ended with ⟨bound, outcome, found⟩
    refine ⟨bound, ?_⟩
    rw [← same, found]
    rfl

end Template

/-! ## A rendering without end -/

namespace Store

variable (store : Store) (scope : Scope) (name : String)

/-- A new scope leaves the meaning of names in the others as it is. -/
theorem lookup_childScope_of_old (other : Scope) :
    (store.childScope scope).2.lookup other name = store.lookup other name := by
  change (store.addFrame scope.tree).2.lookupChain other.chain name = _
  simp only [lookupChain, bindings_addFrame, lookup]

/-- In a new scope a name means what it means in the scope around it. -/
theorem lookup_childScope :
    (store.childScope scope).2.lookup (store.childScope scope).1 name =
      store.lookup scope name := by
  rw [(around_refl store name scope).childScope.lookup, lookup_childScope_of_old]

theorem lookup_bind_self (value : Value) (present : scope.frame < store.frames.size) :
    (store.bind scope name value).lookup scope name = some value := by
  rw [lookup, lookupChain, Scope.chain, List.findSome?_cons,
    bindings_bind_self store scope name value present, Table.lookup_store, if_pos rfl]

end Store

namespace Interpreter

variable {natives : Natives} {bound depth : Nat} {environment : Environment}

/-- Nodes that begin with an output tag without an outcome have none. -/
theorem renderNodes_eq_none {effects : Effects} {expression : Expression} {state : RunState}
    (position : Position) (rest : List Node)
    (absent : expression.evaluate effects depth environment state = none) :
    renderNodes effects depth environment
        (.output ⟨expression, none, none, position⟩ :: rest) state = none := by
  have written :
      renderOutput effects depth environment ⟨expression, none, none, position⟩ state =
        none := by
    change (evaluateAt effects depth environment .output expression >>= _) state = none
    rw [Run.bind_apply, evaluateAt, Run.mapError_apply, absent]
    rfl
  change (renderOutput effects depth environment ⟨expression, none, none, position⟩ >>= _)
    state = none
  rw [Run.bind_apply, written]

/-- A call of `super` has no outcome if rendering what it stands for has none. -/
theorem evaluate_superCall_eq_none {place : Environment} {stored : Nat}
    {bodies : List (Body Node)} {store : Store} {sink : Sink} (start finish : Position)
    (found : store.lookup environment.scope "super" =
      some (.function (.super place stored bodies)))
    (absent : renderBlock (bounded natives bound) place stored bodies ⟨store, .unlimited⟩ =
      none) :
    (superCall start finish).evaluate (effects natives (bounded natives bound)) depth
      environment ⟨store, sink⟩ = none := by
  have looked :
      (effects natives (bounded natives bound)).lookup environment.scope "super"
          ⟨store, sink⟩ =
        some (.ok (store.lookup environment.scope "super"), ⟨store, sink⟩) :=
    rfl
  have called :
      (superCall start finish).evaluate (effects natives (bounded natives bound)) depth
          environment ⟨store, sink⟩ =
        callValue natives (bounded natives bound) depth (.name "super" start)
          (.function (.super place stored bodies)) .none ⟨store, sink⟩ := by
    simp only [superCall, Expression.evaluate, Expression.evaluateArguments,
      Expression.evaluateItems, Expression.evaluateKeywords, bind_assoc, pure_bind]
    rw [Run.bind_apply, looked, found]
    rfl
  rw [called, callValue_super, Run.bind_apply, Run.mapError_apply, Run.capture_apply, absent]
  rfl

variable {start finish position : Position} {rest : List Node}

/-- A definition that overrides nothing, and calls a `super` that stands for it, is rendered
inside itself again and again. -/
theorem renderBlock_own_eq_none (natives : Natives) (bound : Nat) {body : Body Node}
    (calls : body.nodes = .output ⟨superCall start finish, none, none, position⟩ :: rest)
    {state : RunState}
    (found : state.store.lookup environment.scope "super" =
      some (.function (.super environment depth [body]))) :
    renderBlock (bounded natives bound) environment depth [body] state = none := by
  induction bound generalizing state with
  | zero => rfl
  | succ bound inductionHypothesis =>
      rcases state with ⟨store, sink⟩
      change renderNodes (effects natives (bounded natives bound)) depth
        (environment.within (store.childScope environment.scope).1) body.nodes
        ⟨(store.childScope environment.scope).2, sink⟩ = none
      rw [calls]
      apply renderNodes_eq_none
      apply evaluate_superCall_eq_none
      · exact (Store.lookup_childScope store environment.scope "super").trans found
      · apply inductionHypothesis
        rw [Store.lookup_childScope_of_old]
        exact found

/-- A definition that calls `super` leads there if the only one that it overrides calls
`super` too. -/
theorem renderBlock_pair_eq_none (natives : Natives) (bound : Nat)
    {body overridden : Body Node}
    (calls : body.nodes = .output ⟨superCall start finish, none, none, position⟩ :: rest)
    (same : overridden.nodes = body.nodes) (state : RunState) :
    renderBlock (bounded natives bound) environment depth [body, overridden] state = none := by
  cases bound with
  | zero => rfl
  | succ bound =>
      rcases state with ⟨store, sink⟩
      let opened := (store.childScope environment.scope).2
      let inside := environment.within (store.childScope environment.scope).1
      let next := Value.function (.super inside depth [overridden])
      have present : inside.scope.frame < opened.frames.size := by
        simp [inside, opened, Environment.within, Store.childScope, Store.addFrame, Scope.child]
      have found := Store.lookup_bind_self opened inside.scope "super" next present
      change renderNodes (effects natives (bounded natives bound)) depth inside body.nodes
        ⟨opened.bind inside.scope "super" next, sink⟩ = none
      rw [calls]
      apply renderNodes_eq_none
      apply evaluate_superCall_eq_none
      · exact found
      · exact renderBlock_own_eq_none natives bound (same.trans calls) found

end Interpreter

namespace Template

open Interpreter

/-- A template that overrides the block of another one, where both definitions write
`super()`. -/
def selfCalling : Template where
  identifier := "page"
  lineage :=
    ⟨⟨"page", [.statement "block" (.block "a") .start], [("a", callingBody)], []⟩,
      [⟨"base", [.statement "block" (.block "a") .start], [("a", callingBody)], []⟩]⟩
  config := .default
  registries := .standard
  loader := .empty

/-- Rendering it never ends. -/
theorem execute?_selfCalling (natives : Natives) (bound : Nat) (data : Table Value)
    (limit : Option Nat) : selfCalling.execute? natives bound data limit = none := by
  cases bound with
  | zero => rfl
  | succ bound =>
      let given := Store.empty.scopeOf data
      let opened := given.2.newScope
      let state : RunState := ⟨opened.2.update opened.1 given.1, ⟨#[], limit⟩⟩
      let environment := selfCalling.environment opened.1
      have rendered : renderBlock (bounded natives bound) environment 0
          [callingBody, callingBody] state = none :=
        renderBlock_pair_eq_none natives bound rfl rfl state
      have placed : renderNode (effects natives (bounded natives bound)) 0 environment
          (.statement "block" (.block "a") .start) state = none := by
        change Run.mapError _ (renderBlock _ environment 0 [callingBody, callingBody]) state =
          none
        rw [Run.mapError_apply, rendered]
        rfl
      change Option.map _ (Run.releasing opened.1
        (renderNode (effects natives (bounded natives bound)) 0 environment
          (.statement "block" (.block "a") .start) >>= _) state) = none
      rw [Run.releasing_apply, Run.bind_apply, placed]
      rfl

end Template

end TemplateEngine

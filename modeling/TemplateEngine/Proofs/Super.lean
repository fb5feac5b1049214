import TemplateEngine.Proofs.Frames

/-!
# What `super` means

A definition of a block that overrides others binds `super` in the scope opened for it.
While its body is rendered, that binding is found from every scope of the body, because
what is used by name leaves these scopes as they are.  A definition that overrides nothing
binds nothing: there `super` means what it means where the block is rendered.
-/

namespace TemplateEngine

/-- The vocabulary of pieces that do not bind a name, whatever their macros do. -/
def Vocabulary.notBinding (name : String) : Vocabulary :=
  { Vocabulary.unrestricted with
    target := fun target => target ≠ name
    macros := False }

namespace Effects

/-- Effects under which one name is read in a way of its own. -/
def reading (effects : Effects) (name : String) (answer : Run EvalError (Option Value)) :
    Effects :=
  { effects with
    lookup := fun scope other => if other = name then answer else effects.lookup scope other }

end Effects

namespace Interpreter

/-- What a definition of a block binds to `super`, which overrides others. -/
def boundSuper (inside : Environment) (depth : Nat) (overridden : List (Body Node)) :
    Option Value :=
  if overridden.isEmpty then none else some (.function (.super inside depth overridden))

/-- What `super` means in the body of a definition of a block at a place: the definitions
that it overrides, or if there are none whatever it means at the place. -/
def superMeaning (place inside : Environment) (depth : Nat) (overridden : List (Body Node)) :
    Run EvalError (Option Value) :=
  if overridden.isEmpty then Run.lookup place.scope "super"
  else return some (.function (.super inside depth overridden))

end Interpreter

namespace Store

/-- A scope that lies inside another one, with no binding of a name in between. -/
def Around (store : Store) (name : String) (outer inner : Scope) : Prop :=
  ∃ between, inner.chain = between ++ outer.chain ∧
    ∀ frame ∈ between, frame < store.frames.size ∧ (store.bindings frame).lookup name = none

variable {store : Store} {name : String} {outer inner : Scope}

theorem around_refl (store : Store) (name : String) (scope : Scope) :
    store.Around name scope scope :=
  ⟨[], rfl, fun _ member => by cases member⟩

theorem Around.grow {later : Store} (around : store.Around name outer inner)
    (extended : store.Extends later) : later.Around name outer inner := by
  rcases around with ⟨between, chain, unbound⟩
  refine ⟨between, chain, ?_⟩
  intro frame member
  rcases unbound frame member with ⟨old, absent⟩
  exact ⟨Nat.lt_of_lt_of_le old extended.size, by rw [extended.bindings frame old, absent]⟩

theorem Around.childScope (around : store.Around name outer inner) :
    (store.childScope inner).2.Around name outer (store.childScope inner).1 := by
  rcases around.grow (extends_childScope store inner) with ⟨between, chain, unbound⟩
  refine ⟨store.frames.size :: between, ?_, ?_⟩
  · change store.frames.size :: inner.chain = _
    rw [chain]
    rfl
  · intro frame member
    rcases List.mem_cons.1 member with rfl | member
    · constructor
      · simp [Store.childScope, addFrame]
      · change ((store.addFrame inner.tree).2.bindings store.frames.size).lookup name = none
        rw [bindings_addFrame_self]
        rfl
    · exact unbound frame member

/-- Binding another name changes nothing about a name. -/
theorem lookup_bindings_bind {other : String} (distinct : other ≠ name) (scope : Scope)
    (value : Value) (frame : Nat) :
    ((store.bind scope other value).bindings frame).lookup name =
      (store.bindings frame).lookup name := by
  by_cases nearest : frame = scope.frame
  · subst nearest
    by_cases present : scope.frame < store.frames.size
    · rw [bindings_bind_self store scope other value present, Table.lookup_store,
        if_neg (Ne.symm distinct)]
    · rw [bindings_of_size_le _ (by simpa using present),
        bindings_of_size_le store (Nat.le_of_not_lt present)]
  · rw [bindings_bind_of_ne store scope other value nearest]

theorem Around.bind {other : String} (around : store.Around name outer inner)
    (distinct : other ≠ name) (scope : Scope) (value : Value) :
    (store.bind scope other value).Around name outer inner := by
  rcases around with ⟨between, chain, unbound⟩
  refine ⟨between, chain, ?_⟩
  intro frame member
  rcases unbound frame member with ⟨old, absent⟩
  exact ⟨by simpa using old, by rw [lookup_bindings_bind distinct, absent]⟩

/-- With no binding in between, a name means what it means in the outer scope. -/
theorem Around.lookup (around : store.Around name outer inner) :
    store.lookup inner name = store.lookup outer name := by
  rcases around with ⟨between, chain, unbound⟩
  have passed : between.findSome? (fun frame => (store.bindings frame).lookup name) = none :=
    List.findSome?_eq_none_iff.2 fun frame member => (unbound frame member).2
  rw [Store.lookup, lookupChain, chain, List.findSome?_append, passed]
  rfl

end Store

/-! ## Rendering a body in which a name has its own meaning -/

/-- A store in which one frame binds a name or does not, and some scopes lie inside it with
no binding of the name in between. -/
structure Meaning (name : String) (outer : Scope) (bound : Option Value)
    (known : Scope → Prop) (store : Store) : Prop where
  present : outer.frame < store.frames.size
  bound : (store.bindings outer.frame).lookup name = bound
  around : ∀ scope, known scope → store.Around name outer scope

namespace Meaning

variable {name : String} {outer : Scope} {bound : Option Value} {known : Scope → Prop}
variable {store : Store}

theorem grow {later : Store} (meaning : Meaning name outer bound known store)
    (extended : store.Extends later) : Meaning name outer bound known later where
  present := Nat.lt_of_lt_of_le meaning.present extended.size
  bound := by rw [extended.bindings _ meaning.present, meaning.bound]
  around scope member := (meaning.around scope member).grow extended

theorem openChild (meaning : Meaning name outer bound known store) {scope : Scope}
    (member : known scope) :
    Meaning name outer bound
      (fun inner => known inner ∨ inner = (store.childScope scope).1)
      (store.childScope scope).2 where
  present := (meaning.grow (Store.extends_childScope store scope)).present
  bound := (meaning.grow (Store.extends_childScope store scope)).bound
  around := by
    rintro inner (old | rfl)
    · exact (meaning.around inner old).grow (Store.extends_childScope store scope)
    · exact (meaning.around scope member).childScope

theorem bind (meaning : Meaning name outer bound known store) {other : String}
    (distinct : other ≠ name) (scope : Scope) (value : Value) :
    Meaning name outer bound known (store.bind scope other value) where
  present := by simpa using meaning.present
  bound := by rw [Store.lookup_bindings_bind distinct, meaning.bound]
  around inner member := (meaning.around inner member).bind distinct scope value

/-- The name means what the frame binds, or else what it means further out. -/
theorem lookup (meaning : Meaning name outer bound known store) {scope : Scope}
    (member : known scope) :
    store.lookup scope name = bound.or (store.lookupChain outer.ancestors name) := by
  rw [(meaning.around scope member).lookup, Store.lookup, Store.lookupChain, Scope.chain,
    List.findSome?_cons, meaning.bound]
  cases bound with
  | none => rfl
  | some value => rfl

end Meaning

namespace Discipline

/-- The discipline of the body of a definition: nothing binds the name. -/
def meaning (name : String) (outer : Scope) (bound : Option Value) : Discipline :=
  StoreDiscipline.toDiscipline {
    World := Scope → Prop
    Later := fun known later => ∀ scope, known scope → later scope
    vocabulary := .notBinding name
    store := fun known frames => Meaning name outer bound known frames
    scope := fun known scope => known scope
    later_refl := fun _ _ member => member
    later_trans := fun first second scope member => second scope (first scope member)
    scope_later := fun grown member => grown _ member
    openChild := fun member kept =>
      ⟨_, fun _ => Or.inl, kept.openChild member, Or.inr rfl⟩
    bind := fun value _ distinct kept => kept.bind distinct _ value
    bindModule := fun inContext entries _ kept => by
      apply kept.grow
      cases inContext with
      | true => exact (Store.extends_childScope _ _).bindAll _ (Nat.le_refl _) entries
      | false => exact (Store.extends_detachedScope _ _).bindAll _ (Nat.le_refl _) entries }

variable {name : String} {outer : Scope} {bound : Option Value} {known : Scope → Prop}

/-- A use that leaves the frames that exist keeps what the name means. -/
theorem meaning_related_of_extends {ε α : Type} {run : Run ε α} (kept : run.Extends)
    {gives : (Scope → Prop) → α → α → Prop}
    (given : ∀ {state value after}, run state = some (.ok value, after) →
      gives known value value) :
    ((meaning name outer bound).comparison .matched).Related known Eq gives run run := by
  rintro state ⟨_, _⟩ ⟨⟨meant, rfl⟩, ⟨_, rfl⟩⟩
  refine .inr ?_
  match ran : run state with
  | none => simp [Comparison.Ends, comparison]
  | some (result, after) =>
      refine ⟨known, fun _ member => member,
        ⟨⟨meant.grow (kept ran), rfl⟩, ⟨True.intro, rfl⟩⟩, ?_⟩
      cases result with
      | error error => exact rfl
      | ok value => exact given ran

/-- Under the discipline of a body, reading the name may be replaced by its meaning. -/
theorem handles_reading (natives : Natives) (reserve depth : Nat)
    {answer : Run EvalError (Option Value)}
    (answers : ∀ known state, Meaning name outer bound known state.store →
      answer state =
        some (.ok (bound.or (state.store.lookupChain outer.ancestors name)), state)) :
    ((meaning name outer bound).correspondence .matched).Handles
      (Interpreter.effects natives (Interpreter.bounded natives reserve)) depth
      ((Interpreter.effects natives (Interpreter.bounded natives reserve)).reading name answer)
      depth where
  lookup := by
    rintro known scope _ other ⟨member, rfl⟩ _
    rintro state ⟨_, _⟩ ⟨⟨meant, rfl⟩, ⟨_, rfl⟩⟩
    have read :
        (Interpreter.effects natives (Interpreter.bounded natives reserve)).lookup scope other
            state =
          ((Interpreter.effects natives
              (Interpreter.bounded natives reserve)).reading name answer).lookup scope other
            state := by
      change _ = (if other = name then answer else _) state
      split
      · rename_i same
        subst same
        rw [answers known state meant, ← meant.lookup member]
        rfl
      · rfl
    rw [← read]
    exact .inr ⟨known, fun _ member => member, ⟨⟨meant, rfl⟩, ⟨True.intro, rfl⟩⟩,
      checks_of_found fun _ _ _ => True.intro⟩
  call := by
    rintro known value _ arguments _ callee ⟨_, rfl⟩ given
    rcases Shared.arguments given with ⟨_, _, rfl⟩
    exact meaning_related_of_extends
      (Interpreter.callValue_extends natives reserve depth callee value arguments)
      fun called =>
        ⟨⟨True.intro, rfl⟩, Interpreter.isError_of_callValue natives reserve depth called⟩
  emit := by
    rintro known environment _ value _ ⟨_, rfl⟩ ⟨⟨_, rfl⟩, _⟩
    exact related_write fun _ _ => True.intro
  block := by
    rintro known environment _ block ⟨⟨_, rfl⟩, _⟩ _
    exact meaning_related_of_extends
      (Interpreter.renderBlock_extends natives reserve depth environment
        (environment.lineage.blocksFor block))
      fun _ => True.intro
  inclusion := by
    rintro known environment _ included _ withContext ⟨⟨_, rfl⟩, _⟩ ⟨_, rfl⟩
    exact meaning_related_of_extends
      (Interpreter.includeTemplate_extends natives reserve depth environment included
        withContext)
      fun _ => True.intro
  depth _ := rfl

end Discipline

namespace Interpreter

private theorem around_self (store : Store) (scope : Scope) :
    ∀ inner, inner = scope → store.Around "super" scope inner := by
  rintro _ rfl
  exact Store.around_refl store "super" _

/-- Where the definition of a block is opened, `super` is bound if it overrides others. -/
theorem openBlock_apply (place : Environment) (depth : Nat) (overridden : List (Body Node))
    (state : RunState) :
    ∃ inside after, openBlock place depth overridden state = some (.ok inside, after) ∧
      inside.scope.ancestors = place.scope.chain ∧
      Meaning "super" inside.scope (boundSuper inside depth overridden) (· = inside.scope)
        after.store := by
  rcases state with ⟨store, sink⟩
  have present :
      (store.childScope place.scope).1.frame < (store.childScope place.scope).2.frames.size := by
    simp [Store.childScope, Store.addFrame, Scope.child]
  have fresh : (store.childScope place.scope).2.bindings
      (store.childScope place.scope).1.frame = [] :=
    Store.bindings_addFrame_self store place.scope.tree
  cases overridden with
  | nil =>
      refine ⟨place.within (store.childScope place.scope).1,
        ⟨(store.childScope place.scope).2, sink⟩, rfl, rfl, present, ?_, around_self _ _⟩
      change ((store.childScope place.scope).2.bindings
        (store.childScope place.scope).1.frame).lookup "super" = none
      rw [fresh]
      rfl
  | cons next rest =>
      let inside := place.within (store.childScope place.scope).1
      let function := Value.function (.super inside depth (next :: rest))
      refine ⟨inside, ⟨(store.childScope place.scope).2.bind inside.scope "super" function, sink⟩,
        rfl, rfl, ?_, ?_, around_self _ _⟩
      · rw [Store.size_bind]
        exact present
      · change (((store.childScope place.scope).2.bind inside.scope "super" function).bindings
          inside.scope.frame).lookup "super" = some function
        rw [Store.bindings_bind_self _ inside.scope "super" function present,
          Table.lookup_store, if_pos rfl]

/-- The meaning of `super` is found at once. -/
theorem superMeaning_apply {place inside : Environment} (depth : Nat)
    (overridden : List (Body Node)) (chain : inside.scope.ancestors = place.scope.chain)
    (state : RunState) :
    superMeaning place inside depth overridden state =
      some (.ok
        ((boundSuper inside depth overridden).or
          (state.store.lookupChain inside.scope.ancestors "super")), state) := by
  rw [chain]
  cases overridden with
  | nil => rfl
  | cons next rest => rfl

/-- While a definition of a block is rendered, `super` has its meaning throughout the
body. -/
theorem renderBlock_eq_reading (natives : Natives) (reserve : Nat) (place : Environment)
    (depth : Nat) (body : Body Node) (overridden : List (Body Node))
    (unbound : Node.AllWithin (.notBinding "super") body.nodes) :
    renderBlock (bounded natives (reserve + 1)) place depth (body :: overridden) =
      (do
        let inside ← openBlock place depth overridden
        renderNodes
          ((effects natives (bounded natives reserve)).reading "super"
            (superMeaning place inside depth overridden))
          depth inside body.nodes) := by
  funext state
  rcases openBlock_apply place depth overridden state with ⟨inside, after, opened, chain, meant⟩
  change (openBlock place depth overridden >>= _) state = _
  rw [Run.bind_apply, Run.bind_apply, opened]
  have handles := Discipline.handles_reading natives reserve depth
    fun _ state (_ : Meaning "super" inside.scope _ _ state.store) =>
      superMeaning_apply depth overridden chain state
  have environments : ((Discipline.meaning "super" inside.scope
        (boundSuper inside depth overridden)).correspondence .matched).Environments
          (· = inside.scope) inside inside :=
    ⟨⟨True.intro, rfl⟩, ⟨rfl, rfl⟩⟩
  have rendered := Discipline.ends_of_related
    (Correspondence.renderNodes_related handles body.nodes unbound environments)
    ⟨⟨meant, rfl⟩, ⟨True.intro, rfl⟩⟩
  rcases Discipline.outcome_of_ends rendered with ⟨_, excused⟩ | ⟨same, _⟩
  · cases excused
  · exact same

/-! ## Calls of `super` -/

/-- The expression `super()`. -/
def superCall (start finish : Position) : Expression :=
  .call (.name "super" start) ⟨[], []⟩ finish

/-- The error of `super()` where nothing is bound to `super`. -/
def undefinedSuper (environment : Environment) (start : Position) : EvalError :=
  if environment.config.strictUndefined then .undefinedName "super"
  else .undefinedCallee (.name "super" start)

/-- What `super()` gives in the body of a definition of a block at a place: the text of the
next of the definitions that it overrides.  If there are none, the call is an error unless
something is bound to `super` at the place, which is then called. -/
def superResult (natives : Natives) (reserve : Nat) (place inside environment : Environment)
    (depth : Nat) (start : Position) : List (Body Node) → Run EvalError Value
  | next :: rest => do
      let text ←
        (Run.capture (renderBlock (bounded natives reserve) inside depth (next :: rest))).mapError
          fun error => .reported error.message
      return renderedValue inside text
  | [] => do
      match ← Run.lookup place.scope "super" with
      | none => throw (undefinedSuper environment start)
      | some found =>
          let value ← Run.ofExcept found.checked
          callValue natives (bounded natives reserve) depth (.name "super" start) value .none

variable (natives : Natives) (interpreter : Interpreter)

theorem evaluate_reading (effects : Effects) (answer : Run EvalError (Option Value))
    (depth : Nat) (environment : Environment) (start finish : Position) :
    (superCall start finish).evaluate (effects.reading "super" answer) depth environment =
      (do
        let found ← answer
        let value ←
          Run.ofExcept (Expression.foundOr environment (.undefinedName "super") found)
        effects.call depth (.name "super" start) value .none) := by
  simp only [superCall, Expression.evaluate, Expression.evaluateArguments,
    Expression.evaluateItems, Expression.evaluateKeywords, Effects.reading, bind_assoc,
    pure_bind, if_true]
  rfl

/-- A call of `super` with its meaning has its result. -/
theorem evaluate_superCall (place inside environment : Environment) (reserve depth : Nat)
    (start finish : Position) (overridden : List (Body Node)) :
    (superCall start finish).evaluate
        ((effects natives (bounded natives reserve)).reading "super"
          (superMeaning place inside depth overridden))
        depth environment =
      superResult natives reserve place inside environment depth start overridden := by
  rw [evaluate_reading]
  cases overridden with
  | nil =>
      change (Run.lookup place.scope "super" >>= _) = (Run.lookup place.scope "super" >>= _)
      congr 1
      funext found
      cases found with
      | some value => rfl
      | none =>
          unfold undefinedSuper Expression.foundOr Expression.undefined
          cases environment.config.strictUndefined <;> rfl
  | cons next rest =>
      exact callValue_super natives (bounded natives reserve) depth (.name "super" start)
        inside depth (next :: rest) .none

/-- Along the definitions of a block, the most derived first: a tag renders the first one,
and while one of them is rendered, `super` means the next one throughout its body and
`super()` gives its text.  In the last one `super()` is an error, unless something is bound
to `super` where that one is rendered, be it by an enclosing block or by the definition
before. -/
theorem super_resolves (reserve : Nat) (environment : Environment) (name : String) :
    (∀ depth tag,
      renderStatement (effects natives interpreter) depth environment tag (.block name) =
        renderBlock interpreter environment depth (environment.lineage.blocksFor name)) ∧
    ∀ k body overridden,
      (environment.lineage.blocksFor name).drop k = body :: overridden →
      Node.AllWithin (.notBinding "super") body.nodes →
      ∀ place depth,
        renderBlock (bounded natives (reserve + 1)) place depth (body :: overridden) =
          (do
            let inside ← openBlock place depth overridden
            renderNodes
              ((effects natives (bounded natives reserve)).reading "super"
                (superMeaning place inside depth overridden))
              depth inside body.nodes) ∧
        ∀ inside within start finish,
          (superCall start finish).evaluate
              ((effects natives (bounded natives reserve)).reading "super"
                (superMeaning place inside depth overridden))
              depth within =
            superResult natives reserve place inside within depth start
              ((environment.lineage.blocksFor name).drop (k + 1)) := by
  refine ⟨fun _ _ => rfl, ?_⟩
  intro k body overridden reached unbound place depth
  refine ⟨renderBlock_eq_reading natives reserve place depth body overridden unbound, ?_⟩
  intro inside within start finish
  have further : (environment.lineage.blocksFor name).drop (k + 1) = overridden := by
    rw [← List.drop_drop, reached]
    rfl
  rw [further]
  exact evaluate_superCall natives place inside within reserve depth start finish overridden

/-- A body that writes `super()`. -/
def callingBody : Body Node :=
  ⟨[.output ⟨superCall .start .start, none, none, .start⟩], some "endblock", .start⟩

/-- A body that writes a letter. -/
def letterBody : Body Node :=
  ⟨[.data "A" ⟨false, false⟩ .start], some "endblock", .start⟩

/-- A template that overrides the block of the template it extends. -/
def overridingLineage : Lineage :=
  ⟨⟨"page", [], [("a", callingBody)], []⟩,
    [⟨"base", [.statement "block" (.block "a") .start], [("a", letterBody)], []⟩]⟩

/-- The environment of that template over a scope without bindings. -/
def overridingEnvironment : Environment :=
  ⟨.default, .standard, Store.empty.newScope.1, .empty, overridingLineage⟩

/-- In the definition that overrides the other one, `super()` gives the letter. -/
theorem super_resolves_overriding :
    (overridingLineage.blocksFor "a").drop 0 = callingBody :: [letterBody] ∧
      Node.AllWithin (.notBinding "super") callingBody.nodes ∧
      ∃ after,
        (superCall .start .start).evaluate
            ((effects (fun _ _ => .nil) (bounded (fun _ _ => .nil) 1)).reading "super"
              (superMeaning overridingEnvironment overridingEnvironment 0 [letterBody]))
            0 overridingEnvironment ⟨Store.empty.newScope.2, .unlimited⟩ =
          some (.ok (.plain "A"), after) := by
  have reached :
      (overridingLineage.blocksFor "a").drop 0 = callingBody :: [letterBody] := rfl
  have unbound : Node.AllWithin (.notBinding "super") callingBody.nodes :=
    ⟨⟨⟨True.intro, True.intro, True.intro⟩, True.intro, True.intro⟩, True.intro⟩
  have resolved :=
    ((super_resolves (fun _ _ => .nil) exhausted 1 overridingEnvironment "a").2 0 callingBody
      [letterBody] reached unbound overridingEnvironment 0).2 overridingEnvironment
      overridingEnvironment .start .start
  rw [resolved]
  exact ⟨reached, unbound, _, rfl⟩

end Interpreter

end TemplateEngine

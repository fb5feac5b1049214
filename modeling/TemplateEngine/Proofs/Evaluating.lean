import TemplateEngine.Proofs.Matching.Closed

/-!
# What evaluations give

An evaluation gives no macro and no call of `super` but those that it finds bound, or that are
in the arguments of native functions: filters make no callables, and a call gives a text, unless
it is one of a native function.  So the value of an expression lies in the store that the
evaluation starts in, and not in a frame that is opened on the way.
-/

namespace TemplateEngine

namespace Run

variable {ε δ α β : Type}

/-- Whether a run in a store beyond another one gives values of some kind only, and ends in a
store that is still beyond that one. -/
def Gives (base : Store) (kind : α → Prop) (run : Run ε α) : Prop :=
  ∀ ⦃state value after⦄, base.Extends state.store → run state = some (.ok value, after) →
    base.Extends after.store ∧ kind value

variable {base : Store} {kind : α → Prop} {other : β → Prop} {run : Run ε α}

theorem gives_ofExcept {result : Except ε α} (given : ∀ value, result = .ok value → kind value) :
    (Run.ofExcept result).Gives base kind := by
  intro state value after extended ran
  cases ran
  exact ⟨extended, given value rfl⟩

theorem gives_pure {value : α} (given : kind value) : (pure value : Run ε α).Gives base kind := by
  intro state result after extended ran
  cases ran
  exact ⟨extended, given⟩

theorem Gives.bind {rest : α → Run ε β} (gives : run.Gives base kind)
    (restGives : ∀ value, kind value → (rest value).Gives base other) :
    (run >>= rest).Gives base other := by
  intro state value after extended ran
  rw [Run.bind_apply] at ran
  match firstRan : run state with
  | none =>
      rw [firstRan] at ran
      cases ran
  | some (.error error, middle) =>
      rw [firstRan] at ran
      cases ran
  | some (.ok given, middle) =>
      rw [firstRan] at ran
      obtain ⟨further, holds⟩ := gives extended firstRan
      exact restGives given holds further ran

theorem gives_of_extends (extended : run.Extends)
    (given : ∀ state value after, run state = some (.ok value, after) → kind value) :
    run.Gives base kind :=
  fun state value after beyond ran => ⟨beyond.trans (extended ran), given state value after ran⟩

end Run

/-- Arguments in which something holds of every value. -/
structure Arguments.Every (holds : Value → Prop) (arguments : Arguments) : Prop where
  positional : ∀ argument ∈ arguments.positional, argument.Every holds
  keyword : ∀ argument ∈ arguments.keyword, argument.2.Every holds

/-- Effects that give nothing but values in which something holds, to expressions in a scope. -/
structure Effects.Gives (effects : Effects) (depth : Nat) (base : Store) (holds : Value → Prop)
    (scope : Scope) : Prop where
  lookup : ∀ name, (effects.lookup scope name).Gives base fun found =>
    ∀ value, found = some value → value.Every holds
  call : ∀ callee {value arguments}, value.Every holds → arguments.Every holds →
    (effects.call depth callee value arguments).Gives base (Value.Every holds)

namespace Expression

variable {effects : Effects} {depth : Nat} {base : Store} {holds : Value → Prop}
variable {environment : Environment}

theorem every_of_undefined (callables : Value.AboutCallables holds) {error : EvalError}
    {result : Value} (given : undefined environment error = .ok result) : result.Every holds := by
  unfold undefined at given
  split at given
  · cases given
  · cases given
    exact callables.basic.nil

theorem every_of_foundOr (callables : Value.AboutCallables holds) {error : EvalError}
    {found : Option Value} {result : Value}
    (every : ∀ value, found = some value → value.Every holds)
    (given : foundOr environment error found = .ok result) : result.Every holds := by
  cases found with
  | none => exact every_of_undefined callables given
  | some value => exact every_of_checked (fun _ => every value rfl) given

theorem every_of_applyTest (callables : Value.AboutCallables holds) {used : String}
    {negated : Bool} {value result : Value} {arguments : Arguments}
    (applied : applyTest environment used negated value arguments = .ok result) :
    result.Every holds := by
  unfold applyTest at applied
  split at applied
  · rename_i test _
    cases answer : test.holds value arguments with
    | error error =>
        rw [answer] at applied
        cases applied
    | ok answer' =>
        rw [answer] at applied
        cases applied
        exact callables.basic.bool _
  · cases applied

mutual

/-- In the value of an expression holds what holds in all values that are bound, if it is about
nothing but what can be called. -/
theorem evaluate_gives (callables : Value.AboutCallables holds) (environment : Environment)
    (gives : effects.Gives depth base holds environment.scope) (expression : Expression) :
    (expression.evaluate effects depth environment).Gives base (Value.Every holds) := by
  have basic := callables.basic
  match expression with
  | .literal written _ => exact Run.gives_pure (basic.every_literal written)
  | .name identifier _ =>
      exact (gives.lookup identifier).bind fun found every =>
        Run.gives_ofExcept fun _ => every_of_foundOr callables every
  | .list items _ =>
      exact (evaluateItems_gives callables environment gives items).bind fun _ every =>
        Run.gives_pure (Value.every_list.2 every)
  | .dict entries _ =>
      exact (evaluateEntries_gives callables environment gives (List.forall_mem_nil _)
        entries).bind fun _ every => Run.gives_pure (Value.every_map.2 every)
  | .member target _ _ =>
      exact (evaluate_gives callables environment gives target).bind fun value every =>
        Run.gives_ofExcept fun _ => every_of_foundOr callables fun _ => every.member
  | .item target index _ =>
      apply (evaluate_gives callables environment gives target).bind
      intro value every
      exact (evaluate_gives callables environment gives index).bind fun _ _ =>
        Run.gives_ofExcept fun _ => every_of_foundOr callables fun _ => basic.every_item every
  | .call callee arguments _ =>
      apply (evaluate_gives callables environment gives callee).bind
      intro value every
      exact (evaluateArguments_gives callables environment gives arguments).bind fun _ given =>
        gives.call callee every given
  | .filter target used arguments _ =>
      have applied : ∀ value, value.Every holds →
          (do
            let given ← evaluateArguments effects depth environment arguments
            Run.ofExcept (applyFilter environment used value given) :
              Run EvalError Value).Gives base (Value.Every holds) := fun _ every =>
        (evaluateArguments_gives callables environment gives arguments).bind fun _ given =>
          Run.gives_ofExcept fun _ => every_of_applyFilter fun _ _ _ =>
            Filter.every_of_aboutCallables callables _ _ every given.positional given.keyword
      simp only [evaluate]
      split
      · exact (evaluate_gives callables environment.lenient gives target).bind applied
      · exact (evaluate_gives callables environment gives target).bind applied
  | .test target _ arguments _ _ =>
      apply (evaluate_gives callables environment.lenient gives target).bind
      intro value _
      exact (evaluateArguments_gives callables environment gives arguments).bind fun _ _ =>
        Run.gives_ofExcept fun _ => every_of_applyTest callables
  | .unary .not operand _ =>
      exact (evaluate_gives callables environment gives operand).bind fun _ _ =>
        Run.gives_pure (basic.bool _)
  | .unary .negate operand _ =>
      apply (evaluate_gives callables environment gives operand).bind
      intro value _
      refine Run.gives_ofExcept fun result negated => ?_
      cases value <;> cases negated
      exact basic.number _
  | .binary operator left right _ =>
      have second := evaluate_gives callables environment gives right
      cases operator with
      | and | or =>
          apply (evaluate_gives callables environment gives left).bind
          intro value _
          split
          all_goals first
            | exact Run.gives_pure (basic.bool _)
            | exact second.bind fun _ _ => Run.gives_pure (basic.bool _)
      | _ =>
          apply (evaluate_gives callables environment gives left).bind
          exact fun _ leftEvery => second.bind fun _ rightEvery =>
            Run.gives_ofExcept fun _ => basic.every_operation leftEvery rightEvery

theorem evaluateItems_gives (callables : Value.AboutCallables holds) (environment : Environment)
    (gives : effects.Gives depth base holds environment.scope) (items : List Expression) :
    (evaluateItems effects depth environment items).Gives base
      fun values => ∀ value ∈ values, value.Every holds := by
  match items with
  | [] => exact Run.gives_pure (List.forall_mem_nil _)
  | first :: rest =>
      apply (evaluate_gives callables environment gives first).bind
      intro value every
      exact (evaluateItems_gives callables environment gives rest).bind fun _ others =>
        Run.gives_pure (List.forall_mem_cons.2 ⟨every, others⟩)

theorem evaluateEntries_gives (callables : Value.AboutCallables holds)
    (environment : Environment) (gives : effects.Gives depth base holds environment.scope)
    {before : Table Value} (earlier : ∀ entry ∈ before, entry.2.Every holds)
    (entries : List (Expression × Expression)) :
    (evaluateEntries effects depth environment before entries).Gives base
      fun made => ∀ entry ∈ made, entry.2.Every holds := by
  match entries with
  | [] => exact Run.gives_pure earlier
  | (key, value) :: rest =>
      apply (evaluate_gives callables environment gives key).bind
      intro name _
      apply (evaluate_gives callables environment gives value).bind
      intro stored every
      refine evaluateEntries_gives callables environment gives ?_ rest
      intro entry member
      rcases List.mem_append.1 member with member | member
      · exact earlier entry (List.mem_filter.1 member).1
      · rw [List.mem_singleton.1 member]
        exact every

theorem evaluateKeywords_gives (callables : Value.AboutCallables holds)
    (environment : Environment) (gives : effects.Gives depth base holds environment.scope)
    (keywords : List (String × Expression)) :
    (evaluateKeywords effects depth environment keywords).Gives base
      fun made => ∀ entry ∈ made, entry.2.Every holds := by
  match keywords with
  | [] => exact Run.gives_pure (List.forall_mem_nil _)
  | (_, expression) :: rest =>
      apply (evaluate_gives callables environment gives expression).bind
      intro value every
      exact (evaluateKeywords_gives callables environment gives rest).bind fun _ others =>
        Run.gives_pure (List.forall_mem_cons.2 ⟨every, others⟩)

theorem evaluateArguments_gives (callables : Value.AboutCallables holds)
    (environment : Environment) (gives : effects.Gives depth base holds environment.scope)
    (arguments : CallArguments Expression) :
    (evaluateArguments effects depth environment arguments).Gives base
      (Arguments.Every holds) := by
  match arguments with
  | ⟨positional, keyword⟩ =>
      apply (evaluateItems_gives callables environment gives positional).bind
      intro values every
      exact (evaluateKeywords_gives callables environment gives keyword).bind fun _ others =>
        Run.gives_pure ⟨every, others⟩

end

end Expression

namespace Interpreter

variable {natives : Natives} {bound depth : Nat} {base : Store} {holds : Value → Prop}

theorem every_of_rendered {ε : Type} (callables : Value.AboutCallables holds)
    {run : Run ε String} {environment : Environment} {state after : RunState} {result : Value}
    (ended : (run >>= fun text => pure (renderedValue environment text)) state =
      some (.ok result, after)) : result.Every holds := by
  rw [Run.bind_apply] at ended
  match ran : run state with
  | none =>
      rw [ran] at ended
      cases ended
  | some (.error error, middle) =>
      rw [ran] at ended
      cases ended
  | some (.ok text, middle) =>
      rw [ran] at ended
      cases ended
      exact callables _ rfl

/-- A call of a macro or of `super` gives a text, and one of a native function what that makes of
its arguments. -/
theorem callValue_every (callables : Value.AboutCallables holds) (keeps : natives.Keeps holds)
    {interpreter : Interpreter} {callee : Expression} {value result : Value}
    {arguments : Arguments} (given : arguments.Every holds) {state after : RunState}
    (called : callValue natives interpreter depth callee value arguments state =
      some (.ok result, after)) : result.Every holds := by
  cases value with
  | closure closure =>
      change Run.mapError _ (callClosure interpreter closure arguments depth) state = _ at called
      rw [Run.mapError_apply] at called
      obtain ⟨⟨outcome, _⟩, ended, same⟩ := Option.map_eq_some_iff.1 called
      cases outcome with
      | error error => cases same
      | ok text =>
          cases same
          change (enter depth closure.name >>= fun inside => _) state = _ at ended
          rw [Run.bind_apply] at ended
          match entered : enter depth closure.name state with
          | none =>
              rw [entered] at ended
              cases ended
          | some (.error error, middle) =>
              rw [entered] at ended
              cases ended
          | some (.ok inside, middle) =>
              rw [entered] at ended
              exact every_of_rendered callables ended
  | function function =>
      cases function with
      | native name =>
          rw [callValue_native] at called
          cases checked : (natives name arguments).checked with
          | error error =>
              rw [checked] at called
              cases called
          | ok made =>
              rw [checked] at called
              cases called
              exact Expression.every_of_checked
                (fun _ => keeps name arguments given.positional given.keyword) checked
      | super environment stored bodies =>
          rw [callValue_super] at called
          exact every_of_rendered callables called
  | _ => cases called

/-- What is read in a scope of a store is bound in that store. -/
theorem effects_gives (callables : Value.AboutCallables holds) (keeps : natives.Keeps holds)
    (held : base.Holds (Value.Every holds)) {scope : Scope}
    (present : ∀ frame ∈ scope.chain, frame < base.frames.size) :
    (effects natives (bounded natives bound)).Gives depth base holds scope where
  lookup name := by
    intro state found after beyond ran
    cases ran
    refine ⟨beyond, fun value looked => ?_⟩
    obtain ⟨frame, member, bound⟩ := List.exists_of_findSome?_eq_some looked
    rw [beyond.bindings frame (present frame member)] at bound
    exact held frame _ (Table.mem_of_lookup bound)
  call callee _ _ _ given :=
    Run.gives_of_extends (callValue_extends natives bound depth callee _ _) fun _ _ _ =>
      callValue_every callables keeps given

end Interpreter

/-- Whether all macros and calls of `super` in a value have scopes of a store. -/
abbrev Value.Lies (store : Store) (value : Value) : Prop :=
  value.Every (Value.Closes fun environment => environment.scope.Lies store)

theorem Value.aboutCallables_closes (holds : Environment → Prop) :
    Value.AboutCallables (Value.Closes holds) := by
  intro value uncallable
  cases value with
  | closure callee => cases uncallable
  | function callee => cases uncallable
  | _ => exact True.intro

/-- The value of an expression lies in the store in which it is evaluated. -/
theorem Store.Closed.lies_of_evaluate {natives : Natives} {bound depth : Nat} {store : Store}
    (closed : store.Closed) (indifferent : natives.Indifferent) {environment : Environment}
    (lies : environment.scope.Lies store) {expression : Expression} {value : Value} {sink : Sink}
    {after : RunState}
    (evaluated : expression.evaluate
      (Interpreter.effects natives (Interpreter.bounded natives bound)) depth environment
        ⟨store, sink⟩ = some (.ok value, after)) :
    value.Lies store := by
  have callables := Value.aboutCallables_closes fun environment => environment.scope.Lies store
  have keeps := indifferent.keeps _ callables fun _ => True.intro
  have effects : (Interpreter.effects natives (Interpreter.bounded natives bound)).Gives depth
      store _ environment.scope :=
    Interpreter.effects_gives callables keeps closed.values lies.chain
  have gives := Expression.evaluate_gives callables environment effects expression
  exact (gives (Store.Extends.refl store) evaluated).2

end TemplateEngine

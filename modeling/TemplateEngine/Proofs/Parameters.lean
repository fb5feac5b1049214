import TemplateEngine.Natives
import TemplateEngine.Proofs.Defining
import TemplateEngine.Proofs.Rebinding

/-!
# The parameters of a call

A call of a macro binds the parameters in a scope of its own, one after the other, before the
body is rendered there.  This says which calls get that far and what is bound then.  A default
is evaluated where the parameters before its own are bound, so what is described is a sequence
of states and not only a table.

A name that is given twice is not an error: what it is given first counts.
-/

namespace TemplateEngine

/-- The state after a name is bound in a scope. -/
def RunState.bind (state : RunState) (scope : Scope) (name : String) (value : Value) : RunState :=
  { state with store := state.store.bind scope name value }

namespace Interpreter

/-! ## Binding apart from rendering -/

/-- Open the scope of a call and bind the parameters of the macro there. -/
def bindArguments (interpreter : Interpreter) (closure : Closure) (arguments : Arguments)
    (depth : Nat) : Run TemplateError Environment := do
  let scope ← Run.openChild closure.environment.scope
  let environment := closure.environment.within scope
  (Run.ofExcept (checkArguments closure.definition arguments)).mapError .evaluation
  bindParameters interpreter environment depth closure.name arguments 0
    closure.definition.parameters
  return environment

/-- A macro renders its body where its parameters are bound. -/
theorem renderClosure_eq (interpreter : Interpreter) (closure : Closure) (arguments : Arguments)
    (depth : Nat) :
    renderClosure interpreter closure arguments depth =
      (do
        let inside ← bindArguments interpreter closure arguments depth
        interpreter.render inside depth closure.definition.body.nodes) := by
  simp only [renderClosure, bindArguments, bind_assoc, pure_bind]

/-- The arguments that a macro can take at all: not too many, and none by a name that is not
that of a parameter. -/
theorem checkArguments_eq_ok_iff {definition : Definition Node} {arguments : Arguments} :
    checkArguments definition arguments = .ok () ↔
      arguments.positional.length ≤ definition.parameters.length ∧
        ∀ keyword ∈ arguments.keyword, keyword.1 ∈ Table.names definition.parameters := by
  unfold checkArguments
  dsimp only
  split
  · rename_i more
    exact iff_of_false nofun fun both => Nat.not_le_of_gt more both.1
  · rename_i few
    rw [and_iff_right (Nat.le_of_not_lt few)]
    split
    · rename_i unknown found
      have absent := List.find?_some found
      refine iff_of_false nofun fun known => ?_
      have present := known unknown (List.mem_of_find?_eq_some found)
      rw [Table.mem_names_iff, ← Option.isSome_iff_exists] at present
      simp [Table.has, present] at absent
    · rename_i none_found
      refine iff_of_true rfl fun keyword member => ?_
      rw [Table.mem_names_iff, ← Option.isSome_iff_exists]
      simpa [Table.has] using List.find?_eq_none.1 none_found keyword member

/-! ## What each parameter is given -/

/-- How the parameters of a macro are bound from a place on, with what each of them is bound to
and the state at the end: to what it is given by its place or else by its name, or else to its
default, which is evaluated where the parameters before it are bound, or else to nothing. -/
inductive Supplies (interpreter : Interpreter) (environment : Environment) (depth : Nat)
    (arguments : Arguments) :
    Nat → List (String × Option Expression) → RunState → Table Value → RunState → Prop
  | done {place : Nat} {state : RunState} :
      Supplies interpreter environment depth arguments place [] state [] state
  | given {place : Nat} {parameter : String} {default : Option Expression}
      {rest : List (String × Option Expression)} {state after : RunState} {value : Value}
      {entries : Table Value}
      (supplied : arguments.get? place parameter = some value)
      (others : Supplies interpreter environment depth arguments (place + 1) rest
        (state.bind environment.scope parameter value) entries after) :
      Supplies interpreter environment depth arguments place ((parameter, default) :: rest) state
        ((parameter, value) :: entries) after
  | defaulted {place : Nat} {parameter : String} {expression : Expression}
      {rest : List (String × Option Expression)} {state middle after : RunState} {value : Value}
      {entries : Table Value}
      (left : arguments.get? place parameter = none)
      (evaluated : interpreter.evaluate environment depth expression state =
        some (.ok value, middle))
      (others : Supplies interpreter environment depth arguments (place + 1) rest
        (middle.bind environment.scope parameter value) entries after) :
      Supplies interpreter environment depth arguments place
        ((parameter, some expression) :: rest) state ((parameter, value) :: entries) after
  | absent {place : Nat} {parameter : String} {rest : List (String × Option Expression)}
      {state after : RunState} {entries : Table Value}
      (left : arguments.get? place parameter = none)
      (others : Supplies interpreter environment depth arguments (place + 1) rest
        (state.bind environment.scope parameter .nil) entries after) :
      Supplies interpreter environment depth arguments place ((parameter, none) :: rest) state
        ((parameter, .nil) :: entries) after

variable {interpreter : Interpreter} {environment : Environment} {depth place : Nat}
  {callee : String} {arguments : Arguments} {parameters : List (String × Option Expression)}
  {state after : RunState} {entries : Table Value}

theorem Supplies.names
    (supplies : Supplies interpreter environment depth arguments place parameters state entries
      after) : Table.names entries = Table.names parameters := by
  induction supplies with
  | done => rfl
  | given _ _ inductionHypothesis => exact congrArg (_ :: ·) inductionHypothesis
  | defaulted _ _ _ inductionHypothesis => exact congrArg (_ :: ·) inductionHypothesis
  | absent _ _ inductionHypothesis => exact congrArg (_ :: ·) inductionHypothesis

/-- The first of some parameters is bound before the others. -/
theorem bindParameters_cons (parameter : String) (default : Option Expression)
    (rest : List (String × Option Expression)) :
    bindParameters interpreter environment depth callee arguments place
        ((parameter, default) :: rest) state =
      match parameterValue interpreter environment depth callee arguments place parameter default
        state with
      | none => none
      | some (.ok value, middle) =>
          bindParameters interpreter environment depth callee arguments (place + 1) rest
            (middle.bind environment.scope parameter value)
      | some (.error error, middle) => some (.error error, middle) := by
  rw [bindParameters, Run.bind_apply]
  match parameterValue interpreter environment depth callee arguments place parameter default
    state with
  | none => rfl
  | some (.ok _, _) => rfl
  | some (.error _, _) => rfl

/-- The parameters that are given by their place are the first ones. -/
theorem take_positional (parameter : String × Option Expression)
    (rest : List (String × Option Expression)) :
    (parameter :: rest).take (arguments.positional.length - place) =
      if (arguments.at? place).isSome then
        parameter :: rest.take (arguments.positional.length - (place + 1))
      else [] := by
  by_cases given : place < arguments.positional.length
  · have more : arguments.positional.length - place =
        arguments.positional.length - (place + 1) + 1 := by omega
    have isSome : (arguments.at? place).isSome := by simp [Arguments.at?, given]
    rw [more, List.take_succ_cons, if_pos isSome]
  · have none_left : arguments.positional.length - place = 0 := by omega
    have isNone : (arguments.at? place).isSome = false := by simp [Arguments.at?]; omega
    simp [none_left, isNone]

/-- After a place to which nothing is given no parameter is given by its place. -/
theorem take_of_at?_eq_none (given : arguments.at? place = none)
    (rest : List (String × Option Expression)) :
    rest.take (arguments.positional.length - (place + 1)) = [] := by
  have beyond : arguments.positional.length ≤ place := List.getElem?_eq_none_iff.1 given
  rw [Nat.sub_eq_zero_of_le (Nat.le_succ_of_le beyond), List.take_zero]

/-- Parameters are bound only if none of those that are given by their place are given by their
name too. -/
theorem supplies_of_bindParameters
    (ran : bindParameters interpreter environment depth callee arguments place parameters state =
      some (.ok (), after)) :
    (∀ parameter ∈ parameters.take (arguments.positional.length - place),
      arguments.named? parameter.1 = none) ∧
      ∃ entries, Supplies interpreter environment depth arguments place parameters state entries
        after := by
  induction parameters generalizing place state with
  | nil =>
      cases ran
      exact ⟨by simp, [], .done⟩
  | cons first rest inductionHypothesis =>
      obtain ⟨parameter, default⟩ := first
      rw [bindParameters_cons] at ran
      rw [take_positional]
      cases given : arguments.at? place with
      | some value =>
          cases named : arguments.named? parameter with
          | some other =>
              simp only [parameterValue, given, named] at ran
              cases ran
          | none =>
              simp only [parameterValue, given, named] at ran
              obtain ⟨apart, entries, supplies⟩ := inductionHypothesis ran
              refine ⟨?_, _, .given (by simp [Arguments.get?, given]) supplies⟩
              rw [Option.isSome_some, if_pos rfl]
              exact List.forall_mem_cons.2 ⟨named, apart⟩
      | none =>
          refine ⟨by simp, ?_⟩
          cases named : arguments.named? parameter with
          | some value =>
              simp only [parameterValue, given, named] at ran
              obtain ⟨-, entries, supplies⟩ := inductionHypothesis ran
              exact ⟨_, .given (by simp [Arguments.get?, given, named]) supplies⟩
          | none =>
              have left : arguments.get? place parameter = none := by
                simp [Arguments.get?, given, named]
              cases default with
              | none =>
                  simp only [parameterValue, given, named] at ran
                  obtain ⟨-, entries, supplies⟩ := inductionHypothesis ran
                  exact ⟨_, .absent left supplies⟩
              | some expression =>
                  simp only [parameterValue, given, named, Run.mapError_apply] at ran
                  match evaluated : interpreter.evaluate environment depth expression state with
                  | none =>
                      rw [evaluated] at ran
                      cases ran
                  | some (.error error, middle) =>
                      rw [evaluated] at ran
                      cases ran
                  | some (.ok value, middle) =>
                      rw [evaluated] at ran
                      obtain ⟨-, entries, supplies⟩ := inductionHypothesis ran
                      exact ⟨_, .defaulted left evaluated supplies⟩

theorem Supplies.bindParameters
    (supplies : Supplies interpreter environment depth arguments place parameters state entries
      after)
    (apart : ∀ parameter ∈ parameters.take (arguments.positional.length - place),
      arguments.named? parameter.1 = none) :
    bindParameters interpreter environment depth callee arguments place parameters state =
      some (.ok (), after) := by
  induction supplies with
  | done => rfl
  | @given place parameter default rest state after value entries supplied others
      inductionHypothesis =>
      rw [take_positional] at apart
      rw [bindParameters_cons]
      cases given : arguments.at? place with
      | some positional =>
          rw [given, Option.isSome_some, if_pos rfl, List.forall_mem_cons] at apart
          rw [Arguments.get?, given, Option.some_or] at supplied
          cases supplied
          simp only [parameterValue, given, apart.1]
          exact inductionHypothesis apart.2
      | none =>
          rw [Arguments.get?, given, Option.none_or] at supplied
          simp only [parameterValue, given, supplied]
          exact inductionHypothesis (take_of_at?_eq_none given rest ▸ nofun)
  | @defaulted place parameter expression rest state middle after value entries left evaluated
      others inductionHypothesis =>
      obtain ⟨given, named⟩ := Option.or_eq_none_iff.1 left
      rw [bindParameters_cons]
      simp only [parameterValue, given, named, Run.mapError_apply, evaluated]
      exact inductionHypothesis (take_of_at?_eq_none given rest ▸ nofun)
  | @absent place parameter rest state after entries left others inductionHypothesis =>
      obtain ⟨given, named⟩ := Option.or_eq_none_iff.1 left
      rw [bindParameters_cons]
      simp only [parameterValue, given, named]
      exact inductionHypothesis (take_of_at?_eq_none given rest ▸ nofun)

/-- A parameter with a new name is bound after those that are bound already. -/
theorem locals_bind_cons {before : RunState} {parameter : String} {value : Value}
    {rest : Table Value} (present : environment.scope.frame < before.store.frames.size)
    (distinct : (Table.names (before.store.locals environment.scope ++
      (parameter, value) :: rest)).Nodup)
    (others : environment.scope.frame <
        (before.bind environment.scope parameter value).store.frames.size →
      (Table.names ((before.bind environment.scope parameter value).store.locals
        environment.scope ++ rest)).Nodup →
      after.store.locals environment.scope =
        (before.bind environment.scope parameter value).store.locals environment.scope ++ rest) :
    after.store.locals environment.scope =
      before.store.locals environment.scope ++ (parameter, value) :: rest := by
  have new : parameter ∉ Table.names (before.store.locals environment.scope) := by
    rw [Table.names, List.map_append, List.nodup_append] at distinct
    exact fun member => distinct.2.2 _ member _ List.mem_cons_self rfl
  have bound : (before.bind environment.scope parameter value).store.locals environment.scope =
      before.store.locals environment.scope ++ [(parameter, value)] :=
    (Store.bindings_bind_self _ _ _ _ present).trans (Table.store_of_not_mem new value)
  rw [bound, List.append_assoc, List.singleton_append] at others
  exact others (by simpa [RunState.bind] using present) distinct

/-- The scope of a call binds the parameters that are supplied, in their order.  Evaluating a
default leaves it as it is. -/
theorem Supplies.locals_eq
    (keeps : ∀ expression, (interpreter.evaluate environment depth expression).Extends)
    (supplies : Supplies interpreter environment depth arguments place parameters state entries
      after)
    (present : environment.scope.frame < state.store.frames.size)
    (distinct : (Table.names (state.store.locals environment.scope ++ entries)).Nodup) :
    after.store.locals environment.scope = state.store.locals environment.scope ++ entries := by
  induction supplies with
  | done => exact (List.append_nil _).symm
  | given _ _ inductionHypothesis => exact locals_bind_cons present distinct inductionHypothesis
  | absent _ _ inductionHypothesis => exact locals_bind_cons present distinct inductionHypothesis
  | @defaulted _ _ _ _ state middle _ _ _ _ evaluated _ inductionHypothesis =>
      have extended := keeps _ evaluated
      have same : middle.store.locals environment.scope = state.store.locals environment.scope :=
        extended.bindings _ present
      rw [← same] at distinct ⊢
      exact locals_bind_cons (Nat.lt_of_lt_of_le present extended.size) distinct
        inductionHypothesis

/-! ## Calls -/

/-- The state in which the scope of a call has been opened. -/
def entered (closure : Closure) (state : RunState) : RunState :=
  ⟨(state.store.childScope closure.environment.scope).2, state.sink⟩

/-- The environment in which a macro is rendered: a new scope inside the one of its
definition. -/
def calleeEnvironment (closure : Closure) (state : RunState) : Environment :=
  closure.environment.within (state.store.childScope closure.environment.scope).1

variable {closure : Closure} {inside : Environment}

theorem bindArguments_eq_ok_iff :
    bindArguments interpreter closure arguments depth state = some (.ok inside, after) ↔
      inside = calleeEnvironment closure state ∧
        checkArguments closure.definition arguments = .ok () ∧
          bindParameters interpreter inside depth closure.name arguments 0
            closure.definition.parameters (entered closure state) = some (.ok (), after) := by
  have opened : bindArguments interpreter closure arguments depth state =
      ((Run.ofExcept (checkArguments closure.definition arguments)).mapError .evaluation >>=
        fun _ => bindParameters interpreter (calleeEnvironment closure state) depth closure.name
          arguments 0 closure.definition.parameters >>= fun _ =>
            pure (calleeEnvironment closure state)) (entered closure state) := rfl
  rw [opened]
  cases checked : checkArguments closure.definition arguments with
  | error error => exact iff_of_false nofun nofun
  | ok _ =>
      rw [and_iff_right rfl]
      change (bindParameters interpreter (calleeEnvironment closure state) depth closure.name
        arguments 0 closure.definition.parameters >>= fun _ =>
          pure (calleeEnvironment closure state)) (entered closure state) = _ ↔ _
      rw [Run.bind_apply]
      constructor
      · intro ran
        split at ran
        · cases ran
        · cases ran
          exact ⟨rfl, ‹_›⟩
        · cases ran
      · rintro ⟨rfl, ran⟩
        rw [ran]
        rfl

/-- Where parameters have names of their own, no argument is given to one that is given
something by its place exactly if the names of arguments are those of the other ones. -/
theorem named_iff (distinct : (Table.names parameters).Nodup) :
    ((∀ keyword ∈ arguments.keyword, keyword.1 ∈ Table.names parameters) ∧
      ∀ parameter ∈ parameters.take arguments.positional.length,
        arguments.named? parameter.1 = none) ↔
    ∀ keyword ∈ arguments.keyword,
      keyword.1 ∈ Table.names (parameters.drop arguments.positional.length) := by
  have parts : Table.names parameters =
      Table.names (parameters.take arguments.positional.length) ++
        Table.names (parameters.drop arguments.positional.length) := by
    rw [Table.names, Table.names, Table.names, ← List.map_append, List.take_append_drop]
  have unnamed : ∀ name, arguments.named? name = none ↔
      ∀ keyword ∈ arguments.keyword, keyword.1 ≠ name := by
    intro name
    rw [Arguments.named?, List.lookup_eq_none_iff]
    exact forall₂_congr fun keyword _ => by rw [bne_iff_ne, ne_comm]
  rw [parts] at distinct ⊢
  constructor
  · rintro ⟨known, apart⟩ keyword member
    refine (List.mem_append.1 (known keyword member)).resolve_left fun early => ?_
    obtain ⟨parameter, listed, same⟩ := List.mem_map.1 early
    exact (unnamed _).1 (apart parameter listed) keyword member same.symm
  · intro named
    refine ⟨fun keyword member => List.mem_append_right _ (named keyword member), ?_⟩
    intro parameter listed
    refine (unnamed _).2 fun keyword member same => ?_
    exact (List.nodup_append.1 distinct).2.2 _ (List.mem_map_of_mem listed) _
      (named keyword member) same.symm

/-- Every argument of a call reaches a parameter.  For a macro of a template that is read, the
parameters are bound exactly if there are not more arguments by place than parameters, each
argument by name has the name of one of the others, and the defaults of those that are left
evaluate, in turn and with the parameters before them bound.  Then the scope of the call binds
the parameters and nothing else: each to what it is given by its place, else to what it is
given first by its name, else to its default, else to nothing. -/
theorem arguments_reach_parameters {config : Config} {statements : Registry StatementKind}
    {limit : Nat} {loader : Loader} {identifier source : String} {lineage : Lineage}
    (read : Lineage.ofSource config statements limit loader identifier source = .ok lineage)
    {layer : Layer} (listed : layer ∈ lineage.layers) (defined : layer.Defines closure.definition)
    (natives : Natives) (bound depth : Nat) (arguments : Arguments) (state : RunState) :
    (∀ inside after,
      bindArguments (bounded natives bound) closure arguments depth state =
          some (.ok inside, after) ↔
        inside = calleeEnvironment closure state ∧
        arguments.positional.length ≤ closure.definition.parameters.length ∧
        (∀ keyword ∈ arguments.keyword, keyword.1 ∈
          Table.names (closure.definition.parameters.drop arguments.positional.length)) ∧
        ∃ entries, Supplies (bounded natives bound) inside depth arguments 0
          closure.definition.parameters (entered closure state) entries after) ∧
    ∀ entries after,
      Supplies (bounded natives bound) (calleeEnvironment closure state) depth arguments 0
          closure.definition.parameters (entered closure state) entries after →
        after.store.locals (calleeEnvironment closure state).scope = entries ∧
        Table.names entries = Table.names closure.definition.parameters := by
  have distinct : closure.definition.Distinct :=
    (Lineage.definesDistinctly_of_ofSource read layer listed).distinct _ defined
  refine ⟨fun inside after => ?_, fun entries after supplies => ⟨?_, supplies.names⟩⟩
  · rw [bindArguments_eq_ok_iff, checkArguments_eq_ok_iff]
    refine and_congr_right fun _ => ?_
    rw [and_assoc, and_congr_right_iff]
    intro _
    rw [← named_iff distinct, and_assoc, and_congr_right_iff]
    intro _
    constructor
    · exact fun ran => supplies_of_bindParameters ran
    · rintro ⟨apart, entries, supplies⟩
      exact supplies.bindParameters apart
  · have empty : (entered closure state).store.locals (calleeEnvironment closure state).scope =
        [] :=
      state.store.bindings_addFrame_self closure.environment.scope.tree
    have present : (calleeEnvironment closure state).scope.frame <
        (entered closure state).store.frames.size := by
      simp [calleeEnvironment, entered, Environment.within, Store.childScope, Store.addFrame,
        Scope.child]
    have locals := supplies.locals_eq (evaluate_bounded_extends natives bound _ depth) present
      (by rw [empty, List.nil_append, supplies.names]; exact distinct)
    rwa [empty, List.nil_append] at locals

/-- A macro whose second parameter is the first one unless it is given. -/
def pairing : Except TemplateError Lineage :=
  Lineage.ofSource .default Registries.standardStatements 0 .empty "page"
    "\x7b% macro pair(a, b=a, c) %\x7d\x7b% endmacro %\x7d"

/-- The macro, closed over a template without any binding. -/
def pair? : Option Closure :=
  pairing.toOption.bind fun lineage =>
    (lineage.layer.macros.lookup "pair").map fun definition =>
      ⟨definition, ⟨.default, .standard, ⟨0, 0, []⟩, .empty, lineage⟩⟩

/-- What a call binds in which the first parameter is given two values by its name. -/
def paired (closure : Closure) : Option (Except TemplateError Environment × RunState) :=
  bindArguments (bounded Natives.standard 1) closure
    ⟨[], [("a", .plain "first"), ("a", .plain "second")]⟩ 0 ⟨Store.empty.newScope.2, Sink.unlimited⟩

/-- The first of the two values is bound, and the other one is dropped. -/
theorem arguments_reach_parameters_pair :
    ∃ closure environment after, pair? = some closure ∧
      paired closure = some (.ok environment, after) ∧
      Table.names (after.store.locals environment.scope) =
        Table.names closure.definition.parameters ∧
      (after.store.locals environment.scope).map (fun entry => entry.2.display) =
        ["first", "first", ""] := by
  have evaluated : (pair?.bind paired).map (fun ended => ended.1.toOption.map fun environment =>
      (ended.2.store.locals environment.scope).map fun entry => entry.2.display) =
        some (some ["first", "first", ""]) := by decide +kernel
  obtain ⟨⟨result, after⟩, called, shown⟩ := Option.map_eq_some_iff.1 evaluated
  obtain ⟨closure, found, bound⟩ := Option.bind_eq_some_iff.1 called
  obtain ⟨environment, rfl, displayed⟩ : ∃ environment, result = .ok environment ∧
      (after.store.locals environment.scope).map (fun entry => entry.2.display) =
        ["first", "first", ""] := by
    cases result with
    | error error => cases shown
    | ok environment =>
        exact ⟨environment, rfl, Option.some.inj shown⟩
  refine ⟨closure, environment, after, found, bound, ?_, displayed⟩
  obtain ⟨lineage, read, listed⟩ := Option.bind_eq_some_iff.1 found
  obtain ⟨definition, defined, rfl⟩ := Option.map_eq_some_iff.1 listed
  have read : pairing = .ok lineage := by
    cases given : pairing with
    | error error =>
        rw [given] at read
        cases read
    | ok other =>
        rw [given] at read
        cases read
        rfl
  have reach := @arguments_reach_parameters
    ⟨definition, ⟨.default, .standard, ⟨0, 0, []⟩, .empty, lineage⟩⟩ _ _ _ _ _ _ _ read _
    List.mem_cons_self (.inr ⟨"pair", Table.mem_of_lookup defined⟩) Natives.standard 1 0
    ⟨[], [("a", .plain "first"), ("a", .plain "second")]⟩ ⟨Store.empty.newScope.2, Sink.unlimited⟩
  obtain ⟨rfl, -, -, entries, supplies⟩ := (reach.1 environment after).1 bound
  obtain ⟨locals, names⟩ := reach.2 entries after supplies
  rw [locals, names]

end Interpreter

end TemplateEngine

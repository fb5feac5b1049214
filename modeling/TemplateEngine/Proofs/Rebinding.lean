import TemplateEngine.Proofs.Frames

/-!
# The names that a rendering binds

A rendering binds names in the scope it takes place in and in scopes that it opens.  Of the
frames that exist before it, only the nearest one of its scope is written, and there only
the names that its nodes bind outside everything that opens a scope.  An evaluation writes
none of them, and neither does the rendering of a whole template, which opens a scope of its
own.
-/

namespace TemplateEngine

/-! ## Changes of a store -/

namespace Store

/-- What is kept of a store if at most some names are bound in one of its frames. -/
structure Rebinds (current : Nat) (names : List String) (earlier later : Store) : Prop where
  settles : earlier.Settles later
  others : ∀ frame < earlier.frames.size, frame ≠ current →
    later.bindings frame = earlier.bindings frame
  nearest : current < earlier.frames.size → ∀ name ∉ names,
    (later.bindings current).lookup name = (earlier.bindings current).lookup name

/-- What is kept of a store if only frames from a number on are written. -/
structure Spares (count : Nat) (earlier later : Store) : Prop where
  settles : earlier.Settles later
  bindings : ∀ frame < earlier.frames.size, frame < count →
    later.bindings frame = earlier.bindings frame

/-- What is kept of a store if only frames from that of a root on are written, and those in
its tree. -/
structure Releases (root : Scope) (earlier later : Store) : Prop where
  settles : earlier.Settles later
  bindings : ∀ frame < earlier.frames.size, frame < root.frame →
    earlier.tree? frame ≠ some root.tree → later.bindings frame = earlier.bindings frame

instance : IsPreorder Store Extends where
  refl := Extends.refl
  trans _ _ _ := Extends.trans

instance (current : Nat) (names : List String) : IsPreorder Store (Rebinds current names) where
  refl store := ⟨.refl store, fun _ _ _ => rfl, fun _ _ _ => rfl⟩
  trans first second third earlier later := by
    refine ⟨earlier.settles.trans later.settles, ?_, ?_⟩
    · intro frame old other
      rw [later.others frame (Nat.lt_of_lt_of_le old earlier.settles.size) other,
        earlier.others frame old other]
    · intro old name unbound
      rw [later.nearest (Nat.lt_of_lt_of_le old earlier.settles.size) name unbound,
        earlier.nearest old name unbound]

instance (count : Nat) : IsPreorder Store (Spares count) where
  refl store := ⟨.refl store, fun _ _ _ => rfl⟩
  trans first second third earlier later := by
    refine ⟨earlier.settles.trans later.settles, ?_⟩
    intro frame old below
    rw [later.bindings frame (Nat.lt_of_lt_of_le old earlier.settles.size) below,
      earlier.bindings frame old below]

instance (root : Scope) : IsPreorder Store (Releases root) where
  refl store := ⟨.refl store, fun _ _ _ _ => rfl⟩
  trans first second third earlier later := by
    refine ⟨earlier.settles.trans later.settles, ?_⟩
    intro frame old older outside
    obtain ⟨tree, found⟩ := exists_tree?_of_lt old
    have still : second.tree? frame ≠ some root.tree := by
      rwa [earlier.settles.tree found, ← found]
    rw [later.bindings frame (Nat.lt_of_lt_of_le old earlier.settles.size) older still,
      earlier.bindings frame old older outside]

variable {current count : Nat} {names others : List String} {earlier later : Store}

theorem Extends.rebinds (extended : earlier.Extends later) :
    Rebinds current names earlier later :=
  ⟨extended.settles, fun frame old _ => extended.bindings frame old,
    fun old _ _ => congrArg _ (extended.bindings current old)⟩

theorem Extends.spares (extended : earlier.Extends later) : Spares count earlier later :=
  ⟨extended.settles, fun frame old _ => extended.bindings frame old⟩

theorem Rebinds.mono (rebinds : Rebinds current names earlier later) (more : names ⊆ others) :
    Rebinds current others earlier later :=
  ⟨rebinds.settles, rebinds.others, fun old name unbound =>
    rebinds.nearest old name fun bound => unbound (more bound)⟩

theorem Rebinds.spares (rebinds : Rebinds current names earlier later)
    (below : count ≤ current) : Spares count earlier later :=
  ⟨rebinds.settles, fun frame old inside => rebinds.others frame old (by omega)⟩

theorem Spares.releases {root : Scope} (spares : Spares root.frame earlier later) :
    Releases root earlier later :=
  ⟨spares.settles, fun frame old older _ => spares.bindings frame old older⟩

/-- What is done in a new tree leaves the frames that there were before as they are: they are
older than its root, and not in it. -/
theorem Releases.extends {store : Store}
    (releases : Releases store.newScope.1 store.newScope.2 later) : store.Extends later := by
  have opened := store.extends_newScope
  refine ⟨opened.settles.trans releases.settles, fun frame old => ?_⟩
  obtain ⟨tree, found⟩ := exists_tree?_of_lt old
  have outside : store.newScope.2.tree? frame ≠ some store.trees := by
    rw [opened.settles.tree found]
    exact fun same => Nat.ne_of_lt (lt_trees_of_tree? found) (Option.some.inj same)
  rw [releases.bindings frame (Nat.lt_of_lt_of_le old opened.size) old outside,
    opened.bindings frame old]

/-- Binding a name changes nothing but its own value in the nearest frame. -/
theorem rebinds_bind (store : Store) (scope : Scope) {name : String} (value : Value)
    (bound : name ∈ names) : Rebinds scope.frame names store (store.bind scope name value) := by
  refine ⟨store.settles_bind scope name value,
    fun frame _ other => bindings_bind_of_ne store scope name value other, ?_⟩
  intro old other unbound
  have distinct : other ≠ name := fun same => unbound (same ▸ bound)
  rw [bindings_bind_self store scope name value old, Table.lookup_store, if_neg distinct]

theorem rebinds_bindAll (store : Store) (scope : Scope) {entries : List (String × Value)}
    (bound : ∀ entry ∈ entries, entry.1 ∈ names) :
    Rebinds scope.frame names store (store.bindAll scope entries) := by
  induction entries generalizing store with
  | nil => exact refl_of (Rebinds scope.frame names) store
  | cons entry rest inductionHypothesis =>
      have first := rebinds_bind store scope entry.2 (bound entry List.mem_cons_self)
      have others := inductionHypothesis (store.bind scope entry.1 entry.2)
        fun other member => bound other (List.mem_cons_of_mem _ member)
      exact trans_of (Rebinds scope.frame names) first others

theorem spares_bindAll (store : Store) (scope : Scope) (entries : List (String × Value)) :
    Spares scope.frame store (store.bindAll scope entries) :=
  (store.rebinds_bindAll scope fun _ => List.mem_map_of_mem).spares (Nat.le_refl _)

theorem releases_release (store : Store) (root : Scope) :
    Releases root store (store.release root) := by
  refine ⟨store.settles_release root, fun frame _ _ outside => ?_⟩
  rw [bindings_release_eq, if_neg outside]

end Store

/-! ## Runs that change the store in some way only -/

namespace Run

variable {ε δ α β : Type} {changes changes' : Store → Store → Prop}

/-- A run that binds at most some names in a frame, and otherwise only in new frames. -/
abbrev Rebinds (current : Nat) (names : List String) (run : Run ε α) : Prop :=
  run.Keeps (Store.Rebinds current names)

theorem Keeps.mono {run : Run ε α} (kept : run.Keeps changes)
    (weaker : ∀ {earlier later}, changes earlier later → changes' earlier later) :
    run.Keeps changes' :=
  fun _ _ _ ran => weaker (kept ran)

theorem Extends.rebinds {run : Run ε α} {current : Nat} {names : List String}
    (extended : run.Extends) : run.Rebinds current names :=
  Keeps.mono extended Store.Extends.rebinds

theorem Extends.spares {run : Run ε α} {count : Nat} (extended : run.Extends) :
    run.Keeps (Store.Spares count) :=
  Keeps.mono extended Store.Extends.spares

theorem Rebinds.mono {run : Run ε α} {current : Nat} {names others : List String}
    (rebinds : run.Rebinds current names) (more : names ⊆ others) :
    run.Rebinds current others :=
  Keeps.mono rebinds fun changed => changed.mono more

theorem Rebinds.spares {run : Run ε α} {current : Nat} {names : List String}
    (rebinds : run.Rebinds current names) : run.Keeps (Store.Spares current) :=
  Keeps.mono rebinds fun changed => changed.spares (Nat.le_refl _)

theorem keeps_modify {change : Store → Store}
    (changed : ∀ store, changes store (change store)) :
    (modify fun state => { state with store := change state.store } : Run ε Unit).Keeps
      changes := by
  intro state outcome after ran
  cases ran
  exact changed state.store

theorem rebinds_bind (scope : Scope) {name : String} (value : Value) {names : List String}
    (bound : name ∈ names) :
    (Run.bind scope name value : Run ε Unit).Rebinds scope.frame names :=
  keeps_modify fun store => store.rebinds_bind scope value bound

theorem rebinds_bindAll (scope : Scope) {entries : List (String × Value)} {names : List String}
    (bound : ∀ entry ∈ entries, entry.1 ∈ names) :
    (Run.bindAll scope entries : Run ε Unit).Rebinds scope.frame names :=
  keeps_modify fun store => store.rebinds_bindAll scope bound

theorem spares_bind (scope : Scope) (name : String) (value : Value) :
    (Run.bind scope name value : Run ε Unit).Keeps (Store.Spares scope.frame) :=
  (rebinds_bind scope value (List.mem_singleton_self name)).spares

theorem spares_bindAll (scope : Scope) (entries : List (String × Value)) :
    (Run.bindAll scope entries : Run ε Unit).Keeps (Store.Spares scope.frame) :=
  keeps_modify fun store => store.spares_bindAll scope entries

theorem keeps_exhausted : (Run.exhausted : Run ε α).Keeps changes := by
  intro state outcome after ran
  cases ran

section Preorder

variable [IsPreorder Store changes]

theorem keeps_ofExcept (result : Except ε α) : (Run.ofExcept result).Keeps changes := by
  intro state outcome after ran
  cases ran
  exact refl_of changes state.store

theorem keeps_pure (value : α) : (pure value : Run ε α).Keeps changes :=
  keeps_ofExcept (.ok value)

theorem keeps_throw (error : ε) : (throw error : Run ε α).Keeps changes :=
  keeps_ofExcept (.error error)

theorem keeps_lookup (scope : Scope) (name : String) :
    (Run.lookup scope name : Run ε (Option Value)).Keeps changes := by
  intro state outcome after ran
  cases ran
  exact refl_of changes state.store

theorem keeps_write (text : String) : (Run.write text).Keeps changes := by
  rintro ⟨store, sink⟩ outcome after ran
  change (if sink.takes text then some _ else some _) = _ at ran
  split at ran <;> cases ran <;> exact refl_of changes store

theorem Keeps.bind {first : Run ε α} {rest : α → Run ε β} (kept : first.Keeps changes)
    (restKept : ∀ value, (rest value).Keeps changes) : (first >>= rest).Keeps changes := by
  intro state outcome after ran
  rw [Run.bind_apply] at ran
  match firstRan : first state with
  | none =>
      rw [firstRan] at ran
      cases ran
  | some (.error error, middle) =>
      rw [firstRan] at ran
      cases ran
      exact kept firstRan
  | some (.ok value, middle) =>
      rw [firstRan] at ran
      exact trans_of changes (kept firstRan) (restKept value ran)

end Preorder

theorem Keeps.mapError {run : Run ε α} {change : ε → δ} (kept : run.Keeps changes) :
    (run.mapError change).Keeps changes := by
  intro state outcome after ran
  rw [Run.mapError_apply] at ran
  rcases Option.map_eq_some_iff.1 ran with ⟨⟨_, _⟩, ended, same⟩
  cases same
  exact kept ended

theorem Keeps.capture {run : Run ε Unit} (kept : run.Keeps changes) :
    (Run.capture run).Keeps changes := by
  rintro ⟨store, sink⟩ outcome after ran
  rw [Run.capture_apply] at ran
  rcases Option.map_eq_some_iff.1 ran with ⟨⟨_, after⟩, ended, same⟩
  cases same
  exact @kept ⟨store, Sink.unlimited⟩ _ after ended

/-- The tree of a root is released at the end of a run that writes frames from that of the
root on. -/
theorem Keeps.releasing {run : Run ε α} {root : Scope}
    (kept : run.Keeps (Store.Spares root.frame)) :
    (run.releasing root).Keeps (Store.Releases root) := by
  intro state outcome after ran
  rw [Run.releasing_apply] at ran
  rcases Option.map_eq_some_iff.1 ran with ⟨⟨_, before⟩, ended, same⟩
  cases same
  exact trans_of (Store.Releases root) (kept ended).releases (before.store.releases_release root)

/-- A run that goes on in a new tree, and may release it, leaves the frames that exist as they
are. -/
theorem extends_newScope {rest : Scope → Run ε α}
    (releases : ∀ root, (rest root).Keeps (Store.Releases root)) :
    (Run.openWith (·.newScope) >>= rest).Extends := by
  rintro ⟨store, sink⟩ outcome after ran
  have released : Store.Releases store.newScope.1 store.newScope.2 after.store :=
    releases store.newScope.1 ran
  exact released.extends

/-- A run that goes on in a scope with a new frame leaves the frames that exist as they are
if it spares all that are older than the new one. -/
theorem extends_openWith {make : Store → Scope × Store} {rest : Scope → Run ε α}
    (extended : ∀ store, Store.Extends store (make store).2)
    (fresh : ∀ store : Store, (make store).1.frame = store.frames.size)
    (spares : ∀ scope, (rest scope).Keeps (Store.Spares scope.frame)) :
    (Run.openWith make >>= rest).Extends := by
  rintro ⟨store, sink⟩ outcome after ran
  have spared : Store.Spares (make store).1.frame (make store).2 after.store :=
    spares (make store).1 ran
  have opened := extended store
  refine ⟨opened.settles.trans spared.settles, ?_⟩
  intro frame old
  rw [spared.bindings frame (Nat.lt_of_lt_of_le old opened.size) (by rw [fresh]; exact old),
    opened.bindings frame old]

theorem extends_openChild {scope : Scope} {rest : Scope → Run ε α}
    (spares : ∀ inner, (rest inner).Keeps (Store.Spares inner.frame)) :
    (Run.openChild scope >>= rest).Extends :=
  extends_openWith (fun store => store.extends_childScope scope) (fun _ => rfl) spares

end Run

/-! ## Evaluation -/

/-- Effects that leave the frames that exist as they are. -/
structure Effects.Extends (effects : Effects) (depth : Nat) : Prop where
  lookup : ∀ scope name, (effects.lookup scope name).Extends
  call : ∀ callee value arguments, (effects.call depth callee value arguments).Extends
  emit : ∀ environment value, (effects.emit environment value).Extends
  block : ∀ environment name, (effects.block environment depth name).Extends
  inclusion : ∀ environment included withContext,
    (effects.inclusion environment depth included withContext).Extends

namespace Expression

variable {effects : Effects} {depth : Nat}

mutual

/-- An evaluation writes no frame that exists. -/
theorem evaluate_extends (kept : effects.Extends depth) (environment : Environment)
    (expression : Expression) :
    (expression.evaluate effects depth environment).Extends := by
  match expression with
  | .literal _ _ => exact Run.keeps_pure _
  | .name identifier _ =>
      exact (kept.lookup environment.scope identifier).bind fun _ => Run.keeps_ofExcept _
  | .list items _ =>
      exact (evaluateItems_extends kept environment items).bind fun _ => Run.keeps_pure _
  | .dict entries _ =>
      exact (evaluateEntries_extends kept environment [] entries).bind fun _ =>
        Run.keeps_pure _
  | .member target _ _ =>
      exact (evaluate_extends kept environment target).bind fun _ => Run.keeps_ofExcept _
  | .item target index _ =>
      apply (evaluate_extends kept environment target).bind
      intro value
      exact (evaluate_extends kept environment index).bind fun _ => Run.keeps_ofExcept _
  | .call callee arguments _ =>
      apply (evaluate_extends kept environment callee).bind
      intro value
      exact (evaluateArguments_extends kept environment arguments).bind fun given =>
        kept.call callee value given
  | .filter target used arguments _ =>
      have applied : ∀ value,
          (do
            let given ← evaluateArguments effects depth environment arguments
            Run.ofExcept (applyFilter environment used value given) :
              Run EvalError Value).Extends := fun _ =>
        (evaluateArguments_extends kept environment arguments).bind fun _ =>
          Run.keeps_ofExcept _
      simp only [evaluate]
      split
      · exact (evaluate_extends kept environment.lenient target).bind applied
      · exact (evaluate_extends kept environment target).bind applied
  | .test target _ arguments _ _ =>
      apply (evaluate_extends kept environment.lenient target).bind
      intro value
      exact (evaluateArguments_extends kept environment arguments).bind fun _ =>
        Run.keeps_ofExcept _
  | .unary .not operand _ =>
      exact (evaluate_extends kept environment operand).bind fun _ => Run.keeps_pure _
  | .unary .negate operand _ =>
      exact (evaluate_extends kept environment operand).bind fun _ => Run.keeps_ofExcept _
  | .binary operator left right _ =>
      have second := evaluate_extends kept environment right
      cases operator with
      | and | or =>
          apply (evaluate_extends kept environment left).bind
          intro value
          split
          all_goals first
            | exact Run.keeps_pure _
            | exact second.bind fun _ => Run.keeps_pure _
      | _ =>
          apply (evaluate_extends kept environment left).bind
          exact fun _ => second.bind fun _ => Run.keeps_ofExcept _

theorem evaluateItems_extends (kept : effects.Extends depth) (environment : Environment)
    (items : List Expression) :
    (evaluateItems effects depth environment items).Extends := by
  match items with
  | [] => exact Run.keeps_pure _
  | first :: rest =>
      apply (evaluate_extends kept environment first).bind
      intro value
      exact (evaluateItems_extends kept environment rest).bind fun _ => Run.keeps_pure _

theorem evaluateEntries_extends (kept : effects.Extends depth) (environment : Environment)
    (before : Table Value) (entries : List (Expression × Expression)) :
    (evaluateEntries effects depth environment before entries).Extends := by
  match entries with
  | [] => exact Run.keeps_pure _
  | (key, value) :: rest =>
      apply (evaluate_extends kept environment key).bind
      intro name
      apply (evaluate_extends kept environment value).bind
      intro stored
      exact evaluateEntries_extends kept environment _ rest

theorem evaluateKeywords_extends (kept : effects.Extends depth) (environment : Environment)
    (keywords : List (String × Expression)) :
    (evaluateKeywords effects depth environment keywords).Extends := by
  match keywords with
  | [] => exact Run.keeps_pure _
  | (_, expression) :: rest =>
      apply (evaluate_extends kept environment expression).bind
      intro value
      exact (evaluateKeywords_extends kept environment rest).bind fun _ =>
        Run.keeps_pure _

theorem evaluateArguments_extends (kept : effects.Extends depth) (environment : Environment)
    (arguments : CallArguments Expression) :
    (evaluateArguments effects depth environment arguments).Extends := by
  match arguments with
  | ⟨positional, keyword⟩ =>
      apply (evaluateItems_extends kept environment positional).bind
      intro values
      exact (evaluateKeywords_extends kept environment keyword).bind fun _ =>
        Run.keeps_pure _

end

end Expression

/-! ## The names that nodes bind -/

namespace Node

mutual

/-- The names that a node binds in the scope in which it is rendered.  Those that it binds in
scopes of their own, for the bodies of loops, blocks, macros, assignments and boxes, are not
among them. -/
def targets : Node → List String
  | .comment _ _ => []
  | .data _ _ _ => []
  | .output _ => []
  | .statement _ described _ => statementTargets described
  | .wrapper ⟨nodes, _, _⟩ => allTargets nodes

/-- The names that several nodes bind there. -/
def allTargets : List Node → List String
  | [] => []
  | node :: rest => targets node ++ allTargets rest

/-- The names that a body binds there, where there is one. -/
def optionTargets : Option (Body Node) → List String
  | none => []
  | some ⟨nodes, _, _⟩ => allTargets nodes

/-- The names that the branches of a conditional bind there. -/
def branchesTargets : List (Expression × Body Node) → List String
  | [] => []
  | (_, ⟨nodes, _, _⟩) :: rest => allTargets nodes ++ branchesTargets rest

/-- The names that a statement binds there. -/
def statementTargets : Statement Node → List String
  | .conditional branches otherwise => branchesTargets branches ++ optionTargets otherwise
  | .loop _ _ _ _ _ => []
  | .assignment target _ => [target]
  | .capture target _ => [target]
  | .block _ => []
  | .parent _ => []
  | .definition definition => [definition.name]
  | .importModule _ target _ => [target]
  | .importNames _ names _ => names.map Prod.fst
  | .inclusion _ _ _ => []
  | .box _ _ _ _ => []

end

end Node

/-! ## Rendering -/

namespace Loop

variable {α : Type} {environment : Environment}

/-- What follows in the scope of an item may write there. -/
theorem extends_openItem_bind {targets : List String} {item : Value}
    {rest : Environment → Run TemplateError α}
    (spares : ∀ scope, (rest (environment.within scope)).Keeps (Store.Spares scope.frame)) :
    (openItem environment targets item >>= rest).Extends := by
  unfold openItem
  simp only [bind_assoc, pure_bind]
  apply Run.extends_openChild
  intro scope
  refine (Run.keeps_ofExcept (bindings targets item)).mapError.bind ?_
  exact fun bound => (Run.spares_bindAll scope bound).bind fun _ => spares scope

theorem keep_extends {passes : Value → Run TemplateError Bool}
    (kept : ∀ item, (passes item).Extends) (items : List Value) :
    (keep passes items).Extends := by
  induction items with
  | nil => exact Run.keeps_pure _
  | cons item rest inductionHypothesis =>
      apply (kept item).bind
      intro passed
      exact inductionHypothesis.bind fun _ => Run.keeps_pure _

/-- Each item is visited in a scope of its own. -/
theorem visit_extends {targets : List String} {length : Nat}
    {body : Environment → Run TemplateError Unit}
    (spares : ∀ scope, (body (environment.within scope)).Keeps (Store.Spares scope.frame))
    (index : Nat) (items : List Value) :
    (visit environment targets length body index items).Extends := by
  induction items generalizing index with
  | nil => exact Run.keeps_pure _
  | cons item rest inductionHypothesis =>
      apply extends_openItem_bind
      intro scope
      apply (Run.spares_bind scope "loop" (info index length)).bind
      intro _
      apply (spares scope).bind
      exact fun _ => (inductionHypothesis (index + 1)).spares

end Loop

namespace Interpreter

variable {effects : Effects} {depth : Nat}

theorem evaluateAt_extends (kept : effects.Extends depth) (environment : Environment)
    (site : Expression → Site) (expression : Expression) :
    (evaluateAt effects depth environment site expression).Extends :=
  (Expression.evaluate_extends kept environment expression).mapError

theorem renderOutput_extends (kept : effects.Extends depth) (environment : Environment)
    (output : Output) : (renderOutput effects depth environment output).Extends := by
  have chosen : (chosen effects depth environment output).Extends := by
    unfold chosen
    split
    · exact Run.keeps_pure _
    · exact (evaluateAt_extends kept environment _ _).bind fun _ => Run.keeps_pure _
  apply chosen.bind
  intro expression
  cases expression with
  | none => exact Run.keeps_pure _
  | some expression =>
      exact (evaluateAt_extends kept environment _ expression).bind fun value =>
        kept.emit environment value

theorem loopItems_extends (kept : effects.Extends depth) (environment : Environment)
    (targets : List String) (iterable : Expression) (condition : Option Expression) :
    (loopItems effects depth environment targets iterable condition).Extends := by
  apply (evaluateAt_extends kept environment _ iterable).bind
  intro value
  refine (Run.keeps_ofExcept (Loop.items targets iterable value)).mapError.bind ?_
  intro items
  cases condition with
  | none => exact Run.keeps_pure _
  | some condition =>
      apply Loop.keep_extends
      intro item
      apply Loop.extends_openItem_bind
      intro scope
      exact (evaluateAt_extends kept (environment.within scope) _ condition).spares.bind
        fun _ => Run.keeps_pure _

/-- What a loop renders for its items is rendered in new scopes. -/
theorem loopBody_extends (environment : Environment) (targets : List String)
    (items : List Value) (empty body : Environment → Run TemplateError Unit)
    (emptySpares : ∀ scope, (empty (environment.within scope)).Keeps (Store.Spares scope.frame))
    (bodySpares : ∀ scope, (body (environment.within scope)).Keeps (Store.Spares scope.frame)) :
    (if items.isEmpty then do
      let scope ← Run.openChild environment.scope
      empty (environment.within scope)
    else Loop.visit environment targets items.length body 0 items :
      Run TemplateError Unit).Extends := by
  split
  · exact Run.extends_openChild emptySpares
  · exact Loop.visit_extends bodySpares 0 items

theorem referred_extends (kept : effects.Extends depth) (environment : Environment)
    (filename : Expression) : (referred effects depth environment filename).Extends :=
  (evaluateAt_extends kept environment _ filename).bind fun _ => Run.keeps_ofExcept _

theorem renderInclusion_extends (kept : effects.Extends depth) (environment : Environment)
    (filename : Expression) (ignoreMissing withContext : Bool) :
    (renderInclusion effects depth environment filename ignoreMissing withContext).Extends := by
  apply (evaluateAt_extends kept environment _ filename).bind
  intro name
  split
  · exact kept.inclusion environment _ withContext
  · split
    · exact Run.keeps_pure _
    · exact Run.keeps_throw _

/-- The macros of a template are bound in a module scope of their own. -/
theorem bindModule_extends (scope : Scope) (imported : Environment)
    (withContext : Option Bool) : (bindModule scope imported withContext).Extends := by
  apply Run.extends_openWith
  · intro store
    split
    · exact store.extends_childScope scope
    · exact store.extends_detachedScope scope
  · intro store
    split <;> rfl
  · intro inner
    exact (Run.spares_bindAll inner _).bind fun _ => Run.keeps_pure _

theorem importModule_rebinds (environment imported : Environment) (target : String)
    (withContext : Option Bool) :
    (importModule environment imported target withContext).Rebinds environment.scope.frame
      [target] := by
  apply (bindModule_extends environment.scope imported withContext).rebinds.bind
  exact fun _ => Run.rebinds_bind environment.scope _ List.mem_cons_self

theorem importNames_rebinds (environment imported : Environment)
    (names : List (String × String)) (withContext : Option Bool) :
    (importNames environment imported names withContext).Rebinds environment.scope.frame
      (names.map Prod.fst) := by
  unfold importNames
  split
  · exact Run.keeps_throw _
  · apply (bindModule_extends environment.scope imported withContext).rebinds.bind
    intro closures
    apply Run.rebinds_bindAll environment.scope
    intro entry member
    rcases List.mem_filterMap.1 member with ⟨selection, chosen, bound⟩
    rcases Option.map_eq_some_iff.1 bound with ⟨closure, _, rfl⟩
    exact List.mem_map.2 ⟨selection, chosen, rfl⟩

theorem boxShows_extends (kept : effects.Extends depth) (environment : Environment)
    (condition : Option Expression) :
    (boxShows effects depth environment condition).Extends := by
  cases condition with
  | none => exact Run.keeps_pure _
  | some expression =>
      exact (evaluateAt_extends kept environment _ expression).bind fun _ => Run.keeps_pure _

mutual

/-- Rendering a node binds its targets at most. -/
theorem renderNode_rebinds (kept : effects.Extends depth) (environment : Environment)
    (node : Node) :
    (renderNode effects depth environment node).Rebinds environment.scope.frame
      node.targets := by
  match node with
  | .comment _ _ => exact Run.keeps_pure _
  | .data _ _ _ => exact Run.keeps_write _
  | .output output => exact (renderOutput_extends kept environment output).rebinds
  | .statement tag described _ =>
      exact Run.Keeps.mapError (renderStatement_rebinds kept environment tag described)
  | .wrapper ⟨nodes, _, _⟩ => exact renderNodes_rebinds kept environment nodes

theorem renderNodes_rebinds (kept : effects.Extends depth) (environment : Environment)
    (nodes : List Node) :
    (renderNodes effects depth environment nodes).Rebinds environment.scope.frame
      (Node.allTargets nodes) := by
  match nodes with
  | [] => exact Run.keeps_pure _
  | node :: rest =>
      have first := (renderNode_rebinds kept environment node).mono
        (List.subset_append_left node.targets (Node.allTargets rest))
      have others := (renderNodes_rebinds kept environment rest).mono
        (List.subset_append_right node.targets (Node.allTargets rest))
      exact first.bind fun _ => others

theorem renderOptional_rebinds (kept : effects.Extends depth) (environment : Environment)
    (body : Option (Body Node)) :
    (renderOptional effects depth environment body).Rebinds environment.scope.frame
      (Node.optionTargets body) := by
  match body with
  | none => exact Run.keeps_pure _
  | some ⟨nodes, _, _⟩ => exact renderNodes_rebinds kept environment nodes

theorem renderBranches_rebinds (kept : effects.Extends depth) (environment : Environment)
    (branches : List (Expression × Body Node)) :
    (renderBranches effects depth environment branches).Rebinds environment.scope.frame
      (Node.branchesTargets branches) := by
  match branches with
  | [] => exact Run.keeps_pure _
  | (condition, ⟨nodes, _, _⟩) :: rest =>
      have taken := (renderNodes_rebinds kept environment nodes).mono
        (List.subset_append_left (Node.allTargets nodes) (Node.branchesTargets rest))
      have others := (renderBranches_rebinds kept environment rest).mono
        (List.subset_append_right (Node.allTargets nodes) (Node.branchesTargets rest))
      apply (evaluateAt_extends kept environment _ condition).rebinds.bind
      intro value
      split
      · exact taken.bind fun _ => Run.keeps_pure _
      · exact others

theorem renderStatement_rebinds (kept : effects.Extends depth) (environment : Environment)
    (tag : String) (described : Statement Node) :
    (renderStatement effects depth environment tag described).Rebinds environment.scope.frame
      (Node.statementTargets described) := by
  match described with
  | .conditional branches otherwise =>
      have first := (renderBranches_rebinds kept environment branches).mono
        (List.subset_append_left (Node.branchesTargets branches)
          (Node.optionTargets otherwise))
      have others := (renderOptional_rebinds kept environment otherwise).mono
        (List.subset_append_right (Node.branchesTargets branches)
          (Node.optionTargets otherwise))
      apply first.bind
      intro found
      split
      · exact others
      · exact Run.keeps_pure _
  | .loop targets iterable condition ⟨nodes, _, _⟩ empty =>
      apply Run.Extends.rebinds
      apply (loopItems_extends kept environment targets iterable condition).bind
      intro items
      exact loopBody_extends environment targets items
        (fun inside => renderOptional effects depth inside empty)
        (fun inside => renderNodes effects depth inside nodes)
        (fun scope => (renderOptional_rebinds kept (environment.within scope) empty).spares)
        (fun scope => (renderNodes_rebinds kept (environment.within scope) nodes).spares)
  | .assignment target value =>
      apply (evaluateAt_extends kept environment _ value).rebinds.bind
      exact fun _ => Run.rebinds_bind environment.scope _ List.mem_cons_self
  | .capture target ⟨nodes, _, _⟩ =>
      have body : (do
          let scope ← Run.openChild environment.scope
          renderNodes effects depth (environment.within scope) nodes).Extends :=
        Run.extends_openChild fun scope =>
          (renderNodes_rebinds kept (environment.within scope) nodes).spares
      apply (Run.Keeps.capture body.rebinds).bind
      exact fun _ => Run.rebinds_bind environment.scope _ List.mem_cons_self
  | .block name => exact (kept.block environment name).rebinds
  | .parent _ => exact Run.keeps_pure _
  | .definition definition =>
      exact Run.rebinds_bind environment.scope _ List.mem_cons_self
  | .importModule filename target withContext =>
      apply (referred_extends kept environment filename).rebinds.bind
      exact fun imported => importModule_rebinds environment imported target withContext
  | .importNames filename names withContext =>
      apply (referred_extends kept environment filename).rebinds.bind
      exact fun imported => importNames_rebinds environment imported names withContext
  | .inclusion filename ignoreMissing withContext =>
      exact (renderInclusion_extends kept environment filename ignoreMissing withContext).rebinds
  | .box label condition ⟨nodes, _, _⟩ other =>
      apply Run.Extends.rebinds
      refine (Run.keeps_write _).bind fun _ => ?_
      apply (boxShows_extends kept environment condition).bind
      intro shown
      apply Run.extends_openChild
      intro scope
      split
      · exact (renderNodes_rebinds kept (environment.within scope) nodes).spares.bind
          fun _ => Run.keeps_write _
      · exact (renderOptional_rebinds kept (environment.within scope) other).spares.bind
          fun _ => Run.keeps_write _

end

/-! ## The frame discipline -/

variable (natives : Natives) (bound : Nat)

theorem effects_extends (depth : Nat) :
    (Interpreter.effects natives (bounded natives bound)).Extends depth where
  lookup scope name := Run.keeps_lookup scope name
  call := callValue_extends natives bound depth
  emit _ _ := Run.keeps_write _
  block environment _ := renderBlock_extends natives bound depth environment _
  inclusion := includeTemplate_extends natives bound depth

theorem evaluate_bounded_extends (environment : Environment) (depth : Nat)
    (expression : Expression) :
    ((bounded natives bound).evaluate environment depth expression).Extends := by
  cases bound with
  | zero => exact Run.keeps_exhausted
  | succ bound => exact Expression.evaluate_extends (effects_extends natives bound depth) _ _

theorem render_bounded_rebinds (environment : Environment) (depth : Nat) (nodes : List Node) :
    ((bounded natives bound).render environment depth nodes).Rebinds environment.scope.frame
      (Node.allTargets nodes) := by
  cases bound with
  | zero => exact Run.keeps_exhausted
  | succ bound => exact renderNodes_rebinds (effects_extends natives bound depth) _ _

/-- A page is rendered in the scope of its environment. -/
theorem execute_spares (environment : Environment) (depth : Nat) :
    ((bounded natives bound).execute environment depth).Keeps
      (Store.Spares environment.scope.frame) := by
  have prepared : ∀ layers : List Layer,
      (prepare (bounded natives bound) environment depth layers).Keeps
        (Store.Spares environment.scope.frame) := by
    intro layers
    induction layers with
    | nil => exact Run.keeps_pure _
    | cons layer rest inductionHypothesis =>
        apply (render_bounded_rebinds natives bound environment depth _).spares.capture.bind
        exact fun _ => inductionHypothesis
  apply (prepared environment.lineage.derived).bind
  exact fun _ => (render_bounded_rebinds natives bound environment depth _).spares

theorem render_extends (template : Template) (data : Scope) :
    (template.render (bounded natives bound) data).Extends := by
  apply Run.extends_newScope
  intro scope
  have copied : (modify fun state => { state with store := state.store.update scope data } :
      Run TemplateError Unit).Keeps (Store.Releases scope) :=
    Run.keeps_modify fun store => (store.spares_bindAll scope (store.locals data)).releases
  apply copied.bind
  exact fun _ => (execute_spares natives bound (template.environment scope) 0).releasing

/-- An evaluation leaves every frame that exists as it is.  A rendering of nodes writes only
the nearest one of its scope, and there it binds only names that the nodes bind outside
everything that opens a scope.  A rendering of a template leaves every frame as it is, and
so the data of its caller.  All of this holds also of what fails. -/
theorem frames_disciplined :
    (∀ environment depth expression,
      ((bounded natives bound).evaluate environment depth expression).Extends) ∧
    (∀ environment depth nodes,
      ((bounded natives bound).render environment depth nodes).Rebinds environment.scope.frame
        (Node.allTargets nodes)) ∧
    ∀ (template : Template) (data : Scope),
      (template.render (bounded natives bound) data).Extends :=
  ⟨evaluate_bounded_extends natives bound, render_bounded_rebinds natives bound,
    render_extends natives bound⟩

end Interpreter

end TemplateEngine

import TemplateEngine.Proofs.Isolation.Modules

/-!
# Templates without context

A template that is included without context is rendered in a tree of scopes of its own, and
one that is imported without context has its macros in a module of its own.  Neither depends
on what is bound where the template is used.  This compares the same use at two places of
renderings, whose stores may hold anything: the frames that are opened in the use match from
the start, and nothing that is rendered there reaches any other frame.
-/

namespace TemplateEngine

/-! ## Places -/

/-- What can be seen of an outcome: the error as it is told, and what has been written. -/
def observed (outcome : Option (Except TemplateError Unit × RunState)) :
    Option (Except TemplateError Unit × Sink) :=
  outcome.map fun (result, after) => (result.mapError TemplateError.told, after.sink)

/-- Where a rendering has got to. -/
structure Place where
  environment : Environment
  state : RunState

namespace Place

variable (place : Place) (natives : Natives) (bound depth : Nat)

/-- Render the statement of a tag at a place. -/
def render (tag : String) (statement : Statement Node) :
    Option (Except TemplateError Unit × RunState) :=
  Interpreter.renderStatement (Interpreter.effects natives (Interpreter.bounded natives bound))
    depth place.environment tag statement place.state

/-- The value of an expression at a place. -/
def evaluate (expression : Expression) : Option (Except EvalError Value × RunState) :=
  expression.evaluate (Interpreter.effects natives (Interpreter.bounded natives bound)) depth
    place.environment place.state

/-- Whether an expression names a file at a place. -/
def Names (expression : Expression) (name : String) : Prop :=
  ∃ value after, place.evaluate natives bound depth expression = some (.ok value, after) ∧
    value.display = name

/-- Whether the scope of a place is one of its store. -/
structure Stands : Prop where
  tree : place.environment.scope.tree < place.state.store.trees
  frame : place.environment.scope.frame < place.state.store.frames.size

/-- Places at which the same templates are found and read alike.  Nothing is said about what
is bound there. -/
structure Shares (first second : Place) : Prop where
  config : second.environment.config = first.environment.config
  registries : second.environment.registries = first.environment.registries
  loader : second.environment.loader = first.environment.loader

variable {place natives bound depth} {first second : Place}

/-- The same file is the same template at both places. -/
theorem Shares.refer (shares : first.Shares second) (name : String) :
    Alike (fun error other => error = other)
      (fun included other => included.Agrees other ∧ included.lineage = other.lineage)
      (first.environment.refer name) (second.environment.refer name) := by
  -- Which template is found does not depend on the template around either.
  have agrees : first.environment.Agrees
      { second.environment with lineage := first.environment.lineage } :=
    ⟨shares.config, shares.registries, shares.loader, rfl⟩
  exact agrees.refer name

theorem sink_of_evaluate {expression : Expression} {result : Except EvalError Value}
    {after : RunState}
    (evaluated : place.evaluate natives bound depth expression = some (result, after)) :
    after.sink = place.state.sink := by
  have quiet := Expression.evaluate_quiet (Interpreter.effects_truncates
    (Interpreter.bounded_truncates natives bound) natives depth) place.environment expression
  have ran := (quiet place.state.store place.state.sink).symm.trans evaluated
  obtain ⟨_, _, same⟩ := Option.map_eq_some_iff.1 ran
  cases same
  rfl

/-! ## Inclusions -/

/-- An inclusion of the file that an expression names. -/
theorem render_inclusion {filename : Expression} {value : Value} {after : RunState}
    (evaluated : place.evaluate natives bound depth filename = some (.ok value, after))
    (tag : String) (ignoreMissing withContext : Bool) :
    place.render natives bound depth tag (.inclusion filename ignoreMissing withContext) =
      match place.environment.refer value.display with
      | .ok included =>
          Interpreter.includeTemplate (Interpreter.bounded natives bound) place.environment
            depth included withContext after
      | .error error =>
          if ignoreMissing && error.isNotFound then some (.ok (), after)
          else some (.error error, after) := by
  change Interpreter.renderInclusion _ _ _ _ _ _ _ = _
  unfold Interpreter.renderInclusion Interpreter.evaluateAs Interpreter.evaluateAt
  rw [Run.bind_apply, Run.mapError_apply]
  rw [show filename.evaluate _ depth place.environment place.state = _ from evaluated]
  dsimp only [Option.map_some, Except.mapError]
  cases place.environment.refer value.display with
  | ok included => rfl
  | error error =>
      dsimp only
      split <;> rfl

/-- Runs that end alike, with the same writes, are observed to be the same. -/
theorem observed_of_ends {matching : Matching} (matched : matching.absence = .matched)
    (same : ∀ {first second}, matching.sink first second → first = second) {pairing : Pairing}
    {outcome other : Option (Except TemplateError Unit × RunState)}
    (ended : matching.comparison.Ends pairing matching.comparison.failure
      matching.comparison.done outcome other) :
    observed outcome = observed other := by
  match outcome, other with
  | none, none => rfl
  | none, some _ => cases matched.symm.trans ended
  | some _, none => exact ended.elim
  | some (result, ⟨_, _⟩), some (otherResult, ⟨_, _⟩) =>
      obtain ⟨_, _, ⟨_, sinks⟩, alike⟩ := ended
      cases same sinks
      match result, otherResult with
      | .ok (), .ok () => rfl
      | .error error, .error other =>
          simp only [observed, Option.map_some, Except.mapError]
          rw [show error.told = other.told from alike]

/-- A file that is included without context is rendered alike, whatever is bound around. -/
theorem Shares.observed_inclusion (shares : first.Shares second) {filename other : Expression}
    {name : String} (named : first.Names natives bound depth filename name)
    (otherNamed : second.Names natives bound depth other name)
    (sinks : first.state.sink = second.state.sink) (tag : String) (ignoreMissing : Bool) :
    observed (first.render natives bound depth tag (.inclusion filename ignoreMissing false)) =
      observed (second.render natives bound depth tag
        (.inclusion other ignoreMissing false)) := by
  obtain ⟨value, after, evaluated, shown⟩ := named
  obtain ⟨otherValue, otherAfter, otherEvaluated, otherShown⟩ := otherNamed
  have sinks : after.sink = otherAfter.sink := by
    rw [sink_of_evaluate evaluated, sink_of_evaluate otherEvaluated, sinks]
  have alike := shares.refer name
  rw [render_inclusion evaluated, render_inclusion otherEvaluated, shown, otherShown]
  match first.environment.refer name, second.environment.refer name, alike with
  | .ok included, .ok otherIncluded, ⟨agrees, lineages⟩ =>
      have imported : Matching.isolated.Imported .plain included otherIncluded :=
        ⟨agrees, lineages, Lineage.within_unrestricted _⟩
      have related : Matching.isolated.comparison.Renders Pairing.empty
          Matching.isolated.comparison.done
          (Interpreter.includeTemplate (Interpreter.bounded natives bound) first.environment
            depth included false)
          (Interpreter.includeTemplate (Interpreter.bounded natives bound) second.environment
            depth otherIncluded false) :=
        Matching.related_inclusion (Matching.isolated_interprets natives bound) false nofun
          imported
      exact observed_of_ends rfl id (related.ends not_false
        ⟨Matching.isolated_stores_empty after.store otherAfter.store, sinks⟩)
  | .error error, .error _, rfl =>
      dsimp only
      split <;> simp only [observed, Option.map_some, sinks]

end Place

/-! ## Imports -/

namespace Place

variable {place : Place} {natives : Natives} {bound depth : Nat}

/-- The file that an expression names is the one that the environment refers to. -/
theorem referred_eq (filename : Expression) :
    Interpreter.referred (Interpreter.effects natives (Interpreter.bounded natives bound)) depth
        place.environment filename place.state =
      (place.evaluate natives bound depth filename).map fun evaluated =>
        (match evaluated.1 with
        | .error error => .error (.wrapped (.role "filename" filename) (.evaluation error))
        | .ok value => place.environment.refer value.display, evaluated.2) := by
  unfold Interpreter.referred Interpreter.evaluateAs Interpreter.evaluateAt
  rw [Run.bind_apply, Run.mapError_apply,
    show filename.evaluate _ depth place.environment place.state =
      place.evaluate natives bound depth filename from rfl]
  match place.evaluate natives bound depth filename with
  | none => rfl
  | some (.error _, _) => rfl
  | some (.ok _, _) => rfl

theorem referred_apply {filename : Expression} {value : Value} {middle : RunState}
    (evaluated : place.evaluate natives bound depth filename = some (.ok value, middle)) :
    Interpreter.referred (Interpreter.effects natives (Interpreter.bounded natives bound)) depth
        place.environment filename place.state =
      some (place.environment.refer value.display, middle) := by
  rw [referred_eq, evaluated]
  rfl

/-- An import that succeeds binds macros of the template that is named. -/
theorem store_of_importing {importing : Importing} {filename : Expression} {value : Value}
    {middle after : RunState} {tag : String}
    (evaluated : place.evaluate natives bound depth filename = some (.ok value, middle))
    (rendered : place.render natives bound depth tag (importing.statement filename) =
      some (.ok (), after)) :
    ∃ included, place.environment.refer value.display = .ok included ∧
      importing.Available included ∧
      after.store = (middle.store.withModule place.environment.scope included).bindAll
        place.environment.scope (importing.entries
          (included.moduleIn middle.store place.environment.scope).closures) := by
  have referred := referred_apply evaluated
  cases importing with
  | module target =>
      change (Interpreter.referred _ _ _ _ >>= fun imported => _) place.state = _ at rendered
      rw [Run.bind_apply, referred] at rendered
      cases found : place.environment.refer value.display with
      | error error =>
          rw [found] at rendered
          cases rendered
      | ok included =>
          rw [found] at rendered
          cases rendered
          exact ⟨included, rfl, True.intro, rfl⟩
  | macros selection =>
      change (Interpreter.referred _ _ _ _ >>= fun imported => _) place.state = _ at rendered
      rw [Run.bind_apply, referred] at rendered
      cases found : place.environment.refer value.display with
      | error error =>
          rw [found] at rendered
          cases rendered
      | ok included =>
          rw [found] at rendered
          dsimp only [Interpreter.importNames] at rendered
          cases missing : included.missingMacro? selection with
          | some name =>
              rw [missing] at rendered
              cases rendered
          | none =>
              rw [missing] at rendered
              cases rendered
              exact ⟨included, rfl, missing, rfl⟩

end Place

/-! ## Isolation -/

/-- A frame of a store that is not the nearest one of a scope. -/
structure Store.Beside (store : Store) (scope : Scope) (frame : Nat) : Prop where
  present : frame < store.frames.size
  apart : frame ≠ scope.frame

namespace Place

variable {natives : Natives} {bound depth : Nat} {place first second : Place}

/-- An import without context makes a module of the template that is named, beside the scope
of its place. -/
theorem Stands.module_of_importing (stands : place.Stands) {importing : Importing}
    {filename : Expression} {name tag : String} {after : RunState}
    (named : place.Names natives bound depth filename name)
    (rendered : place.render natives bound depth tag (importing.statement filename) =
      some (.ok (), after)) :
    ∃ included before, place.environment.refer name = .ok included ∧
      importing.Available included ∧
      after.store = (Store.withModule before place.environment.scope included).bindAll
        place.environment.scope
          (importing.entries (included.moduleIn before place.environment.scope).closures) ∧
      place.environment.scope.tree < before.trees ∧
      place.environment.scope.frame < before.frames.size := by
  obtain ⟨value, middle, evaluated, rfl⟩ := named
  obtain ⟨included, referred, available, stored⟩ := store_of_importing evaluated rendered
  have extended := Interpreter.evaluate_bounded_extends natives (bound + 1) place.environment
    depth filename evaluated
  exact ⟨included, middle.store, referred, available, stored,
    Nat.lt_of_lt_of_le stands.tree extended.settles.trees, Nat.lt_of_lt_of_le stands.frame extended.size⟩

/-- The macros of a file that is imported without context are called alike, whatever is bound
around, as long as their modules are retained. -/
theorem Shares.calls_of_importing (shares : first.Shares second) {filename other : Expression}
    {name tag : String} (named : first.Names natives bound depth filename name)
    (otherNamed : second.Names natives bound depth other name) (stands : first.Stands)
    (otherStands : second.Stands) {importing : Importing} {after otherAfter : RunState}
    (rendered : first.render natives bound depth tag (importing.statement filename) =
      some (.ok (), after))
    (otherRendered : second.render natives bound depth tag (importing.statement other) =
      some (.ok (), otherAfter))
    {macroName : String} {closure : Closure}
    (binds : importing.bound? after.store first.environment.scope macroName =
      some (.closure closure)) :
    ∃ otherClosure,
      importing.bound? otherAfter.store second.environment.scope macroName =
        some (.closure otherClosure) ∧
      after.store.Beside first.environment.scope closure.environment.scope.frame ∧
      ∀ later otherLater : RunState,
        after.store.Retains closure.environment.scope.frame later.store →
        otherAfter.store.Retains otherClosure.environment.scope.frame otherLater.store →
          ∀ arguments : Arguments, arguments.Inert → ∀ callBound callDepth callee,
            (Interpreter.callValue natives (Interpreter.bounded natives callBound) callDepth
                callee (.closure closure) arguments later).map Prod.fst =
              (Interpreter.callValue natives (Interpreter.bounded natives callBound) callDepth
                callee (.closure otherClosure) arguments otherLater).map Prod.fst := by
  obtain ⟨included, before, referred, available, stored, tree, frame⟩ :=
    stands.module_of_importing named rendered
  obtain ⟨otherIncluded, otherBefore, otherReferred, _, otherStored, otherTree, otherFrame⟩ :=
    otherStands.module_of_importing otherNamed otherRendered
  obtain ⟨agrees, lineages⟩ : included.Agrees otherIncluded ∧
      included.lineage = otherIncluded.lineage := by
    have alike := shares.refer name
    rwa [referred, otherReferred] at alike
  obtain ⟨pairing, pairs, closures, retained⟩ :=
    Matching.isolated_modules tree otherTree agrees lineages
  have size := before.size_withModule first.environment.scope included
  have otherSize := otherBefore.size_withModule second.environment.scope otherIncluded
  have related := Importing.bound?_related
    (Nat.lt_of_lt_of_eq (Nat.lt_succ_of_lt frame) size.symm)
    (Nat.lt_of_lt_of_eq (Nat.lt_succ_of_lt otherFrame) otherSize.symm)
    (available.within _) closures macroName
  rw [← Environment.moduleIn, ← stored, ← otherStored, binds] at related
  generalize importing.bound? otherAfter.store second.environment.scope macroName = otherBinds
    at related
  cases related with
  | @some _ otherValue values =>
      cases values.like with
      | @closure definition firstEnvironment secondEnvironment relates =>
          -- The only frames that are paired are those of the two modules.
          obtain ⟨firstFrame, secondFrame⟩ :
              firstEnvironment.scope.frame = before.frames.size ∧
                secondEnvironment.scope.frame = otherBefore.frames.size := by
            obtain ⟨kind, _, scopes⟩ := relates
            have paired := scopes.frames
            rw [pairs, List.mem_singleton, FramePair.mk.injEq] at paired
            exact paired.2
          refine ⟨⟨definition, secondEnvironment⟩, rfl, ⟨?_, ?_⟩, ?_⟩
          · rw [firstFrame, stored, Store.size_bindAll]
            exact Nat.lt_of_lt_of_eq (Nat.lt_succ_self _) size.symm
          · rw [firstFrame]
            exact Nat.ne_of_gt frame
          · intro later otherLater kept otherKept arguments inert callBound callDepth callee
            rw [firstFrame, stored] at kept
            rw [secondFrame, otherStored] at otherKept
            have stores := retained later.store otherLater.store
              ((Store.retains_bindAll _ _ _ (Nat.ne_of_gt frame)).trans kept)
              ((Store.retains_bindAll _ _ _ (Nat.ne_of_gt otherFrame)).trans otherKept)
            exact Matching.isolated_call stores values inert natives callBound callDepth callee

/-- A use without context is isolated from where it stands.  Take two places at which the
same templates are found, whatever their scopes and stores hold, and a file that an expression
names at each of them.  An inclusion of the file without context writes the same at both, or
fails with an error that is told in the same way.  A macro that an import of the file without
context binds at one place is bound at the other one too, and a call of it with arguments that
hold nothing to be called has the same result, as long as the modules are retained.  All that
is rendered in scopes with other frames retains them. -/
theorem without_context_isolated (shares : first.Shares second) {filename other : Expression}
    {name : String} (named : first.Names natives bound depth filename name)
    (otherNamed : second.Names natives bound depth other name) (tag : String) :
    (first.state.sink = second.state.sink → ∀ ignoreMissing,
      observed (first.render natives bound depth tag
          (.inclusion filename ignoreMissing false)) =
        observed (second.render natives bound depth tag
          (.inclusion other ignoreMissing false))) ∧
    (first.Stands → second.Stands → ∀ (importing : Importing) (after otherAfter : RunState),
      first.render natives bound depth tag (importing.statement filename) =
        some (.ok (), after) →
      second.render natives bound depth tag (importing.statement other) =
        some (.ok (), otherAfter) →
      ∀ macroName closure,
        importing.bound? after.store first.environment.scope macroName =
          some (.closure closure) →
        ∃ otherClosure,
          importing.bound? otherAfter.store second.environment.scope macroName =
            some (.closure otherClosure) ∧
          after.store.Beside first.environment.scope closure.environment.scope.frame ∧
          ∀ later otherLater : RunState,
            after.store.Retains closure.environment.scope.frame later.store →
            otherAfter.store.Retains otherClosure.environment.scope.frame otherLater.store →
              ∀ arguments : Arguments, arguments.Inert → ∀ callBound callDepth callee,
                (Interpreter.callValue natives (Interpreter.bounded natives callBound)
                    callDepth callee (.closure closure) arguments later).map Prod.fst =
                  (Interpreter.callValue natives (Interpreter.bounded natives callBound)
                    callDepth callee (.closure otherClosure) arguments otherLater).map
                      Prod.fst) ∧
    ∀ (environment : Environment) (within frame : Nat) (nodes : List Node)
      (state after : RunState) (result : Except TemplateError Unit),
      (Interpreter.bounded natives bound).render environment within nodes state =
        some (result, after) →
      state.store.Beside environment.scope frame → state.store.Retains frame after.store := by
  refine ⟨fun sinks => shares.observed_inclusion named otherNamed sinks tag, ?_, ?_⟩
  · intro stands otherStands importing after otherAfter rendered otherRendered macroName closure
    exact shares.calls_of_importing named otherNamed stands otherStands rendered otherRendered
  · intro environment within frame nodes state after result ran beside
    exact Interpreter.render_retains ran beside.present beside.apart

/-- A file that writes a name that it does not bind, in a macro and outside of it. -/
private def tools : String :=
  "\x7b% macro tag(text) %\x7d\x7b\x7b text \x7d\x7d\x7b\x7b secret \x7d\x7d\x7b% endmacro %\x7d" ++
    "\x7b\x7b secret \x7d\x7d."

/-- A place with some data, where the file can be found. -/
def holding (data : Table Value) : Place where
  environment :=
    ⟨.default, .standard, ⟨0, 0, []⟩, .memory [("tools", tools)], ⟨⟨"page", [], [], []⟩, []⟩⟩
  state := ⟨(Store.empty.scopeOf data).2, Sink.unlimited⟩

/-- The macro that an import of the file has bound in the scope of a place. -/
def tag? (place : Place) : Option (RunState × Closure) :=
  match place.render Natives.standard 1 0 "import"
    (.importModule (.literal (.string "tools") .start) "tools" (some false)) with
  | some (.ok (), after) =>
      match (Importing.module "tools").bound? after.store place.environment.scope "tag" with
      | some (.closure closure) => some (after, closure)
      | _ => none
  | _ => none

theorem rendered_of_tag? {after : RunState} {closure : Closure}
    (found : place.tag? = some (after, closure)) :
    place.render Natives.standard 1 0 "import"
        (.importModule (.literal (.string "tools") .start) "tools" (some false)) =
      some (.ok (), after) ∧
    (Importing.module "tools").bound? after.store place.environment.scope "tag" =
      some (.closure closure) := by
  unfold tag? at found
  split at found
  · rename_i rendered
    split at found
    · rename_i bound
      cases found
      exact ⟨rendered, bound⟩
    · cases found
  · cases found

/-- Neither the file nor its macro sees what one of two places binds and the other does not. -/
theorem without_context_isolated_holding :
    observed ((holding [("secret", .plain "key")]).render Natives.standard 1 0 "include"
        (.inclusion (.literal (.string "tools") .start) false false)) =
      observed ((holding []).render Natives.standard 1 0 "include"
        (.inclusion (.literal (.string "tools") .start) false false)) ∧
    ∃ after otherAfter closure otherClosure,
      (holding [("secret", .plain "key")]).tag? = some (after, closure) ∧
      (holding []).tag? = some (otherAfter, otherClosure) ∧
      (Interpreter.callValue Natives.standard (Interpreter.bounded Natives.standard 1) 0
          (.name "tag" .start) (.closure closure) ⟨[.plain "a"], []⟩ after).map Prod.fst =
        (Interpreter.callValue Natives.standard (Interpreter.bounded Natives.standard 1) 0
          (.name "tag" .start) (.closure otherClosure) ⟨[.plain "a"], []⟩ otherAfter).map
            Prod.fst := by
  have shares : (holding [("secret", .plain "key")]).Shares (holding []) := ⟨rfl, rfl, rfl⟩
  have named : ∀ data, (holding data).Names Natives.standard 1 0
      (.literal (.string "tools") .start) "tools" :=
    fun data => ⟨.plain "tools", (holding data).state, rfl, rfl⟩
  have stands : ∀ data, (holding data).Stands := fun data =>
    have settled := Store.empty.newScope.2.settles_bindAll Store.empty.newScope.1 data
    ⟨settled.trees, settled.size⟩
  have inclusions := without_context_isolated shares (named _) (named _) "include"
  have imports := without_context_isolated shares (named _) (named _) "import"
  have bound : (holding [("secret", .plain "key")]).tag?.isSome := by decide +kernel
  have otherBound : (holding []).tag?.isSome := by decide +kernel
  obtain ⟨⟨after, closure⟩, found⟩ := Option.isSome_iff_exists.1 bound
  obtain ⟨⟨otherAfter, otherClosure⟩, otherFound⟩ := Option.isSome_iff_exists.1 otherBound
  obtain ⟨rendered, binds⟩ := rendered_of_tag? found
  obtain ⟨otherRendered, otherBinds⟩ := rendered_of_tag? otherFound
  obtain ⟨same, sameBinds, _, calls⟩ := imports.2.1 (stands _) (stands _) (.module "tools") after
    otherAfter rendered otherRendered "tag" closure binds
  obtain rfl : same = otherClosure := by
    rw [otherBinds] at sameBinds
    cases sameBinds
    rfl
  refine ⟨inclusions.1 rfl false, after, otherAfter, closure, same, found, otherFound, ?_⟩
  exact calls after otherAfter ⟨Nat.le_refl _, rfl⟩ ⟨Nat.le_refl _, rfl⟩ ⟨[.plain "a"], []⟩
    ⟨by simp [Value.Every, Value.plain, Value.isCallable], nofun⟩ 1 0 (.name "tag" .start)

end Place

end TemplateEngine

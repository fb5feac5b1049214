import TemplateEngine.Proofs.Defining
import TemplateEngine.Proofs.Isolation

/-!
# Imports bind all or nothing

An import finds its template, reads it and checks the names that are asked for before it binds
anything.  So one that fails has changed no binding of any scope that was there.  One that
succeeds has made a scope with all macros of the template, in which they can use each other,
and has bound what it lists in the scope where it stands.
-/

namespace TemplateEngine

namespace Table

variable {α β : Type}

theorem lookup_map_values (table : Table α) (change : α → β) (name : String) :
    (table.map fun entry => (entry.1, change entry.2)).lookup name =
      (table.lookup name).map change := by
  induction table with
  | nil => rfl
  | cons entry rest inductionHypothesis =>
      rw [List.map_cons, List.lookup_cons, List.lookup_cons, inductionHypothesis]
      cases name == entry.1 <;> rfl

end Table

/-! ## The macros of a module -/

namespace Environment

variable {environment : Environment}

/-- Sorting the macros of a template does not change their names. -/
theorem names_closures_perm :
    environment.closures.names.Perm environment.lineage.layer.macros.names := by
  rw [Environment.closures, Table.names, List.map_map]
  exact (List.mergeSort_perm _ _).map Prod.fst

/-- Where macros have names of their own, each of them is bound under its name. -/
theorem lookup_closures_eq (distinct : environment.lineage.layer.macros.names.Nodup)
    (name : String) :
    environment.closures.lookup name =
      (environment.lineage.layer.macros.lookup name).map fun definition =>
        .closure ⟨definition, environment⟩ := by
  rw [Table.lookup_eq_of_perm distinct (List.mergeSort_perm _ _).symm]
  exact Table.lookup_map_values _ (fun definition => Value.closure ⟨definition, environment⟩) name

end Environment

/-! ## What an import does -/

namespace Store

/-- A scope for macros that are imported: inside the one of the import with context, which is
also meant where nothing is said, and else alone. -/
def openModule (store : Store) (scope : Scope) (withContext : Option Bool) : Scope × Store :=
  if withContext.getD true then store.childScope scope else store.detachedScope scope

variable (store : Store) (scope : Scope) (withContext : Option Bool)

theorem openModule_fst :
    (store.openModule scope withContext).1 =
      ⟨scope.tree, store.frames.size, if withContext.getD true then scope.chain else []⟩ := by
  unfold openModule
  split <;> rfl

theorem openModule_snd :
    (store.openModule scope withContext).2 = (store.addFrame scope.tree).2 := by
  unfold openModule
  split <;> rfl

end Store

namespace Importing

/-- The statement that imports from a file, with or without context if it says so. -/
def statementIn (withContext : Option Bool) : Importing → Expression → Statement Node
  | .module target, filename => .importModule filename target withContext
  | .macros selection, filename => .importNames filename selection withContext

/-- The macro that an import asks for although a template lacks it. -/
def missing? : Importing → Environment → Option String
  | .module _, _ => none
  | .macros selection, included => included.missingMacro? selection

/-- The store in which the macros of a template are bound, and what is imported of them. -/
def storeAfter (importing : Importing) (withContext : Option Bool) (included : Environment)
    (scope : Scope) (store : Store) : Store :=
  let (inner, opened) := store.openModule scope withContext
  (opened.bindAll inner (included.within inner).closures).bindAll scope
    (importing.entries (included.within inner).closures)

/-- What an import does with the template that it names. -/
def perform (importing : Importing) (environment included : Environment)
    (withContext : Option Bool) : Run TemplateError Unit :=
  match importing with
  | .module target => Interpreter.importModule environment included target withContext
  | .macros selection => Interpreter.importNames environment included selection withContext

/-- What comes of an import once its file name is evaluated. -/
def outcome (importing : Importing) (withContext : Option Bool) (environment : Environment)
    (filename : Expression) :
    Except EvalError Value × RunState → Except TemplateError Unit × RunState
  | (.error error, middle) =>
      (.error (.wrapped (.role "filename" filename) (.evaluation error)), middle)
  | (.ok value, middle) =>
      match environment.refer value.display with
      | .error error => (.error error, middle)
      | .ok included =>
          match importing.missing? included with
          | some missing => (.error (.missingMacro missing included.lineage.identifier), middle)
          | none =>
              (.ok (), ⟨importing.storeAfter withContext included environment.scope middle.store,
                middle.sink⟩)

/-- What an import binds to a name, given the macros of its template: the one that is listed
last with the name. -/
def binding (importing : Importing) (closures : Table Value) (name : String) : Option Value :=
  match importing with
  | .module target => if name = target then some (.map closures) else none
  | .macros selection =>
      (selection.reverse.lookup name).bind fun listed => closures.lookup listed

/-- What an import has done to a store.  Its macros are bound in an inner scope. -/
structure Binds (importing : Importing) (withContext : Option Bool) (scope : Scope)
    (included : Environment) (before after : Store) (inner : Scope) : Prop where
  /-- The inner scope is new. -/
  fresh : before.frames.size ≤ inner.frame ∧ inner.frame < after.frames.size
  tree : inner.tree = scope.tree
  ancestors : inner.ancestors = if withContext.getD true then scope.chain else []
  /-- It binds each macro of the template once, closed over the inner scope itself, and nothing
  else. -/
  once : (after.locals inner).names.Nodup
  macros : ∀ name, (after.locals inner).lookup name =
    (included.lineage.layer.macros.lookup name).map fun definition =>
      .closure ⟨definition, included.within inner⟩
  /-- The scope of the import has changed at the names that it binds. -/
  bound : ∀ name, (after.locals scope).lookup name =
    (importing.binding (after.locals inner) name).or ((before.locals scope).lookup name)
  others : ∀ frame < before.frames.size, frame ≠ scope.frame →
    after.bindings frame = before.bindings frame

variable {importing : Importing} {withContext : Option Bool} {scope : Scope}
  {included : Environment} {closures : Table Value} {store : Store}

theorem missing?_eq_none_iff :
    importing.missing? included = none ↔ importing.Available included := by
  cases importing with
  | module target => exact iff_of_true rfl True.intro
  | macros selection => exact Iff.rfl

theorem perform_apply (importing : Importing) (environment included : Environment)
    (withContext : Option Bool) (state : RunState) :
    importing.perform environment included withContext state =
      some (match importing.missing? included with
        | some missing => (.error (.missingMacro missing included.lineage.identifier), state)
        | none =>
            (.ok (), ⟨importing.storeAfter withContext included environment.scope state.store,
              state.sink⟩)) := by
  cases importing with
  | module target => rfl
  | macros selection =>
      dsimp only [perform, Interpreter.importNames, missing?]
      cases included.missingMacro? selection <;> rfl

/-- Once its file name is evaluated, an import fails without having done anything or finds all
that it asks for and binds it. -/
theorem cases_of_outcome {environment : Environment} {filename : Expression} {value : Value}
    {middle after : RunState} {result : Except TemplateError Unit}
    (ended : importing.outcome withContext environment filename (.ok value, middle) =
      (result, after)) :
    (∃ error, result = .error error ∧ after = middle ∧
        ∀ included, environment.refer value.display = .ok included →
          ¬ importing.Available included) ∨
      result = .ok () ∧ ∃ included, environment.refer value.display = .ok included ∧
        importing.Available included ∧
          after = ⟨importing.storeAfter withContext included environment.scope middle.store,
            middle.sink⟩ := by
  simp only [outcome] at ended
  cases referred : environment.refer value.display with
  | error error =>
      rw [referred] at ended
      cases ended
      refine .inl ⟨error, rfl, rfl, fun included found => ?_⟩
      cases found
  | ok included =>
      rw [referred] at ended
      dsimp only at ended
      cases missing : importing.missing? included with
      | some missingName =>
          rw [missing] at ended
          cases ended
          refine .inl ⟨_, rfl, rfl, fun other found available => ?_⟩
          cases found
          rw [missing?_eq_none_iff.2 available] at missing
          cases missing
      | none =>
          rw [missing] at ended
          cases ended
          exact .inr ⟨rfl, included, rfl, missing?_eq_none_iff.1 missing, rfl⟩

/-- What is bound to a name is the last of the entries that an import binds to it. -/
theorem lookup_entries (listed : ∀ selection, importing = .macros selection →
      ∀ selected ∈ selection, (closures.lookup selected.2).isSome) (name : String) :
    (importing.entries closures).reverse.lookup name = importing.binding closures name := by
  cases importing with
  | module target =>
      change List.lookup name [(target, Value.map closures)] = if name = target then _ else _
      by_cases same : name = target
      · simp [same]
      · simp [same, List.lookup_cons, beq_eq_false_iff_ne.2 same]
  | macros selection =>
      have present : ∀ selected ∈ selection.reverse, (closures.lookup selected.2).isSome :=
        fun selected member => listed selection rfl selected (List.mem_reverse.1 member)
      rw [entries, ← List.filterMap_reverse, binding]
      generalize selection.reverse = selected at present
      induction selected with
      | nil => rfl
      | cons selected rest inductionHypothesis =>
          obtain ⟨target, macroName⟩ := selected
          obtain ⟨value, found⟩ := Option.isSome_iff_exists.1 (present _ List.mem_cons_self)
          have others := inductionHypothesis fun other member =>
            present other (List.mem_cons_of_mem _ member)
          simp only [List.filterMap_cons, found, Option.map_some, List.lookup_cons]
          by_cases same : name = target
          · simp [same, found]
          · simpa [same, beq_eq_false_iff_ne.2 same] using others

/-- Where all that is asked for is there, an import binds all of it. -/
theorem binds_storeAfter (available : importing.Available included)
    (distinct : included.lineage.layer.macros.names.Nodup)
    (present : scope.frame < store.frames.size) :
    importing.Binds withContext scope included store
      (importing.storeAfter withContext included scope store)
      (store.openModule scope withContext).1 := by
  let inner := (store.openModule scope withContext).1
  let opened := (store.openModule scope withContext).2
  let closures := (included.within inner).closures
  let filled := opened.bindAll inner closures
  have inner_frame : inner.frame = store.frames.size :=
    congrArg Scope.frame (store.openModule_fst scope withContext)
  have size : opened.frames.size = store.frames.size + 1 := by
    simp [opened, store.openModule_snd, Store.addFrame]
  have filled_size : filled.frames.size = store.frames.size + 1 := by simp [filled, size]
  have opened_bindings : ∀ frame, opened.bindings frame = store.bindings frame := by
    intro frame
    simp only [opened, store.openModule_snd, Store.bindings_addFrame]
  have filled_bindings : ∀ frame < store.frames.size,
      filled.bindings frame = store.bindings frame := by
    intro frame old
    have other : frame ≠ inner.frame := inner_frame ▸ Nat.ne_of_lt old
    rw [Store.bindings_bindAll_of_ne opened inner closures other, opened_bindings]
  have once : closures.names.Nodup := Environment.names_closures_perm.nodup_iff.2 distinct
  -- The names that are listed are bound in the scope of the import, which is another frame.
  have locals : (importing.storeAfter withContext included scope store).locals inner =
      closures := by
    have apart : inner.frame ≠ scope.frame := inner_frame ▸ Nat.ne_of_gt present
    have empty : store.bindings store.frames.size = [] := by simp [Store.bindings]
    change ((filled.bindAll scope _).bindings inner.frame) = _
    rw [Store.bindings_bindAll_of_ne filled scope _ apart,
      Store.bindings_bindAll_self opened closures (by omega), opened_bindings, inner_frame, empty]
    exact Table.storeAll_of_nodup once
  have lookup : ∀ name, closures.lookup name =
      (included.lineage.layer.macros.lookup name).map fun definition =>
        .closure ⟨definition, included.within inner⟩ :=
    Environment.lookup_closures_eq distinct
  have listed : ∀ selection, importing = .macros selection →
      ∀ selected ∈ selection, (closures.lookup selected.2).isSome := by
    rintro selection rfl selected member
    rw [lookup, Option.isSome_map]
    exact Environment.has_of_missingMacro? available member
  refine ⟨⟨Nat.le_of_eq inner_frame.symm, ?_⟩, ?_, ?_, locals ▸ once, ?_, ?_, ?_⟩
  · change inner.frame < (filled.bindAll scope _).frames.size
    simp [filled_size, inner_frame]
  · rw [Store.openModule_fst]
  · rw [Store.openModule_fst]
  · intro name
    rw [locals, lookup]
  · intro name
    have gains := filled.gains_bindAll_last (importing.entries closures)
      (Nat.lt_of_lt_of_eq (Nat.lt_succ_of_lt present) filled_size.symm) scope.frame name
    dsimp only at gains
    rw [if_pos rfl, lookup_entries listed, filled_bindings _ present] at gains
    rw [locals]
    exact gains
  · intro frame old other
    rw [← filled_bindings frame old]
    exact Store.bindings_bindAll_of_ne filled scope _ other

/-- What evaluating the file name did before only adds scopes. -/
theorem Binds.since {before after : Store} {inner : Scope}
    (binds : importing.Binds withContext scope included store after inner)
    (extended : before.Extends store) (present : scope.frame < before.frames.size) :
    importing.Binds withContext scope included before after inner where
  fresh := ⟨Nat.le_trans extended.size binds.fresh.1, binds.fresh.2⟩
  tree := binds.tree
  ancestors := binds.ancestors
  once := binds.once
  macros := binds.macros
  bound name := by
    rw [binds.bound, Store.locals, Store.locals, extended.bindings _ present]
    rfl
  others frame old other := by
    rw [binds.others frame (Nat.lt_of_lt_of_le old extended.size) other,
      extended.bindings frame old]

end Importing

namespace Place

variable {place : Place} {natives : Natives} {bound depth : Nat} {importing : Importing}
  {withContext : Option Bool} {filename : Expression} {tag : String}

/-- An import evaluates its file name and does nothing else before all that it asks for is
found. -/
theorem render_importing (importing : Importing) (withContext : Option Bool)
    (filename : Expression) (tag : String) :
    place.render natives bound depth tag (importing.statementIn withContext filename) =
      (place.evaluate natives bound depth filename).map
        (importing.outcome withContext place.environment filename) := by
  have composed : place.render natives bound depth tag
      (importing.statementIn withContext filename) =
        (Interpreter.referred (Interpreter.effects natives (Interpreter.bounded natives bound))
            depth place.environment filename >>= fun included =>
          importing.perform place.environment included withContext) place.state := by
    cases importing <;> rfl
  rw [composed, Run.bind_apply, referred_eq]
  match place.evaluate natives bound depth filename with
  | none => rfl
  | some (.error _, _) => rfl
  | some (.ok value, _) =>
      simp only [Option.map_some, Importing.outcome]
      cases place.environment.refer value.display with
      | error error => rfl
      | ok included => exact importing.perform_apply place.environment included withContext _

/-- What a file name evaluates to is the one name that it has. -/
theorem names_iff {value : Value} {middle : RunState} {name : String}
    (evaluated : place.evaluate natives bound depth filename = some (.ok value, middle)) :
    place.Names natives bound depth filename name ↔ name = value.display := by
  constructor
  · rintro ⟨other, after, found, rfl⟩
    rw [evaluated] at found
    cases found
    rfl
  · rintro rfl
    exact ⟨value, middle, evaluated, rfl⟩

/-- An import binds all or nothing.  If it fails, every scope that was there binds what it
bound, and there is no template of the name that has what is asked for.  If it succeeds, the
template of the name has what is asked for, all its macros are bound in a new scope, and the
scope of the import has changed at the names that are listed, and nowhere else. -/
theorem import_binds_all_or_nothing (stands : place.Stands)
    {result : Except TemplateError Unit} {after : RunState}
    (rendered : place.render natives bound depth tag
      (importing.statementIn withContext filename) = some (result, after)) :
    match result with
    | .error _ =>
        (∀ frame < place.state.store.frames.size,
          after.store.bindings frame = place.state.store.bindings frame) ∧
        ∀ name included, place.Names natives bound depth filename name →
          place.environment.refer name = .ok included → ¬ importing.Available included
    | .ok () =>
        ∃ name included inner, place.Names natives bound depth filename name ∧
          place.environment.refer name = .ok included ∧ importing.Available included ∧
          importing.Binds withContext place.environment.scope included place.state.store
            after.store inner := by
  rw [render_importing] at rendered
  obtain ⟨⟨evaluation, middle⟩, evaluated, outcome⟩ := Option.map_eq_some_iff.1 rendered
  have extended : place.state.store.Extends middle.store :=
    Interpreter.evaluate_bounded_extends natives (bound + 1) place.environment depth filename
      evaluated
  cases evaluation with
  | error error =>
      cases outcome
      refine ⟨extended.bindings, ?_⟩
      rintro name included ⟨value, after, named, -⟩
      rw [evaluated] at named
      cases named
  | ok value =>
      rcases Importing.cases_of_outcome outcome with
        ⟨error, rfl, rfl, absent⟩ | ⟨rfl, included, referred, available, rfl⟩
      · refine ⟨extended.bindings, fun name included named found => ?_⟩
        rw [(names_iff evaluated).1 named] at found
        exact absent included found
      · have distinct := (Environment.definesDistinctly_of_refer referred _
          List.mem_cons_self).names
        have binds : importing.Binds withContext _ _ _ _ _ :=
          Importing.binds_storeAfter available distinct
            (Nat.lt_of_lt_of_le stands.frame extended.size)
        exact ⟨value.display, included, _, (names_iff evaluated).2 rfl, referred, available,
          binds.since extended stands.frame⟩

/-- A page that binds a name, with a file of two macros. -/
def workshop : Place where
  environment :=
    ⟨.default, .standard, ⟨0, 0, []⟩,
      .memory [("tools", "\x7b% macro cut() %\x7d\x7b% endmacro %\x7d" ++
        "\x7b% macro join() %\x7d\x7b\x7b cut() \x7d\x7d\x7b% endmacro %\x7d")],
      ⟨⟨"page", [], [], []⟩, []⟩⟩
  state := ⟨(Store.empty.scopeOf [("tool", .plain "none")]).2, Sink.unlimited⟩

/-- What the page does to import some macros of the file. -/
def fetched (selection : List (String × String)) : Option (Except TemplateError Unit × RunState) :=
  workshop.render Natives.standard 1 0 "from"
    ((Importing.macros selection).statementIn none (.literal (.string "tools") .start))

/-- Of two macros that are listed with one name the page has the second, and if the file lacks
one of those that are listed it keeps what it had. -/
theorem import_binds_all_or_nothing_workshop :
    (∃ after name included inner,
      fetched [("tool", "cut"), ("tool", "join")] = some (.ok (), after) ∧
      workshop.environment.refer name = .ok included ∧
      (Importing.macros [("tool", "cut"), ("tool", "join")]).Binds none
        workshop.environment.scope included workshop.state.store after.store inner) ∧
    ∃ error after, fetched [("tool", "cut"), ("saw", "saw")] = some (.error error, after) ∧
      after.store.bindings 0 = [("tool", .plain "none")] := by
  have stands : workshop.Stands := ⟨Nat.one_pos, Nat.one_pos⟩
  have given : (fetched [("tool", "cut"), ("tool", "join")]).map (fun ended => ended.1.isOk) =
      some true := by decide +kernel
  have failed : (fetched [("tool", "cut"), ("saw", "saw")]).map (fun ended => ended.1.isOk) =
      some false := by decide +kernel
  obtain ⟨⟨result, after⟩, rendered, success⟩ := Option.map_eq_some_iff.1 given
  obtain ⟨⟨failure, unchanged⟩, otherRendered, noSuccess⟩ := Option.map_eq_some_iff.1 failed
  match result, failure with
  | .ok (), .error error =>
      obtain ⟨name, included, inner, -, referred, -, binds⟩ :=
        import_binds_all_or_nothing stands rendered
      have kept := (import_binds_all_or_nothing stands otherRendered).1
      exact ⟨⟨after, name, included, inner, rendered, referred, binds⟩,
        error, unchanged, otherRendered, kept 0 Nat.one_pos⟩

end Place

end TemplateEngine

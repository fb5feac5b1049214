import TemplateEngine.Proofs.Nesting
import TemplateEngine.Proofs.Resemblance.Filters
import TemplateEngine.Proofs.Resemblance.Stores

/-!
# Renderings at lesser depths

The depth of a rendering is passed along, counted up in inclusions and macro calls, and
recorded in calls of `super`.  No built-in statement reads it but for the check that fails where
it gets too great; a registered one may, as a box does, which shows it.  So a rendering of
built-in statements that succeeds at a depth succeeds at every lesser one, and writes the same.
The scopes that it leaves behind differ at most in the depths that calls of `super` have
recorded.

Such a call can only be bound inside what is used by its name.  There the parts of the two
renderings may differ; around these uses, in a steady part, all that is bound is the same.

The two renderings may also start in stores that bind some names differently, as long as nothing
that is rendered reads these names.  Which names may be read, and whether there may be registered
statements, is said by a vocabulary.  A rendering keeps to it if each piece that it comes by does: the nodes that
it starts from, and the bodies of macros, blocks and templates that are used by their names.
-/

namespace TemplateEngine

/-! ## Renderings that keep to a vocabulary -/

namespace Vocabulary

/-- The vocabulary of pieces in which all statements are built in. -/
def builtIn : Vocabulary :=
  { unrestricted with registered := False }

/-- The vocabulary of pieces that do not read a name. -/
def without (hidden : String) : Vocabulary :=
  { unrestricted with name := fun name => name ≠ hidden }

theorem not_name_without (hidden : String) : ¬(without hidden).name hidden :=
  fun distinct => distinct rfl

/-- Whether what is within a vocabulary is rendered at a lesser depth as at the first one: where
there may be registered statements, it has to be the same depth. -/
structure Lowers (vocabulary : Vocabulary) (depth lesser : Nat) : Prop where
  le : lesser ≤ depth
  eq : vocabulary.registered → depth = lesser

variable {vocabulary : Vocabulary} {depth lesser : Nat}

theorem Lowers.refl (vocabulary : Vocabulary) (depth : Nat) : vocabulary.Lowers depth depth :=
  ⟨Nat.le_refl depth, fun _ => rfl⟩

theorem Lowers.succ (lowers : vocabulary.Lowers depth lesser) :
    vocabulary.Lowers (depth + 1) (lesser + 1) :=
  ⟨Nat.succ_le_succ lowers.le, fun registered => congrArg _ (lowers.eq registered)⟩

theorem builtIn_lowers (less : lesser ≤ depth) : builtIn.Lowers depth lesser :=
  ⟨less, False.elim⟩

end Vocabulary

namespace Interpreter

open scoped Classical in
/-- The interpreter under which what is not within a vocabulary has no outcome. -/
noncomputable def restrict (vocabulary : Vocabulary) (interpreter : Interpreter) : Interpreter where
  evaluate environment depth expression :=
    if expression.Within vocabulary then interpreter.evaluate environment depth expression
    else Run.exhausted
  render environment depth nodes :=
    if Node.AllWithin vocabulary nodes then interpreter.render environment depth nodes
    else Run.exhausted

variable {vocabulary : Vocabulary} {interpreter : Interpreter}

theorem restrict_evaluate {expression : Expression} (within : expression.Within vocabulary)
    (environment : Environment) (depth : Nat) :
    (interpreter.restrict vocabulary).evaluate environment depth expression =
      interpreter.evaluate environment depth expression :=
  if_pos within

theorem restrict_render {nodes : List Node} (within : Node.AllWithin vocabulary nodes)
    (environment : Environment) (depth : Nat) :
    (interpreter.restrict vocabulary).render environment depth nodes =
      interpreter.render environment depth nodes :=
  if_pos within

/-- The interpreter in which uses by name nest at most the given count, and all that is rendered
has to be within a vocabulary. -/
noncomputable def keeping (natives : Natives) (vocabulary : Vocabulary) : Nat → Interpreter
  | 0 => exhausted
  | bound + 1 =>
      restrict vocabulary (ofEffects (effects natives (keeping natives vocabulary bound)))

end Interpreter

/-- Where runs without an outcome are excused, an interpreter that is restricted to a vocabulary
corresponds to another one as soon as it does so for what is within that vocabulary. -/
theorem Correspondence.interprets_restrict {comparison : Comparison}
    {correspondence : Correspondence comparison} (excused : comparison.absence = .excused)
    {first second : Interpreter} {firstDepth secondDepth : Nat} {vocabulary : Vocabulary}
    (evaluate : ∀ {world environment other expression}, expression.Within vocabulary →
      expression.Within correspondence.vocabulary →
        correspondence.Environments world environment other →
          comparison.Evaluates world correspondence.result
            (first.evaluate environment firstDepth expression)
            (second.evaluate other secondDepth expression))
    (render : ∀ {world environment other nodes}, Node.AllWithin vocabulary nodes →
      Node.AllWithin correspondence.vocabulary nodes →
        correspondence.Environments world environment other →
          comparison.Renders world comparison.done
            (first.render environment firstDepth nodes)
            (second.render other secondDepth nodes)) :
    correspondence.Interprets (first.restrict vocabulary) firstDepth second secondDepth where
  evaluate := by
    intro world environment other expression inside environments
    simp only [Interpreter.restrict]
    split
    · rename_i within
      exact evaluate within inside environments
    · exact Comparison.related_exhausted_left excused _
  render := by
    intro world environment other nodes inside environments
    simp only [Interpreter.restrict]
    split
    · rename_i within
      exact render within inside environments
    · exact Comparison.related_exhausted_left excused _

/-- Where all that is interpreted is within a vocabulary, an interpreter may be restricted to it. -/
theorem Correspondence.Interprets.restrict {comparison : Comparison}
    {correspondence : Correspondence comparison} {first second : Interpreter}
    {firstDepth secondDepth : Nat}
    (interprets : correspondence.Interprets first firstDepth second secondDepth) :
    correspondence.Interprets (first.restrict correspondence.vocabulary) firstDepth second
      secondDepth where
  evaluate inside environments := by
    rw [Interpreter.restrict_evaluate inside]
    exact interprets.evaluate inside environments
  render inside environments := by
    rw [Interpreter.restrict_render inside]
    exact interprets.render inside environments

/-- A rendering that keeps to a vocabulary does what the rendering does. -/
theorem Discipline.keeping_interprets (natives : Natives) (vocabulary : Vocabulary)
    (bound depth : Nat) :
    (unrestricted.correspondence .excused).Interprets
      (Interpreter.keeping natives vocabulary bound) depth
      (Interpreter.bounded natives bound) depth := by
  induction bound generalizing depth with
  | zero => exact Correspondence.interprets_exhausted (by simp [comparison]) _ _
  | succ bound inductionHypothesis =>
      have handles : (unrestricted.correspondence .excused).Handles
          (Interpreter.effects natives (Interpreter.keeping natives vocabulary bound)) depth
          (Interpreter.effects natives (Interpreter.bounded natives bound)) depth := by
        rw [Interpreter.effects_eq_usingEffects, Interpreter.effects_eq_usingEffects]
        exact handles_using natives (fun _ => inductionHypothesis _)
          (fun _ => inductionHypothesis _) (inductionHypothesis _)
          fun _ => inductionHypothesis _
      exact Correspondence.interprets_restrict rfl (fun _ => handles.interprets.evaluate)
        fun _ => handles.interprets.render

theorem Discipline.unrestricted_environments (absence : Absence) (environment : Environment) :
    (unrestricted.correspondence absence).Environments () environment environment :=
  ⟨⟨True.intro, rfl⟩, ⟨True.intro, rfl⟩⟩

/-- What keeps to a vocabulary has the same outcome where pieces outside it have none. -/
theorem Interpreter.keeping_eq_bounded {natives : Natives} {vocabulary : Vocabulary}
    {bound : Nat} (action : Interpreter → Run TemplateError Unit)
    (related : (Discipline.unrestricted.comparison .excused).Renders ()
      (Discipline.unrestricted.comparison .excused).done
      (action (keeping natives vocabulary bound)) (action (bounded natives bound)))
    {state : RunState} (keeps : action (keeping natives vocabulary bound) state ≠ none) :
    action (keeping natives vocabulary bound) state = action (bounded natives bound) state := by
  rcases Discipline.outcome_of_renders related state with ⟨absent, _⟩ | ⟨same, _⟩
  · exact absurd absent keeps
  · exact same

/-! ## Values -/

namespace Value

/-- Callables with the same environment, of which the second one has recorded a depth at which
what is within a vocabulary is rendered as at that of the first one. -/
def Lifts (vocabulary : Vocabulary) : Value → Value → Prop
  | .closure callee, .closure other => callee.environment = other.environment
  | .function (.super environment depth _), .function (.super other lesser _) =>
      environment = other ∧ vocabulary.Lowers depth lesser
  | _, _ => False

theorem resembles_lifts_refl (vocabulary : Vocabulary) (value : Value) :
    Resembles (Lifts vocabulary) value value := by
  refine resembles_of_every value (every_of_forall ?_ value)
  intro value
  cases value with
  | closure callee => exact rfl
  | function callee =>
      cases callee with
      | native name => exact True.intro
      | super environment depth bodies => exact ⟨rfl, .refl vocabulary depth⟩
  | _ => exact True.intro

/-- How callables are related in a part of a rendering.  In a steady part they are the same. -/
def LiftsIn (vocabulary : Vocabulary) : Bool → Value → Value → Prop
  | true => Eq
  | false => Lifts vocabulary

variable {vocabulary : Vocabulary} {steady : Bool}

theorem closure_liftsIn (callee : Closure) :
    LiftsIn vocabulary steady (.closure callee) (.closure callee) := by
  cases steady <;> exact rfl

theorem resembles_liftsIn_refl (value : Value) :
    Resembles (LiftsIn vocabulary steady) value value := by
  cases steady with
  | true => exact resembles_refl (fun _ => rfl) value
  | false => exact value.resembles_lifts_refl vocabulary

/-- Values of a steady part that resemble each other do so elsewhere. -/
theorem Resembles.lifts {first second : Value}
    (resembles : Resembles (LiftsIn vocabulary steady) first second) :
    Resembles (Lifts vocabulary) first second := by
  cases steady with
  | true => exact resembles.eq ▸ first.resembles_lifts_refl vocabulary
  | false => exact resembles

end Value

theorem ArgumentsRelated.lifts {vocabulary : Vocabulary} {steady : Bool}
    {arguments others : Arguments}
    (related : ArgumentsRelated (Value.Resembles (Value.LiftsIn vocabulary steady)) arguments
      others) :
    ArgumentsRelated (Value.Resembles (Value.Lifts vocabulary)) arguments others :=
  ⟨related.positional.imp fun _ _ => Value.Resembles.lifts,
    related.keyword.imp fun _ _ same => ⟨same.1, same.2.lifts⟩⟩

/-- Native functions that respect callables do so in each part of a rendering. -/
theorem Natives.Respects.liftsIn {natives : Natives} {vocabulary : Vocabulary}
    (respects : natives.Respects (Value.Lifts vocabulary)) (steady : Bool) :
    natives.Respects (Value.LiftsIn vocabulary steady) := by
  cases steady with
  | true => exact natives.respects_eq
  | false => exact respects

/-! ## Tables and stores -/

/-- Tables that bind all names of a vocabulary to values that resemble each other. -/
def Table.Lifts (vocabulary : Vocabulary) (first second : Table Value) : Prop :=
  ∀ name, vocabulary.name name →
    Option.Rel (Value.Resembles (Value.Lifts vocabulary)) (first.lookup name)
      (second.lookup name)

namespace Table.Lifts

variable {vocabulary : Vocabulary} {first second : Table Value}

theorem nil : Lifts vocabulary [] [] :=
  fun _ _ => .none

theorem store {name : String} {value other : Value}
    (values : Value.Resembles (Value.Lifts vocabulary) value other)
    (tables : Lifts vocabulary first second) :
    Lifts vocabulary (Table.store name value first) (Table.store name other second) := by
  intro sought known
  rw [Table.lookup_store, Table.lookup_store]
  split
  · exact .some values
  · exact tables sought known

/-- A name that is not in the vocabulary may be stored in the second table alone. -/
theorem store_right {name : String} (unread : ¬vocabulary.name name) (value : Value)
    (tables : Lifts vocabulary first second) :
    Lifts vocabulary first (Table.store name value second) := by
  intro sought known
  have distinct : sought ≠ name := fun same => unread (same ▸ known)
  rw [Table.lookup_store, if_neg distinct]
  exact tables sought known

theorem refl (vocabulary : Vocabulary) (table : Table Value) : Lifts vocabulary table table := by
  intro sought _
  cases table.lookup sought with
  | none => exact .none
  | some value => exact .some (value.resembles_lifts_refl vocabulary)

end Table.Lifts

/-- Stores with the same frames, in which all names of a vocabulary are bound to values that
resemble each other. -/
abbrev Store.Lifts (vocabulary : Vocabulary) : Store → Store → Prop :=
  Store.Related (Table.Lifts vocabulary)

/-- What a name of the vocabulary stands for. -/
theorem Store.Related.lookup_lifts {vocabulary : Vocabulary} {first second : Store}
    (stores : first.Lifts vocabulary second) (scope : Scope) {name : String}
    (known : vocabulary.name name) :
    Option.Rel (Value.Resembles (Value.Lifts vocabulary)) (first.lookup scope name)
      (second.lookup scope name) :=
  lookup scope fun frame => stores.bindings .nil frame name known

theorem Store.lifts_refl (vocabulary : Vocabulary) (store : Store) :
    store.Lifts vocabulary store :=
  .refl fun _ => .refl vocabulary _

/-- A store is the same for a vocabulary after a name outside it is bound anew. -/
theorem Store.lifts_bind {vocabulary : Vocabulary} (store : Store) {name : String}
    (unread : ¬vocabulary.name name) (scope : Scope) (value : Value) :
    store.Lifts vocabulary (store.bind scope name value) :=
  (store.lifts_refl vocabulary).bind_right (fun tables => tables.store_right unread value) scope

/-! ## Frames of steady parts

For each frame it is marked whether it has been added in a steady part.  The marks grow with the
stores, and no mark ever changes. -/

/-- Whether the frame of a scope is marked as steady, or as not.  Around a steady frame there are
steady ones only. -/
structure Scope.Marked (marks : List Bool) (steady : Bool) (scope : Scope) : Prop where
  frame : marks[scope.frame]? = some steady
  around : steady = true → ∀ frame ∈ scope.ancestors, marks[frame]? = some true

/-- Stores that are related for a vocabulary.  Where it is marked that frames are steady, they bind
the same in both. -/
structure Store.LiftsAt (vocabulary : Vocabulary) (marks : List Bool) (first second : Store) :
    Prop where
  lifts : first.Lifts vocabulary second
  size : marks.length = first.frames.size
  same : ∀ frame : Nat, marks[frame]? = some true → first.bindings frame = second.bindings frame

private theorem getElem?_of_isPrefix {marks later : List Bool} (grown : marks <+: later)
    {frame : Nat} {steady : Bool} (marked : marks[frame]? = some steady) :
    later[frame]? = some steady := by
  obtain ⟨added, rfl⟩ := grown
  rw [List.getElem?_append_left (List.getElem?_eq_some_iff.1 marked).1, marked]

namespace Scope.Marked

variable {marks later : List Bool} {steady : Bool} {scope : Scope}

theorem grow (marked : scope.Marked marks steady) (grown : marks <+: later) :
    scope.Marked later steady :=
  ⟨getElem?_of_isPrefix grown marked.frame,
    fun isSteady frame member => getElem?_of_isPrefix grown (marked.around isSteady frame member)⟩

theorem chain (marked : scope.Marked marks true) {frame : Nat} (member : frame ∈ scope.chain) :
    marks[frame]? = some true := by
  rcases List.mem_cons.1 member with rfl | member
  · exact marked.frame
  · exact marked.around rfl frame member

/-- Where all frames are marked as steady, a scope is if its frames exist. -/
theorem of_present {count : Nat} (present : ∀ frame ∈ scope.chain, frame < count) :
    scope.Marked (List.replicate count true) true where
  frame := by rw [List.getElem?_replicate, if_pos (present _ List.mem_cons_self)]
  around _ frame member := by
    rw [List.getElem?_replicate, if_pos (present frame (List.mem_cons_of_mem _ member))]

/-- A scope with a new frame has the mark that is added for it. -/
theorem of_new (new : scope.frame = marks.length)
    (around : steady = true → ∀ frame ∈ scope.ancestors, marks[frame]? = some true) :
    scope.Marked (marks ++ [steady]) steady where
  frame := by rw [new, List.getElem?_concat_length]
  around isSteady frame member :=
    getElem?_of_isPrefix (List.prefix_append marks _) (around isSteady frame member)

end Scope.Marked

namespace Store.LiftsAt

variable {vocabulary : Vocabulary} {marks : List Bool} {steady : Bool} {first second : Store}

/-- In related stores all frames may be marked as not steady. -/
theorem of_lifts (stores : first.Lifts vocabulary second) :
    first.LiftsAt vocabulary (List.replicate first.frames.size false) second where
  lifts := stores
  size := List.length_replicate
  same frame marked := by
    rw [List.getElem?_replicate] at marked
    split at marked <;> cases marked

theorem refl {store : Store} (size : marks.length = store.frames.size) :
    store.LiftsAt vocabulary marks store :=
  ⟨store.lifts_refl vocabulary, size, fun _ _ => rfl⟩

/-- Frames that were all marked as steady once bind the same. -/
theorem bindings_eq (stores : first.LiftsAt vocabulary marks second) {count frame : Nat}
    (grown : List.replicate count true <+: marks) (old : frame < count) :
    first.bindings frame = second.bindings frame :=
  stores.same frame (getElem?_of_isPrefix grown (by rw [List.getElem?_replicate, if_pos old]))

/-- What a name stands for in a steady scope. -/
theorem lookup_eq (stores : first.LiftsAt vocabulary marks second) {scope : Scope}
    (marked : scope.Marked marks true) (name : String) :
    first.lookup scope name = second.lookup scope name := by
  have chain : ∀ frame ∈ scope.chain, marks[frame]? = some true := fun _ => marked.chain
  unfold Store.lookup Store.lookupChain
  revert chain
  induction scope.chain with
  | nil => exact fun _ => rfl
  | cons frame rest inductionHypothesis =>
      intro chain
      rw [List.findSome?_cons, List.findSome?_cons,
        stores.same frame (chain frame List.mem_cons_self),
        inductionHypothesis fun frame member => chain frame (List.mem_cons_of_mem _ member)]

/-- What a name of the vocabulary stands for in a scope of some part. -/
theorem lookup (stores : first.LiftsAt vocabulary marks second) {scope : Scope}
    (marked : scope.Marked marks steady) {name : String} (known : vocabulary.name name) :
    Option.Rel (Value.Resembles (Value.LiftsIn vocabulary steady)) (first.lookup scope name)
      (second.lookup scope name) := by
  cases steady with
  | true =>
      rw [stores.lookup_eq marked name]
      cases second.lookup scope name with
      | none => exact .none
      | some value => exact .some value.resembles_liftsIn_refl
  | false => exact stores.lifts.lookup_lifts scope known

theorem addFrame (stores : first.LiftsAt vocabulary marks second) (tree : Nat) (steady : Bool) :
    (first.addFrame tree).2.LiftsAt vocabulary (marks ++ [steady]) (second.addFrame tree).2 where
  lifts := (stores.lifts.addFrame .nil tree).2
  size := by simp [Store.addFrame, stores.size]
  same frame marked := by
    rw [bindings_addFrame, bindings_addFrame]
    rcases Nat.lt_or_ge frame marks.length with old | new
    · exact stores.same frame (by rwa [List.getElem?_append_left old] at marked)
    · have size := stores.size
      have sizes := stores.lifts.size_eq
      rw [bindings_of_size_le first (by omega), bindings_of_size_le second (by omega)]

theorem bind (stores : first.LiftsAt vocabulary marks second) {scope : Scope}
    (marked : scope.Marked marks steady) (name : String) {value other : Value}
    (values : Value.Resembles (Value.LiftsIn vocabulary steady) value other) :
    (first.bind scope name value).LiftsAt vocabulary marks (second.bind scope name other) where
  lifts := stores.lifts.bind (fun tables => tables.store values.lifts) scope
  size := by rw [size_bind, stores.size]
  same frame steadily := by
    by_cases same : frame = scope.frame
    · subst same
      obtain rfl : steady = true := Option.some.inj (marked.frame.symm.trans steadily)
      obtain rfl : value = other := Value.Resembles.eq values
      have present : scope.frame < marks.length := (List.getElem?_eq_some_iff.1 steadily).1
      have size := stores.size
      have sizes := stores.lifts.size_eq
      rw [bindings_bind_self _ _ _ _ (by omega), bindings_bind_self _ _ _ _ (by omega),
        stores.same _ steadily]
    · rw [bindings_bind_of_ne _ _ _ _ same, bindings_bind_of_ne _ _ _ _ same,
        stores.same frame steadily]

theorem bindAll (stores : first.LiftsAt vocabulary marks second) {scope : Scope}
    (marked : scope.Marked marks steady) {entries others : List (String × Value)}
    (values : EntriesRelated (Value.Resembles (Value.LiftsIn vocabulary steady)) entries others) :
    (first.bindAll scope entries).LiftsAt vocabulary marks (second.bindAll scope others) := by
  induction values generalizing first second with
  | nil => exact stores
  | @cons entry other rest otherRest same _ inductionHypothesis =>
      rw [Store.bindAll, Store.bindAll, List.foldl_cons, List.foldl_cons, ← same.1]
      exact inductionHypothesis (stores.bind marked entry.1 same.2)

theorem release (stores : first.LiftsAt vocabulary marks second) (root : Scope) :
    (first.release root).LiftsAt vocabulary marks (second.release root) where
  lifts := stores.lifts.release .nil root
  size := by rw [size_release, stores.size]
  same frame marked := by
    have bound := stores.same frame marked
    have frames := stores.lifts.frames frame
    unfold bindings at bound ⊢
    simp only [Store.release, Array.getElem?_map]
    generalize first.frames[frame]? = found at bound frames
    generalize second.frames[frame]? = otherFound at bound frames
    cases frames with
    | none => rfl
    | some frames =>
        simp only [Option.map_some, frames.tree]
        split
        · rfl
        · exact bound

end Store.LiftsAt

/-- Whether a function of a store opens the same scope in stores that are related, with a new frame
that gets a mark. -/
def Store.OpensAt (vocabulary : Vocabulary) (marks : List Bool) (steady : Bool)
    (make : Store → Scope × Store) : Prop :=
  ∀ first second : Store, first.LiftsAt vocabulary marks second →
    (make first).1 = (make second).1 ∧ (make first).1.Marked (marks ++ [steady]) steady ∧
      (make first).2.LiftsAt vocabulary (marks ++ [steady]) (make second).2

namespace Store.OpensAt

variable {vocabulary : Vocabulary} {marks : List Bool} {steady : Bool}

/-- A scope inside another one belongs to a steady part only if that one does. -/
theorem childScope (outer : Scope) (around : steady = true → outer.Marked marks true) :
    OpensAt vocabulary marks steady (·.childScope outer) := by
  intro first second stores
  refine ⟨(stores.lifts.childScope .nil outer).1, ?_, stores.addFrame outer.tree steady⟩
  exact .of_new stores.size.symm fun isSteady _ => (around isSteady).chain

theorem detachedScope (origin : Scope) :
    OpensAt vocabulary marks steady (·.detachedScope origin) := by
  intro first second stores
  refine ⟨(stores.lifts.detachedScope .nil origin).1, ?_, stores.addFrame origin.tree steady⟩
  exact .of_new stores.size.symm fun _ _ member => nomatch member

theorem newScope : OpensAt vocabulary marks steady (·.newScope) := by
  intro first second stores
  obtain ⟨same, lifts⟩ := stores.lifts.newScope .nil
  have added := stores.addFrame first.trees steady
  refine ⟨same, .of_new stores.size.symm ?_, lifts, added.size, ?_⟩
  · exact fun _ _ member => nomatch member
  intro frame marked
  have bound := added.same frame marked
  rw [bindings_addFrame, bindings_addFrame] at bound
  exact (bindings_addFrame _ _ _).trans (bound.trans (bindings_addFrame _ _ _).symm)

end Store.OpensAt

/-! ## The comparison with a run at a lesser depth -/

/-- Errors of which both or neither say that something is not found, which is what decides
whether an inclusion ignores them. -/
abbrev TemplateError.FoundAlike (first second : TemplateError) : Prop :=
  first.isNotFound = second.isNotFound

theorem TemplateError.foundAlike_refl (error : TemplateError) : error.FoundAlike error :=
  rfl

/-- Failed evaluations find all that they look for. -/
theorem TemplateError.foundAlike_evaluation (first second : EvalError) :
    (evaluation first).FoundAlike (.evaluation second) :=
  rfl

namespace Comparison

/-- The comparison of a run with one at a lesser depth.  Where the first one fails or has no
outcome, nothing is asked of the other one, whose sink has the same limit or none. -/
def lifting (vocabulary : Vocabulary) : Comparison where
  World := List Bool
  Later := (· <+: ·)
  absence := .excused
  forgives := True
  store := Store.LiftsAt vocabulary
  sink _ first second :=
    first.writes = second.writes ∧ (second.room = none ∨ second.room = first.room)
  fault _ _ := True
  failure := TemplateError.FoundAlike
  later_refl := List.prefix_refl
  later_trans := List.IsPrefix.trans
  sink_later _ same := same
  sink_unlimited _ := ⟨rfl, .inl rfl⟩
  fault_refl _ := True.intro
  failure_refl := TemplateError.foundAlike_refl
  failure_evaluation _ := TemplateError.foundAlike_evaluation _ _
  failure_wrapped _ same := same
  failure_isNotFound same := same

variable {vocabulary : Vocabulary} {marks : List Bool} {steady : Bool}
variable {ε α : Type} {fails : ε → ε → Prop} {gives : List Bool → α → α → Prop}

/-- What a run that succeeds is compared with succeeds, too. -/
theorem lifting_ok {first second : Run TemplateError Unit}
    (related : (lifting vocabulary).Renders marks (lifting vocabulary).done first second)
    {state other after : RunState} (states : (lifting vocabulary).state marks state other)
    (ran : first state = some (.ok (), after)) :
    ∃ later final, marks <+: later ∧ second other = some (.ok (), final) ∧
      (lifting vocabulary).state later after final := by
  rcases related state other states with ⟨_, error, failed, found⟩ | ended
  · rw [ran] at found
    cases found
  · rw [ran] at ended
    match found : second other with
    | none =>
        rw [found] at ended
        exact ended.elim
    | some (.error error, _) =>
        rw [found] at ended
        obtain ⟨_, _, _, impossible⟩ := ended
        exact impossible.elim
    | some (.ok (), final) =>
        rw [found] at ended
        obtain ⟨later, grown, states, _⟩ := ended
        exact ⟨later, final, grown, rfl, states⟩

/-- Changes of related states that lead to related ones. -/
theorem lifting_modifyGet {change change' : RunState → α × RunState} {later : List Bool}
    (grown : marks <+: later)
    (changed : ∀ {first second : RunState}, (lifting vocabulary).state marks first second →
      (lifting vocabulary).state later (change first).2 (change' second).2 ∧
        gives later (change first).1 (change' second).1) :
    (lifting vocabulary).Related marks fails gives (modifyGet change) (modifyGet change') := by
  intro first second states
  rcases changed states with ⟨states, given⟩
  exact .inr ⟨later, grown, states, given⟩

theorem lifting_openWith {make : Store → Scope × Store}
    (opens : Store.OpensAt vocabulary marks steady make) :
    (lifting vocabulary).Related marks fails
      (fun later first second => first = second ∧ first.Marked later steady)
      (Run.openWith make) (Run.openWith make) :=
  lifting_modifyGet (List.prefix_append marks [steady]) fun ⟨stores, sinks⟩ =>
    ⟨⟨(opens _ _ stores).2.2, sinks⟩, (opens _ _ stores).1, (opens _ _ stores).2.1⟩

theorem lifting_openChild (scope : Scope) (around : steady = true → scope.Marked marks true) :
    (lifting vocabulary).Renders marks
      (fun later first second => first = second ∧ first.Marked later steady)
      (Run.openChild scope) (Run.openChild scope) :=
  lifting_openWith (.childScope scope around)

theorem lifting_bind {scope : Scope} (marked : scope.Marked marks steady) (name : String)
    {value other : Value}
    (values : Value.Resembles (Value.LiftsIn vocabulary steady) value other) :
    (lifting vocabulary).Related marks fails (lifting vocabulary).done (Run.bind scope name value)
      (Run.bind scope name other) :=
  lifting_modifyGet (List.prefix_refl marks) fun ⟨stores, sinks⟩ =>
    ⟨⟨stores.bind marked name values, sinks⟩, True.intro⟩

theorem lifting_bindAll {scope : Scope} (marked : scope.Marked marks steady)
    {entries others : List (String × Value)}
    (values : EntriesRelated (Value.Resembles (Value.LiftsIn vocabulary steady)) entries others) :
    (lifting vocabulary).Related marks fails (lifting vocabulary).done
      (Run.bindAll scope entries) (Run.bindAll scope others) :=
  lifting_modifyGet (List.prefix_refl marks) fun ⟨stores, sinks⟩ =>
    ⟨⟨stores.bindAll marked values, sinks⟩, True.intro⟩

/-- What the first sink takes the second one takes too. -/
theorem lifting_write (text : String) :
    (lifting vocabulary).Renders marks (lifting vocabulary).done (Run.write text)
      (Run.write text) := by
  rintro ⟨first, ⟨writes, room⟩⟩ ⟨second, ⟨_, otherRoom⟩⟩ ⟨stores, rfl, rooms⟩
  change (lifting vocabulary).Forgiven (if Sink.takes ⟨writes, room⟩ text then _ else _) ∨
    (lifting vocabulary).Ends _ _ _ (if Sink.takes ⟨writes, room⟩ text then _ else _)
      (if Sink.takes ⟨writes, otherRoom⟩ text then _ else _)
  by_cases takes : Sink.takes ⟨writes, room⟩ text
  · have takesToo : Sink.takes ⟨writes, otherRoom⟩ text := by
      rcases (show otherRoom = none ∨ otherRoom = room from rooms) with rfl | rfl
      · rfl
      · exact takes
    rw [if_pos takes, if_pos takesToo]
    refine .inr ⟨marks, List.prefix_refl marks, ⟨stores, rfl, ?_⟩, True.intro⟩
    exact rooms.imp (congrArg (Option.map _)) (congrArg (Option.map _))
  · rw [if_neg takes]
    exact .inl ⟨True.intro, _, _, rfl⟩

end Comparison

namespace Correspondence

open Comparison Environment Value

variable {vocabulary : Vocabulary}

/-- Nothing is asked of errors of evaluations. -/
private theorem anyFaultLifting {α β : Type} {fails : EvalError → EvalError → Prop}
    {gives : α → β → Prop} {first : Except EvalError α} {second : Except EvalError β}
    (alike : Alike fails gives first second) :
    Alike (Comparison.lifting vocabulary).fault gives first second :=
  alike.weaken fun _ _ _ => True.intro

/-- What corresponds in a part of a run and of a run at a lesser depth, for pieces with words of
some vocabulary. -/
def lifting (vocabulary words : Vocabulary) (steady : Bool) :
    Correspondence (Comparison.lifting vocabulary) where
  vocabulary := words
  value _ := Resembles (LiftsIn vocabulary steady)
  setting _ := Eq
  context _ := Eq
  scope marks first second := first = second ∧ first.Marked marks steady
  imported _ := Eq
  value_later _ resembles := resembles
  setting_later _ settings := settings
  context_later _ same := same
  scope_later grown scopes := ⟨scopes.1, scopes.2.grow grown⟩
  literal _ literal := literal.value.resembles_liftsIn_refl
  list values := .list (itemsResemble_iff.2 values)
  map values := .map (entriesResemble_iff.2 values)
  checked resembles := anyFaultLifting resembles.checked
  isTrue resembles := resembles.isTrue_eq
  display resembles := resembles.display_eq
  member name resembles := resembles.member name
  item resembles keys := resembles.item keys
  negation resembles := anyFaultLifting resembles.negation
  operation operator left right := anyFaultLifting (left.operation operator right)
  items targets iterable resembles := anyFaultLifting (resembles.items targets iterable)
  bindings targets resembles := anyFaultLifting (resembles.bindings targets)
  within := by
    rintro _ environment _ scope _ rfl ⟨rfl, _⟩
    rfl
  context_setting same := same
  lenient same := congrArg _ same
  undefined := by
    rintro _ environment _ error rfl
    unfold Expression.undefined
    split
    · exact .inr True.intro
    · exact .inr .nil
  filter := by
    rintro _ environment _ used value other arguments others rfl _ resembles given
    unfold Expression.applyFilter
    split
    · rename_i filter _
      exact anyFaultLifting
        (filter.resembles_apply environment.config.autoescape resembles given).checked
    · exact True.intro
  test := by
    rintro _ environment _ value other arguments others used negated rfl resembles given
    unfold Expression.applyTest
    split
    · rename_i predicate _
      have answers : Alike (Comparison.lifting vocabulary).fault Eq
          (predicate.holds value arguments) (predicate.holds other others) :=
        anyFaultLifting (predicate.holds_resembles resembles given)
      generalize predicate.holds value arguments = answer at answers
      generalize predicate.holds other others = otherAnswer at answers
      cases answer <;> cases otherAnswer <;> cases answers
      · exact True.intro
      · exact .bool _
    · exact True.intro
  closure := by
    rintro _ environment _ definition rfl _ _
    exact .closure (closure_liftsIn _)
  rendered := by
    rintro _ environment _ text _ rfl ⟨first, second, ⟨written, _⟩, rfl, rfl⟩
    unfold Sink.text
    rw [written]
    exact .string _ _
  refer := by
    rintro _ environment _ _ name _ _ rfl
    exact .refl (Comparison.lifting vocabulary).failure_refl (fun _ => rfl) _
  imported_lineage same := congrArg _ same
  write _ _ _ := lifting_write _
  writeBox _ _ _ := lifting_write _
  openChild := by
    rintro _ scope _ ⟨rfl, marked⟩
    exact lifting_openChild scope fun isSteady => isSteady ▸ marked
  bind := by
    rintro _ scope _ name value other ⟨rfl, marked⟩ _ resembles
    exact lifting_bind marked name resembles
  bindModule := by
    rintro marks scope _ included _ withContext ⟨rfl, marked⟩ rfl
    have opens : Store.OpensAt vocabulary marks steady fun store =>
        if withContext.getD true then store.childScope scope else store.detachedScope scope := by
      cases withContext.getD true with
      | true => exact .childScope scope fun isSteady => isSteady ▸ marked
      | false => exact .detachedScope scope
    apply (lifting_openWith opens).bind
    rintro later _ moduleScope _ ⟨rfl, marked⟩
    have closures : EntriesRelated (Resembles (LiftsIn vocabulary steady))
        (included.within moduleScope).closures (included.within moduleScope).closures :=
      List.forall₂_same.2 fun entry _ => ⟨rfl, entry.2.resembles_liftsIn_refl⟩
    apply (lifting_bindAll marked closures).bind
    intro _ _ _ _ _
    exact related_pure closures

/-! ### Uses by name -/

section Uses

variable {natives : Natives} {first second : Interpreter} {environment : Environment}
variable {depth lesser : Nat} {marks : List Bool} {steady : Bool}

/-- Whether what an interpreter does at a depth corresponds to what another one does at every
lesser depth, in each part of a run and whatever the words of a piece. -/
def LiftsTo (vocabulary : Vocabulary) (first second : Interpreter) : Prop :=
  ∀ {depth lesser : Nat}, vocabulary.Lowers depth lesser → ∀ steady : Bool,
    (lifting vocabulary .unrestricted steady).Interprets first depth second lesser

/-- Where the first depth is too great, nothing is asked of the second one. -/
theorem lifting_enter (interprets : LiftsTo vocabulary first second)
    (lowers : vocabulary.Lowers depth lesser) (name : String) :
    (Comparison.lifting vocabulary).Renders marks
      (fun _ inner otherInner =>
        (lifting vocabulary .unrestricted false).Interprets first inner second otherInner)
      (Interpreter.enter depth name) (Interpreter.enter lesser name) := by
  have shallower := lowers.le
  unfold Interpreter.enter
  by_cases deep : Interpreter.maxDepth ≤ depth
  · rw [if_pos deep]
    exact related_throw_left True.intro _ _
  · rw [if_neg deep, if_neg (by omega)]
    exact related_pure (interprets lowers.succ false)

/-- What is used by its name is not a steady part, whatever is around it. -/
theorem lifting_openInside (scope : Scope) :
    (Comparison.lifting vocabulary).Renders marks (lifting vocabulary .unrestricted false).scope
      (Run.openChild scope) (Run.openChild scope) :=
  lifting_openChild scope fun isSteady => nomatch isSteady

theorem lifting_renderBlock (interprets : LiftsTo vocabulary first second)
    (lowers : vocabulary.Lowers depth lesser) (environment : Environment)
    (bodies : List (Body Node)) :
    (Comparison.lifting vocabulary).Renders marks (Comparison.lifting vocabulary).done
      (Interpreter.renderBlock first environment depth bodies)
      (Interpreter.renderBlock second environment lesser bodies) := by
  refine renderBlock_related (interprets lowers false)
    (fun body _ => Node.allWithin_unrestricted body.nodes) ?_
  rintro body overridden rfl
  have settings : (lifting vocabulary .unrestricted false).setting marks environment environment :=
    rfl
  apply openBlock_related overridden settings (lifting_openInside _) True.intro
  rintro _ inner _ ⟨rfl, _⟩ _
  exact .super ⟨rfl, lowers⟩

/-- A call of a macro gives the text of its body. -/
theorem lifting_callClosure (interprets : LiftsTo vocabulary first second)
    (lowers : vocabulary.Lowers depth lesser) (callee : Closure) {arguments others : Arguments}
    (given : ArgumentsRelated (Resembles (Value.Lifts vocabulary)) arguments others) :
    (Comparison.lifting vocabulary).Renders marks
      (fun later value other =>
        ∃ text otherText, (Comparison.lifting vocabulary).texts later text otherText ∧
          value = Interpreter.renderedValue callee.environment text ∧
            other = Interpreter.renderedValue callee.environment otherText)
      (Interpreter.callClosure first callee arguments depth)
      (Interpreter.callClosure second callee others lesser) := by
  have inside : callee.definition.Within (lifting vocabulary .unrestricted false).vocabulary :=
    callee.definition.within_unrestricted
  exact callClosure_related inside rfl given (lifting_enter interprets lowers _)
    fun _ _ => lifting_openInside _

/-- Calls of callables that resemble each other have values that do. -/
theorem lifting_callValue (respects : natives.Respects (Value.Lifts vocabulary))
    (interprets : LiftsTo vocabulary first second) (lowers : vocabulary.Lowers depth lesser)
    (callee : Expression) {value other : Value} {arguments others : Arguments}
    (resembles : Resembles (LiftsIn vocabulary steady) value other)
    (given : ArgumentsRelated (Resembles (LiftsIn vocabulary steady)) arguments others) :
    (Comparison.lifting vocabulary).Evaluates marks (lifting vocabulary vocabulary steady).result
      (Interpreter.callValue natives first depth callee value arguments)
      (Interpreter.callValue natives second lesser callee other others) := by
  cases resembles.lifts with
  | @closure definition environment _ calls =>
      obtain rfl : environment = _ := calls
      refine ((lifting_callClosure interprets lowers ⟨definition, environment⟩
        given.lifts).mapError fun _ _ _ => True.intro).mono ?_
      rintro later _ _ _ ⟨text, otherText, texts, rfl, rfl⟩
      exact ⟨(lifting vocabulary vocabulary steady).rendered rfl texts, rfl⟩
  | native name =>
      rw [Interpreter.callValue_native, Interpreter.callValue_native]
      exact related_ofExcept ((anyFaultLifting (respects.liftsIn steady name given).checked).attach
        fun _ => isError_of_checked)
  | super calls =>
      obtain ⟨rfl, recorded⟩ := calls
      exact (lifting vocabulary vocabulary steady).callValue_super_related natives callee _ _ rfl
        (lifting_renderBlock interprets recorded _ _) fun _ _ _ => True.intro
  | _ => exact related_throw True.intro

/-- The scopes with trees of their own.  Any scope may be released. -/
def liftingRoots (vocabulary : Vocabulary) : (lifting vocabulary .unrestricted false).Roots :=
  Correspondence.rootsOfScopes _ (fun _ => lifting_openWith .newScope) (by
    rintro _ scope _ _ _ ⟨rfl, _⟩ stores
    exact stores.release scope)

theorem lifting_includeTemplate (interprets : LiftsTo vocabulary first second)
    (lowers : vocabulary.Lowers depth lesser) (environment included : Environment)
    (withContext : Bool) :
    (Comparison.lifting vocabulary).Renders marks (Comparison.lifting vocabulary).done
      (Interpreter.includeTemplate first environment depth included withContext)
      (Interpreter.includeTemplate second environment lesser included withContext) := by
  exact includeTemplate_related (liftingRoots vocabulary) withContext rfl rfl
    included.lineage.within_unrestricted (lifting_enter interprets lowers _)
    (fun _ _ _ => lifting_openInside _)

/-- What is used by its name in a piece within the vocabulary has the same effects at a lesser
depth. -/
theorem lifting_handles (respects : natives.Respects (Value.Lifts vocabulary))
    (interprets : LiftsTo vocabulary first second) (lowers : vocabulary.Lowers depth lesser)
    (steady : Bool) :
    (lifting vocabulary vocabulary steady).Handles (Interpreter.effects natives first) depth
      (Interpreter.effects natives second) lesser where
  lookup := by
    rintro marks scope _ name ⟨rfl, marked⟩ known ⟨_, _⟩ ⟨_, _⟩ ⟨stores, sinks⟩
    exact .inr ⟨marks, List.prefix_refl marks, ⟨stores, sinks⟩,
      Correspondence.checks_of_values (stores.lookup marked known)⟩
  call callee resembles given :=
    lifting_callValue respects interprets lowers callee resembles given
  emit := by
    rintro marks environment _ value other rfl ⟨resembles, _⟩
    change (Comparison.lifting vocabulary).Renders marks _ (Run.write _) (Run.write _)
    rw [resembles.writtenText_eq]
    exact lifting_write _
  block := by
    rintro _ environment _ name ⟨rfl, _⟩ _
    exact lifting_renderBlock interprets lowers environment _
  inclusion := by
    rintro _ environment _ included _ withContext ⟨rfl, _⟩ rfl
    exact lifting_includeTemplate interprets lowers environment included withContext
  depth := lowers.eq

/-- At every bound, what keeps to the vocabulary and is done at a depth is done at every lesser
one. -/
theorem keeping_lifts (respects : natives.Respects (Value.Lifts vocabulary)) (bound : Nat) :
    LiftsTo vocabulary (Interpreter.keeping natives vocabulary bound)
      (Interpreter.bounded natives bound) := by
  induction bound with
  | zero => exact fun _ _ => interprets_exhausted (by simp [Comparison.lifting]) _ _
  | succ bound inductionHypothesis =>
      intro depth lesser lowers steady
      have inside := (lifting_handles respects inductionHypothesis lowers steady).interprets
      exact interprets_restrict rfl
        (fun within _ environments =>
          inside.evaluate within ⟨environments.setting, environments.scope⟩)
        fun within _ environments =>
          inside.render within ⟨environments.setting, environments.scope⟩

end Uses

end Correspondence

end TemplateEngine

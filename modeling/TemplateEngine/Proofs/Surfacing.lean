import TemplateEngine.Proofs.Contents
import TemplateEngine.Proofs.Frames

/-!
# Errors surface

A failed evaluation may be bound to a name, and a native function may return one, but none gets
into a list or a map: whatever is made into a part of something else is checked before.  So if
no error is hidden in the data, every value that an evaluation gives is free of errors at every
depth, so is everything that a rendering binds, and no output tag writes the text of an error.

What can be called is evaluated where it was defined.  The data are therefore those of a region
of frames, which everything that can be called there leads back to; what other frames bind plays
no part.
-/

namespace TemplateEngine

/-! ## Values -/

namespace Value

mutual

/-- Whether a value is a failed evaluation or has one in it, at any depth. -/
def holdsError : Value → Bool
  | .list items => itemsHoldError items
  | .map entries => entriesHoldError entries
  | .error _ => true
  | _ => false

/-- Whether one of some items does. -/
def itemsHoldError : List Value → Bool
  | [] => false
  | item :: rest => holdsError item || itemsHoldError rest

/-- Whether the value of one of some entries does. -/
def entriesHoldError : List (String × Value) → Bool
  | [] => false
  | (_, value) :: rest => holdsError value || entriesHoldError rest

end

/-- Whether a value is a list or a map with a failed evaluation in it. -/
def hidesError (value : Value) : Bool :=
  value.holdsError && !value.isError

end Value

/-- Whether a scope sees nothing but frames of a region. -/
def Scope.LiesIn (region : Nat → Prop) (scope : Scope) : Prop :=
  ∀ frame ∈ scope.chain, region frame

namespace Value

/-- Whether something is evaluated within a region if it is called. -/
def LeadsInto (region : Nat → Prop) : Value → Prop
  | .closure callee => callee.environment.scope.LiesIn region
  | .function (.super environment _ _) => environment.scope.LiesIn region
  | _ => True

/-- Whether everything in a value leads into a region. -/
def LiesIn (region : Nat → Prop) (value : Value) : Prop :=
  value.Every (LeadsInto region)

/-- Whether something is no error and leads into a region. -/
def Surfaced (region : Nat → Prop) (value : Value) : Prop :=
  value.isError = false ∧ value.LeadsInto region

variable {region : Nat → Prop} {value : Value}

mutual

theorem every_surfaced_iff :
    ∀ value, Every (Surfaced region) value ↔ value.holdsError = false ∧ value.LiesIn region
  | .list items => everyItem_surfaced_iff items
  | .map entries => everyEntry_surfaced_iff entries
  | .error _ => by simp [Every, Surfaced, holdsError, isError]
  | .nil => .rfl
  | .bool _ => .rfl
  | .number _ => .rfl
  | .string _ _ => .rfl
  | .closure _ => .rfl
  | .function _ => .rfl

theorem everyItem_surfaced_iff :
    ∀ items, EveryItem (Surfaced region) items ↔
      itemsHoldError items = false ∧ EveryItem (LeadsInto region) items
  | [] => by simp [EveryItem, itemsHoldError]
  | item :: rest => by
      simp only [EveryItem, itemsHoldError, Bool.or_eq_false_iff, every_surfaced_iff item,
        everyItem_surfaced_iff rest]
      exact and_and_and_comm

theorem everyEntry_surfaced_iff :
    ∀ entries, EveryEntry (Surfaced region) entries ↔
      entriesHoldError entries = false ∧ EveryEntry (LeadsInto region) entries
  | [] => by simp [EveryEntry, entriesHoldError]
  | (_, value) :: rest => by
      simp only [EveryEntry, entriesHoldError, Bool.or_eq_false_iff, every_surfaced_iff value,
        everyEntry_surfaced_iff rest]
      exact and_and_and_comm

end

/-- What hides no error and is none itself holds none. -/
theorem every_surfaced_of_hidesError (hidden : value.hidesError = false)
    (lies : value.LiesIn region) (sound : value.isError = false) :
    value.Every (Surfaced region) := by
  refine (every_surfaced_iff value).2 ⟨?_, lies⟩
  simpa [hidesError, sound] using hidden

theorem basic_surfaced : Basic (Surfaced region) :=
  ⟨⟨rfl, True.intro⟩, fun _ => ⟨rfl, True.intro⟩, fun _ => ⟨rfl, True.intro⟩,
    fun _ => ⟨rfl, True.intro⟩⟩

end Value

/-! ## Stores -/

/-- Whether all that a later store binds and an earlier one does not, in any frame, is free of
errors. -/
def Store.GainsNoError (earlier later : Store) : Prop :=
  ∀ frame, ∀ entry ∈ later.bindings frame,
    entry ∈ earlier.bindings frame ∨ entry.2.holdsError = false

/-- A region of frames in which no error is hidden: the frames that a scope sees, those still to
come, and those that what is bound in the region leads to.  Native functions hide no error
either, and lead nowhere else. -/
structure Store.Exposes (store : Store) (region : Nat → Prop) (natives : Natives) (scope : Scope) :
    Prop where
  chain : scope.LiesIn region
  fresh : ∀ frame, store.frames.size ≤ frame → region frame
  bound : ∀ frame, region frame → ∀ entry ∈ store.bindings frame,
    entry.2.hidesError = false ∧ entry.2.LiesIn region
  natives : ∀ name (arguments : Arguments),
    (∀ argument ∈ arguments.positional, argument.holdsError = false ∧ argument.LiesIn region) →
      (∀ argument ∈ arguments.keyword, argument.2.holdsError = false ∧ argument.2.LiesIn region) →
        (natives name arguments).hidesError = false ∧ (natives name arguments).LiesIn region

/-- What a store has come to, if all that is new in it surfaced. -/
structure Store.Since (earlier : Store) (region : Nat → Prop) (later : Store) : Prop where
  size : earlier.frames.size ≤ later.frames.size
  gained : later.HoldsAt fun frame entry =>
    entry ∈ earlier.bindings frame ∨ entry.2.Every (Value.Surfaced region)

namespace Store.Since

variable {earlier later : Store} {region : Nat → Prop} {natives : Natives} {outer scope : Scope}

theorem refl (store : Store) : store.Since region store :=
  ⟨Nat.le_refl _, fun _ _ member => .inl member⟩

theorem bind {name : String} {value : Value} (since : earlier.Since region later)
    (surfaced : value.Every (Value.Surfaced region)) (scope : Scope) :
    earlier.Since region (later.bind scope name value) where
  size := size_bind later scope name value ▸ since.size
  gained := since.gained.bind (.inr surfaced)

theorem bindAll {entries : Table Value} (since : earlier.Since region later)
    (surfaced : ∀ entry ∈ entries, entry.2.Every (Value.Surfaced region)) (scope : Scope) :
    earlier.Since region (later.bindAll scope entries) where
  size := size_bindAll later scope entries ▸ since.size
  gained := since.gained.bindAll fun entry member => .inr (surfaced entry member)

theorem addFrame (since : earlier.Since region later) (tree : Nat) :
    earlier.Since region (later.addFrame tree).2 where
  size := Nat.le_trans since.size (by simp [Store.addFrame])
  gained := since.gained.addFrame tree

theorem newScope (since : earlier.Since region later) : earlier.Since region later.newScope.2 :=
  ⟨(since.addFrame later.trees).size, (since.addFrame later.trees).gained⟩

theorem release (since : earlier.Since region later) (root : Scope) :
    earlier.Since region (later.release root) where
  size := size_release later root ▸ since.size
  gained := since.gained.release root

theorem gainsNoError (since : earlier.Since region later) : earlier.GainsNoError later :=
  fun frame entry member =>
    (since.gained frame entry member).imp_right fun every =>
      ((Value.every_surfaced_iff entry.2).1 every).1

/-- The next frame that is opened is new, so it is in the region. -/
theorem opened (since : earlier.Since region later)
    (exposes : earlier.Exposes region natives outer) {ancestors : List Nat}
    (inside : ∀ frame ∈ ancestors, region frame) (tree : Nat) :
    Scope.LiesIn region ⟨tree, later.frames.size, ancestors⟩ :=
  fun frame member => (List.mem_cons.1 member).elim
    (fun same => same ▸ exposes.fresh _ since.size) (inside frame)

/-- What is read is free of errors, or an error itself. -/
theorem lookup (since : earlier.Since region later)
    (exposes : earlier.Exposes region natives outer) (lies : scope.LiesIn region) {name : String}
    {found : Value} (looked : later.lookup scope name = some found)
    (sound : found.isError = false) : found.Every (Value.Surfaced region) := by
  obtain ⟨frame, seen, bound⟩ := List.exists_of_findSome?_eq_some looked
  rcases since.gained frame _ (Table.mem_of_lookup bound) with old | surfaced
  · obtain ⟨hidden, leads⟩ := exposes.bound frame (lies frame seen) _ old
    exact Value.every_surfaced_of_hidesError hidden leads sound
  · exact surfaced

end Store.Since

/-! ## The discipline -/

namespace Discipline

variable {before : Store} {region : Nat → Prop} {natives : Natives} {outer : Scope}

private theorem surfaced_closures (environment : Environment)
    (lies : environment.scope.LiesIn region) :
    ∀ entry ∈ environment.closures, entry.2.Every (Value.Surfaced region) := by
  intro entry member
  obtain ⟨definition, _, rfl⟩ := List.mem_map.1 member
  exact ⟨rfl, lies⟩

/-- The discipline of a run in which errors surface. -/
def surfacing (exposes : before.Exposes region natives outer) : Discipline where
  World := Unit
  Later _ _ := True
  vocabulary := .unrestricted
  store _ frames := before.Since region frames
  sink _ _ := True
  value _ value := value.Every (Value.Surfaced region)
  setting _ _ := True
  context _ _ := True
  scope _ scope := scope.LiesIn region
  imported _ _ := True
  later_refl _ := True.intro
  later_trans _ _ := True.intro
  sink_later _ _ := True.intro
  value_later _ every := every
  setting_later _ _ := True.intro
  context_later _ _ := True.intro
  scope_later _ lies := lies
  sink_unlimited _ := True.intro
  literal _ literal := Value.basic_surfaced.every_literal literal
  list every := Value.every_list.2 every
  map every := Value.every_map.2 every
  member every selected := every.member selected
  item every selected := Value.basic_surfaced.every_item every selected
  operation _ left right applied := Value.basic_surfaced.every_operation left right applied
  items _ _ every iterated := Value.basic_surfaced.every_items every iterated
  bindings _ every given := every.bindings given
  within _ _ := True.intro
  context_setting _ := True.intro
  lenient _ := True.intro
  filter _ _ every positional keyword applied :=
    Expression.every_of_applyFilter (fun filter _ sound =>
      filter.every_of_strings Value.basic_surfaced (fun _ _ => ⟨rfl, True.intro⟩) _ every
        positional keyword sound) applied
  closure _ lies _ := ⟨rfl, lies⟩
  rendered _ _ := ⟨rfl, True.intro⟩
  refer _ _ _ := True.intro
  write _ _ _ := True.intro
  writeBox _ _ _ := True.intro
  openChild lies since :=
    ⟨(), True.intro, since.addFrame _, since.opened exposes lies _⟩
  bind lies _ surfaced since := since.bind surfaced _
  bindModule := by
    intro world scope environment frames inContext lies _ since
    cases inContext with
    | true =>
        have surfaced := surfaced_closures (environment.within _)
          (since.opened exposes lies scope.tree)
        exact ⟨(), True.intro, (since.addFrame _).bindAll surfaced _, surfaced⟩
    | false =>
        have surfaced := surfaced_closures (environment.within _)
          (since.opened exposes (List.forall_mem_nil _) scope.tree)
        exact ⟨(), True.intro, (since.addFrame _).bindAll surfaced _, surfaced⟩

/-- What is used by its name keeps errors on the surface. -/
def surfacingUses (exposes : before.Exposes region natives outer) :
    (surfacing exposes).Uses natives where
  outer _ scope := scope.LiesIn region
  lookup _ lies since looked sound := since.lookup exposes lies looked sound
  native _ positional keyword sound := by
    obtain ⟨hidden, lies⟩ := exposes.natives _ _
      (fun argument member => (Value.every_surfaced_iff argument).1 (positional argument member))
      (fun argument member => (Value.every_surfaced_iff argument.2).1 (keyword argument member))
    exact Value.every_surfaced_of_hidesError hidden lies sound
  closure_setting _ := True.intro
  closure_outer surfaced := surfaced.2
  closure_within _ := Definition.within_unrestricted _
  super_setting _ := True.intro
  super_outer surfaced := surfaced.2
  super_within _ _ _ := Node.allWithin_unrestricted _
  super _ lies _ := ⟨rfl, lies⟩
  bindable := True.intro
  outer_scope lies := lies
  outer_later _ lies := lies
  blocks _ _ _ := Node.allWithin_unrestricted _
  included_setting _ := True.intro
  included_within _ := Lineage.within_unrestricted _
  openChild lies since := ⟨(), True.intro, since.addFrame _, since.opened exposes lies _⟩
  root _ scope := scope.LiesIn region
  root_scope lies := lies
  root_later _ lies := lies
  newScope since :=
    ⟨(), True.intro, since.newScope, since.opened exposes (List.forall_mem_nil _) _⟩
  release _ since := since.release _

end Discipline

/-! ## Runs -/

namespace Interpreter

/-- Write the value of an output tag, unless it is an error or has one in it. -/
def errorlessOutput (alarm : TemplateError) (environment : Environment) (value : Value) :
    Run TemplateError Unit :=
  if value.holdsError then throw alarm else writeOutput environment value

section

variable {before : Store} {region : Nat → Prop} {natives : Natives} {outer : Scope}
variable {environment : Environment} {state : RunState}

private theorem surfacing_interprets (exposes : before.Exposes region natives outer)
    (alarm : TemplateError) (bound depth : Nat) :
    ((Discipline.surfacing exposes).correspondence .matched).Interprets
      (emitting natives (errorlessOutput alarm) bound) depth (bounded natives bound) depth := by
  rw [← emitting_writeOutput]
  refine (Discipline.surfacingUses exposes).emitting_interprets ?_ (by simp) bound depth
  intro _ environment value _ surfaced _
  have sound := ((Value.every_surfaced_iff value).1 surfaced).1
  unfold errorlessOutput
  rw [if_neg (Bool.eq_false_iff.1 sound)]
  exact Discipline.related_write fun _ _ => True.intro

/-- A run in which errors surface is the same where output tags refuse errors, and binds none. -/
private theorem surfaces_of_related {ε α : Type} {gives : Unit → α → α → Prop}
    {guarded run : Run ε α} (exposes : state.store.Exposes region natives outer)
    (same : ∀ {later result other}, gives later result other → result = other)
    (related : ((Discipline.surfacing exposes).comparison .matched).Related () Eq gives guarded
      run) :
    guarded state = run state ∧
      ∀ {result after}, run state = some (result, after) →
        state.store.GainsNoError after.store ∧ Alike Eq (gives ()) result result := by
  have ended := Discipline.ends_of_related related
    ⟨⟨Store.Since.refl state.store, rfl⟩, ⟨True.intro, rfl⟩⟩
  have equal : guarded state = run state :=
    ((Discipline.outcome_of_ends_of_eq same ended).resolve_left
      fun none => Absence.noConfusion none.2).1
  refine ⟨equal, fun {result after} ran => ?_⟩
  rw [equal, ran] at ended
  obtain ⟨_, _, ⟨⟨since, _⟩, _⟩, alike⟩ := ended
  exact ⟨since.gainsNoError, alike⟩

/-- Errors do not hide in data.  Evaluation gives an error or a value without any, a rendering
step binds only such values, and no output tag is given an error, or a value with an error in
it, to write. -/
theorem errors_surface (exposes : state.store.Exposes region natives environment.scope)
    (bound depth : Nat) :
    (∀ {expression result after},
        (bounded natives bound).evaluate environment depth expression state =
            some (result, after) →
          (∀ value, result = .ok value → value.holdsError = false) ∧
            state.store.GainsNoError after.store) ∧
      (∀ {nodes result after},
        (bounded natives bound).render environment depth nodes state = some (result, after) →
          state.store.GainsNoError after.store) ∧
      (∀ {result after},
        (bounded natives bound).execute environment depth state = some (result, after) →
          state.store.GainsNoError after.store) ∧
      ∀ alarm,
        let guarded := emitting natives (errorlessOutput alarm) bound
        (∀ expression, guarded.evaluate environment depth expression state =
            (bounded natives bound).evaluate environment depth expression state) ∧
          (∀ nodes, guarded.render environment depth nodes state =
            (bounded natives bound).render environment depth nodes state) ∧
          guarded.execute environment depth state =
            (bounded natives bound).execute environment depth state := by
  have interprets := fun alarm => surfacing_interprets exposes alarm bound depth
  have environments :
      ((Discipline.surfacing exposes).correspondence .matched).Environments () environment
        environment :=
    ⟨⟨True.intro, rfl⟩, ⟨exposes.chain, rfl⟩⟩
  have evaluated := fun alarm expression =>
    surfaces_of_related exposes (fun given => given.1.2)
      ((interprets alarm).evaluate (Expression.within_stating expression) environments)
  have rendered := fun alarm nodes =>
    surfaces_of_related exposes (fun _ => rfl)
      ((interprets alarm).render (Node.allWithin_unrestricted nodes) environments)
  have executed := fun alarm =>
    surfaces_of_related exposes (fun _ => rfl)
      (Correspondence.execute_related (interprets alarm) environments rfl
        (Lineage.within_unrestricted _))
  refine ⟨fun {expression result after} ran => ?_, fun {nodes result after} ran => ?_,
    fun {result after} ran => ?_, fun alarm => ⟨fun expression => ?_, fun nodes => ?_, ?_⟩⟩
  · obtain ⟨gained, alike⟩ := (evaluated .output expression).2 ran
    refine ⟨fun value given => ?_, gained⟩
    subst given
    exact ((Value.every_surfaced_iff value).1 alike.1.1).1
  · exact ((rendered .output nodes).2 ran).1
  · exact ((executed .output).2 ran).1
  · exact (evaluated alarm expression).1
  · exact (rendered alarm nodes).1
  · exact (executed alarm).1

end

/-- A scope that binds a failed evaluation, next to a frame of another one with a list of them. -/
def besideLog : RunState where
  store := ⟨#[⟨0, [("broken", .error "lost"), ("names", .list [.plain "a"])]⟩,
    ⟨1, [("log", .list [.error "lost"])]⟩], 2, by decide⟩
  sink := .unlimited

/-- The only function of a program, which always fails. -/
def failingNatives : Natives :=
  fun _ _ => .error "boom"

/-- The environment of a page without nodes in the first frame. -/
def besideLogEnvironment : Environment :=
  ⟨.default, .standard, ⟨0, 0, []⟩, .empty, ⟨⟨"page", [], [], []⟩, []⟩⟩

/-- The failed evaluation that is bound does not get into a list, whatever other frames hold. -/
theorem errors_surface_besideLog :
    besideLog.store.Exposes (fun frame => frame ≠ 1) failingNatives besideLogEnvironment.scope ∧
      ∀ {result after},
        (bounded failingNatives 1).evaluate besideLogEnvironment 0
            (.list [.name "names" .start, .name "broken" .start] .start) besideLog =
          some (result, after) →
        ∀ value, result = .ok value → value.holdsError = false := by
  have exposes : besideLog.store.Exposes (fun frame => frame ≠ 1) failingNatives
      besideLogEnvironment.scope := by
    refine ⟨by simp [Scope.LiesIn, besideLogEnvironment, Scope.chain], ?_, ?_, ?_⟩
    · intro frame beyond
      change 2 ≤ frame at beyond
      omega
    · intro frame apart entry member
      match frame with
      | 0 =>
          have listed : entry = ("broken", .error "lost") ∨
              entry = ("names", .list [.plain "a"]) := by
            simpa [besideLog, Store.bindings] using member
          rcases listed with rfl | rfl
          · exact ⟨rfl, True.intro⟩
          · exact ⟨rfl, True.intro, True.intro⟩
      | 1 => exact (apart rfl).elim
      | frame + 2 => simp [besideLog, Store.bindings] at member
    · intro name arguments _ _
      exact ⟨rfl, True.intro⟩
  exact ⟨exposes, fun ran => ((errors_surface exposes 1 0).1 ran).1⟩

end Interpreter

end TemplateEngine

import TemplateEngine.Proofs.Iterating
import TemplateEngine.Proofs.Filtering

/-!
# Renderings in closed stores

A store that is closed stays so, whatever is evaluated or rendered in one of its scopes: scopes
are opened in the trees that it has, and what is bound comes from where it is bound already, or
is made in a scope of the store.  A template starts in a closed store, so that every place of its
rendering is one of a closed store.
-/

namespace TemplateEngine

/-! ## Stores that grow -/

/-- Whether a store has as many frames and trees as another one. -/
structure Store.Widens (earlier later : Store) : Prop where
  frames : earlier.frames.size ≤ later.frames.size
  trees : earlier.trees ≤ later.trees

theorem Store.Widens.refl (store : Store) : store.Widens store :=
  ⟨Nat.le_refl _, Nat.le_refl _⟩

theorem Store.Widens.trans {first second third : Store} (earlier : first.Widens second)
    (later : second.Widens third) : first.Widens third :=
  ⟨Nat.le_trans earlier.frames later.frames, Nat.le_trans earlier.trees later.trees⟩

theorem Store.widens_addFrame (store : Store) (tree : Nat) :
    store.Widens (store.addFrame tree).2 :=
  ⟨by simp [Store.addFrame], Nat.le_max_left ..⟩

theorem Store.widens_newScope (store : Store) : store.Widens store.newScope.2 :=
  ⟨store.settles_newScope.size, store.settles_newScope.trees⟩

theorem Store.widens_bindAll (store : Store) (scope : Scope) (entries : Table Value) :
    store.Widens (store.bindAll scope entries) :=
  ⟨Nat.le_of_eq (size_bindAll store scope entries).symm,
    (store.settles_bindAll scope entries).trees⟩

theorem Scope.Lies.widen {earlier later : Store} {scope : Scope} (lies : scope.Lies earlier)
    (widens : earlier.Widens later) : scope.Lies later :=
  ⟨Nat.lt_of_lt_of_le lies.tree widens.trees,
    fun frame member => Nat.lt_of_lt_of_le (lies.chain frame member) widens.frames⟩

theorem Value.widen {earlier later : Store} {value : Value} (lies : value.Lies earlier)
    (widens : earlier.Widens later) : value.Lies later := by
  refine lies.mono fun part closes => ?_
  cases part with
  | closure callee => exact closes.widen widens
  | function callee =>
      cases callee with
      | native name => exact True.intro
      | super environment depth bodies => exact closes.widen widens
  | _ => exact True.intro

namespace Store

variable {store later : Store} {scope : Scope} {name : String} {value : Value}

theorem Closed.lookup (closed : store.Closed) (looked : store.lookup scope name = some value) :
    value.Lies store :=
  closed.values.lookup looked

/-- What is bound may change, as long as it lies in the store. -/
theorem Settles.closed (settles : store.Settles later) (held : later.Holds (Value.Lies store)) :
    later.Closed where
  values frame entry member :=
    Value.widen (held frame entry member) ⟨settles.size, settles.trees⟩

theorem Closed.bind (closed : store.Closed) (lies : value.Lies store) :
    (store.bind scope name value).Closed :=
  (store.settles_bind scope name value).closed (closed.values.bind lies scope)

theorem Closed.bindAll (closed : store.Closed) {entries : Table Value}
    (lie : ∀ entry ∈ entries, entry.2.Lies store) : (store.bindAll scope entries).Closed :=
  (store.settles_bindAll scope entries).closed (closed.values.bindAll lie scope)

theorem Closed.release (closed : store.Closed) : (store.release scope).Closed :=
  (store.settles_release scope).closed (closed.values.release scope)

/-- A scope may be opened in a closed store. -/
theorem Closed.addFrame (closed : store.Closed) (tree : Nat) {ancestors : List Nat}
    (present : ∀ frame ∈ ancestors, frame < store.frames.size) :
    (store.addFrame tree).2.Closed ∧
      Scope.Lies (store.addFrame tree).2 ⟨tree, store.frames.size, ancestors⟩ := by
  have size : (store.addFrame tree).2.frames.size = store.frames.size + 1 := by
    simp [Store.addFrame]
  refine ⟨⟨fun frame entry member => ?_⟩, Nat.le_max_right .., fun frame member => ?_⟩
  · exact Value.widen (closed.values.addFrame tree frame entry member)
      (store.widens_addFrame tree)
  · rw [size]
    rcases List.mem_cons.1 member with rfl | outer
    · exact Nat.lt_succ_self _
    · exact Nat.lt_succ_of_lt (present frame outer)

theorem Closed.addTree (closed : store.Closed) : store.addTree.Closed :=
  ⟨fun frame entry member => Value.widen (closed.values frame entry member)
    ⟨Nat.le_refl _, Nat.le_succ _⟩⟩

theorem Closed.childScope (closed : store.Closed) (lies : scope.Lies store) :
    (store.childScope scope).2.Closed ∧
      (store.childScope scope).1.Lies (store.childScope scope).2 :=
  closed.addFrame scope.tree lies.chain

theorem Closed.detachedScope (closed : store.Closed) :
    (store.detachedScope scope).2.Closed ∧
      (store.detachedScope scope).1.Lies (store.detachedScope scope).2 :=
  closed.addFrame scope.tree nofun

theorem Closed.newScope (closed : store.Closed) :
    store.newScope.2.Closed ∧ store.newScope.1.Lies store.newScope.2 :=
  closed.addTree.addFrame store.trees nofun

end Store

/-! ## Runs -/

namespace Discipline

/-- Whether a store is closed, and as large as another one. -/
structure Closing (world store : Store) : Prop where
  widens : world.Widens store
  narrows : store.Widens world
  closed : store.Closed

theorem Closing.of_closed {store : Store} (closed : store.Closed) : Closing store store :=
  ⟨.refl store, .refl store, closed⟩

theorem Closing.rebound {world store later : Store} (closing : Closing world store)
    (closed : later.Closed) (size : later.frames.size = store.frames.size)
    (trees : later.trees = store.trees) : Closing world later where
  widens := closing.widens.trans ⟨Nat.le_of_eq size.symm, Nat.le_of_eq trees.symm⟩
  narrows := Store.Widens.trans ⟨Nat.le_of_eq size, Nat.le_of_eq trees⟩ closing.narrows
  closed := closed

/-- Opening a scope makes a store larger. -/
theorem Closing.opens {world store later : Store} {scope : Scope} (closing : Closing world store)
    (widens : store.Widens later) (opened : later.Closed ∧ scope.Lies later) :
    ∃ wider, world.Widens wider ∧ Closing wider later ∧ scope.Lies wider :=
  ⟨later, closing.widens.trans widens, .of_closed opened.1, opened.2⟩

/-- The discipline of closed stores. -/
def closing : Discipline where
  World := Store
  Later := Store.Widens
  vocabulary := .unrestricted
  store := Closing
  sink _ _ := True
  value world value := value.Lies world
  setting _ _ := True
  context _ _ := True
  scope world scope := scope.Lies world
  imported _ _ := True
  later_refl := .refl
  later_trans := .trans
  sink_later _ _ := True.intro
  value_later widens lies := Value.widen lies widens
  setting_later _ _ := True.intro
  context_later _ _ := True.intro
  scope_later widens lies := lies.widen widens
  sink_unlimited _ := True.intro
  literal _ literal := (Value.aboutCallables_closes _).basic.every_literal literal
  list lie := Value.every_list.2 lie
  map lie := Value.every_map.2 lie
  member lies selected := lies.member selected
  item lies selected := (Value.aboutCallables_closes _).basic.every_item lies selected
  operation _ left right applied :=
    (Value.aboutCallables_closes _).basic.every_operation left right applied
  items _ _ lies iterated := (Value.aboutCallables_closes _).basic.every_items lies iterated
  bindings _ lies given := lies.bindings given
  within _ _ := True.intro
  context_setting _ := True.intro
  lenient _ := True.intro
  filter := by
    intro world environment used target result arguments _ _ lies positional keyword applied
    refine Expression.every_of_applyFilter (fun filter _ _ => ?_) applied
    exact Filter.every_of_aboutCallables (Value.aboutCallables_closes _) _ _ lies positional keyword
  closure _ lies _ := lies
  rendered _ _ := True.intro
  refer _ _ _ := True.intro
  write _ _ _ := True.intro
  writeBox _ _ _ := True.intro
  openChild lies closing :=
    closing.opens (Store.widens_addFrame _ _)
      (closing.closed.childScope (lies.widen closing.widens))
  bind lies _ bound closing :=
    closing.rebound (closing.closed.bind (Value.widen bound closing.widens))
      (Store.size_bind _ _ _ _) rfl
  bindModule := by
    intro world scope environment frames inContext lies _ closing
    let opened := if inContext then frames.childScope scope else frames.detachedScope scope
    have known := lies.widen closing.widens
    have opens : opened.2.Closed ∧ opened.1.Lies opened.2 ∧ frames.Widens opened.2 := by
      cases inContext with
      | true =>
          obtain ⟨closed, inside⟩ := closing.closed.childScope known
          exact ⟨closed, inside, Store.widens_addFrame _ _⟩
      | false =>
          obtain ⟨closed, inside⟩ := closing.closed.detachedScope
          exact ⟨closed, inside, Store.widens_addFrame _ _⟩
    obtain ⟨closed, inside, widens⟩ := opens
    have made : ∀ entry ∈ (environment.within opened.1).closures, entry.2.Lies opened.2 := by
      intro entry member
      obtain ⟨_, _, rfl⟩ := List.mem_map.1 member
      exact inside
    have further := opened.2.widens_bindAll opened.1 (environment.within opened.1).closures
    exact ⟨_, (closing.widens.trans widens).trans further, .of_closed (closed.bindAll made),
      fun entry member => Value.widen (made entry member) further⟩

/-- What is used by its name keeps a store closed. -/
def closingUses {natives : Natives} (indifferent : natives.Indifferent) :
    closing.Uses natives where
  outer world scope := scope.Lies world
  lookup _ _ closing looked _ := Value.widen (closing.closed.lookup looked) closing.narrows
  native _ positional keyword _ :=
    indifferent.keeps _ (Value.aboutCallables_closes _) (fun _ => True.intro) _ _ positional keyword
  closure_setting _ := True.intro
  closure_outer lies := lies
  closure_within _ := Definition.within_unrestricted _
  super_setting _ := True.intro
  super_outer lies := lies
  super_within _ _ _ := Node.allWithin_unrestricted _
  super _ lies _ := lies
  bindable := True.intro
  outer_scope lies := lies
  outer_later widens lies := lies.widen widens
  blocks _ _ _ := Node.allWithin_unrestricted _
  included_setting _ := True.intro
  included_within _ := Lineage.within_unrestricted _
  openChild lies closing :=
    closing.opens (Store.widens_addFrame _ _)
      (closing.closed.childScope (lies.widen closing.widens))
  root world scope := scope.Lies world
  root_scope lies := lies
  root_later widens lies := lies.widen widens
  newScope closing :=
    closing.opens (Store.widens_newScope _) closing.closed.newScope
  release _ closing :=
    closing.rebound closing.closed.release (Store.size_release _ _) rfl

end Discipline

theorem Discipline.closing_handles {natives : Natives} (indifferent : natives.Indifferent)
    (bound depth : Nat) :
    (closing.correspondence .matched).Handles
      (Interpreter.effects natives (Interpreter.bounded natives bound)) depth
      (Interpreter.effects natives (Interpreter.bounded natives bound)) depth := by
  have emits : ∀ {world environment value}, closing.setting world environment →
      closing.value world value → value.isError = false →
        (closing.comparison .matched).Renders world (closing.comparison .matched).done
          (Interpreter.writeOutput environment value) (Interpreter.writeOutput environment value) :=
    fun _ _ _ => related_write fun _ _ => True.intro
  have interprets : ∀ depth, (closing.correspondence .matched).Interprets
      (Interpreter.bounded natives bound) depth (Interpreter.bounded natives bound) depth := by
    intro depth
    rw [← Interpreter.emitting_writeOutput]
    exact (closingUses indifferent).emitting_interprets emits (by simp) bound depth
  rw [Interpreter.effects_eq_usingEffects]
  exact (closingUses indifferent).handles emits (fun _ => interprets _) (fun _ => interprets _)
    (interprets depth) fun _ => interprets _

/-! ## Places of a rendering -/

namespace Place

variable {place start : Place} {natives : Natives} {bound depth : Nat} {after : RunState}

/-- What keeps stores closed leads from a closed place to another one. -/
theorem Closed.keeps {ε α : Type} {fails : ε → ε → Prop} {gives : Store → α → α → Prop}
    {run : Run ε α} {result : Except ε α} (closed : place.Closed)
    (related : (Discipline.closing.comparison .matched).Related place.state.store fails gives run
      run) (ran : run place.state = some (result, after)) :
    ∃ world : Store, place.state.store.Widens world ∧ Discipline.Closing world after.store ∧
      Alike fails (gives world) result result := by
  have ended := Discipline.ends_of_related related
    ⟨⟨Discipline.Closing.of_closed closed.store, rfl⟩, ⟨True.intro, rfl⟩⟩
  rw [ran] at ended
  obtain ⟨world, widens, ⟨⟨closing, _⟩, _⟩, alike⟩ := ended
  exact ⟨world, widens, closing, alike⟩

theorem Closed.environmentsKept (closed : place.Closed) :
    (Discipline.closing.correspondence .matched).Environments place.state.store place.environment
      place.environment :=
  ⟨⟨True.intro, rfl⟩, ⟨closed.scope, rfl⟩⟩

/-- After an evaluation, a place is one of a closed store. -/
theorem Closed.evaluate (closed : place.Closed) (indifferent : natives.Indifferent)
    {expression : Expression} {result : Except EvalError Value}
    (evaluated : place.evaluate natives bound depth expression = some (result, after)) :
    (Place.mk place.environment after).Closed := by
  obtain ⟨world, widens, closing, _⟩ := closed.keeps
    (Correspondence.evaluate_related (Discipline.closing_handles indifferent bound depth)
      expression (Expression.within_stating expression) ⟨⟨True.intro, rfl⟩, ⟨closed.scope, rfl⟩⟩)
    evaluated
  exact ⟨closing.closed, closed.scope.widen (widens.trans closing.widens)⟩

/-- After a statement is rendered, a place is one of a closed store. -/
theorem Closed.render (closed : place.Closed) (indifferent : natives.Indifferent) {tag : String}
    {statement : Statement Node} {result : Except TemplateError Unit}
    (rendered : place.render natives bound depth tag statement = some (result, after)) :
    (Place.mk place.environment after).Closed := by
  obtain ⟨known, inside⟩ :=
    (Node.allWithin_unrestricted [.statement tag statement .start]).1
  obtain ⟨world, widens, closing, _⟩ := closed.keeps
    (Correspondence.renderStatement_related (Discipline.closing_handles indifferent bound depth)
      tag statement known inside closed.environmentsKept) rendered
  exact ⟨closing.closed, closed.scope.widen (widens.trans closing.widens)⟩

/-- The body of a loop starts at a place of a closed store, if the loop is at one. -/
theorem Closed.begins {environment : Environment} {state : RunState}
    (closed : (Place.mk environment state).Closed) {given : Table Value}
    (lie : ∀ entry ∈ given, entry.2.Lies state.store) (index length : Nat) :
    (Loop.start environment state given index length).Closed ∧
      state.store.Widens (Loop.start environment state given index length).state.store := by
  let opened := state.store.childScope environment.scope
  obtain ⟨inner, inside⟩ := closed.store.childScope closed.scope
  have opens : state.store.Widens opened.2 := Store.widens_addFrame _ _
  have binds := opened.2.widens_bindAll opened.1 given
  have bound : (opened.2.bindAll opened.1 given).Closed :=
    inner.bindAll fun entry member => Value.widen (lie entry member) opens
  have info : (Loop.info index length).Lies (opened.2.bindAll opened.1 given) :=
    Value.every_map.2 (by simp [Value.ofNat, Value.Every, Value.Closes])
  have counts : (opened.2.bindAll opened.1 given).Widens
      (Loop.start environment state given index length).state.store :=
    ⟨Nat.le_of_eq (Store.size_bind _ _ _ _).symm, Nat.le_refl _⟩
  have widens := (opens.trans binds).trans counts
  exact ⟨⟨bound.bind info, inside.widen (binds.trans counts)⟩, widens⟩

/-- So do all of its bodies. -/
theorem closed_of_starts {environment : Environment} {targets : List String} {length : Nat}
    {render : Environment → Run TemplateError Unit}
    (kept : ∀ {inside before result after}, (Place.mk inside before).Closed →
      render inside before = some (result, after) →
        after.store.Closed ∧ before.store.Widens after.store)
    {index number : Nat} {items : List Value} {state : RunState} {item : Value}
    (starts : Loop.Starts environment targets length render index items state number item start)
    (closed : (Place.mk environment state).Closed)
    (lie : ∀ item ∈ items, item.Lies state.store) : start.Closed := by
  induction starts with
  | here begun =>
      obtain ⟨given, bindings, same⟩ := Loop.exists_of_begin begun
      rw [← same]
      exact (closed.begins ((lie _ List.mem_cons_self).bindings bindings) _ _).1
  | later begun rendered _ inductionHypothesis =>
      obtain ⟨given, bindings, same⟩ := Loop.exists_of_begin begun
      obtain ⟨inside, opens⟩ := closed.begins ((lie _ List.mem_cons_self).bindings bindings) _ _
      rw [same] at inside opens
      obtain ⟨after, widens⟩ := kept inside rendered
      exact inductionHypothesis ⟨after, closed.scope.widen (opens.trans widens)⟩
        fun item member => Value.widen (lie item (List.mem_cons_of_mem _ member))
          (opens.trans widens)

/-- Wherever the body of a loop starts, the place is one of a closed store. -/
theorem Closed.starts (closed : place.Closed) (indifferent : natives.Indifferent)
    {looping : Looping} {number : Nat} {item : Value}
    (starts : place.Starts natives bound depth looping number item start) : start.Closed := by
  have handles := Discipline.closing_handles indifferent bound depth
  obtain ⟨items, state, lists, starts⟩ := starts
  obtain ⟨world, widens, closing, related⟩ := closed.keeps
    (Correspondence.loopItems_related handles (fun _ _ => True.intro)
      (Expression.within_stating _) (Expression.optionWithin_stating _) closed.environmentsKept)
    lists
  refine closed_of_starts ?_ starts
    ⟨closing.closed, closed.scope.widen (widens.trans closing.widens)⟩ fun item member =>
      Value.widen ((Shared.forall₂_iff.1 related).1 item member) closing.widens
  intro inside before result after closed rendered
  obtain ⟨world, widens, closing, _⟩ := closed.keeps
    (Correspondence.renderNodes_related handles _ (Node.allWithin_unrestricted _)
      closed.environmentsKept) rendered
  exact ⟨closing.closed, widens.trans closing.widens⟩

end Place

end TemplateEngine

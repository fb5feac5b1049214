import TemplateEngine.Proofs.Iterating
import TemplateEngine.Proofs.Matching.Twins

/-!
# Filters of loops

A loop applies its filter to all items before it visits the first one that passes.  The filter
opens scopes and binds the targets there, and leaves nothing else behind, so that it does not
matter in which order the items are asked, nor that they are asked at all: the loop renders what
the loop without a filter renders over the items that pass.

Native functions are taken not to look into macros.  One that does can tell that frames have been
opened, as the last section shows.
-/

namespace TemplateEngine

namespace Interpreter

/-- What the filter of a loop says about an item, with just the targets bound in a scope inside
the current one. -/
def passes (effects : Effects) (depth : Nat) (environment : Environment) (targets : List String)
    (condition : Expression) (item : Value) : Run TemplateError Bool := do
  let inside ← Loop.openItem environment targets item
  let passed ← evaluateAs effects depth inside "loop filter" condition
  return passed.isTrue

/-- What a loop renders for the items that it visits. -/
def renderItems (effects : Effects) (depth : Nat) (environment : Environment)
    (looping : Looping) (items : List Value) : Run TemplateError Unit :=
  if items.isEmpty then do
    let scope ← Run.openChild environment.scope
    renderOptional effects depth (environment.within scope) looping.empty
  else
    Loop.visit environment looping.targets items.length
      (fun inside => renderNodes effects depth inside looping.body.nodes) 0 items

theorem renderStatement_loop (effects : Effects) (depth : Nat) (environment : Environment)
    (tag : String) (looping : Looping) :
    renderStatement effects depth environment tag looping.statement =
      (do
        let items ←
          loopItems effects depth environment looping.targets looping.iterable looping.condition
        renderItems effects depth environment looping items) := by
  rcases looping with ⟨targets, iterable, condition, ⟨nodes, endTag, position⟩, empty⟩
  rfl

theorem renderItems_extends {effects : Effects} {depth : Nat} (kept : effects.Extends depth)
    (environment : Environment) (looping : Looping) (items : List Value) :
    (renderItems effects depth environment looping items).Extends :=
  loopBody_extends environment looping.targets items
    (fun inside => renderOptional effects depth inside looping.empty)
    (fun inside => renderNodes effects depth inside looping.body.nodes)
    (fun scope => (renderOptional_rebinds kept (environment.within scope) looping.empty).spares)
    (fun scope => (renderNodes_rebinds kept (environment.within scope) looping.body.nodes).spares)

end Interpreter

namespace Place

variable (place : Place) (natives : Natives) (bound depth : Nat)

/-- Ask the filter of a loop about an item, after some state is reached. -/
def ask (looping : Looping) (condition : Expression) (item : Value) (state : RunState) :
    Option (Except TemplateError Bool × RunState) :=
  Interpreter.passes (Interpreter.effects natives (Interpreter.bounded natives bound)) depth
    place.environment looping.targets condition item state

/-- What the filter of a loop says about an item at a place. -/
def Says (looping : Looping) (condition : Expression) (item : Value)
    (verdict : Except TemplateError Bool) : Prop :=
  ∃ after, place.ask natives bound depth looping condition item place.state =
    some (verdict, after)

/-- The items that a loop visits from a place on, and the state in which it begins to. -/
def Lists (looping : Looping) (items : List Value) (state : RunState) : Prop :=
  Interpreter.loopItems (Interpreter.effects natives (Interpreter.bounded natives bound)) depth
    place.environment looping.targets looping.iterable looping.condition place.state =
      some (.ok items, state)

/-- Where the body of a loop starts that is rendered from a place on. -/
def Starts (looping : Looping) (number : Nat) (item : Value) (start : Place) : Prop :=
  ∃ items state, place.Lists natives bound depth looping items state ∧
    Loop.Starts place.environment looping.targets items.length
      (fun inside => Interpreter.renderNodes
        (Interpreter.effects natives (Interpreter.bounded natives bound)) depth inside
          looping.body.nodes) 0 items state number item start

variable {place natives bound depth} {looping : Looping} {condition : Expression}
variable {items : List Value} {item value : Value} {state after : RunState}

/-! ## Asking the filter -/

/-- The filter is evaluated inside the scope of an item, unless the item cannot be unpacked. -/
theorem ask_apply (place : Place) (natives : Natives) (bound depth : Nat) (looping : Looping)
    (condition : Expression) (item : Value) (state : RunState) :
    place.ask natives bound depth looping condition item state =
      match Loop.bindings looping.targets item with
      | .ok entries =>
          ((Loop.entered place.environment state entries).evaluate natives bound depth
            condition).map fun ended =>
              ((ended.1.mapError fun error =>
                .wrapped (.role "loop filter" condition) (.evaluation error)).map Value.isTrue,
                ended.2)
      | .error error =>
          some (.error (.evaluation error), (Loop.entered place.environment state []).state) := by
  unfold ask Interpreter.passes
  rw [Run.bind_apply, Loop.openItem_apply]
  cases Loop.bindings looping.targets item with
  | error error => rfl
  | ok entries =>
      dsimp only
      unfold Interpreter.evaluateAs Interpreter.evaluateAt Place.evaluate
      rw [Run.bind_apply, Run.mapError_apply]
      match Expression.evaluate _ depth _ condition _ with
      | none => rfl
      | some (.error error, after) => rfl
      | some (.ok value, after) => rfl

theorem Reaches.entered (reached : place.Reaches state) (entries : List (String × Value)) :
    place.Reaches (Loop.entered place.environment state entries).state :=
  ⟨reached.store.trans
    (Store.Extends.bindAll _ (state.store.extends_childScope _) (Nat.le_refl _) entries),
    reached.sink⟩

theorem Reaches.evaluate {inner : Place} (reached : place.Reaches inner.state)
    {expression : Expression} {result : Except EvalError Value}
    (evaluated : inner.evaluate natives bound depth expression = some (result, after)) :
    place.Reaches after :=
  ⟨reached.store.trans (Interpreter.evaluate_bounded_extends natives (bound + 1)
    inner.environment depth expression evaluated),
    (sink_of_evaluate evaluated).trans reached.sink⟩

/-- Asking leaves the frames that exist as they are, and writes nothing. -/
theorem Reaches.ask (reached : place.Reaches state) {verdict : Except TemplateError Bool}
    (asked : place.ask natives bound depth looping condition item state = some (verdict, after)) :
    place.Reaches after := by
  rw [ask_apply] at asked
  split at asked
  · obtain ⟨⟨result, _⟩, evaluated, same⟩ := Option.map_eq_some_iff.1 asked
    cases same
    exact (reached.entered _).evaluate evaluated
  · cases asked
    exact reached.entered []

open Comparison in
theorem Closed.related_passes (closed : place.Closed) (indifferent : natives.Indifferent)
    (bound depth : Nat) (looping : Looping) (condition : Expression)
    (lies : item.Lies place.state.store) :
    Matching.twin.comparison.Renders place.pairing (fun _ passed other => passed = other)
      (Interpreter.passes (Interpreter.effects natives (Interpreter.bounded natives bound)) depth
        place.environment looping.targets condition item)
      (Interpreter.passes (Interpreter.effects natives (Interpreter.bounded natives bound)) depth
        place.environment looping.targets condition item) := by
  have handles := Matching.twin_handles indifferent bound depth
  refine (Correspondence.openItem_related (fun _ _ => True.intro) closed.environments
    (closed.values lies)).bind ?_
  intro later _ inner otherInner inners
  refine (Correspondence.evaluateAt_related handles (.role "loop filter")
    (Expression.within_stating condition) inners).bind ?_
  intro final _ value other related
  exact related_pure ((Matching.twin.correspondence .plain).isTrue related.1)

/-- What the filter says does not depend on what has been asked before. -/
theorem Closed.alike_ask (closed : place.Closed) (indifferent : natives.Indifferent)
    (lies : item.Lies place.state.store) {verdict : Except TemplateError Bool}
    (said : place.Says natives bound depth looping condition item verdict)
    (reached : place.Reaches state) :
    ∃ result after, place.ask natives bound depth looping condition item state =
        some (result, after) ∧ place.Reaches after ∧
      Alike (fun error other => error.told = other.told) Eq verdict result := by
  obtain ⟨first, asked⟩ := said
  have ended := closed.ends
    (closed.related_passes indifferent bound depth looping condition lies) place.reaches_self
    reached
  match again : place.ask natives bound depth looping condition item state with
  | none =>
      rw [show Interpreter.passes _ _ _ _ _ _ place.state = _ from asked,
        show Interpreter.passes _ _ _ _ _ _ state = _ from again] at ended
      exact ended.elim
  | some (result, after) =>
      rw [show Interpreter.passes _ _ _ _ _ _ place.state = _ from asked,
        show Interpreter.passes _ _ _ _ _ _ state = _ from again] at ended
      obtain ⟨_, _, _, alike⟩ := ended
      exact ⟨result, after, rfl, reached.ask again, alike⟩

/-- The items are kept for which the filter is true. -/
theorem Closed.keep_apply (closed : place.Closed) (indifferent : natives.Indifferent)
    {passes : Value → Bool} (lies : ∀ item ∈ items, item.Lies place.state.store)
    (said : ∀ item ∈ items,
      place.Says natives bound depth looping condition item (.ok (passes item)))
    (reached : place.Reaches state) :
    ∃ after, place.Reaches after ∧
      Loop.keep (Interpreter.passes (Interpreter.effects natives
        (Interpreter.bounded natives bound)) depth place.environment looping.targets condition)
          items state = some (.ok (items.filter passes), after) := by
  induction items generalizing state with
  | nil => exact ⟨state, reached, rfl⟩
  | cons item rest inductionHypothesis =>
      rw [List.forall_mem_cons] at lies said
      obtain ⟨result, middle, asked, reached, alike⟩ :=
        closed.alike_ask indifferent lies.1 said.1 reached
      match result, alike with
      | .ok _, rfl =>
          obtain ⟨after, reached, kept⟩ := inductionHypothesis lies.2 said.2 reached
          refine ⟨after, reached, ?_⟩
          rw [Loop.keep, Run.bind_apply,
            show Interpreter.passes _ _ _ _ _ _ state = _ from asked]
          dsimp only
          rw [Run.bind_apply, kept, List.filter_cons]
          rfl

/-- Where the filter fails for an item, none is kept. -/
theorem Closed.keep_fails (closed : place.Closed) (indifferent : natives.Indifferent)
    {before rest : List Value} {error : TemplateError}
    (lies : ∀ other ∈ before ++ item :: rest, other.Lies place.state.store)
    (said : ∀ earlier ∈ before, ∃ passed,
      place.Says natives bound depth looping condition earlier (.ok passed))
    (fails : place.Says natives bound depth looping condition item (.error error))
    (reached : place.Reaches state) :
    ∃ failure after, place.Reaches after ∧ error.told = failure.told ∧
      Loop.keep (Interpreter.passes (Interpreter.effects natives
        (Interpreter.bounded natives bound)) depth place.environment looping.targets condition)
          (before ++ item :: rest) state = some (.error failure, after) := by
  induction before generalizing state with
  | nil =>
      obtain ⟨result, after, asked, reached, alike⟩ :=
        closed.alike_ask indifferent (lies item List.mem_cons_self) fails reached
      match result, alike with
      | .error failure, same =>
          refine ⟨failure, after, reached, same, ?_⟩
          rw [List.nil_append, Loop.keep, Run.bind_apply,
            show Interpreter.passes _ _ _ _ _ _ state = _ from asked]
  | cons earlier before inductionHypothesis =>
      rw [List.forall_mem_cons] at said
      obtain ⟨⟨passed, said⟩, others⟩ := said
      have lies := List.forall_mem_cons.1 lies
      obtain ⟨result, middle, asked, reached, alike⟩ :=
        closed.alike_ask indifferent lies.1 said reached
      match result, alike with
      | .ok _, rfl =>
          obtain ⟨failure, after, reached, same, failed⟩ :=
            inductionHypothesis lies.2 others reached
          refine ⟨failure, after, reached, same, ?_⟩
          rw [List.cons_append, Loop.keep, Run.bind_apply,
            show Interpreter.passes _ _ _ _ _ _ state = _ from asked]
          dsimp only
          rw [Run.bind_apply, failed]

/-! ## The items of a loop -/

/-- The items of an iterable, of which those are kept that pass the filter if there is one. -/
theorem loopItems_apply {middle : RunState}
    (evaluated : place.evaluate natives bound depth looping.iterable = some (.ok value, middle))
    (listed : Loop.items looping.targets looping.iterable value = .ok items) :
    Interpreter.loopItems (Interpreter.effects natives (Interpreter.bounded natives bound)) depth
        place.environment looping.targets looping.iterable looping.condition place.state =
      match looping.condition with
      | none => some (.ok items, middle)
      | some condition =>
          Loop.keep (Interpreter.passes (Interpreter.effects natives
            (Interpreter.bounded natives bound)) depth place.environment looping.targets
              condition) items middle := by
  unfold Interpreter.loopItems Interpreter.evaluateAs Interpreter.evaluateAt
  rw [Run.bind_apply, Run.mapError_apply,
    show looping.iterable.evaluate _ depth place.environment place.state = _ from evaluated]
  dsimp only [Option.map_some, Except.mapError]
  rw [Run.bind_apply, listed]
  cases looping.condition with
  | none => rfl
  | some condition => rfl

theorem lists_through {listing : Expression} {middle : RunState}
    (evaluated : place.evaluate natives bound depth listing =
      some (.ok (.list items), middle)) :
    place.Lists natives bound depth (looping.through listing) items middle := by
  have listed : Loop.items (looping.through listing).targets (looping.through listing).iterable
      (.list items) = .ok items := rfl
  exact loopItems_apply evaluated listed

theorem Closed.lies_items (closed : place.Closed) (indifferent : natives.Indifferent)
    {middle : RunState}
    (evaluated : place.evaluate natives bound depth looping.iterable = some (.ok value, middle))
    (listed : Loop.items looping.targets looping.iterable value = .ok items) :
    ∀ item ∈ items, item.Lies place.state.store :=
  (Value.aboutCallables_closes _).basic.every_items
    (closed.store.lies_of_evaluate indifferent closed.scope evaluated) listed

/-- A loop renders what it renders for its items. -/
theorem Lists.render (lists : place.Lists natives bound depth looping items state)
    (tag : String) :
    place.render natives bound depth tag looping.statement =
      Interpreter.renderItems (Interpreter.effects natives (Interpreter.bounded natives bound))
        depth place.environment looping items state := by
  unfold Place.render
  rw [Interpreter.renderStatement_loop, Run.bind_apply, lists]

/-- What a loop renders for the same items is the same, whatever frames have been opened. -/
theorem Closed.observed_renderItems (closed : place.Closed) (indifferent : natives.Indifferent)
    (bound depth : Nat) (looping : Looping)
    (lies : ∀ item ∈ items, item.Lies place.state.store) {other : RunState}
    (reached : place.Reaches state) (otherReached : place.Reaches other) :
    observed (Interpreter.renderItems (Interpreter.effects natives
        (Interpreter.bounded natives bound)) depth place.environment looping items state) =
      observed (Interpreter.renderItems (Interpreter.effects natives
        (Interpreter.bounded natives bound)) depth place.environment looping items other) := by
  have handles := Matching.twin_handles indifferent bound depth
  have values : List.Forall₂ (Matching.twin.Values place.pairing) items items :=
    List.forall₂_same.2 fun item member => closed.values (lies item member)
  have related : Matching.twin.comparison.Renders place.pairing Matching.twin.comparison.done
      (Interpreter.renderItems (Interpreter.effects natives
        (Interpreter.bounded natives bound)) depth place.environment looping items)
      (Interpreter.renderItems (Interpreter.effects natives
        (Interpreter.bounded natives bound)) depth place.environment looping items) := by
    unfold Interpreter.renderItems
    split
    · exact Correspondence.openChild_bind_related closed.environments fun _ _ _ _ inner =>
        Correspondence.renderOptional_related handles looping.empty
          (Node.optionWithin_unrestricted _) inner
    · exact Correspondence.visit_related (fun _ _ => True.intro) True.intro 0
        closed.environments values fun _ _ _ _ inner =>
          Correspondence.renderNodes_related handles looping.body.nodes
            (Node.allWithin_unrestricted _) inner
  exact observed_of_ends rfl id (closed.ends related reached otherReached)

/-! ## Loops with a filter -/

/-- What a loop with a filter is, if the filter lets some items pass. -/
structure Prefilters (place : Place) (natives : Natives) (bound depth : Nat) (looping : Looping)
    (tag : String) (kept : List Value) : Prop where
  /-- It renders what is rendered for these items. -/
  renders : observed (place.render natives bound depth tag looping.statement) =
    observed (Interpreter.renderItems (Interpreter.effects natives
      (Interpreter.bounded natives bound)) depth place.environment looping kept place.state)
  /-- That is what the loop without a filter renders over them. -/
  alike : ∀ listing middle,
    place.evaluate natives bound depth listing = some (.ok (.list kept), middle) →
      observed (place.render natives bound depth tag looping.statement) =
        observed (place.render natives bound depth tag (looping.through listing).statement)
  /-- Neither of the two changes what is bound around. -/
  keeps : ∀ result after,
    place.render natives bound depth tag looping.statement = some (result, after) →
      place.state.store.Extends after.store
  keepsThrough : ∀ listing result after,
    place.render natives bound depth tag (looping.through listing).statement =
        some (result, after) →
      place.state.store.Extends after.store
  /-- Where nothing passes, the other body is rendered once if there is one. -/
  otherwise : kept = [] → ∀ other, looping.empty = some other →
    observed (place.render natives bound depth tag looping.statement) =
      observed (Interpreter.renderInside (Interpreter.ofEffects (Interpreter.effects natives
        (Interpreter.bounded natives bound))) place.environment depth other.nodes place.state)
  nothing : kept = [] → looping.empty = none →
    observed (place.render natives bound depth tag looping.statement) =
      some (.ok (), place.state.sink)
  /-- Where something passes, the other body does not matter. -/
  visited : kept ≠ [] → ∀ empty,
    place.render natives bound depth tag { looping with empty := empty }.statement =
      place.render natives bound depth tag looping.statement
  /-- The body starts for these items in order, and counts only these. -/
  starts : ∀ number item start, place.Starts natives bound depth looping number item start →
    kept[number]? = some item ∧ Loop.Counts start natives bound depth number kept.length
  /-- It starts for all of them if nothing fails. -/
  started : ∀ after, place.render natives bound depth tag looping.statement =
      some (.ok (), after) →
    ∀ number item, kept[number]? = some item →
      ∃ start, place.Starts natives bound depth looping number item start

theorem renders_extends (place : Place) (natives : Natives) (bound depth : Nat) (looping : Looping)
    (tag : String) {result : Except TemplateError Unit}
    (rendered : place.render natives bound depth tag looping.statement = some (result, after)) :
    place.state.store.Extends after.store := by
  have kept := Interpreter.effects_extends natives bound depth
  have extended : (Interpreter.renderStatement (Interpreter.effects natives
      (Interpreter.bounded natives bound)) depth place.environment tag
        looping.statement).Extends := by
    rw [Interpreter.renderStatement_loop]
    exact (Interpreter.loopItems_extends kept _ _ _ _).bind fun items =>
      Interpreter.renderItems_extends kept place.environment looping items
  exact extended rendered

/-- Where a body starts, one of the items is bound, and counted among them. -/
theorem Lists.start_eq (lists : place.Lists natives bound depth looping items state) {number : Nat}
    {start : Place} (starts : place.Starts natives bound depth looping number item start) :
    items[number]? = some item ∧ ∃ before given, Loop.bindings looping.targets item = .ok given ∧
      start = Loop.start place.environment before given number items.length := by
  obtain ⟨others, other, again, starts⟩ := starts
  cases lists.symm.trans again
  exact starts.visits.2

/-- Where a body starts, the counters are over the items that the loop visits. -/
theorem Lists.starts (lists : place.Lists natives bound depth looping items state) {number : Nat}
    {start : Place} (starts : place.Starts natives bound depth looping number item start) :
    items[number]? = some item ∧ Loop.Counts start natives bound depth number items.length := by
  obtain ⟨found, before, given, _, rfl⟩ := lists.start_eq starts
  exact ⟨found, Loop.start_counts⟩

/-- A body starts at one place in each iteration. -/
theorem Starts.unique {number : Nat} {start other : Place}
    (starts : place.Starts natives bound depth looping number item start)
    (others : place.Starts natives bound depth looping number value other) :
    item = value ∧ start = other := by
  obtain ⟨items, state, lists, starts⟩ := starts
  obtain ⟨_, _, again, others⟩ := others
  cases lists.symm.trans again
  exact starts.unique others

/-- A loop that succeeds has started its body for each of its items. -/
theorem Lists.started (lists : place.Lists natives bound depth looping items state)
    {tag : String}
    (rendered : place.render natives bound depth tag looping.statement = some (.ok (), after))
    {number : Nat} (found : items[number]? = some item) :
    ∃ start, place.Starts natives bound depth looping number item start := by
  rw [lists.render] at rendered
  cases items with
  | nil => simp at found
  | cons first rest =>
      obtain ⟨start, starts⟩ := Loop.exists_starts_of_visit rendered found
      rw [Nat.zero_add] at starts
      exact ⟨start, _, _, lists, starts⟩

/-- What a loop renders when it is known which items it visits. -/
theorem Closed.prefilters_of_lists (closed : place.Closed) (indifferent : natives.Indifferent)
    (lies : ∀ item ∈ items, item.Lies place.state.store)
    (lists : place.Lists natives bound depth looping items state) (reached : place.Reaches state)
    (tag : String) : place.Prefilters natives bound depth looping tag items where
  renders := by
    rw [lists.render]
    exact closed.observed_renderItems indifferent bound depth looping lies reached
      place.reaches_self
  alike listing middle evaluated := by
    have through : place.Lists natives bound depth (looping.through listing) items middle :=
      lists_through evaluated
    rw [lists.render, through.render]
    exact closed.observed_renderItems indifferent bound depth looping lies reached
      (place.reaches_self.evaluate evaluated)
  keeps _ _ := renders_extends place natives bound depth looping tag
  keepsThrough listing _ _ :=
    renders_extends place natives bound depth (looping.through listing) tag
  otherwise := by
    rintro rfl ⟨nodes, endTag, position⟩ other
    rw [lists.render,
      closed.observed_renderItems indifferent bound depth looping lies reached place.reaches_self]
    unfold Interpreter.renderItems
    rw [other]
    rfl
  nothing := by
    rintro rfl absent
    rw [lists.render]
    unfold Interpreter.renderItems
    rw [absent]
    change some (Except.ok (), state.sink) = _
    rw [reached.sink]
  visited nonempty empty := by
    have others : place.Lists natives bound depth { looping with empty := empty } items state :=
      lists
    rw [lists.render, others.render]
    cases items with
    | nil => exact absurd rfl nonempty
    | cons first rest => rfl
  starts _ _ _ := lists.starts
  started _ rendered _ _ := lists.started rendered

/-- A filter of a loop is asked about all items before the loop visits any.  Take a loop with a
filter whose iterable has some items, in any scope of a closed store.  Where the filter fails for
an item, or the item cannot be unpacked, the loop fails in the same way and has written nothing.
Otherwise it renders what the same loop without a filter renders over the items that pass. -/
theorem filter_prefilters (closed : place.Closed) (indifferent : natives.Indifferent)
    (filtered : looping.condition = some condition) {middle : RunState}
    (evaluated : place.evaluate natives bound depth looping.iterable = some (.ok value, middle))
    (listed : Loop.items looping.targets looping.iterable value = .ok items) (tag : String) :
    (∀ before item rest error, items = before ++ item :: rest →
      (∀ earlier ∈ before, ∃ passed,
        place.Says natives bound depth looping condition earlier (.ok passed)) →
      place.Says natives bound depth looping condition item (.error error) →
        ∃ failure after,
          place.render natives bound depth tag looping.statement = some (.error failure, after) ∧
            failure.told = error.told ∧ after.sink = place.state.sink ∧
              place.state.store.Extends after.store) ∧
    ∀ passes : Value → Bool,
      (∀ item ∈ items,
        place.Says natives bound depth looping condition item (.ok (passes item))) →
      place.Prefilters natives bound depth looping tag (items.filter passes) := by
  have lies := closed.lies_items indifferent evaluated listed
  have reached := place.reaches_self.evaluate evaluated
  have kept := loopItems_apply evaluated listed
  simp only [filtered] at kept
  constructor
  · rintro before item rest error rfl said fails
    obtain ⟨failure, after, ended, same, failed⟩ :=
      closed.keep_fails indifferent lies said fails reached
    refine ⟨failure, after, ?_, same.symm, ended.sink, ended.store⟩
    unfold Place.render
    rw [Interpreter.renderStatement_loop, Run.bind_apply, filtered, kept, failed]
  · intro passes said
    obtain ⟨state, ended, found⟩ := closed.keep_apply indifferent lies said reached
    have lists : place.Lists natives bound depth looping (items.filter passes) state := by
      unfold Lists
      rw [filtered, kept, found]
    exact closed.prefilters_of_lists indifferent
      (fun item member => lies item (List.mem_of_mem_filter member)) lists ended tag

/-- A place where a map is bound, whose values are true or false. -/
def marking : Place where
  environment := Interpreter.solitary.within
    (Store.empty.scopeOf [("m", .map [("a", .bool true), ("b", .bool false), ("c", .bool true)])]).1
  state := ⟨(Store.empty.scopeOf
    [("m", .map [("a", .bool true), ("b", .bool false), ("c", .bool true)])]).2, Sink.unlimited⟩

/-- A loop over the entries of the map that writes the keys of what is true. -/
def marked : Looping where
  targets := ["k", "v"]
  iterable := .name "m" .start
  condition := some (.name "v" .start)
  body := ⟨[.output ⟨.name "k" .start, none, none, .start⟩], none, .start⟩
  empty := none

/-- The same loop with one target too many. -/
def crowded : Looping :=
  { marked with targets := ["k", "v", "w"] }

/-- Whether an entry is one of the map whose value is true. -/
def isMarked : Value → Bool
  | .list [_, .bool marked] => marked
  | _ => false

/-- The keys of what is true are written.  An entry cannot be unpacked into three targets. -/
theorem filter_prefilters_marked :
    observed (marking.render .standard 1 0 "for" marked.statement) =
        some (.ok (), ⟨#["a", "c"], none⟩) ∧
      marking.Prefilters .standard 1 0 marked "for"
        [.list [.plain "a", .bool true], .list [.plain "c", .bool true]] ∧
      ∃ failure after,
        marking.render .standard 1 0 "for" crowded.statement = some (.error failure, after) ∧
          after.sink = Sink.unlimited := by
  have plain : ∀ entry ∈
      [("m", Value.map [("a", .bool true), ("b", .bool false), ("c", .bool true)])],
      entry.2.Every (Value.Closes fun _ => False) :=
    List.forall_mem_singleton.2 ⟨True.intro, True.intro, True.intro, True.intro⟩
  obtain ⟨store, scope⟩ := Store.closed_scopeOf plain
  have closed : marking.Closed := ⟨store, scope⟩
  have evaluated : marking.evaluate .standard 1 0 marked.iterable =
      some (.ok (.map [("a", .bool true), ("b", .bool false), ("c", .bool true)]),
        marking.state) := rfl
  have filtered := filter_prefilters closed Natives.standard_indifferent
    (show marked.condition = some _ from rfl) evaluated rfl "for"
  have unpacked := filter_prefilters closed Natives.standard_indifferent
    (show crowded.condition = some _ from rfl) evaluated rfl
      "for"
  refine ⟨rfl, filtered.2 isMarked ?_, ?_⟩
  · simp only [List.map_cons, List.map_nil, List.forall_mem_cons]
    exact ⟨⟨_, rfl⟩, ⟨_, rfl⟩, ⟨_, rfl⟩, List.forall_mem_nil _⟩
  · obtain ⟨failure, after, rendered, _, written, _⟩ :=
      unpacked.1 [] _ _ _ rfl (List.forall_mem_nil _) ⟨_, rfl⟩
    exact ⟨failure, after, rendered, written⟩

/-! ## Native functions that tell frames apart -/

/-- A native function that tells how many frames had been opened before the scope of a macro. -/
def numbering : Natives := fun _ arguments =>
  match arguments.at? 0 with
  | some (.closure closure) => .plain (toString closure.environment.scope.frame)
  | _ => .nil

/-- A macro without parameters. -/
private def bare (name : String) (nodes : List Node) : Definition Node :=
  ⟨name, [], ⟨nodes, none, .start⟩, .start⟩

/-- A scope with a native function. -/
private def furnished : Scope × Store :=
  Store.empty.scopeOf [("f", .function (.native "f"))]

/-- A macro that defines a macro when it is called, which keeps the frame of the call alive. -/
private def hoarder : Value :=
  .closure ⟨bare "k" [.statement "macro" (.definition (bare "i" [])) .start,
    .data "kept" ⟨false, false⟩ .start], Interpreter.solitary.within furnished.1⟩

/-- A place where a native function and this macro are bound. -/
def hoarding : Place where
  environment := Interpreter.solitary.within furnished.1
  state := ⟨furnished.2.bind furnished.1 "k" hoarder, Sink.unlimited⟩

/-- A call of the macro, which is true. -/
def hoards : Expression :=
  .call (.name "k" .start) ⟨[], []⟩ .start

/-- A loop over one item that passes the call, with a body that defines a macro and shows it to
the native function. -/
def numbered : Looping where
  targets := ["x"]
  iterable := .list [.literal (.string "a") .start] .start
  condition := some hoards
  body := ⟨[.statement "macro" (.definition (bare "m" [])) .start,
    .output ⟨.call (.name "f" .start) ⟨[.name "m" .start], []⟩ .start, none, none, .start⟩], none,
      .start⟩
  empty := none

private theorem closed_hoarding : hoarding.Closed := by
  have lies : furnished.1.Lies hoarding.state.store :=
    ⟨by decide, by decide⟩
  have native : ∀ entry ∈ [("f", Value.function (.native "f"))],
      entry.2.Lies hoarding.state.store :=
    List.forall_mem_singleton.2 True.intro
  have opened : furnished.2.Holds (Value.Lies hoarding.state.store) := Store.holds_scopeOf native
  have bound : hoarder.Lies hoarding.state.store := lies
  exact ⟨⟨opened.bind bound furnished.1⟩, lies⟩

/-- A native function may look into a macro.  Before the body defines the macro, the filter has
opened frames, one of which stays alive, and the loop writes another text than the loop without a
filter over the same item. -/
theorem numbering_tells_apart :
    hoarding.Closed ∧
      hoarding.evaluate numbering 3 0 numbered.iterable =
        some (.ok (.list [.plain "a"]), hoarding.state) ∧
      hoarding.Says numbering 3 0 numbered hoards (.plain "a") (.ok true) ∧
      observed (hoarding.render numbering 3 0 "for" numbered.statement) =
        some (.ok (), ⟨#["3"], none⟩) ∧
      observed (hoarding.render numbering 3 0 "for" (numbered.through numbered.iterable).statement) =
        some (.ok (), ⟨#["1"], none⟩) ∧
      ¬ hoarding.Prefilters numbering 3 0 numbered "for" [.plain "a"] := by
  have evaluated : hoarding.evaluate numbering 3 0 numbered.iterable =
      some (.ok (.list [.plain "a"]), hoarding.state) := rfl
  have filtered : observed (hoarding.render numbering 3 0 "for" numbered.statement) =
      some (.ok (), ⟨#["3"], none⟩) := rfl
  have unfiltered : observed (hoarding.render numbering 3 0 "for"
      (numbered.through numbered.iterable).statement) = some (.ok (), ⟨#["1"], none⟩) := rfl
  refine ⟨closed_hoarding, evaluated, ⟨_, rfl⟩, filtered, unfiltered, fun prefilters => ?_⟩
  have same := prefilters.alike _ _ evaluated
  rw [filtered, unfiltered] at same
  simp at same

end Place

end TemplateEngine

import TemplateEngine.Proofs.Filtering
import TemplateEngine.Proofs.ScopeTree
import TemplateEngine.Proofs.Whole

/-!
# Indexes and iterations

A list or a string has an item at each of some places.  Indexes count them from either end, loops
visit them in turn and count their iterations both ways, and filters give their number and the
first and the last of them.  These agree, and so do loops over a map with what is looked up in it,
as long as numbers can tell the places apart.
-/

namespace TemplateEngine

namespace Value

variable {value : Value} {items : List Value} {selector : Float} {index : Int} {size place : Nat}

/-- The items of a list, or the characters of a string. -/
def sequence? : Value → Option (List Value)
  | .list items => some items
  | .string content _ =>
      some (content.toList.map fun character => .plain (String.ofList [character]))
  | _ => none

/-- A loop visits the items, whatever its targets are. -/
theorem items_of_sequence? (listed : value.sequence? = some items) (targets : List String)
    (iterable : Expression) : Loop.items targets iterable value = .ok items := by
  cases value with
  | list | string =>
      cases listed
      rfl
  | _ => cases listed

theorem length?_of_sequence? (listed : value.sequence? = some items) :
    value.length? = some items.length := by
  cases value with
  | list =>
      cases listed
      rfl
  | string content mark =>
      cases listed
      rw [List.length_map, String.length_toList]
      rfl
  | _ => cases listed

theorem item?_of_sequence? (listed : value.sequence? = some items) (selector : Float) :
    value.item? (.number selector) = (index? selector items.length).bind (items[·]?) := by
  cases value with
  | list =>
      cases listed
      rfl
  | string content mark =>
      cases listed
      rw [List.length_map]
      simp only [item?, List.getElem?_map]
      cases index? selector content.toList.length with
      | none => rfl
      | some place =>
          change (content.toList[place]?.bind fun character => some _) =
            content.toList[place]?.map _
          rw [Option.map_eq_bind]
          rfl
  | _ => cases listed

/-- A whole number selects a place that it counts from the start or from the end. -/
theorem index?_eq_some_iff (whole : Number.integer? selector = some index)
    (small : index.natAbs < 2 ^ 53) :
    index? selector size = some place ↔ place < size ∧ (index = place ∨ index = place - size) := by
  unfold index?
  rw [Number.clampedInteger?_of_small whole small]
  simp only [Option.bind_eq_bind, Option.bind_some]
  split <;> rename_i negative <;> split <;>
    simp only [Option.some.injEq, reduceCtorEq, false_iff] <;> omega

/-- What a place has is the item at both of its indexes. -/
theorem item?_eq_getElem? (listed : value.sequence? = some items)
    (whole : Number.integer? selector = some index) (small : index.natAbs < 2 ^ 53)
    (present : place < items.length) (same : index = place ∨ index = place - items.length) :
    value.item? (.number selector) = items[place]? := by
  rw [item?_of_sequence? listed, (index?_eq_some_iff whole small).2 ⟨present, same⟩,
    Option.bind_some]

/-- There is no item at other indexes. -/
theorem item?_eq_none (listed : value.sequence? = some items)
    (whole : Number.integer? selector = some index) (small : index.natAbs < 2 ^ 53)
    (outside : ∀ place < items.length, index ≠ place ∧ index ≠ place - items.length) :
    value.item? (.number selector) = none := by
  rw [item?_of_sequence? listed]
  cases selected : index? selector items.length with
  | none => rfl
  | some place =>
      obtain ⟨present, same⟩ := (index?_eq_some_iff whole small).1 selected
      obtain ⟨notFromStart, notFromEnd⟩ := outside place present
      exact absurd same (not_or.2 ⟨notFromStart, notFromEnd⟩)

/-- The first and the last item are those at the indexes zero and minus one. -/
theorem item?_ofInt (listed : value.sequence? = some items) (small : index.natAbs < 2 ^ 53)
    (present : place < items.length) (same : index = place ∨ index = place - items.length) :
    value.item? (.ofInt index) = items[place]? :=
  item?_eq_getElem? listed (Number.integer?_ofInt small) small present same

theorem item?_ofInt_of_empty (listed : value.sequence? = some items)
    (small : index.natAbs < 2 ^ 53) (empty : items = []) :
    value.item? (.ofInt index) = none :=
  item?_eq_none listed (Number.integer?_ofInt small) small (by simp [empty])

/-- Integers of at most 53 bits are told apart as numbers. -/
theorem ofInt_inj {index other : Int} (small : index.natAbs < 2 ^ 53)
    (otherSmall : other.natAbs < 2 ^ 53) (same : ofInt index = ofInt other) : index = other := by
  have numbers : Number.ofInt index = Number.ofInt other := by
    simpa only [ofInt, number.injEq] using same
  have read := Number.integer?_ofInt small
  rw [numbers, Number.integer?_ofInt otherSmall] at read
  exact (Option.some.inj read).symm

end Value

namespace Place

/-! ## Reading what an expression has -/

variable (place : Place) (natives : Natives) (bound depth : Nat)

/-- What an expression, once it has been evaluated, has at an index that is a whole number. -/
def Selects (target : Expression) (between : RunState) (number : Int)
    (result : Expression → Except EvalError Value) : Prop :=
  ∀ index selector after position,
    (Place.mk place.environment between).evaluate natives bound depth index =
      some (.ok (.number selector), after) →
    Number.integer? selector = some number →
      place.evaluate natives bound depth (.item target index position) =
        some (result index, after)

/-- The value that a counter of the innermost loop has at a place. -/
def Counter (name : String) (number : Int) : Prop :=
  ∃ read selected,
    place.Has natives bound depth (.member (.name "loop" read) name selected) (.ofInt number)

variable {place natives bound depth} {target index : Expression} {value key item : Value}
variable {between after : RunState} {items : List Value}

/-! ## Loops over a list or a string -/

/-- How reading a list or a string agrees with a loop over the same one. -/
structure Indexes (place : Place) (natives : Natives) (bound depth : Nat) (looping : Looping)
    (tag : String) (reading : Place) (target : Expression) (between : RunState)
    (items : List Value) : Prop where
  /-- The items are visited in order, and counted. -/
  visits : ∀ number item start, place.Starts natives bound depth looping number item start →
    items[number]? = some item ∧ Loop.Counts start natives bound depth number items.length
  /-- A single target is bound to the item. -/
  binds : ∀ name, looping.targets = [name] → name ≠ "loop" → ∀ number item start,
    place.Starts natives bound depth looping number item start →
      ∀ position, start.Has natives bound depth (.name name position) item
  /-- All of them are visited if no iteration fails. -/
  started : ∀ after, place.render natives bound depth tag looping.statement =
      some (.ok (), after) →
    ∀ number item, items[number]? = some item →
      ∃ start, place.Starts natives bound depth looping number item start
  /-- An index from zero on selects what is visited with that index. -/
  forward : ∀ index : Int, 0 ≤ index → index.natAbs < 2 ^ 53 → ∀ number item start,
    place.Starts natives bound depth looping number item start →
      start.Counter natives bound depth "index0" index →
        reading.Selects natives bound depth target between index fun _ => .ok item
  /-- A negative index selects what is visited with so many items to come. -/
  backward : ∀ index : Int, index < 0 → index.natAbs < 2 ^ 53 → ∀ number item start,
    place.Starts natives bound depth looping number item start →
      start.Counter natives bound depth "revindex" (-index) →
        reading.Selects natives bound depth target between index fun _ => .ok item
  /-- What no iteration of a whole loop has for its index is undefined, at both ends. -/
  beyond : ∀ index : Int, 0 ≤ index → index.natAbs < 2 ^ 53 → ∀ after,
    place.render natives bound depth tag looping.statement = some (.ok (), after) →
      (∀ number item start, place.Starts natives bound depth looping number item start →
        ¬start.Counter natives bound depth "index0" index) →
      reading.Selects natives bound depth target between index fun read =>
        Expression.undefined reading.environment (.noItem target read)
  before : ∀ index : Int, index < 0 → index.natAbs < 2 ^ 53 → ∀ after,
    place.render natives bound depth tag looping.statement = some (.ok (), after) →
      (∀ number item start, place.Starts natives bound depth looping number item start →
        ¬start.Counter natives bound depth "revindex" (-index)) →
      reading.Selects natives bound depth target between index fun read =>
        Expression.undefined reading.environment (.noItem target read)
  /-- The length is what each iteration counts. -/
  length : reading.environment.registries.filters.get? "length" = some .length → ∀ position,
    reading.evaluate natives bound depth (.filter target "length" ⟨[], []⟩ position) =
      some (.ok (.ofNat items.length), between)
  /-- The first and the last item are what is visited first and last, or nothing. -/
  first : reading.environment.registries.filters.get? "first" = some .first → ∀ item start,
    place.Starts natives bound depth looping 0 item start → ∀ position,
      reading.evaluate natives bound depth (.filter target "first" ⟨[], []⟩ position) =
        some (.ok item, between)
  last : reading.environment.registries.filters.get? "last" = some .last →
    ∀ number item start, place.Starts natives bound depth looping number item start →
      number + 1 = items.length → ∀ position,
        reading.evaluate natives bound depth (.filter target "last" ⟨[], []⟩ position) =
          some (.ok item, between)
  noFirst : reading.environment.registries.filters.get? "first" = some .first → items = [] →
    ∀ position,
      reading.evaluate natives bound depth (.filter target "first" ⟨[], []⟩ position) =
        some (.ok .nil, between)
  noLast : reading.environment.registries.filters.get? "last" = some .last → items = [] →
    ∀ position,
      reading.evaluate natives bound depth (.filter target "last" ⟨[], []⟩ position) =
        some (.ok .nil, between)

variable {looping : Looping} {reading start : Place} {middle : RunState} {number : Nat}

/-- A loop without a filter visits the items of its iterable. -/
theorem lists_of_unfiltered (unfiltered : looping.condition = none)
    (evaluated : place.evaluate natives bound depth looping.iterable = some (.ok value, middle))
    (listed : Loop.items looping.targets looping.iterable value = .ok items) :
    place.Lists natives bound depth looping items middle := by
  unfold Lists
  rw [loopItems_apply evaluated listed, unfiltered]

theorem Counter.eq {name : String} {counted index : Int}
    (counts : ∀ read selected, place.Has natives bound depth
      (.member (.name "loop" read) name selected) (.ofInt counted))
    (counter : place.Counter natives bound depth name index)
    (small : index.natAbs < 2 ^ 53) (few : counted.natAbs < 2 ^ 53) : index = counted := by
  obtain ⟨read, selected, has⟩ := counter
  exact Value.ofInt_inj small few (has.unique (counts read selected))

/-- An index selects an item of the sequence that an expression is. -/
theorem selects_item (evaluated : reading.evaluate natives bound depth target =
      some (.ok value, between)) (listed : value.sequence? = some items)
    {index : Int} (small : index.natAbs < 2 ^ 53) (found : items[number]? = some item)
    (sound : item.isError = false) (same : index = number ∨ index = number - items.length) :
    reading.Selects natives bound depth target between index fun _ => .ok item := by
  intro selector key after position selected whole
  have present : number < items.length := (List.getElem?_eq_some_iff.1 found).1
  rw [evaluate_item evaluated selected position,
    Value.item?_eq_getElem? listed whole small present same, found]
  exact congrArg (fun result => some (result, after)) (Value.checked_eq_ok sound)

/-- Other indexes select nothing. -/
theorem selects_undefined (evaluated : reading.evaluate natives bound depth target =
      some (.ok value, between)) (listed : value.sequence? = some items)
    {index : Int} (small : index.natAbs < 2 ^ 53)
    (outside : ∀ number < items.length, index ≠ number ∧ index ≠ number - items.length) :
    reading.Selects natives bound depth target between index fun read =>
      Expression.undefined reading.environment (.noItem target read) := by
  intro selector key after position selected whole
  rw [evaluate_item evaluated selected position, Value.item?_eq_none listed whole small outside]
  rfl

/-- The filters for the first and the last item read what is at these indexes. -/
theorem evaluate_end (evaluated : reading.evaluate natives bound depth target =
      some (.ok value, between)) {used : String} {filter : Filter} {index : Int}
    (ordinary : Expression.inspectsUndefined used = false)
    (registered : reading.environment.registries.filters.get? used = some filter)
    (ends : ∀ autoescape given,
      filter.apply autoescape value given = (value.item? (.ofInt index)).getD .nil)
    {found : Option Value} (selected : value.item? (.ofInt index) = found)
    (sound : (found.getD .nil).isError = false) (position : Position) :
    reading.evaluate natives bound depth (.filter target used ⟨[], []⟩ position) =
      some (.ok (found.getD .nil), between) := by
  rw [evaluate_filter evaluated rfl ordinary registered position, ends, selected,
    Value.checked_eq_ok sound]

/-- Reading a list or a string agrees with a loop that visits its items. -/
theorem Lists.indexes (lists : place.Lists natives bound depth looping items middle)
    (evaluated : reading.evaluate natives bound depth target = some (.ok value, between))
    (listed : value.sequence? = some items) (few : items.length < 2 ^ 53)
    (sound : ∀ item ∈ items, item.isError = false) (tag : String) :
    place.Indexes natives bound depth looping tag reading target between items where
  visits _ _ _ := lists.starts
  binds name single ordinary number item start starts position := by
    obtain ⟨found, before, given, bindings, rfl⟩ := lists.start_eq starts
    rw [single] at bindings
    cases bindings
    have last : List.lookup name [(name, item)].reverse = some item := by simp
    exact Loop.start_has ordinary last (sound item (List.mem_of_getElem? found)) position
  started _ rendered _ _ := lists.started rendered
  forward index positive small number item start starts counter := by
    obtain ⟨found, counts⟩ := lists.starts starts
    have present := (List.getElem?_eq_some_iff.1 found).1
    have same : index = (number : Int) := counter.eq counts.index0 small (by omega)
    exact selects_item evaluated listed small found (sound item (List.mem_of_getElem? found))
      (.inl same)
  backward index negative small number item start starts counter := by
    obtain ⟨found, counts⟩ := lists.starts starts
    have present := (List.getElem?_eq_some_iff.1 found).1
    have same : -index = ((items.length - number : Nat) : Int) :=
      counter.eq counts.revindex (by omega) (by omega)
    exact selects_item evaluated listed small found (sound item (List.mem_of_getElem? found))
      (.inr (by omega))
  beyond index positive small after rendered absent := by
    refine selects_undefined evaluated listed small fun number present => ⟨?_, by omega⟩
    rintro rfl
    obtain ⟨start, starts⟩ := lists.started rendered (List.getElem?_eq_getElem present)
    have counts := (lists.starts starts).2
    exact absent _ _ _ starts ⟨.start, .start, counts.index0 .start .start⟩
  before index negative small after rendered absent := by
    refine selects_undefined evaluated listed small fun number present => ⟨by omega, ?_⟩
    intro same
    obtain ⟨start, starts⟩ := lists.started rendered (List.getElem?_eq_getElem present)
    have counts := (lists.starts starts).2
    have toCome : -index = ((items.length - number : Nat) : Int) := by omega
    refine absent _ _ _ starts ⟨.start, .start, ?_⟩
    rw [toCome]
    exact counts.revindex .start .start
  length registered position := by
    have measured : Filter.lengthOf value = .ofNat items.length := by
      rw [Filter.lengthOf, Value.length?_of_sequence? listed]
    rw [evaluate_filter evaluated rfl rfl registered position, Filter.apply, measured]
    rfl
  first registered item start starts position := by
    have found := (lists.starts starts).1
    have present := (List.getElem?_eq_some_iff.1 found).1
    exact evaluate_end evaluated rfl registered (fun _ _ => rfl)
      ((Value.item?_ofInt listed (by decide) present (.inl rfl)).trans found)
      (sound item (List.mem_of_getElem? found)) position
  last registered number item start starts final position := by
    have found := (lists.starts starts).1
    have present := (List.getElem?_eq_some_iff.1 found).1
    exact evaluate_end evaluated rfl registered (fun _ _ => rfl)
      ((Value.item?_ofInt listed (by decide) present (.inr (by omega))).trans found)
      (sound item (List.mem_of_getElem? found)) position
  noFirst registered empty position :=
    evaluate_end evaluated rfl registered (fun _ _ => rfl)
      (Value.item?_ofInt_of_empty listed (by decide) empty) rfl position
  noLast registered empty position :=
    evaluate_end evaluated rfl registered (fun _ _ => rfl)
      (Value.item?_ofInt_of_empty listed (by decide) empty) rfl position

/-! ## Loops over a map -/

/-- How reading a map agrees with a loop over the same one. -/
structure Associates (place : Place) (natives : Natives) (bound depth : Nat) (looping : Looping)
    (tag : String) (reading : Place) (target : Expression) (between : RunState)
    (entries : Table Value) : Prop where
  /-- A single target is bound to the keys in turn. -/
  keys : ∀ name, looping.targets = [name] → ∀ number item start,
    place.Starts natives bound depth looping number item start →
      ∃ key value, entries[number]? = some (key, value) ∧ item = .plain key ∧
        (name ≠ "loop" → ∀ position, start.Has natives bound depth (.name name position)
          (.plain key))
  /-- Two targets are bound to the same keys in the same order, and to their values. -/
  pairs : ∀ name other, looping.targets = [name, other] → ∀ number item start,
    place.Starts natives bound depth looping number item start →
      ∃ key value, entries[number]? = some (key, value) ∧ item = .list [.plain key, value] ∧
        (name ≠ "loop" → name ≠ other → ∀ position,
          start.Has natives bound depth (.name name position) (.plain key)) ∧
        (other ≠ "loop" → ∀ position, start.Has natives bound depth (.name other position) value)
  /-- Each key is visited if no iteration fails, and none is visited again. -/
  started : ∀ after, place.render natives bound depth tag looping.statement =
      some (.ok (), after) →
    ∀ number < entries.length,
      ∃ item start, place.Starts natives bound depth looping number item start
  once : ∀ number item start other visited otherStart,
    place.Starts natives bound depth looping number item start →
      place.Starts natives bound depth looping other visited otherStart →
        ∀ key value second, entries[number]? = some (key, value) →
          entries[other]? = some (key, second) →
            number = other ∧ item = visited ∧ start = otherStart
  /-- What is looked up under a key is its value. -/
  item : ∀ key value, (key, value) ∈ entries → ∀ index mark after position,
    (Place.mk reading.environment between).evaluate natives bound depth index =
      some (.ok (.string key mark), after) →
        reading.evaluate natives bound depth (.item target index position) =
          some (.ok value, after)
  member : ∀ key value, (key, value) ∈ entries → ∀ position,
    reading.evaluate natives bound depth (.member target key position) =
      some (.ok value, between)

variable {entries : Table Value}

/-- Reading a map agrees with a loop that visits its keys or entries. -/
theorem Lists.associates (lists : place.Lists natives bound depth looping items middle)
    (listed : Loop.items looping.targets looping.iterable (.map entries) = .ok items)
    (evaluated : reading.evaluate natives bound depth target = some (.ok (.map entries), between))
    (distinct : entries.names.Nodup) (sound : ∀ entry ∈ entries, entry.2.isError = false)
    (tag : String) :
    place.Associates natives bound depth looping tag reading target between entries where
  keys name single number item start starts := by
    obtain ⟨found, before, given, bindings, rfl⟩ := lists.start_eq starts
    rw [single] at listed bindings
    cases listed
    cases bindings
    rw [List.getElem?_map] at found
    obtain ⟨⟨key, value⟩, isEntry, rfl⟩ := Option.map_eq_some_iff.1 found
    refine ⟨key, value, isEntry, rfl, fun ordinary position => ?_⟩
    have last : List.lookup name [(name, Value.plain key)].reverse = some (.plain key) := by simp
    exact Loop.start_has ordinary last rfl position
  pairs name other double number item start starts := by
    obtain ⟨found, before, given, bindings, rfl⟩ := lists.start_eq starts
    rw [double] at listed bindings
    cases listed
    rw [List.getElem?_map] at found
    obtain ⟨⟨key, value⟩, isEntry, rfl⟩ := Option.map_eq_some_iff.1 found
    cases bindings
    refine ⟨key, value, isEntry, rfl, fun ordinary different position => ?_,
      fun ordinary position => ?_⟩
    · have first : List.lookup name [(name, Value.plain key), (other, value)].reverse =
          some (.plain key) := by
        simp [List.lookup_cons, beq_eq_false_iff_ne.2 different]
      exact Loop.start_has ordinary first rfl position
    · have last : List.lookup other [(name, Value.plain key), (other, value)].reverse =
          some value := by
        simp
      exact Loop.start_has ordinary last (sound _ (List.mem_of_getElem? isEntry)) position
  started after rendered number present := by
    have same : items.length = entries.length := by
      rw [Loop.items] at listed
      split at listed <;> cases listed <;> exact List.length_map _
    obtain ⟨start, starts⟩ := lists.started rendered (List.getElem?_eq_getElem (same ▸ present))
    exact ⟨_, start, starts⟩
  once number item start other visited otherStart starts others key value second found again := by
    have names : ∀ (place : Nat) (value : Value), entries[place]? = some (key, value) →
        entries.names[place]? = some key := by
      intro place value isEntry
      rw [Table.names, List.getElem?_map, isEntry]
      rfl
    have present := (List.getElem?_eq_some_iff.1 (names _ _ found)).1
    obtain rfl : number = other :=
      (List.getElem?_inj present distinct).1 ((names _ _ found).trans (names _ _ again).symm)
    exact ⟨rfl, starts.unique others⟩
  item key value isEntry index mark after position selected := by
    have found : (Value.map entries).item? (.string key mark) = some value :=
      (Table.lookup_eq_some_iff distinct).2 isEntry
    rw [evaluate_item evaluated selected position, found, Expression.foundOr,
      Value.checked_eq_ok (sound _ isEntry)]
  member key value isEntry position := by
    have found : (Value.map entries).member? key = some value :=
      (Table.lookup_eq_some_iff distinct).2 isEntry
    rw [evaluate_member evaluated key position, found, Expression.foundOr,
      Value.checked_eq_ok (sound _ isEntry)]

/-- Indexing agrees with iteration.  Take a loop without a filter, and an expression that has the
value of its iterable somewhere.  If that is a list or a string, of fewer items than numbers can
tell apart, an index selects what the loop visits with the same count from either end, and the
filters for the length, the first and the last item give what the loop counts and visits.  If it
is a map, in which each name has one entry, the loop visits each key once in order, with what is
looked up under it. -/
theorem indexing_agrees (unfiltered : looping.condition = none)
    (evaluated : place.evaluate natives bound depth looping.iterable = some (.ok value, middle))
    (read : reading.evaluate natives bound depth target = some (.ok value, between))
    (tag : String) :
    (∀ items, value.sequence? = some items → items.length < 2 ^ 53 →
      (∀ item ∈ items, item.isError = false) →
        place.Indexes natives bound depth looping tag reading target between items) ∧
    ∀ entries : Table Value, value = .map entries → entries.names.Nodup →
      (∀ entry ∈ entries, entry.2.isError = false) →
        place.Associates natives bound depth looping tag reading target between entries := by
  constructor
  · intro items listed few sound
    have lists := lists_of_unfiltered unfiltered evaluated
      (Value.items_of_sequence? listed looping.targets looping.iterable)
    exact lists.indexes read listed few sound tag
  · rintro entries rfl distinct sound
    obtain ⟨items, listed⟩ : ∃ items,
        Loop.items looping.targets looping.iterable (.map entries) = .ok items := by
      rw [Loop.items]
      split <;> exact ⟨_, rfl⟩
    have lists := lists_of_unfiltered unfiltered evaluated listed
    exact lists.associates listed read distinct sound tag

/-- A place where a word and a map are bound. -/
def shelf : Place where
  environment := Interpreter.solitary.within
    (Store.empty.scopeOf [("x", .plain "añb"), ("m", .map [("k", .bool true)])]).1
  state := ⟨(Store.empty.scopeOf [("x", .plain "añb"), ("m", .map [("k", .bool true)])]).2,
    Sink.unlimited⟩

/-- A loop over the characters of the word. -/
def spelling : Looping where
  targets := ["v"]
  iterable := .name "x" .start
  condition := none
  body := ⟨[.output ⟨.name "v" .start, none, none, .start⟩], none, .start⟩
  empty := none

/-- A loop over the entries of the map. -/
def labelling : Looping :=
  { spelling with targets := ["k", "v"], iterable := .name "m" .start }

/-- The character at minus one is visited last, and there is none at three.  The only entry of the
map is bound to both targets. -/
theorem indexing_agrees_spelling :
    (∃ start, shelf.Starts .standard 1 0 spelling 2 (.plain "b") start ∧
      start.Counter .standard 1 0 "revindex" 1) ∧
    shelf.Selects .standard 1 0 (.name "x" .start) shelf.state (-1) (fun _ => .ok (.plain "b")) ∧
    shelf.Selects .standard 1 0 (.name "x" .start) shelf.state 3 (fun _ => .ok .nil) ∧
    shelf.evaluate .standard 1 0 (.filter (.name "x" .start) "length" ⟨[], []⟩ .start) =
      some (.ok (.ofNat 3), shelf.state) ∧
    ∃ start, shelf.Starts .standard 1 0 labelling 0 (.list [.plain "k", .bool true]) start ∧
      start.Has .standard 1 0 (.name "v" .start) (.bool true) := by
  have word : shelf.evaluate .standard 1 0 spelling.iterable =
      some (.ok (.plain "añb"), shelf.state) := rfl
  have map : shelf.evaluate .standard 1 0 labelling.iterable =
      some (.ok (.map [("k", .bool true)]), shelf.state) := rfl
  have characters := (indexing_agrees rfl word word "for").1
    [.plain "a", .plain "ñ", .plain "b"] rfl (by decide) (by simp [Value.plain, Value.isError])
  have entry := (indexing_agrees rfl map map "for").2 _ rfl (by decide) (by simp [Value.isError])
  obtain ⟨start, starts⟩ := characters.started _ rfl 2 _ rfl
  have counts := (characters.visits _ _ _ starts).2
  refine ⟨⟨start, starts, .start, .start, counts.revindex .start .start⟩,
    characters.backward (-1) (by decide) (by decide) 2 _ start starts
      ⟨.start, .start, counts.revindex .start .start⟩,
    characters.beyond 3 (by decide) (by decide) _ rfl ?_, characters.length rfl .start, ?_⟩
  · intro number item other starts counter
    obtain ⟨found, counts⟩ := characters.visits _ _ _ starts
    have present : number < 3 := (List.getElem?_eq_some_iff.1 found).1
    have same : (3 : Int) = number := counter.eq counts.index0 (by decide) (by omega)
    omega
  · obtain ⟨item, start, starts⟩ := entry.started _ rfl 0 (by decide)
    obtain ⟨key, value, found, rfl, _, bound⟩ := entry.pairs "k" "v" rfl 0 _ start starts
    cases found
    exact ⟨start, starts, bound (by decide) .start⟩

end Place

end TemplateEngine

import TemplateEngine.Proofs.Frames
import TemplateEngine.Store.Handles

/-!
# What handles see of a tree of scopes

Handles share frames: two of them may hold one scope, and the frames around different scopes
may be the same.  A name is bound in one frame, so that a handle sees the new value if that
frame is among those of its scope and no nearer one binds the name.  Whatever else it sees is
as before.  That is so for every handle at every moment of a program, because each frame binds
a name once and the frame of every held scope exists.
-/

namespace TemplateEngine

namespace Table

variable {α : Type}

/-- Storing an entry adds its name if that is new. -/
theorem mem_names_store {table : Table α} {name other : String} {value : α} :
    other ∈ (table.store name value).names ↔ other = name ∨ other ∈ table.names := by
  induction table with
  | nil => simp [store, names]
  | cons entry rest inductionHypothesis =>
      simp only [names] at inductionHypothesis
      simp only [store, names]
      split
      · rename_i same
        simp [same]
      · simp only [List.map_cons, List.mem_cons, inductionHypothesis]
        exact or_left_comm

/-- A table in which each name has one entry keeps that when an entry is stored. -/
theorem nodup_names_store {table : Table α} (distinct : table.names.Nodup) (name : String)
    (value : α) : (table.store name value).names.Nodup := by
  induction table with
  | nil => exact List.pairwise_singleton _ name
  | cons entry rest inductionHypothesis =>
      obtain ⟨new, distinct⟩ := List.nodup_cons.1 distinct
      simp only [store]
      split
      · rename_i same
        exact List.nodup_cons.2 ⟨same ▸ new, distinct⟩
      · rename_i different
        refine List.nodup_cons.2 ⟨fun member => ?_, inductionHypothesis distinct⟩
        exact (mem_names_store.1 member).elim different new

/-- The names of a table are those under which something is found. -/
theorem mem_names_iff {table : Table α} {name : String} :
    name ∈ table.names ↔ ∃ value, table.lookup name = some value := by
  induction table with
  | nil => simp [names]
  | cons entry rest inductionHypothesis =>
      rw [List.lookup_cons, names, List.map_cons, List.mem_cons]
      by_cases same : name = entry.1
      · simp [same]
      · simp only [same, false_or, beq_eq_false_iff_ne.2 same]
        exact inductionHypothesis

/-- Where each name has one entry, what is found is what is there. -/
theorem lookup_eq_some_iff {table : Table α} (distinct : table.names.Nodup) {name : String}
    {value : α} : table.lookup name = some value ↔ (name, value) ∈ table := by
  refine ⟨mem_of_lookup, fun member => ?_⟩
  obtain ⟨before, after, rfl⟩ := List.append_of_mem member
  refine List.lookup_eq_some_iff.2 ⟨before, after, rfl, fun earlier listed => ?_⟩
  rw [names, List.map_append, List.nodup_append] at distinct
  have different := distinct.2.2 earlier.1 (List.mem_map_of_mem listed) name List.mem_cons_self
  simpa using different.symm

/-- Where each name has one entry, the order of entries does not matter. -/
theorem lookup_eq_of_perm {table other : Table α} (distinct : table.names.Nodup)
    (same : table.Perm other) (name : String) : table.lookup name = other.lookup name := by
  have others : other.names.Nodup := (same.map Prod.fst).nodup_iff.1 distinct
  ext value
  rw [lookup_eq_some_iff distinct, lookup_eq_some_iff others, same.mem_iff]

/-- Of several entries that are stored under a name, the last one is found. -/
theorem lookup_storeAll (table entries : Table α) (name : String) :
    (table.storeAll entries).lookup name =
      (entries.reverse.lookup name).or (table.lookup name) := by
  induction entries generalizing table with
  | nil => rfl
  | cons entry rest inductionHypothesis =>
      obtain ⟨key, value⟩ := entry
      change (storeAll (table.store key value) rest).lookup name = _
      rw [inductionHypothesis, List.reverse_cons, List.lookup_append, Option.or_assoc, lookup_store,
        List.lookup_cons]
      by_cases same : name = key
      · simp [same]
      · simp [same, beq_eq_false_iff_ne.2 same]

/-- An entry under a new name is stored at the end. -/
theorem store_of_not_mem {table : Table α} {name : String} (new : name ∉ table.names)
    (value : α) : table.store name value = table ++ [(name, value)] := by
  induction table with
  | nil => rfl
  | cons entry rest inductionHypothesis =>
      rw [names, List.map_cons, List.mem_cons, not_or] at new
      rw [store, if_neg (Ne.symm new.1), inductionHypothesis new.2, List.cons_append]

/-- Entries under names of their own are stored as they are. -/
theorem storeAll_of_nodup {table entries : Table α} (distinct : (table ++ entries).names.Nodup) :
    table.storeAll entries = table ++ entries := by
  induction entries generalizing table with
  | nil => exact (List.append_nil table).symm
  | cons entry rest inductionHypothesis =>
      have new : entry.1 ∉ table.names := by
        rw [names, List.map_append, List.nodup_append] at distinct
        exact fun member => distinct.2.2 _ member _ List.mem_cons_self rfl
      change storeAll (table.store entry.1 entry.2) rest = _
      rw [store_of_not_mem new, inductionHypothesis, List.append_assoc, List.singleton_append]
      rwa [List.append_assoc, List.singleton_append]

/-- The sorted names of a table in which each name has one entry ascend. -/
theorem sortedNames_ascend {table : Table α} (distinct : table.names.Nodup) :
    table.sortedNames.Pairwise (· < ·) := by
  have ordered : table.sortedNames.Pairwise fun first second => !(second < first) := by
    apply List.pairwise_mergeSort
    · intro first second third before after
      simp only [Bool.not_eq_true', decide_eq_false_iff_not, String.not_lt] at before after ⊢
      exact String.le_trans before after
    · intro first second
      simp only [Bool.or_eq_true, Bool.not_eq_true', decide_eq_false_iff_not, String.not_lt]
      exact String.le_total first second
  have once : table.sortedNames.Nodup := (List.mergeSort_perm _ _).nodup_iff.2 distinct
  refine (ordered.and once).imp ?_
  rintro first second ⟨before, different⟩
  simp only [Bool.not_eq_true', decide_eq_false_iff_not, String.not_lt] at before
  exact String.not_le.1 fun after => different (String.le_antisymm before after)

end Table

namespace Store

/-- Whether a scope sees what another one itself binds to a name: the frame of that scope is
among its frames, and no nearer one binds the name. -/
def Sees (store : Store) (scope target : Scope) (name : String) : Prop :=
  ∃ nearer further, scope.chain = nearer ++ target.frame :: further ∧
    ∀ frame ∈ nearer, (store.bindings frame).lookup name = none

/-- Two stores that differ only in the frame of a scope, where some names gain new values. -/
def Gains (before after : Store) (target : Scope) (gained : String → Option Value) : Prop :=
  ∀ frame name, (after.bindings frame).lookup name =
    if frame = target.frame then (gained name).or ((before.bindings frame).lookup name)
    else (before.bindings frame).lookup name

namespace Gains

variable {before after : Store} {scope target : Scope} {gained : String → Option Value}
variable {name : String}

/-- A scope that sees the frame has the new value of a name. -/
theorem lookup_of_sees {value : Value} (gains : before.Gains after target gained)
    (given : gained name = some value) (sees : before.Sees scope target name) :
    after.lookup scope name = some value := by
  obtain ⟨nearer, further, chain, unbound⟩ := sees
  rw [lookup, lookupChain, chain]
  clear chain
  induction nearer with
  | nil => simp [gains target.frame name, given]
  | cons frame rest inductionHypothesis =>
      rw [List.cons_append, List.findSome?_cons, gains frame name, given,
        unbound frame List.mem_cons_self]
      split
      · rename_i found
        split at found
        · exact found.symm
        · cases found
      · exact inductionHypothesis fun other member =>
          unbound other (List.mem_cons_of_mem _ member)

/-- A name that gains no value has the one that it had. -/
theorem lookup_of_none (gains : before.Gains after target gained)
    (absent : gained name = none) : after.lookup scope name = before.lookup scope name := by
  have same : ∀ frame,
      (after.bindings frame).lookup name = (before.bindings frame).lookup name := by
    intro frame
    simp [gains frame name, absent]
  simp only [lookup, lookupChain, same]

/-- A scope that does not see the frame has the value that it had. -/
theorem lookup_of_not_sees (gains : before.Gains after target gained)
    (unseen : ¬ before.Sees scope target name) :
    after.lookup scope name = before.lookup scope name := by
  -- The frames passed so far do not bind the name, and that of the target is not among them.
  have passing : ∀ left passed, scope.chain = passed ++ left →
      (∀ frame ∈ passed, (before.bindings frame).lookup name = none) →
        after.lookupChain left name = before.lookupChain left name := by
    intro left
    induction left with
    | nil =>
        intro passed _ _
        rfl
    | cons frame rest inductionHypothesis =>
        intro passed chain unbound
        have elsewhere : frame ≠ target.frame := by
          rintro rfl
          exact unseen ⟨passed, rest, chain, unbound⟩
        rw [lookupChain, lookupChain, List.findSome?_cons, List.findSome?_cons,
          gains frame name, if_neg elsewhere]
        cases found : (before.bindings frame).lookup name with
        | some value => rfl
        | none =>
            apply inductionHypothesis (passed ++ [frame])
            · simp [chain]
            · intro earlier member
              rcases List.mem_append.1 member with member | member
              · exact unbound earlier member
              · rw [List.mem_singleton.1 member, found]
  exact passing scope.chain [] rfl fun _ member => by cases member

end Gains

/-- Binding a name gives it a new value in the frame of the scope. -/
theorem gains_bind (store : Store) {target : Scope}
    (present : target.frame < store.frames.size) (name : String) (value : Value) :
    store.Gains (store.bind target name value) target
      fun other => if other = name then some value else none := by
  intro frame other
  by_cases nearest : frame = target.frame
  · subst nearest
    rw [bindings_bind_self store target name value present, Table.lookup_store, if_pos rfl]
    by_cases same : other = name <;> simp [same]
  · rw [bindings_bind_of_ne store target name value nearest, if_neg nearest]

/-- In the nearest frame the entries are stored under their names. -/
theorem bindings_bindAll_self (store : Store) {target : Scope} (entries : Table Value)
    (present : target.frame < store.frames.size) :
    (store.bindAll target entries).bindings target.frame =
      (store.bindings target.frame).storeAll entries := by
  induction entries generalizing store with
  | nil => rfl
  | cons entry rest inductionHypothesis =>
      change ((store.bind target entry.1 entry.2).bindAll target rest).bindings target.frame = _
      rw [inductionHypothesis _ (by simpa using present),
        bindings_bind_self store target entry.1 entry.2 present]
      rfl

/-- Binding several entries gives each of their names the value that comes last. -/
theorem gains_bindAll_last (store : Store) {target : Scope} (entries : Table Value)
    (present : target.frame < store.frames.size) :
    store.Gains (store.bindAll target entries) target fun name => entries.reverse.lookup name := by
  intro frame name
  by_cases nearest : frame = target.frame
  · subst nearest
    rw [bindings_bindAll_self store entries present, Table.lookup_storeAll, if_pos rfl]
  · rw [bindings_bindAll_of_ne store target entries nearest, if_neg nearest]

/-- Binding the entries of a table gives their names the values found there. -/
theorem gains_bindAll (store : Store) {target : Scope} {entries : Table Value}
    (present : target.frame < store.frames.size) (distinct : entries.names.Nodup) :
    store.Gains (store.bindAll target entries) target fun name => entries.lookup name := by
  simp only [Table.lookup_eq_of_perm distinct (List.reverse_perm entries).symm]
  exact store.gains_bindAll_last entries present

/-- A scope has a name exactly if the name has a value there. -/
theorem has_iff {store : Store} {scope : Scope} {name : String} :
    store.has scope name = true ↔ ∃ value, store.lookup scope name = some value := by
  rw [← Option.isSome_iff_exists]
  unfold has lookup lookupChain
  induction scope.chain with
  | nil => simp
  | cons frame rest inductionHypothesis =>
      rw [List.any_cons, List.findSome?_cons, Bool.or_eq_true, inductionHypothesis, Table.has]
      cases (store.bindings frame).lookup name <;> simp

end Store

/-! ## The moments of a program -/

namespace Handles

/-- What holds at every moment of a program with handles. -/
structure Sound (handles : Handles) : Prop where
  /-- The nearest frame of a held scope exists. -/
  present : ∀ entry ∈ handles.scopes, entry.2.frame < handles.store.frames.size
  /-- Each frame binds a name once. -/
  distinct : ∀ frame, (handles.store.bindings frame).names.Nodup

theorem sound_empty : empty.Sound where
  present := by
    intro entry member
    cases member
  distinct _ := List.Pairwise.nil

namespace Sound

variable {handles : Handles} {handle : String} {scope : Scope}

theorem present_of_scope? (sound : handles.Sound) (held : handles.scope? handle = some scope) :
    scope.frame < handles.store.frames.size :=
  sound.present (handle, scope) (Table.mem_of_lookup held)

/-- Another store may take the place of the one there was if it has all its frames and each of
them binds a name once. -/
theorem withStore (sound : handles.Sound) {after : Handles}
    (scopes : after.scopes = handles.scopes)
    (size : handles.store.frames.size ≤ after.store.frames.size)
    (distinct : ∀ frame, (after.store.bindings frame).names.Nodup) : after.Sound where
  present entry member := Nat.lt_of_lt_of_le (sound.present entry (scopes ▸ member)) size
  distinct := distinct

theorem hold (sound : handles.Sound) (present : scope.frame < handles.store.frames.size) :
    (hold handle (scope, handles)).Sound where
  present := by
    intro entry member
    rcases Table.mem_of_mem_store member with rfl | member
    · exact present
    · exact sound.present entry member
  distinct := sound.distinct

theorem drop (sound : handles.Sound) : (handles.drop handle scope).Sound where
  present entry member := sound.present entry (List.mem_of_mem_filter member)
  distinct := sound.distinct

end Sound

end Handles

/-- Each frame still binds a name once after one more binding. -/
theorem Store.distinct_bind {store : Store}
    (distinct : ∀ frame, (store.bindings frame).names.Nodup) (target : Scope) (name : String)
    (value : Value) (frame : Nat) :
    ((store.bind target name value).bindings frame).names.Nodup := by
  by_cases nearest : frame = target.frame
  · subst nearest
    by_cases present : target.frame < store.frames.size
    · rw [bindings_bind_self store target name value present]
      exact Table.nodup_names_store (distinct _) name value
    · rw [bindings_of_size_le _ (by simpa using present)]
      exact List.Pairwise.nil
  · rw [bindings_bind_of_ne store target name value nearest]
    exact distinct frame

theorem Store.distinct_bindAll {store : Store}
    (distinct : ∀ frame, (store.bindings frame).names.Nodup) (target : Scope)
    (entries : Table Value) :
    ∀ frame, ((store.bindAll target entries).bindings frame).names.Nodup := by
  induction entries generalizing store with
  | nil => exact distinct
  | cons entry rest inductionHypothesis =>
      exact inductionHypothesis (distinct_bind distinct target entry.1 entry.2)

namespace Store

theorem size_clear (store : Store) (frames : List Nat) :
    (store.clear frames).frames.size = store.frames.size := by
  induction frames generalizing store with
  | nil => rfl
  | cons first rest inductionHypothesis =>
      rw [clear, List.foldl_cons]
      exact (inductionHypothesis _).trans (store.size_edit first _)

theorem trees_clear (store : Store) (frames : List Nat) :
    (store.clear frames).trees = store.trees := by
  induction frames generalizing store with
  | nil => rfl
  | cons first rest inductionHypothesis =>
      rw [clear, List.foldl_cons]
      exact inductionHypothesis (store.edit first fun _ => [])

/-- Clearing empties the frames that it is about and leaves the others as they are. -/
theorem getElem?_clear (store : Store) (frames : List Nat) (frame : Nat) :
    (store.clear frames).frames[frame]? = store.frames[frame]?.map fun found =>
      if frame ∈ frames then { found with bindings := [] } else found := by
  induction frames generalizing store with
  | nil => simp [clear]
  | cons first rest inductionHypothesis =>
      have unrolled : store.clear (first :: rest) = (store.edit first fun _ => []).clear rest := rfl
      rw [unrolled, inductionHypothesis, getElem?_edit]
      by_cases same : first = frame
      · subst same
        rw [if_pos rfl, Option.map_map]
        simp [Function.comp_def]
      · simp [same, Ne.symm same]

theorem bindings_clear (store : Store) (frames : List Nat) (frame : Nat) :
    (store.clear frames).bindings frame =
      if frame ∈ frames then [] else store.bindings frame := by
  rw [bindings, getElem?_clear, bindings]
  cases store.frames[frame]? with
  | none => simp
  | some found =>
      by_cases member : frame ∈ frames <;> simp [member]

end Store

namespace Handles

variable {handles after : Handles}

/-- An operation keeps what holds at every moment. -/
theorem Sound.perform (sound : handles.Sound) {operation : Operation}
    (performed : handles.perform operation = some after) : after.Sound := by
  have added (tree : Nat) (frame : Nat) :
      ((handles.store.addFrame tree).2.bindings frame).names.Nodup :=
    Store.bindings_addFrame handles.store tree frame ▸ sound.distinct frame
  have bindAll {before : Handles} (sound : before.Sound) (scope : Scope)
      (entries : Table Value) : (before.bindAll scope entries).Sound := by
    refine sound.withStore (before.scopes_bindAll scope entries) ?_ ?_
    · simp [store_bindAll]
    · rw [store_bindAll]
      exact Store.distinct_bindAll sound.distinct scope entries
  have new : handles.newScope.2.Sound :=
    sound.withStore rfl (Store.extends_newScope _).size (added _)
  have scopeOf (handle : String) (entries : Table Value) :
      (Handles.hold handle (handles.scopeOf entries)).Sound := by
    refine (bindAll new handles.newScope.1 entries).hold ?_
    simp [store_bindAll, newScope, addScope, Store.newScope, Store.addFrame]
  cases operation with
  | new handle =>
      cases performed
      exact new.hold (by simp [newScope, addScope, Store.newScope, Store.addFrame])
  | ofJson handle data =>
      rw [Handles.perform] at performed
      split at performed
      · cases performed
        exact scopeOf handle _
      · cases performed
        exact sound
  | ofEntries handle entries =>
      cases performed
      exact scopeOf handle entries
  | inherit handle outer =>
      obtain ⟨scope, held, made⟩ := Option.bind_eq_some_iff.1 performed
      cases made
      have child : (handles.childScope scope).2.Sound :=
        sound.withStore rfl (Store.extends_childScope _ _).size (added _)
      exact child.hold
        (by simp [childScope, addScope, Store.childScope, Store.addFrame, Scope.child])
  | detach handle origin =>
      obtain ⟨scope, held, made⟩ := Option.bind_eq_some_iff.1 performed
      cases made
      have detached : (handles.detachedScope scope).2.Sound :=
        sound.withStore rfl (Store.extends_detachedScope _ _).size (added _)
      exact detached.hold (by simp [detachedScope, addScope, Store.detachedScope, Store.addFrame])
  | clone handle origin =>
      obtain ⟨scope, held, made⟩ := Option.bind_eq_some_iff.1 performed
      cases made
      have copied : (handles.copyScope scope).2.Sound :=
        sound.withStore rfl (Nat.le_refl _) sound.distinct
      exact copied.hold (sound.present_of_scope? held)
  | drop handle =>
      obtain ⟨scope, held, made⟩ := Option.bind_eq_some_iff.1 performed
      cases made
      exact sound.drop
  | set handle name value =>
      obtain ⟨scope, held, made⟩ := Option.bind_eq_some_iff.1 performed
      cases made
      exact bindAll sound scope [(name, value)]
  | update target source =>
      obtain ⟨scope, held, made⟩ := Option.bind_eq_some_iff.1 performed
      obtain ⟨origin, _, made⟩ := Option.bind_eq_some_iff.1 made
      cases made
      exact bindAll sound scope (handles.store.locals origin)
  | release handle =>
      obtain ⟨scope, held, made⟩ := Option.bind_eq_some_iff.1 performed
      cases made
      refine sound.withStore rfl (Nat.le_of_eq (Store.size_clear ..).symm) fun frame => ?_
      change ((handles.store.clear (handles.liveFrames scope.tree)).bindings frame).names.Nodup
      rw [Store.bindings_clear]
      split
      · exact List.Pairwise.nil
      · exact sound.distinct frame

/-- What holds at first and is kept by each of some operations holds after them. -/
theorem of_performAll {holds : Handles → Prop} {operations : List Operation} (start : holds empty)
    (step : ∀ {before after : Handles} {operation : Operation}, operation ∈ operations →
      holds before → before.perform operation = some after → holds after)
    (performed : performAll operations = some handles) : holds handles := by
  have run : ∀ (rest : List Operation) (before : Handles), (∀ other ∈ rest, other ∈ operations) →
      holds before → rest.foldlM perform before = some handles → holds handles := by
    intro rest
    induction rest with
    | nil =>
        rintro before _ holds ⟨⟩
        exact holds
    | cons operation rest inductionHypothesis =>
        intro before listed holds performed
        rw [List.foldlM_cons] at performed
        obtain ⟨next, first, others⟩ := Option.bind_eq_some_iff.1 performed
        exact inductionHypothesis next (fun other member => listed other (.tail _ member))
          (step (listed operation List.mem_cons_self) holds first) others
  exact run operations empty (fun _ member => member) start performed

/-- What holds at every moment holds after any number of operations. -/
theorem Sound.performAll {operations : List Operation}
    (performed : Handles.performAll operations = some handles) : handles.Sound :=
  of_performAll sound_empty (fun _ sound => sound.perform) performed

/-- What handles see when the frame of one scope gains values for some names, and nothing else
changes. -/
structure Gains (handles after : Handles) (target : Scope) (gained : String → Option Value) :
    Prop where
  /-- The handles hold the same scopes. -/
  scopes : after.scopes = handles.scopes
  /-- A scope that sees the frame for a name has the value that the name gains. -/
  seen : ∀ handle scope name value, handles.scope? handle = some scope →
    gained name = some value → handles.store.Sees scope target name →
      after.store.lookup scope name = some value
  /-- In every other case a name has the value that it had. -/
  kept : ∀ handle scope name, handles.scope? handle = some scope →
    gained name = none ∨ ¬ handles.store.Sees scope target name →
      after.store.lookup scope name = handles.store.lookup scope name

theorem gains_of_store {target : Scope} {gained : String → Option Value}
    (scopes : after.scopes = handles.scopes)
    (gains : handles.store.Gains after.store target gained) :
    handles.Gains after target gained where
  scopes := scopes
  seen _ _ _ _ _ given sees := gains.lookup_of_sees given sees
  kept _ _ _ _ other := other.elim gains.lookup_of_none gains.lookup_of_not_sees

/-- The law of scopes that share frames, after any operations.  Setting a name gives it the
value in every scope that sees the frame of the target, and an update gives there what the
source itself binds; both leave everything else as it is.  A scope has the names that have a
value in it, and lists in order those that it binds itself. -/
theorem scopes_share_frames {operations : List Operation}
    (reached : performAll operations = some handles) :
    (∀ handle target name value, handles.scope? handle = some target →
      ∃ after, handles.perform (.set handle name value) = some after ∧
        handles.Gains after target fun other => if other = name then some value else none) ∧
    (∀ handle origin target source, handles.scope? handle = some target →
      handles.scope? origin = some source →
        ∃ after, handles.perform (.update handle origin) = some after ∧
          handles.Gains after target fun name => (handles.store.locals source).lookup name) ∧
    ∀ handle scope, handles.scope? handle = some scope →
      (∀ name, handles.store.has scope name = true ↔
        ∃ value, handles.store.lookup scope name = some value) ∧
      (handles.store.names scope).Pairwise (· < ·) ∧
      ∀ name, name ∈ handles.store.names scope ↔
        ∃ value, (handles.store.locals scope).lookup name = some value := by
  have sound := Sound.performAll reached
  refine ⟨?_, ?_, ?_⟩
  · intro handle target name value held
    refine ⟨handles.bind target name value, by simp [perform, held], ?_⟩
    exact gains_of_store rfl
      (handles.store.gains_bind (sound.present_of_scope? held) name value)
  · intro handle origin target source heldTarget heldSource
    refine ⟨handles.update target source, by simp [perform, heldTarget, heldSource], ?_⟩
    refine gains_of_store (scopes_bindAll ..) ?_
    rw [update, store_bindAll]
    exact handles.store.gains_bindAll (sound.present_of_scope? heldTarget)
      (sound.distinct source.frame)
  · intro handle scope _
    refine ⟨fun name => Store.has_iff, Table.sortedNames_ascend (sound.distinct scope.frame), ?_⟩
    intro name
    rw [Store.names, Table.sortedNames, Table.sortTexts, (List.mergeSort_perm _ _).mem_iff]
    exact Table.mem_names_iff

theorem set_seen_in_inner_scope :
    ∃ handles scope after,
      performAll [.new "outer", .inherit "inner" "outer", .set "inner" "y" .nil] =
        some handles ∧
      handles.scope? "inner" = some scope ∧
      handles.perform (.set "outer" "x" .nil) = some after ∧
      after.store.lookup scope "x" = some .nil := by
  refine ⟨_, _, _, rfl, rfl, rfl, ?_⟩
  have reached :
      performAll [.new "outer", .inherit "inner" "outer", .set "inner" "y" .nil] = some _ := rfl
  obtain ⟨set, -, -⟩ := scopes_share_frames reached
  obtain ⟨after, performed, gains⟩ := set "outer" ⟨0, 0, []⟩ "x" .nil rfl
  cases performed
  exact gains.seen "inner" ⟨0, 1, [0]⟩ "x" .nil rfl rfl
    ⟨[1], [], rfl, List.forall_mem_singleton.2 rfl⟩

end Handles

end TemplateEngine

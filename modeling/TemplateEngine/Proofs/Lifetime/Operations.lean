import TemplateEngine.Proofs.Lifetime.Ledger
import TemplateEngine.Proofs.ScopeTree

/-!
# What operations on handles keep

The ledger of a program whose values refer to no frames is in balance at every moment, and each
roster tracks all live frames of its tree, whatever has been left out of it in the meantime.  An
operation takes scopes into the hand and gives them to handles, so that both are stated for a
program with some references in the hand.
-/

namespace TemplateEngine

namespace Table

variable {α : Type}

/-- Storing an entry adds it to the values, and takes away the one that it replaces. -/
theorem perm_store {β : Type} (view : α → β) (table : Table α) (name : String) (value : α) :
    ((table.lookup name).toList.map view ++
        (table.store name value).map fun entry => view entry.2).Perm
      (view value :: table.map fun entry => view entry.2) := by
  induction table with
  | nil => simp [store]
  | cons entry rest inductionHypothesis =>
      obtain ⟨key, stored⟩ := entry
      rw [store, List.lookup_cons]
      by_cases same : name = key
      · subst same
        simpa using List.Perm.swap ..
      · rw [if_neg (Ne.symm same), beq_eq_false_iff_ne.2 same]
        exact (List.perm_middle.trans (inductionHypothesis.cons (view stored))).trans
          (List.Perm.swap ..)

/-- Removing a name takes away the value that it has, where each name has one. -/
theorem perm_without {β : Type} (view : α → β) {table : Table α} {name : String} {value : α}
    (distinct : table.names.Nodup) (found : table.lookup name = some value) :
    (view value :: (table.without name).map fun entry => view entry.2).Perm
      (table.map fun entry => view entry.2) := by
  induction table with
  | nil => cases found
  | cons entry rest inductionHypothesis =>
      obtain ⟨key, stored⟩ := entry
      obtain ⟨new, distinct⟩ := List.nodup_cons.1 distinct
      rw [List.lookup_cons] at found
      by_cases same : name = key
      · subst same
        have kept : without rest name = rest := by
          refine List.filter_eq_self.2 fun entry member => ?_
          rw [bne_iff_ne]
          rintro rfl
          exact new (List.mem_map.2 ⟨entry, member, rfl⟩)
        have replaced : without ((name, stored) :: rest) name = rest := by
          rw [without, List.filter_cons_of_neg (by simp)]
          exact kept
        have first : stored = value := by simpa using found
        rw [replaced, ← first]
        rfl
      · have others : without ((key, stored) :: rest) name =
            (key, stored) :: without rest name :=
          List.filter_cons_of_pos (by simpa using Ne.symm same)
        rw [beq_eq_false_iff_ne.2 same] at found
        rw [others, List.map_cons, List.map_cons]
        exact (List.Perm.swap ..).trans ((inductionHypothesis distinct found).cons (view stored))

theorem nodup_names_without {table : Table α} (distinct : table.names.Nodup) (name : String) :
    (table.without name).names.Nodup :=
  distinct.sublist (List.filter_sublist.map Prod.fst)

end Table

namespace Value

theorem heldByEntries_eq_nil_iff {entries : Table Value} :
    heldByEntries entries = [] ↔ ∀ entry ∈ entries, entry.2.heldFrames = [] := by
  induction entries with
  | nil => simp [heldByEntries]
  | cons entry rest inductionHypothesis =>
      simp [heldByEntries, inductionHypothesis]

mutual

theorem heldFrames_ofJson : ∀ json, (ofJson json).heldFrames = []
  | .null | .bool _ | .integer _ | .float _ | .string _ => rfl
  | .array items => heldByItems_ofJson items
  | .object members => heldByEntries_ofJson members

private theorem heldByItems_ofJson : ∀ items, heldByItems (ofJsonItems items) = []
  | [] => rfl
  | item :: rest => by
      rw [ofJsonItems, heldByItems, heldFrames_ofJson item, heldByItems_ofJson rest]
      rfl

theorem heldByEntries_ofJson : ∀ members, heldByEntries (ofJsonMembers members) = []
  | [] => rfl
  | (_, value) :: rest => by
      rw [ofJsonMembers, heldByEntries, heldFrames_ofJson value, heldByEntries_ofJson rest]
      rfl

end

end Value

/-- Values that come from JSON data refer to no frames. -/
theorem Table.heldByEntries_ofJson {data : Json} {entries : Table Value}
    (read : Table.ofJson data = .ok entries) : Value.heldByEntries entries = [] := by
  cases data with
  | object members =>
      cases read
      exact Value.heldByEntries_ofJson members
  | null =>
      cases read
      rfl
  | _ => cases read

namespace Store

/-- Adding a frame leaves the others in their trees. -/
theorem tree?_addFrame_of_some {store : Store} {frame tree : Nat}
    (found : store.tree? frame = some tree) (other : Nat) :
    (store.addFrame other).2.tree? frame = some tree := by
  rw [tree?_addFrame, if_neg (ne_size_of_tree? found), found]

/-- No value refers to frames after one more binding if none did before and the new one does
not. -/
theorem heldFrames_bind {store : Store} (free : ∀ frame, store.heldFrames frame = [])
    (scope : Scope) (name : String) {value : Value} (holdsNone : value.heldFrames = [])
    (frame : Nat) : (store.bind scope name value).heldFrames frame = [] := by
  by_cases nearest : frame = scope.frame
  · subst nearest
    by_cases present : scope.frame < store.frames.size
    · rw [heldFrames, bindings_bind_self store scope name value present,
        Value.heldByEntries_eq_nil_iff]
      intro entry member
      rcases Table.mem_of_mem_store member with rfl | member
      · exact holdsNone
      · exact Value.heldByEntries_eq_nil_iff.1 (free scope.frame) entry member
    · rw [heldFrames, bindings_of_size_le _ (by simpa using present)]
      rfl
  · rw [heldFrames, bindings_bind_of_ne store scope name value nearest]
    exact free frame

theorem tree?_clear (store : Store) (frames : List Nat) (frame : Nat) :
    (store.clear frames).tree? frame = store.tree? frame := by
  rw [tree?, getElem?_clear, Option.map_map, tree?]
  congr 1
  funext found
  simp only [Function.comp_apply]
  split <;> rfl

end Store

namespace Handles

/-- Whether a scope is where the frames of a program say: its frames lie around each other, and
in its tree. -/
structure Places (handles : Handles) (scope : Scope) : Prop where
  linked : handles.ledger.Linked scope.chain
  tree : handles.store.tree? scope.frame = some scope.tree

/-- A scope stays in its place when the ledger follows. -/
theorem Places.follow {handles after : Handles} {scope : Scope} (places : handles.Places scope)
    (follows : handles.ledger.Follows after.ledger)
    (tree? : ∀ frame, after.store.tree? frame = handles.store.tree? frame) :
    after.Places scope where
  linked := places.linked.congr fun frame _ => follows.outer? frame
  tree := (tree? scope.frame).trans places.tree

/-- Whether a roster tracks frames of its tree only, and all that live. -/
structure Tracks (handles : Handles) (tree : Nat) (roster : Roster) : Prop where
  distinct : roster.frames.Nodup
  within : ∀ frame ∈ roster.frames, handles.store.tree? frame = some tree
  living : ∀ frame, handles.store.tree? frame = some tree →
    handles.ledger.lives frame = true → frame ∈ roster.frames

/-- What holds at every moment of a program whose values refer to no frames, with references to
some frames in the hand. -/
structure Tended (handles : Handles) (hand : List Nat) : Prop where
  balanced : handles.ledger.Balanced (handles.scopes.map (fun entry => entry.2.frame) ++ hand)
  size : handles.ledger.length = handles.store.frames.size
  names : handles.scopes.names.Nodup
  places : ∀ entry ∈ handles.scopes, handles.Places entry.2
  around : ∀ frame around, handles.ledger.outer? frame = some around →
    handles.store.tree? around = handles.store.tree? frame
  trees : handles.rosters.length = handles.store.trees
  tracks : ∀ tree roster, handles.rosters[tree]? = some roster → handles.Tracks tree roster
  free : ∀ frame, handles.store.heldFrames frame = []

theorem tended_empty : empty.Tended [] where
  balanced := ⟨fun _ known => (by cases known), fun _ member => (by cases member),
    fun _ _ next => (by cases next)⟩
  size := rfl
  names := List.Pairwise.nil
  places _ member := by cases member
  around _ _ next := by cases next
  trees := rfl
  tracks _ _ found := by cases found
  free _ := rfl

namespace Tended

variable {handles : Handles} {hand : List Nat}

/-- Other bindings, other handles and a ledger that follows may take the place of those that
there were, as long as the ledger is in balance. -/
theorem replace {roots : List Nat} (tended : handles.Tended roots) {after : Handles}
    (rosters : after.rosters = handles.rosters)
    (trees : after.store.trees = handles.store.trees)
    (size : after.store.frames.size = handles.store.frames.size)
    (tree? : ∀ frame, after.store.tree? frame = handles.store.tree? frame)
    (free : ∀ frame, after.store.heldFrames frame = [])
    (follows : handles.ledger.Follows after.ledger)
    (balanced : after.ledger.Balanced (after.scopes.map (fun entry => entry.2.frame) ++ hand))
    (names : after.scopes.names.Nodup)
    (places : ∀ entry ∈ after.scopes, handles.Places entry.2) : after.Tended hand where
  balanced := balanced
  size := by rw [follows.length, size, tended.size]
  names := names
  places entry member := (places entry member).follow follows tree?
  around frame around next := by
    rw [tree?, tree?]
    exact tended.around frame around (follows.outer? frame ▸ next)
  trees := by rw [rosters, trees, tended.trees]
  tracks tree roster found := by
    have tracks := tended.tracks tree roster (rosters ▸ found)
    refine ⟨tracks.distinct, fun frame member => ?_, fun frame here live => ?_⟩
    · exact (tree? frame).trans (tracks.within frame member)
    · exact tracks.living frame (tree? frame ▸ here) (follows.lived frame live)
  free := free

/-! ### Bindings -/

/-- Binding a value that refers to no frame leaves the references as they are. -/
theorem ledger_bind (tended : handles.Tended hand) (scope : Scope) (name : String) {value : Value}
    (holdsNone : value.heldFrames = []) :
    (handles.bind scope name value).ledger = handles.ledger := by
  have replaced :
      ((handles.store.locals scope).lookup name).toList.flatMap Value.heldFrames = [] := by
    cases found : (handles.store.locals scope).lookup name with
    | none => rfl
    | some old =>
        have none := Value.heldByEntries_eq_nil_iff.1 (tended.free scope.frame) (name, old)
          (Table.mem_of_lookup found)
        simpa using none
  rw [Handles.bind, replaced, holdsNone, Handles.letGo, Ledger.letGo]
  rfl

theorem bind (tended : handles.Tended hand) (scope : Scope) (name : String) {value : Value}
    (holdsNone : value.heldFrames = []) : (handles.bind scope name value).Tended hand := by
  have ledger := tended.ledger_bind scope name holdsNone
  refine tended.replace rfl rfl (Store.size_bind ..) (Store.tree?_bind _ scope name value)
    (Store.heldFrames_bind tended.free scope name holdsNone) ?_ ?_ tended.names tended.places
  · rw [ledger]
    exact .refl _
  · rw [ledger]
    exact tended.balanced

theorem bindAll (tended : handles.Tended hand) (scope : Scope) {entries : Table Value}
    (holdNone : Value.heldByEntries entries = []) :
    (handles.bindAll scope entries).Tended hand := by
  induction entries generalizing handles with
  | nil => exact tended
  | cons entry rest inductionHypothesis =>
      obtain ⟨first, others⟩ := List.append_eq_nil_iff.1 holdNone
      exact inductionHypothesis (tended.bind scope entry.1 first) others

/-- Scopes stay in their places when names are bound. -/
theorem places_bindAll (tended : handles.Tended hand) {scope target : Scope}
    {entries : Table Value} (holdNone : Value.heldByEntries entries = [])
    (places : handles.Places scope) : (handles.bindAll target entries).Places scope := by
  induction entries generalizing handles with
  | nil => exact places
  | cons entry rest inductionHypothesis =>
      obtain ⟨first, others⟩ := List.append_eq_nil_iff.1 holdNone
      refine inductionHypothesis (tended.bind target entry.1 first) others (places.follow ?_ ?_)
      · rw [tended.ledger_bind target entry.1 first]
        exact .refl _
      · exact Store.tree?_bind _ target entry.1 entry.2

/-! ### Handles -/

/-- A handle takes over the reference to the frame of a scope in the hand. -/
theorem hold {scope : Scope} (tended : handles.Tended (scope.frame :: hand))
    (places : handles.Places scope) (handle : String) :
    (Handles.hold handle (scope, handles)).Tended hand := by
  have roots := (Table.perm_store Scope.frame handles.scopes handle scope).symm.append_right hand
  have balanced := tended.balanced.perm (List.perm_middle.trans roots)
  rw [List.append_assoc] at balanced
  obtain ⟨after, follows⟩ := balanced.letGo tended.free
  refine tended.replace rfl rfl rfl (fun _ => rfl) tended.free follows after
    (Table.nodup_names_store tended.names handle scope) fun entry member => ?_
  rcases Table.mem_of_mem_store member with rfl | member
  · exact places
  · exact tended.places entry member

/-- A handle that is let go gives up its reference. -/
theorem drop {handle : String} {scope : Scope} (tended : handles.Tended hand)
    (held : handles.scope? handle = some scope) : (handles.drop handle scope).Tended hand := by
  have roots := (Table.perm_without Scope.frame tended.names held).symm.append_right hand
  have balanced : handles.ledger.Balanced ([scope.frame] ++
      ((handles.scopes.without handle).map (fun entry => entry.2.frame) ++ hand)) :=
    tended.balanced.perm roots
  obtain ⟨after, follows⟩ := balanced.letGo tended.free
  exact tended.replace rfl rfl rfl (fun _ => rfl) tended.free follows after
    (Table.nodup_names_without tended.names handle)
    fun entry member => tended.places entry (List.mem_of_mem_filter member)

theorem places_of_held {handle : String} {scope : Scope} (tended : handles.Tended hand)
    (held : handles.scope? handle = some scope) : handles.Places scope :=
  tended.places (handle, scope) (Table.mem_of_lookup held)

/-- The frame of a scope that is held lives. -/
theorem lives_of_mem {entry : String × Scope} (tended : handles.Tended hand)
    (member : entry ∈ handles.scopes) : handles.ledger.lives entry.2.frame = true :=
  tended.balanced.lives_of_mem
    (List.mem_append_left hand (List.mem_map.2 ⟨entry, member, rfl⟩))

theorem lives_of_held {handle : String} {scope : Scope} (tended : handles.Tended hand)
    (held : handles.scope? handle = some scope) : handles.ledger.lives scope.frame = true :=
  tended.lives_of_mem (Table.mem_of_lookup held)

/-- The scope of a handle is copied with another reference to its frame. -/
theorem copyScope {handle : String} {scope : Scope} (tended : handles.Tended hand)
    (held : handles.scope? handle = some scope) :
    (handles.copyScope scope).2.Tended (scope.frame :: hand) ∧
      (handles.copyScope scope).2.Places scope := by
  obtain ⟨balanced, follows⟩ := tended.balanced.retain (tended.lives_of_held held)
  constructor
  · exact tended.replace rfl rfl rfl (fun _ => rfl) tended.free follows
      (balanced.perm List.perm_middle.symm) tended.names tended.places
  · exact (tended.places_of_held held).follow follows fun _ => rfl

/-! ### Releases -/

/-- Releasing a tree of scopes leaves the references as they are. -/
theorem ledger_release (tended : handles.Tended hand) (scope : Scope) :
    (handles.release scope).ledger = handles.ledger := by
  have none : (handles.liveFrames scope.tree).flatMap handles.store.heldFrames = [] := by
    simp [List.flatMap_eq_nil_iff, tended.free]
  rw [Handles.release, none, Handles.letGo, Ledger.letGo]

theorem release (tended : handles.Tended hand) (scope : Scope) :
    (handles.release scope).Tended hand := by
  have ledger := tended.ledger_release scope
  refine tended.replace rfl (Store.trees_clear ..) (Store.size_clear ..)
    (fun frame => Store.tree?_clear _ _ frame) (fun frame => ?_) ?_ ?_ tended.names tended.places
  · change (handles.store.clear _).heldFrames frame = []
    rw [Store.heldFrames, Store.bindings_clear]
    split
    · rfl
    · exact tended.free frame
  · rw [ledger]
    exact .refl _
  · rw [ledger]
    exact tended.balanced

/-! ### New scopes -/

/-- A tree without frames is added. -/
theorem newTree (tended : handles.Tended hand) :
    Tended
      { handles with
        store := handles.store.addTree
        rosters := handles.rosters ++ [.empty] } hand where
  balanced := tended.balanced
  size := tended.size
  names := tended.names
  places entry member := ⟨(tended.places entry member).linked, (tended.places entry member).tree⟩
  around := tended.around
  trees := by simp [Store.addTree, tended.trees]
  tracks tree roster found := by
    rw [List.getElem?_append] at found
    split at found
    · have tracks := tended.tracks tree roster found
      exact ⟨tracks.distinct, tracks.within, tracks.living⟩
    · rename_i new
      obtain rfl : roster = .empty := by
        have member := List.mem_of_getElem? found
        simpa using member
      refine ⟨List.nodup_nil, fun frame member => (by cases member), fun frame here => ?_⟩
      have known := @Store.lt_trees_of_tree? handles.store _ _ here
      rw [tended.trees] at new
      exact absurd known new
  free := tended.free

/-- A new frame is in no roster. -/
theorem not_mem_roster (tended : handles.Tended hand) {tree : Nat} {roster : Roster}
    (found : handles.rosters[tree]? = some roster) :
    handles.store.frames.size ∉ roster.frames := by
  intro member
  have within := (tended.tracks tree roster found).within _ member
  simp [Store.tree?] at within

/-- A roster that tracks one more frame tracks all that live, also when it leaves out those that
do not. -/
theorem tracks_track (tended : handles.Tended hand) {tree : Nat} {roster : Roster}
    (found : handles.rosters[tree]? = some roster) {after : Handles}
    (store : after.store = (handles.store.addFrame tree).2)
    (lived : ∀ frame, frame ≠ handles.store.frames.size → after.ledger.lives frame = true →
      handles.ledger.lives frame = true) :
    after.Tracks tree (roster.track after.ledger.lives handles.store.frames.size) := by
  have tracks := tended.tracks tree roster found
  have tracked (kept : List Nat) (pruneAt : Nat) (some : kept.Sublist roster.frames)
      (all : ∀ frame ∈ roster.frames, after.ledger.lives frame = true → frame ∈ kept) :
      after.Tracks tree ⟨handles.store.frames.size :: kept, pruneAt⟩ := by
    have new : handles.store.frames.size ∉ kept :=
      fun member => tended.not_mem_roster found (some.mem member)
    refine ⟨List.nodup_cons.2 ⟨new, tracks.distinct.sublist some⟩, fun frame member => ?_,
      fun frame here live => ?_⟩
    · rw [store, Store.tree?_addFrame]
      split
      · rfl
      · rename_i old
        exact tracks.within frame (some.mem ((List.mem_cons.1 member).resolve_left old))
    · rw [store, Store.tree?_addFrame] at here
      split at here
      · rename_i same
        exact same ▸ List.mem_cons_self
      · rename_i old
        refine List.mem_cons_of_mem _ (all frame ?_ live)
        exact tracks.living frame here (lived frame old live)
  rw [Roster.track]
  split
  · exact tracked _ _ List.filter_sublist fun frame member live =>
      List.mem_filter.2 ⟨member, live⟩
  · exact tracked _ _ (.refl _) fun frame member _ => member

/-- The rosters of other trees track what they did. -/
theorem tracks_other (tended : handles.Tended hand) {tree other : Nat} {roster : Roster}
    (found : handles.rosters[other]? = some roster) (different : tree ≠ other) {after : Handles}
    (store : after.store = (handles.store.addFrame tree).2)
    (lived : ∀ frame, frame ≠ handles.store.frames.size → after.ledger.lives frame = true →
      handles.ledger.lives frame = true) : after.Tracks other roster := by
  have tracks := tended.tracks other roster found
  refine ⟨tracks.distinct, fun frame member => ?_, fun frame here live => ?_⟩
  · rw [store]
    exact Store.tree?_addFrame_of_some (tracks.within frame member) tree
  · rw [store, Store.tree?_addFrame] at here
    split at here
    · exact absurd (Option.some.inj here) different
    · rename_i old
      exact tracks.living frame here (lived frame old live)

section Growth

variable {around : Option Nat} (tended : handles.Tended hand)
variable (live : ∀ frame, around = some frame → handles.ledger.lives frame = true)

include tended live

/-- The frame around a new one may be referred to once more. -/
theorem retain_around :
    (handles.ledger.retain around.toList).Balanced
        (around.toList ++ (handles.scopes.map (fun entry => entry.2.frame) ++ hand)) ∧
      handles.ledger.Follows (handles.ledger.retain around.toList) := by
  cases around with
  | none => exact ⟨tended.balanced, .refl _⟩
  | some frame => exact tended.balanced.retain (live frame rfl)

theorem length_retain_around :
    (handles.ledger.retain around.toList).length = handles.store.frames.size :=
  (tended.retain_around live).2.length.trans tended.size

/-- The new frame is inside the other one, and all others stay where they are. -/
theorem outer?_grow (frame : Nat) :
    (handles.ledger.grow around).outer? frame =
      if frame = handles.store.frames.size then around else handles.ledger.outer? frame := by
  rw [Ledger.grow, Ledger.outer?_push, tended.length_retain_around live,
    (tended.retain_around live).2.outer?]

/-- Apart from the new frame, what lives has lived before. -/
theorem lives_of_lives_grow {frame : Nat} (old : frame ≠ handles.store.frames.size)
    (lives : (handles.ledger.grow around).lives frame = true) :
    handles.ledger.lives frame = true := by
  rw [Ledger.lives_iff, Ledger.grow, Ledger.references_push, tended.length_retain_around live,
    if_neg old] at lives
  exact (tended.retain_around live).2.lived frame (Ledger.lives_iff.2 lives)

theorem linked_grow {frames : List Nat} (linked : handles.ledger.Linked frames)
    (lives : ∀ frame ∈ frames, handles.ledger.lives frame = true) :
    (handles.ledger.grow around).Linked frames := by
  refine linked.congr fun frame member => ?_
  have old := Ledger.lt_length_of_lives (lives frame member)
  rw [tended.outer?_grow live, if_neg (Nat.ne_of_lt (tended.size ▸ old))]

/-- Frames around each other are in one tree, also with a new frame that is in the tree of the
one around it. -/
theorem tree?_of_outer?_grow {tree : Nat}
    (here : ∀ frame, around = some frame → handles.store.tree? frame = some tree)
    {frame outer : Nat} (next : (handles.ledger.grow around).outer? frame = some outer) :
    (handles.store.addFrame tree).2.tree? outer =
      (handles.store.addFrame tree).2.tree? frame := by
  rw [tended.outer?_grow live] at next
  split at next
  · rename_i new
    rw [Store.tree?_addFrame_of_some (here outer next), Store.tree?_addFrame, if_pos new]
  · rename_i old
    have newer := tended.balanced.older frame outer next
    have known := tended.size ▸ Ledger.lt_length_of_outer? next
    rw [Store.tree?_addFrame, if_neg (by omega), Store.tree?_addFrame, if_neg old]
    exact tended.around frame outer next

end Growth

/-- A frame is added to a tree, right inside a live one or on its own, and a scope of that frame
is in the hand. -/
theorem addFrame (tended : handles.Tended hand) {tree : Nat} {ancestors : List Nat}
    (known : tree < handles.store.trees) (linked : handles.ledger.Linked ancestors)
    (live : ∀ frame, ancestors.head? = some frame → handles.ledger.lives frame = true)
    (here : ∀ frame, ancestors.head? = some frame → handles.store.tree? frame = some tree) :
    let after : Handles :=
      { handles with
        store := (handles.store.addFrame tree).2
        ledger := handles.ledger.grow ancestors.head?
        rosters := handles.rosters.modify tree
          (Roster.track (handles.ledger.grow ancestors.head?).lives handles.store.frames.size) }
    after.Tended (handles.store.frames.size :: hand) ∧
      after.Places ⟨tree, handles.store.frames.size, ancestors⟩ := by
  intro after
  have size := tended.length_retain_around live
  constructor
  · refine ⟨?_, ?_, tended.names, fun entry member => ⟨?_, ?_⟩,
      fun _ _ => tended.tree?_of_outer?_grow live here, ?_,
      fun other roster found => ?_, fun frame => ?_⟩
    · change (handles.ledger.grow _).Balanced _
      rw [Ledger.grow, ← size]
      exact (tended.retain_around live).1.push.perm List.perm_middle.symm
    · change (handles.ledger.grow _).length = (handles.store.addFrame tree).2.frames.size
      simp [Ledger.grow, size, Store.addFrame]
    · have places := tended.places entry member
      exact tended.linked_grow live places.linked
        (places.linked.lives_of_mem tended.balanced (tended.lives_of_mem member))
    · exact Store.tree?_addFrame_of_some (tended.places entry member).tree tree
    · change (handles.rosters.modify tree _).length = (handles.store.addFrame tree).2.trees
      rw [List.length_modify, tended.trees, Store.trees_addFrame_of_lt known]
    · change (handles.rosters.modify tree _)[other]? = some roster at found
      rw [List.getElem?_modify] at found
      obtain ⟨before, foundBefore, changed⟩ := Option.map_eq_some_iff.1 found
      split at changed
      · rename_i same
        subst same changed
        exact tended.tracks_track foundBefore rfl fun _ => tended.lives_of_lives_grow live
      · rename_i different
        subst changed
        exact tended.tracks_other foundBefore different rfl fun _ =>
          tended.lives_of_lives_grow live
    · change (handles.store.addFrame tree).2.heldFrames frame = []
      rw [Store.heldFrames, Store.bindings_addFrame]
      exact tended.free frame
  · refine ⟨⟨?_, ?_⟩, ?_⟩
    · change (handles.ledger.grow _).outer? handles.store.frames.size = ancestors.head?
      rw [tended.outer?_grow live, if_pos rfl]
    · cases ancestors with
      | nil => trivial
      | cons first rest =>
          exact tended.linked_grow live linked
            (linked.lives_of_mem tended.balanced (live first rfl))
    · change (handles.store.addFrame tree).2.tree? handles.store.frames.size = some tree
      rw [Store.tree?_addFrame, if_pos rfl]

/-- A scope of its own in a new tree is in the hand. -/
theorem newScope (tended : handles.Tended hand) :
    handles.newScope.2.Tended (handles.newScope.1.frame :: hand) ∧
      handles.newScope.2.Places handles.newScope.1 :=
  tended.newTree.addFrame (Nat.lt_succ_self _) (show handles.ledger.Linked [] from trivial)
    (fun _ none => by cases none) (fun _ none => by cases none)

theorem childScope {scope : Scope} (tended : handles.Tended hand)
    (places : handles.Places scope) (live : handles.ledger.lives scope.frame = true) :
    (handles.childScope scope).2.Tended ((handles.childScope scope).1.frame :: hand) ∧
      (handles.childScope scope).2.Places (handles.childScope scope).1 := by
  refine tended.addFrame (Store.lt_trees_of_tree? places.tree) places.linked ?_ ?_
  · rintro _ ⟨⟩
    exact live
  · rintro _ ⟨⟩
    exact places.tree

theorem detachedScope {scope : Scope} (tended : handles.Tended hand)
    (places : handles.Places scope) :
    (handles.detachedScope scope).2.Tended ((handles.detachedScope scope).1.frame :: hand) ∧
      (handles.detachedScope scope).2.Places (handles.detachedScope scope).1 :=
  tended.addFrame (Store.lt_trees_of_tree? places.tree)
    (show handles.ledger.Linked [] from trivial)
    (fun _ none => by cases none) (fun _ none => by cases none)

theorem scopeOf {entries : Table Value} (tended : handles.Tended hand)
    (holdNone : Value.heldByEntries entries = []) :
    (handles.scopeOf entries).2.Tended ((handles.scopeOf entries).1.frame :: hand) ∧
      (handles.scopeOf entries).2.Places (handles.scopeOf entries).1 := by
  obtain ⟨made, places⟩ := tended.newScope
  exact ⟨made.bindAll _ holdNone, made.places_bindAll holdNone places⟩

end Tended

/-- The frames that the values of an operation refer to. -/
def Operation.heldFrames : Operation → List Nat
  | .ofEntries _ entries => Value.heldByEntries entries
  | .set _ _ value => value.heldFrames
  | _ => []

/-- An operation whose values refer to no frames keeps what holds at every moment. -/
theorem Tended.perform {handles after : Handles} (tended : handles.Tended [])
    {operation : Operation} (free : operation.heldFrames = [])
    (performed : handles.perform operation = some after) : after.Tended [] := by
  cases operation with
  | new handle =>
      cases performed
      obtain ⟨made, places⟩ := tended.newScope
      exact made.hold places handle
  | ofJson handle data =>
      rw [Handles.perform] at performed
      split at performed
      · rename_i entries read
        cases performed
        obtain ⟨made, places⟩ := tended.scopeOf (Table.heldByEntries_ofJson read)
        exact made.hold places handle
      · cases performed
        exact tended
  | ofEntries handle entries =>
      cases performed
      obtain ⟨made, places⟩ := tended.scopeOf free
      exact made.hold places handle
  | inherit handle outer =>
      obtain ⟨scope, held, made⟩ := Option.bind_eq_some_iff.1 performed
      cases made
      obtain ⟨made, places⟩ :=
        tended.childScope (tended.places_of_held held) (tended.lives_of_held held)
      exact made.hold places handle
  | detach handle origin =>
      obtain ⟨scope, held, made⟩ := Option.bind_eq_some_iff.1 performed
      cases made
      obtain ⟨made, places⟩ := tended.detachedScope (tended.places_of_held held)
      exact made.hold places handle
  | clone handle origin =>
      obtain ⟨scope, held, made⟩ := Option.bind_eq_some_iff.1 performed
      cases made
      obtain ⟨made, places⟩ := tended.copyScope held
      exact made.hold places handle
  | drop handle =>
      obtain ⟨scope, held, made⟩ := Option.bind_eq_some_iff.1 performed
      cases made
      exact tended.drop held
  | set handle name value =>
      obtain ⟨scope, held, made⟩ := Option.bind_eq_some_iff.1 performed
      cases made
      exact tended.bind scope name free
  | update target source =>
      obtain ⟨scope, held, made⟩ := Option.bind_eq_some_iff.1 performed
      obtain ⟨origin, _, made⟩ := Option.bind_eq_some_iff.1 made
      cases made
      exact tended.bindAll scope (tended.free origin.frame)
  | release handle =>
      obtain ⟨scope, held, made⟩ := Option.bind_eq_some_iff.1 performed
      cases made
      exact tended.release scope

/-- What holds at every moment holds after any number of operations whose values refer to no
frames. -/
theorem Tended.performAll {operations : List Operation} {handles : Handles}
    (free : ∀ operation ∈ operations, operation.heldFrames = [])
    (performed : Handles.performAll operations = some handles) : handles.Tended [] := by
  have step {before after : Handles} {operation : Operation} (listed : operation ∈ operations)
      (tended : before.Tended []) (performed : before.perform operation = some after) :
      after.Tended [] :=
    tended.perform (free operation listed) performed
  exact of_performAll tended_empty step performed

end Handles

end TemplateEngine

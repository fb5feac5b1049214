import Mathlib.Data.List.Count
import TemplateEngine.Store.Lifetime

/-!
# The balance of references

A ledger is in balance when each frame has as many references as there are: from roots, which
are the handles of a program and what it has in the hand, and from live frames right inside the
frame.  References may be given up, added to a live frame, and passed on to a new frame; the
ledger stays in balance all the while.

Frames lie inside older ones only.  So the balance says which frames live: a frame lives exactly
if it is a root or lies around one.  The values bound in frames are taken to refer to nothing
here, as frames whose values refer to each other keep each other alive without any root.
-/

namespace TemplateEngine

namespace Ledger

/-- The frame around a frame. -/
def outer? (ledger : Ledger) (frame : Nat) : Option Nat :=
  ledger[frame]?.bind Holding.outer

/-- The count of references to a frame. -/
def references (ledger : Ledger) (frame : Nat) : Nat :=
  (ledger[frame]?.map Holding.references).getD 0

/-- The count of live frames right inside a frame. -/
def inside (ledger : Ledger) (frame : Nat) : Nat :=
  ledger.countP fun holding => holding.outer = some frame ∧ 0 < holding.references

theorem lives_iff {ledger : Ledger} {frame : Nat} :
    ledger.lives frame = true ↔ 0 < ledger.references frame := by
  rw [lives, references]
  cases ledger[frame]? <;> simp

/-- The frames that are a given one or lie around it. -/
inductive Around (ledger : Ledger) (frame : Nat) : Nat → Prop
  | self : Around ledger frame frame
  | outer {between around : Nat} (inner : Around ledger frame between)
      (next : ledger.outer? between = some around) : Around ledger frame around

/-- Each frame is referred to by some roots and the live frames right inside it, and lies
inside older frames only. -/
structure Balanced (ledger : Ledger) (roots : List Nat) : Prop where
  counted : ∀ frame < ledger.length,
    ledger.references frame = roots.count frame + ledger.inside frame
  present : ∀ root ∈ roots, root < ledger.length
  older : ∀ frame around, ledger.outer? frame = some around → around < frame

theorem lt_length_of_outer? {ledger : Ledger} {frame around : Nat}
    (next : ledger.outer? frame = some around) : frame < ledger.length := by
  obtain ⟨holding, found, _⟩ := Option.bind_eq_some_iff.1 next
  exact (List.getElem?_eq_some_iff.1 found).1

theorem lt_length_of_lives {ledger : Ledger} {frame : Nat} (live : ledger.lives frame = true) :
    frame < ledger.length := by
  rw [lives] at live
  split at live
  · rename_i holding found
    exact (List.getElem?_eq_some_iff.1 found).1
  · cases live

/-- Some live frame lies right inside a frame if they are counted at all. -/
theorem inside_pos_iff {ledger : Ledger} {frame : Nat} :
    0 < ledger.inside frame ↔
      ∃ inner, ledger.outer? inner = some frame ∧ ledger.lives inner = true := by
  rw [inside, List.countP_pos_iff]
  constructor
  · rintro ⟨holding, member, counts⟩
    obtain ⟨inner, found⟩ := List.mem_iff_getElem?.1 member
    obtain ⟨outer, refers⟩ := of_decide_eq_true counts
    exact ⟨inner, by simp [outer?, found, outer], by simp [lives, found, refers]⟩
  · rintro ⟨inner, next, live⟩
    obtain ⟨holding, found, outer⟩ := Option.bind_eq_some_iff.1 next
    rw [lives, found] at live
    exact ⟨holding, List.mem_of_getElem? found, decide_eq_true ⟨outer, by simpa using live⟩⟩

namespace Balanced

variable {ledger : Ledger} {roots : List Nat}

/-- A root lives. -/
theorem lives_of_mem (balanced : ledger.Balanced roots) {root : Nat} (member : root ∈ roots) :
    ledger.lives root = true := by
  have counted := balanced.counted root (balanced.present root member)
  have once := List.count_pos_iff.2 member
  exact lives_iff.2 (by omega)

/-- The frame around a live frame lives. -/
theorem lives_outer (balanced : ledger.Balanced roots) {frame around : Nat}
    (live : ledger.lives frame = true) (next : ledger.outer? frame = some around) :
    ledger.lives around = true := by
  have known : around < ledger.length :=
    Nat.lt_trans (balanced.older frame around next) (lt_length_of_lives live)
  have counted := balanced.counted around known
  have inner := inside_pos_iff.2 ⟨frame, next, live⟩
  exact lives_iff.2 (by omega)

theorem lives_of_around (balanced : ledger.Balanced roots) {frame around : Nat}
    (live : ledger.lives frame = true) (lies : ledger.Around frame around) :
    ledger.lives around = true := by
  induction lies with
  | self => exact live
  | outer _ next inductionHypothesis => exact balanced.lives_outer inductionHypothesis next

/-- A live frame is a root or lies around one.  The induction goes from newer frames to older
ones, since a frame that is no root has a live one inside it, which is newer. -/
theorem exists_root (balanced : ledger.Balanced roots) (frame : Nat)
    (live : ledger.lives frame = true) : ∃ root ∈ roots, ledger.Around root frame := by
  have bounded := lt_length_of_lives live
  have counted := balanced.counted frame bounded
  have referred := lives_iff.1 live
  by_cases member : frame ∈ roots
  · exact ⟨frame, member, .self⟩
  · have absent := List.count_eq_zero.2 member
    obtain ⟨inner, next, innerLive⟩ := inside_pos_iff.1 (by omega : 0 < ledger.inside frame)
    have newer := balanced.older inner frame next
    obtain ⟨root, isRoot, lies⟩ := balanced.exists_root inner innerLive
    exact ⟨root, isRoot, .outer lies next⟩
termination_by ledger.length - frame
decreasing_by
  have := lt_length_of_lives innerLive
  omega

/-- A frame lives exactly if it is a root or lies around one. -/
theorem lives_iff_around (balanced : ledger.Balanced roots) {frame : Nat} :
    ledger.lives frame = true ↔ ∃ root ∈ roots, ledger.Around root frame := by
  constructor
  · exact balanced.exists_root frame
  · rintro ⟨root, member, lies⟩
    exact balanced.lives_of_around (balanced.lives_of_mem member) lies

/-- The order of roots does not matter. -/
theorem perm (balanced : ledger.Balanced roots) {others : List Nat} (same : roots.Perm others) :
    ledger.Balanced others where
  counted frame known := same.count_eq frame ▸ balanced.counted frame known
  present root member := balanced.present root (same.mem_iff.2 member)
  older := balanced.older

end Balanced

/-! ## Another count of references -/

section Recounting

variable {ledger : Ledger} {frame references : Nat} {outer : Option Nat}

theorem references_of_getElem? (found : ledger[frame]? = some ⟨references, outer⟩) :
    ledger.references frame = references := by
  simp [Ledger.references, found]

theorem outer?_of_getElem? (found : ledger[frame]? = some ⟨references, outer⟩) :
    ledger.outer? frame = outer := by
  simp [outer?, found]

/-- Recounting references moves no frame. -/
theorem outer?_set (found : ledger[frame]? = some ⟨references, outer⟩) (count other : Nat) :
    outer? (ledger.set frame ⟨count, outer⟩) other = ledger.outer? other := by
  have known := (List.getElem?_eq_some_iff.1 found).1
  rw [outer?, List.getElem?_set]
  by_cases same : frame = other
  · subst same
    simp [known, outer?_of_getElem? found]
  · simp [same, outer?]

theorem references_set (found : ledger[frame]? = some ⟨references, outer⟩) (count other : Nat) :
    Ledger.references (ledger.set frame ⟨count, outer⟩) other =
      if other = frame then count else ledger.references other := by
  have known := (List.getElem?_eq_some_iff.1 found).1
  rw [Ledger.references, List.getElem?_set]
  by_cases same : frame = other
  · simp [← same, known]
  · simp [same, Ne.symm same, Ledger.references]

/-- The frame around a recounted one has one live frame more inside it if that begins to live,
and one less if that ends to live. -/
theorem inside_set (found : ledger[frame]? = some ⟨references, outer⟩) (count other : Nat) :
    inside (ledger.set frame ⟨count, outer⟩) other +
        (if outer = some other ∧ 0 < references then 1 else 0) =
      ledger.inside other + (if outer = some other ∧ 0 < count then 1 else 0) := by
  obtain ⟨known, here⟩ := List.getElem?_eq_some_iff.1 found
  have counted : (if outer = some other ∧ 0 < references then 1 else 0) ≤ ledger.inside other := by
    split
    · rename_i lives
      refine inside_pos_iff.2 ⟨frame, (outer?_of_getElem? found).trans lives.1, lives_iff.2 ?_⟩
      rw [references_of_getElem? found]
      exact lives.2
    · exact Nat.zero_le _
  rw [inside, List.countP_set known, here]
  simp only [decide_eq_true_eq]
  rw [inside] at counted ⊢
  omega

end Recounting

/-! ## Giving up references -/

/-- Whether a ledger has the same frames as an earlier one, and none of them has come to live
since. -/
structure Follows (before after : Ledger) : Prop where
  length : after.length = before.length
  outer? : ∀ frame, after.outer? frame = before.outer? frame
  lived : ∀ frame, after.lives frame = true → before.lives frame = true

namespace Follows

variable {before after last : Ledger}

theorem refl (ledger : Ledger) : ledger.Follows ledger :=
  ⟨rfl, fun _ => rfl, fun _ live => live⟩

theorem trans (first : before.Follows after) (second : after.Follows last) :
    before.Follows last where
  length := second.length.trans first.length
  outer? frame := (second.outer? frame).trans (first.outer? frame)
  lived frame live := first.lived frame (second.lived frame live)

theorem set {ledger : Ledger} {frame references count : Nat} {outer : Option Nat}
    (found : ledger[frame]? = some ⟨references, outer⟩) (lived : 0 < count → 0 < references) :
    ledger.Follows (ledger.set frame ⟨count, outer⟩) where
  length := List.length_set
  outer? := outer?_set found count
  lived other live := by
    rw [lives_iff, references_set found] at live
    rw [lives_iff]
    split at live
    · rename_i same
      rw [same, references_of_getElem? found]
      exact lived live
    · exact live

end Follows

namespace Balanced

variable {ledger : Ledger} {roots : List Nat} {frame references : Nat} {outer : Option Nat}

theorem count_toList (outer : Option Nat) (frame : Nat) :
    outer.toList.count frame = if outer = some frame then 1 else 0 := by
  cases outer with
  | none => rfl
  | some around => simp [List.count_singleton]

/-- A frame that is given up has references as long as the ledger is in balance. -/
theorem references_pos (balanced : ledger.Balanced (frame :: roots))
    (found : ledger[frame]? = some ⟨references, outer⟩) : 0 < references := by
  have live := lives_iff.1 (balanced.lives_of_mem List.mem_cons_self)
  rwa [references_of_getElem? found] at live

/-- The last reference to a frame is given up: what referred to the frame around it is in the
hand now. -/
theorem giveUpLast (balanced : ledger.Balanced (frame :: roots))
    (found : ledger[frame]? = some ⟨1, outer⟩) :
    Balanced (ledger.set frame ⟨0, outer⟩) (outer.toList ++ roots) where
  counted other known := by
    rw [List.length_set] at known
    have before := balanced.counted other known
    have inner := inside_set found 0 other
    have passed := count_toList outer other
    simp only [Nat.lt_irrefl, and_false, if_false, Nat.zero_lt_one, and_true] at inner
    rw [references_set found, List.count_append, passed]
    by_cases same : other = frame
    · subst same
      rw [references_of_getElem? found, List.count_cons_self] at before
      rw [if_pos rfl]
      omega
    · rw [List.count_cons_of_ne (Ne.symm same)] at before
      rw [if_neg same]
      omega
  present root member := by
    rw [List.length_set]
    rcases List.mem_append.1 member with around | member
    · have next : ledger.outer? frame = some root := by
        rw [outer?_of_getElem? found]
        simpa using around
      exact Nat.lt_trans (balanced.older frame root next)
        (balanced.present frame List.mem_cons_self)
    · exact balanced.present root (List.mem_cons_of_mem _ member)
  older other around next := balanced.older other around (by rwa [outer?_set found] at next)

/-- One of several references to a frame is given up. -/
theorem giveUpOne (balanced : ledger.Balanced (frame :: roots))
    (found : ledger[frame]? = some ⟨references + 2, outer⟩) :
    Balanced (ledger.set frame ⟨references + 1, outer⟩) roots where
  counted other known := by
    rw [List.length_set] at known
    have before := balanced.counted other known
    have inner := inside_set found (references + 1) other
    simp only [Nat.zero_lt_succ, and_true] at inner
    rw [references_set found]
    by_cases same : other = frame
    · subst same
      rw [references_of_getElem? found, List.count_cons_self] at before
      rw [if_pos rfl]
      omega
    · rw [List.count_cons_of_ne (Ne.symm same)] at before
      rw [if_neg same]
      omega
  present root member := by
    rw [List.length_set]
    exact balanced.present root (List.mem_cons_of_mem _ member)
  older other around next := balanced.older other around (by rwa [outer?_set found] at next)

/-- A ledger stays in balance when references are given up. -/
theorem letGo {held : Nat → List Nat} (free : ∀ frame, held frame = []) {frames : List Nat}
    (balanced : ledger.Balanced (frames ++ roots)) :
    (ledger.letGo held frames).Balanced roots ∧ ledger.Follows (ledger.letGo held frames) := by
  fun_induction Ledger.letGo held ledger frames with
  | case1 ledger => exact ⟨balanced, .refl ledger⟩
  | case2 ledger frame rest found =>
      have known := balanced.present frame List.mem_cons_self
      rw [List.getElem?_eq_none_iff] at found
      omega
  | case3 ledger frame rest outer found =>
      have some := balanced.references_pos found
      omega
  | case4 ledger frame rest outer found inductionHypothesis =>
      have passed := balanced.giveUpLast found
      rw [free, List.append_nil] at inductionHypothesis ⊢
      obtain ⟨after, follows⟩ := inductionHypothesis (by rwa [List.append_assoc])
      exact ⟨after, (Follows.set found (by omega)).trans follows⟩
  | case5 ledger frame rest references outer found inductionHypothesis =>
      obtain ⟨after, follows⟩ := inductionHypothesis (balanced.giveUpOne found)
      exact ⟨after, (Follows.set found (by omega)).trans follows⟩

end Balanced

/-! ## Adding references and frames -/

theorem retain_singleton {ledger : Ledger} {frame references : Nat} {outer : Option Nat}
    (found : ledger[frame]? = some ⟨references, outer⟩) :
    ledger.retain [frame] = ledger.set frame ⟨references + 1, outer⟩ := by
  obtain ⟨known, here⟩ := List.getElem?_eq_some_iff.1 found
  rw [retain, List.foldl_cons, List.foldl_nil, List.modify_eq_set_get _ known, List.get_eq_getElem,
    here]

/-- The ledger with one more frame, inside another one or on its own. -/
def grow (ledger : Ledger) (outer : Option Nat) : Ledger :=
  ledger.retain outer.toList ++ [⟨1, outer⟩]

theorem outer?_push (ledger : Ledger) (outer : Option Nat) (frame : Nat) :
    outer? (ledger ++ [⟨1, outer⟩]) frame =
      if frame = ledger.length then outer else ledger.outer? frame := by
  rw [outer?, List.getElem?_append]
  split
  · rename_i known
    rw [if_neg (Nat.ne_of_lt known), outer?]
  · by_cases new : frame = ledger.length
    · simp [new]
    · have beyond : ledger.length ≤ frame := by omega
      simp [new, outer?, List.getElem?_eq_none beyond, Nat.sub_eq_zero_iff_le,
        Nat.lt_of_le_of_ne beyond (Ne.symm new)]

theorem references_push (ledger : Ledger) (outer : Option Nat) (frame : Nat) :
    Ledger.references (ledger ++ [⟨1, outer⟩]) frame =
      if frame = ledger.length then 1 else ledger.references frame := by
  rw [Ledger.references, List.getElem?_append]
  split
  · rename_i known
    rw [if_neg (Nat.ne_of_lt known), Ledger.references]
  · by_cases new : frame = ledger.length
    · simp [new]
    · have beyond : ledger.length ≤ frame := by omega
      simp [new, Ledger.references, List.getElem?_eq_none beyond, Nat.sub_eq_zero_iff_le,
        Nat.lt_of_le_of_ne beyond (Ne.symm new)]

theorem inside_push (ledger : Ledger) (outer : Option Nat) (frame : Nat) :
    inside (ledger ++ [⟨1, outer⟩]) frame =
      ledger.inside frame + if outer = some frame then 1 else 0 := by
  simp [inside, List.countP_append, List.countP_singleton]

namespace Balanced

variable {ledger : Ledger} {roots : List Nat}

/-- Nothing lies inside a frame that does not exist. -/
theorem inside_eq_zero (balanced : ledger.Balanced roots) {frame : Nat}
    (beyond : ledger.length ≤ frame) : ledger.inside frame = 0 := by
  refine Nat.eq_zero_of_not_pos fun some => ?_
  obtain ⟨inner, next, _⟩ := inside_pos_iff.1 some
  have older := balanced.older inner frame next
  have known := lt_length_of_outer? next
  omega

/-- Another reference to a live frame is in the hand. -/
theorem retain (balanced : ledger.Balanced roots) {frame : Nat}
    (live : ledger.lives frame = true) :
    (ledger.retain [frame]).Balanced (frame :: roots) ∧
      ledger.Follows (ledger.retain [frame]) := by
  have known := lt_length_of_lives live
  obtain ⟨⟨references, outer⟩, found⟩ : ∃ holding, ledger[frame]? = some holding :=
    ⟨_, List.getElem?_eq_getElem known⟩
  have referred : 0 < references := references_of_getElem? found ▸ lives_iff.1 live
  rw [retain_singleton found]
  refine ⟨⟨fun other known => ?_, fun root member => ?_, fun other around next => ?_⟩,
    .set found fun _ => referred⟩
  · rw [List.length_set] at known
    have before := balanced.counted other known
    have inner := inside_set found (references + 1) other
    simp only [referred, Nat.zero_lt_succ, and_true] at inner
    rw [references_set found]
    by_cases same : other = frame
    · subst same
      rw [references_of_getElem? found] at before
      rw [if_pos rfl, List.count_cons_self]
      omega
    · rw [if_neg same, List.count_cons_of_ne (Ne.symm same)]
      omega
  · rw [List.length_set]
    rcases List.mem_cons.1 member with rfl | member
    · exact known
    · exact balanced.present root member
  · exact balanced.older other around (by rwa [outer?_set found] at next)

/-- A new frame takes over the reference to the frame around it. -/
theorem push {outer : Option Nat} (balanced : ledger.Balanced (outer.toList ++ roots)) :
    Balanced (ledger ++ [⟨1, outer⟩]) (ledger.length :: roots) where
  counted frame known := by
    rw [references_push, inside_push]
    have passed := count_toList outer frame
    by_cases new : frame = ledger.length
    · subst new
      have alone := balanced.inside_eq_zero (Nat.le_refl ledger.length)
      have absent : (outer.toList ++ roots).count ledger.length = 0 :=
        List.count_eq_zero.2 fun member => Nat.lt_irrefl _ (balanced.present _ member)
      rw [List.count_append, passed] at absent
      rw [if_pos rfl, List.count_cons_self, alone]
      omega
    · have older : frame < ledger.length := by
        rw [List.length_append, List.length_singleton] at known
        omega
      have before := balanced.counted frame older
      rw [List.count_append, passed] at before
      rw [if_neg new, List.count_cons_of_ne (Ne.symm new)]
      omega
  present root member := by
    rw [List.length_append, List.length_singleton]
    rcases List.mem_cons.1 member with rfl | member
    · exact Nat.lt_succ_self _
    · exact Nat.lt_succ_of_lt (balanced.present root (List.mem_append_right _ member))
  older frame around next := by
    rw [outer?_push] at next
    split at next
    · rename_i new
      subst next
      exact new ▸ balanced.present around (by simp)
    · exact balanced.older frame around next

end Balanced

/-! ## Frames around each other -/

/-- Whether frames lie around each other, the first of them innermost, and nothing lies around
the last one. -/
def Linked (ledger : Ledger) : List Nat → Prop
  | [] => True
  | frame :: rest => ledger.outer? frame = rest.head? ∧ ledger.Linked rest

namespace Linked

variable {ledger : Ledger} {frame : Nat} {rest : List Nat}

/-- The frame around one of linked frames is one of them. -/
theorem mem_of_outer? {frames : List Nat} (linked : ledger.Linked frames) {frame around : Nat}
    (member : frame ∈ frames) (next : ledger.outer? frame = some around) : around ∈ frames := by
  induction frames with
  | nil => cases member
  | cons first others inductionHypothesis =>
      obtain ⟨after, linked⟩ := linked
      rcases List.mem_cons.1 member with rfl | member
      · exact List.mem_cons_of_mem _ (List.mem_of_head? (after ▸ next))
      · exact List.mem_cons_of_mem _ (inductionHypothesis linked member)

/-- What lies around the first of linked frames does so around whatever that lies around. -/
theorem around_of_mem (linked : ledger.Linked (frame :: rest)) {start : Nat}
    (lies : ledger.Around start frame) :
    ∀ other ∈ frame :: rest, ledger.Around start other := by
  induction rest generalizing frame with
  | nil => exact List.forall_mem_singleton.2 lies
  | cons next more inductionHypothesis =>
      intro other member
      rcases List.mem_cons.1 member with rfl | member
      · exact lies
      · exact inductionHypothesis linked.2 (.outer lies linked.1) other member

/-- The frames that are the first of linked frames or lie around it are these frames. -/
theorem around_iff (linked : ledger.Linked (frame :: rest)) {other : Nat} :
    ledger.Around frame other ↔ other ∈ frame :: rest := by
  constructor
  · intro lies
    induction lies with
    | self => exact List.mem_cons_self
    | outer _ next inductionHypothesis => exact linked.mem_of_outer? inductionHypothesis next
  · exact linked.around_of_mem .self other

/-- Frames stay linked as long as the same frames lie around them. -/
theorem congr {after : Ledger} {frames : List Nat}
    (same : ∀ frame ∈ frames, after.outer? frame = ledger.outer? frame)
    (linked : ledger.Linked frames) : after.Linked frames := by
  induction frames with
  | nil => trivial
  | cons frame others inductionHypothesis =>
      refine ⟨(same frame List.mem_cons_self).trans linked.1, inductionHypothesis ?_ linked.2⟩
      exact fun other member => same other (List.mem_cons_of_mem _ member)

/-- All of linked frames live if the first one does. -/
theorem lives_of_mem (linked : ledger.Linked (frame :: rest)) {roots : List Nat}
    (balanced : ledger.Balanced roots) (live : ledger.lives frame = true) :
    ∀ other ∈ frame :: rest, ledger.lives other = true :=
  fun other member => balanced.lives_of_around live (linked.around_of_mem .self other member)

end Linked

end Ledger

end TemplateEngine

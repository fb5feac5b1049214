import TemplateEngine.Store

/-!
# Pairings of frames

Two renderings that do the same open frames in the same order, but their stores may hold
other frames besides, so that the frames they open have different numbers.  A pairing says
which frame of one store stands for which of the other.  It tells frames apart, and their
trees, which is what releasing a tree of scopes depends on.

One of the renderings may also open a frame that nothing in the other one stands for.  Such
a frame is aside.  Frames inside of it are guarded: a lookup from there passes frames that
are aside, so that it has to be for a name which these do not bind.  The frames around a
plain frame are paired one by one.
-/

namespace TemplateEngine

/-- What may stand around a frame that is paired. -/
inductive FrameKind where
  /-- Plain frames that are paired with each other, one by one. -/
  | plain
  /-- Guarded frames that are paired, and frames that are aside. -/
  | guarded
deriving DecidableEq

/-- A frame of one store and the frame of another one that stands for it. -/
structure FramePair where
  kind : FrameKind
  first : Nat
  second : Nat

/-- The frames of two stores that stand for each other, and those that are aside. -/
structure Pairing where
  pairs : List FramePair
  /-- The trees of paired frames. -/
  trees : List (Nat × Nat)
  firstAside : List Nat
  secondAside : List Nat
  /-- A frame is paired with one frame only. -/
  once : ∀ pair ∈ pairs, ∀ other ∈ pairs,
    pair.first = other.first ↔ pair.second = other.second
  kinds : ∀ pair ∈ pairs, ∀ other ∈ pairs, pair.first = other.first → pair.kind = other.kind
  apart : ∀ pair ∈ pairs, pair.first ∉ firstAside ∧ pair.second ∉ secondAside
  distinct : ∀ tree ∈ trees, ∀ other ∈ trees, tree.1 = other.1 ↔ tree.2 = other.2

namespace Pairing

/-- No frames. -/
def empty : Pairing where
  pairs := []
  trees := []
  firstAside := []
  secondAside := []
  once := by
    intro pair member
    cases member
  kinds := by
    intro pair member
    cases member
  apart := by
    intro pair member
    cases member
  distinct := by
    intro tree member
    cases member

variable (pairing : Pairing)

/-- All that one pairing says is said by a later one. -/
structure Grows (earlier later : Pairing) : Prop where
  pairs : earlier.pairs ⊆ later.pairs
  trees : earlier.trees ⊆ later.trees
  firstAside : earlier.firstAside ⊆ later.firstAside
  secondAside : earlier.secondAside ⊆ later.secondAside

theorem Grows.refl : Grows pairing pairing :=
  ⟨fun _ => id, fun _ => id, fun _ => id, fun _ => id⟩

variable {pairing}

theorem Grows.trans {first second third : Pairing} (earlier : Grows first second)
    (later : Grows second third) : Grows first third :=
  ⟨fun _ member => later.pairs (earlier.pairs member),
    fun _ member => later.trees (earlier.trees member),
    fun _ member => later.firstAside (earlier.firstAside member),
    fun _ member => later.secondAside (earlier.secondAside member)⟩

variable (pairing)

/-- Whether a frame is paired and of a kind. -/
def Knows (kind : FrameKind) (frame : Nat) : Prop :=
  ∃ second, ⟨kind, frame, second⟩ ∈ pairing.pairs

/-- A frame is of one kind only. -/
theorem kind_eq {kind other : FrameKind} {first second : Nat}
    (known : pairing.Knows kind first) (member : ⟨other, first, second⟩ ∈ pairing.pairs) :
    kind = other := by
  obtain ⟨_, present⟩ := known
  exact pairing.kinds _ present _ member rfl

/-- The frames around scopes of one kind, nearest first. -/
inductive Chains : FrameKind → List Nat → List Nat → Prop where
  | nil {kind : FrameKind} : Chains kind [] []
  | pair {kind : FrameKind} {first second : Nat} {chain other : List Nat}
      (member : ⟨kind, first, second⟩ ∈ pairing.pairs) (further : Chains kind chain other) :
      Chains kind (first :: chain) (second :: other)
  | first {frame : Nat} {chain other : List Nat} (aside : frame ∈ pairing.firstAside)
      (further : Chains .guarded chain other) : Chains .guarded (frame :: chain) other
  | second {frame : Nat} {chain other : List Nat} (aside : frame ∈ pairing.secondAside)
      (further : Chains .guarded chain other) : Chains .guarded chain (frame :: other)

/-- Scopes inside of which scopes of a kind can be opened. -/
structure Outer (kind : FrameKind) (first second : Scope) : Prop where
  trees : (first.tree, second.tree) ∈ pairing.trees
  chains : pairing.Chains kind first.chain second.chain

/-- Scopes of a kind whose own frames are paired. -/
structure Scopes (kind : FrameKind) (first second : Scope) : Prop extends
    pairing.Outer kind first second where
  frames : ⟨kind, first.frame, second.frame⟩ ∈ pairing.pairs

variable {pairing} {kind : FrameKind} {later : Pairing} {first second : Scope}

theorem Chains.grow {chain other : List Nat} (grown : pairing.Grows later)
    (chains : pairing.Chains kind chain other) : later.Chains kind chain other := by
  induction chains with
  | nil => exact .nil
  | pair member _ inductionHypothesis =>
      exact .pair (grown.pairs member) inductionHypothesis
  | first aside _ inductionHypothesis =>
      exact .first (grown.firstAside aside) inductionHypothesis
  | second aside _ inductionHypothesis =>
      exact .second (grown.secondAside aside) inductionHypothesis

theorem Outer.grow (grown : pairing.Grows later) (outer : pairing.Outer kind first second) :
    later.Outer kind first second :=
  ⟨grown.trees outer.trees, outer.chains.grow grown⟩

theorem Scopes.grow (grown : pairing.Grows later) (scopes : pairing.Scopes kind first second) :
    later.Scopes kind first second :=
  ⟨scopes.toOuter.grow grown, grown.pairs scopes.frames⟩

theorem Scopes.knows (scopes : pairing.Scopes kind first second) :
    pairing.Knows kind first.frame :=
  ⟨second.frame, scopes.frames⟩

theorem Knows.grow {frame : Nat} (grown : pairing.Grows later)
    (known : pairing.Knows kind frame) : later.Knows kind frame := by
  obtain ⟨second, member⟩ := known
  exact ⟨second, grown.pairs member⟩

/-! ## Growing -/

variable (pairing)

/-- Whether all frames that a pairing knows of are older than two others. -/
structure Older (first second : Nat) : Prop where
  pairs : ∀ pair ∈ pairing.pairs, pair.first < first ∧ pair.second < second
  firstAside : ∀ frame ∈ pairing.firstAside, frame < first
  secondAside : ∀ frame ∈ pairing.secondAside, frame < second

variable {firstFrame secondFrame : Nat}

theorem once_cons (kind : FrameKind) (older : pairing.Older firstFrame secondFrame) :
    ∀ pair ∈ ⟨kind, firstFrame, secondFrame⟩ :: pairing.pairs,
      ∀ other ∈ ⟨kind, firstFrame, secondFrame⟩ :: pairing.pairs,
        pair.first = other.first ↔ pair.second = other.second := by
  simp only [List.forall_mem_cons]
  refine ⟨⟨by simp, fun pair member => ?_⟩, fun pair member => ⟨?_, fun other present => ?_⟩⟩
  · have := older.pairs pair member
    omega
  · have := older.pairs pair member
    omega
  · exact pairing.once pair member other present

theorem kinds_cons (kind : FrameKind) (older : pairing.Older firstFrame secondFrame) :
    ∀ pair ∈ ⟨kind, firstFrame, secondFrame⟩ :: pairing.pairs,
      ∀ other ∈ ⟨kind, firstFrame, secondFrame⟩ :: pairing.pairs,
        pair.first = other.first → pair.kind = other.kind := by
  simp only [List.forall_mem_cons]
  refine ⟨⟨by simp, fun pair member same => ?_⟩, fun pair member => ⟨fun same => ?_,
    fun other present => pairing.kinds pair member other present⟩⟩
  · have := older.pairs pair member
    omega
  · have := older.pairs pair member
    omega

/-- Two new frames that stand for each other. -/
def addPair (kind : FrameKind) (older : pairing.Older firstFrame secondFrame) : Pairing where
  pairs := ⟨kind, firstFrame, secondFrame⟩ :: pairing.pairs
  trees := pairing.trees
  firstAside := pairing.firstAside
  secondAside := pairing.secondAside
  once := pairing.once_cons kind older
  kinds := pairing.kinds_cons kind older
  apart := by
    simp only [List.forall_mem_cons]
    exact ⟨⟨fun aside => Nat.lt_irrefl _ (older.firstAside _ aside),
      fun aside => Nat.lt_irrefl _ (older.secondAside _ aside)⟩, pairing.apart⟩
  distinct := pairing.distinct

theorem grows_addPair (kind : FrameKind) (older : pairing.Older firstFrame secondFrame) :
    pairing.Grows (pairing.addPair kind older) :=
  ⟨List.subset_cons_self _ _, fun _ => id, fun _ => id, fun _ => id⟩

/-- Two new trees that stand for each other. -/
def addTree {first second : Nat}
    (older : ∀ tree ∈ pairing.trees, tree.1 < first ∧ tree.2 < second) : Pairing where
  pairs := pairing.pairs
  trees := (first, second) :: pairing.trees
  firstAside := pairing.firstAside
  secondAside := pairing.secondAside
  once := pairing.once
  kinds := pairing.kinds
  apart := pairing.apart
  distinct := by
    simp only [List.forall_mem_cons]
    refine ⟨⟨by simp, fun tree member => ?_⟩, fun tree member => ⟨?_, fun other present => ?_⟩⟩
    · have := older tree member
      omega
    · have := older tree member
      omega
    · exact pairing.distinct tree member other present

theorem grows_addTree {first second : Nat}
    (older : ∀ tree ∈ pairing.trees, tree.1 < first ∧ tree.2 < second) :
    pairing.Grows (pairing.addTree older) :=
  ⟨fun _ => id, List.subset_cons_self _ _, fun _ => id, fun _ => id⟩

/-- A new frame of the first store that is aside. -/
def addFirst (new : ∀ pair ∈ pairing.pairs, pair.first < firstFrame) : Pairing where
  pairs := pairing.pairs
  trees := pairing.trees
  firstAside := firstFrame :: pairing.firstAside
  secondAside := pairing.secondAside
  once := pairing.once
  kinds := pairing.kinds
  apart pair member := by
    have newer := new pair member
    have apart := pairing.apart pair member
    refine ⟨?_, apart.2⟩
    rw [List.mem_cons]
    rintro (same | aside)
    · omega
    · exact apart.1 aside
  distinct := pairing.distinct

theorem grows_addFirst (new : ∀ pair ∈ pairing.pairs, pair.first < firstFrame) :
    pairing.Grows (pairing.addFirst new) :=
  ⟨fun _ => id, fun _ => id, List.subset_cons_self _ _, fun _ => id⟩

/-- A new frame of the second store that is aside. -/
def addSecond (new : ∀ pair ∈ pairing.pairs, pair.second < secondFrame) : Pairing where
  pairs := pairing.pairs
  trees := pairing.trees
  firstAside := pairing.firstAside
  secondAside := secondFrame :: pairing.secondAside
  once := pairing.once
  kinds := pairing.kinds
  apart pair member := by
    have newer := new pair member
    have apart := pairing.apart pair member
    refine ⟨apart.1, ?_⟩
    rw [List.mem_cons]
    rintro (same | aside)
    · omega
    · exact apart.2 aside
  distinct := pairing.distinct

theorem grows_addSecond (new : ∀ pair ∈ pairing.pairs, pair.second < secondFrame) :
    pairing.Grows (pairing.addSecond new) :=
  ⟨fun _ => id, fun _ => id, fun _ => id, List.subset_cons_self _ _⟩

end Pairing

end TemplateEngine

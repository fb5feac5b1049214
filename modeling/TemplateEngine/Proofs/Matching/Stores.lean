import TemplateEngine.Proofs.Likeness.Stores
import TemplateEngine.Proofs.Matching.Pairings

/-!
# Stores whose frames match

Two stores match at a pairing if paired frames bind the same names to matching values, and
frames that are aside bind nothing but `super`.  Values match if they differ in nothing but
the environments of macros and calls of `super`, and each of these environments stands for
the other one: it has a setting of the same kind, and a paired scope.

All that a rendering does to its store keeps matching stores so, if it is done to both of
them in paired scopes.
-/

namespace TemplateEngine

/-- Environments that agree in everything but their scopes. -/
structure Environment.Agrees (first second : Environment) : Prop where
  config : second.config = first.config
  registries : second.registries = first.registries
  loader : second.loader = first.loader
  lineage : second.lineage = first.lineage

/-- What is asked of two renderings that match.  In plain scopes their environments agree.
In guarded ones they may differ in what matching says there, and the templates may not use
all words. -/
structure Matching where
  absence : Absence
  /-- Whether the second run may do anything once the first one has failed. -/
  forgives : Prop
  sink : Sink → Sink → Prop
  /-- The native functions that values may hold. -/
  native : String → Prop
  /-- The words that a template may use in guarded scopes. -/
  vocabulary : Vocabulary
  /-- The environments in guarded scopes. -/
  setting : Environment → Environment → Prop
  sink_unlimited : sink Sink.unlimited Sink.unlimited
  sink_text : ∀ {first second}, sink first second → first.text = second.text
  sink_takes : ∀ {first second}, sink first second → ∀ text,
    first.takes text = second.takes text
  sink_add : ∀ {first second}, sink first second → ∀ text,
    sink (first.add text) (second.add text)
  name : ∀ {name}, vocabulary.name name → name ≠ "super"
  target : ∀ name, vocabulary.target name
  macros : vocabulary.macros
  setting_within : ∀ {first second} firstScope secondScope, setting first second →
    setting (first.within firstScope) (second.within secondScope)
  setting_config : ∀ {first second}, setting first second → second.config = first.config
  setting_registries : ∀ {first second}, setting first second →
    second.registries = first.registries
  /-- A template that is referred to is the same one on both sides. -/
  refer : ∀ {first second} {described : Statement Node} {name}, vocabulary.statement described →
    described.MayRefer name → setting first second →
      Alike (fun error other => error = other)
        (fun included other => setting included other ∧ included.lineage = other.lineage ∧
          included.lineage.Within vocabulary)
        (first.refer name) (second.refer name)

/-- The store in which a scope is opened inside of another one, and `super` is bound there. -/
def Store.withSuper (store : Store) (scope : Scope) (value : Value) : Store :=
  (store.childScope scope).2.bind (store.childScope scope).1 "super" value

namespace Matching

variable (matching : Matching)

/-- The environments in scopes of a kind. -/
def settings : FrameKind → Environment → Environment → Prop
  | .plain => Environment.Agrees
  | .guarded => matching.setting

/-- The words that a template may use in scopes of a kind. -/
def vocabularies : FrameKind → Vocabulary
  | .plain => .unrestricted
  | .guarded => matching.vocabulary

/-- Environments that stand for each other. -/
def Relates (pairing : Pairing) (first second : Environment) : Prop :=
  ∃ kind, matching.settings kind first second ∧ pairing.Scopes kind first.scope second.scope

/-- What a callable of the first rendering uses is within the words for its scope. -/
def Holds (pairing : Pairing) : Value → Prop
  | .closure callee => ∃ kind, pairing.Knows kind callee.environment.scope.frame ∧
      callee.definition.Within (matching.vocabularies kind)
  | .function (.super environment _ bodies) => ∃ kind,
      pairing.Knows kind environment.scope.frame ∧
        ∀ body ∈ bodies, Node.AllWithin (matching.vocabularies kind) body.nodes
  | .function (.native name) => matching.native name
  | _ => True

/-- Matching values. -/
structure Values (pairing : Pairing) (first second : Value) : Prop where
  like : Value.Like (matching.Relates pairing) first second
  every : Value.Every (matching.Holds pairing) first

variable {matching} {pairing later : Pairing} {kind : FrameKind}

theorem settings_within {first second : Environment} (firstScope secondScope : Scope)
    (settings : matching.settings kind first second) :
    matching.settings kind (first.within firstScope) (second.within secondScope) := by
  cases kind with
  | plain => exact ⟨settings.config, settings.registries, settings.loader, settings.lineage⟩
  | guarded => exact matching.setting_within firstScope secondScope settings

theorem settings_config {first second : Environment}
    (settings : matching.settings kind first second) : second.config = first.config := by
  cases kind with
  | plain => exact settings.config
  | guarded => exact matching.setting_config settings

theorem settings_registries {first second : Environment}
    (settings : matching.settings kind first second) :
    second.registries = first.registries := by
  cases kind with
  | plain => exact settings.registries
  | guarded => exact matching.setting_registries settings

theorem Relates.grow {first second : Environment} (grown : pairing.Grows later)
    (relates : matching.Relates pairing first second) : matching.Relates later first second := by
  obtain ⟨kind, settings, scopes⟩ := relates
  exact ⟨kind, settings, scopes.grow grown⟩

theorem Holds.grow {value : Value} (grown : pairing.Grows later)
    (holds : matching.Holds pairing value) : matching.Holds later value := by
  unfold Holds at holds ⊢
  split
  · obtain ⟨kind, known, inside⟩ := holds
    exact ⟨kind, known.grow grown, inside⟩
  · obtain ⟨kind, known, inside⟩ := holds
    exact ⟨kind, known.grow grown, inside⟩
  · exact holds
  · exact True.intro

/-- Nothing is asked of values that cannot be called. -/
theorem aboutCallables_holds : Value.AboutCallables (matching.Holds pairing) := by
  intro value uncallable
  cases value with
  | closure callee => cases uncallable
  | function callee => cases uncallable
  | _ => exact True.intro

theorem Values.grow {first second : Value} (grown : pairing.Grows later)
    (values : matching.Values pairing first second) : matching.Values later first second :=
  ⟨values.like.mono fun _ _ => Relates.grow grown,
    values.every.mono fun _ => Holds.grow grown⟩

theorem entries_grow {first second : Table Value} (grown : pairing.Grows later)
    (entries : EntriesRelated (matching.Values pairing) first second) :
    EntriesRelated (matching.Values later) first second :=
  entries.imp fun _ _ same => ⟨same.1, same.2.grow grown⟩

variable (matching) in
/-- Matching stores. -/
structure Stores (pairing : Pairing) (first second : Store) : Prop where
  frames : ∀ pair ∈ pairing.pairs, ∃ frame other,
    first.frames[pair.first]? = some frame ∧ second.frames[pair.second]? = some other ∧
      (frame.tree, other.tree) ∈ pairing.trees ∧
        EntriesRelated (matching.Values pairing) frame.bindings other.bindings
  trees : ∀ tree ∈ pairing.trees, tree.1 < first.trees ∧ tree.2 < second.trees
  firstAside : ∀ frame ∈ pairing.firstAside, frame < first.frames.size ∧
    ∀ name, name ≠ "super" → (first.bindings frame).lookup name = none
  secondAside : ∀ frame ∈ pairing.secondAside, frame < second.frames.size ∧
    ∀ name, name ≠ "super" → (second.bindings frame).lookup name = none

namespace Stores

variable {first second : Store}

theorem size (stores : matching.Stores pairing first second) {pair : FramePair}
    (member : pair ∈ pairing.pairs) :
    pair.first < first.frames.size ∧ pair.second < second.frames.size := by
  obtain ⟨frame, other, found, otherFound, _⟩ := stores.frames pair member
  exact ⟨(Array.getElem?_eq_some_iff.1 found).1, (Array.getElem?_eq_some_iff.1 otherFound).1⟩

/-- Frames that are added to matching stores are new. -/
theorem older (stores : matching.Stores pairing first second) :
    pairing.Older first.frames.size second.frames.size :=
  ⟨fun _ member => stores.size member, fun frame aside => (stores.firstAside frame aside).1,
    fun frame aside => (stores.secondAside frame aside).1⟩

/-- Paired frames have the same names bound to matching values. -/
theorem bindings (stores : matching.Stores pairing first second) {pair : FramePair}
    (member : pair ∈ pairing.pairs) :
    EntriesRelated (matching.Values pairing) (first.bindings pair.first)
      (second.bindings pair.second) := by
  obtain ⟨frame, other, found, otherFound, _, entries⟩ := stores.frames pair member
  simpa [Store.bindings, found, otherFound] using entries

/-- In paired scopes a name has matching values.  Guarded ones are not asked for `super`. -/
theorem lookup (stores : matching.Stores pairing first second) {chain other : List Nat}
    (chains : pairing.Chains kind chain other) {name : String}
    (known : kind = .guarded → name ≠ "super") :
    Option.Rel (matching.Values pairing) (first.lookupChain chain name)
      (second.lookupChain other name) := by
  unfold Store.lookupChain
  induction chains with
  | nil => exact .none
  | pair member _ inductionHypothesis =>
      have nearest := (stores.bindings member).lookup name
      rw [List.findSome?_cons, List.findSome?_cons]
      dsimp only at nearest
      revert nearest
      generalize (first.bindings _).lookup name = found
      generalize (second.bindings _).lookup name = otherFound
      intro nearest
      cases nearest with
      | none => exact inductionHypothesis known
      | some values => exact .some values
  | first aside _ inductionHypothesis =>
      rw [List.findSome?_cons, (stores.firstAside _ aside).2 name (known rfl)]
      exact inductionHypothesis known
  | second aside _ inductionHypothesis =>
      rw [List.findSome?_cons, (stores.secondAside _ aside).2 name (known rfl)]
      exact inductionHypothesis known

/-! ### Opening scopes -/

/-- Stores match as long as the frames that the pairing knows of are kept. -/
theorem retain {firstAfter secondAfter : Store} (stores : matching.Stores pairing first second)
    (pairs : ∀ pair ∈ pairing.pairs,
      firstAfter.frames[pair.first]? = first.frames[pair.first]? ∧
        secondAfter.frames[pair.second]? = second.frames[pair.second]?)
    (firstAside : ∀ frame ∈ pairing.firstAside,
      firstAfter.frames[frame]? = first.frames[frame]?)
    (secondAside : ∀ frame ∈ pairing.secondAside,
      secondAfter.frames[frame]? = second.frames[frame]?)
    (firstTrees : first.trees ≤ firstAfter.trees)
    (secondTrees : second.trees ≤ secondAfter.trees) :
    matching.Stores pairing firstAfter secondAfter := by
  have aside : ∀ {store after : Store} {frame : Nat},
      after.frames[frame]? = store.frames[frame]? →
        (frame < store.frames.size ∧
          ∀ name, name ≠ "super" → (store.bindings frame).lookup name = none) →
          frame < after.frames.size ∧
            ∀ name, name ≠ "super" → (after.bindings frame).lookup name = none := by
    rintro store after frame same ⟨present, unbound⟩
    refine ⟨?_, fun name known => ?_⟩
    · rw [Array.getElem?_eq_getElem present] at same
      exact (Array.getElem?_eq_some_iff.1 same).1
    · rw [Store.bindings, same]
      exact unbound name known
  refine ⟨?_, ?_, fun frame member => aside (firstAside frame member)
    (stores.firstAside frame member), fun frame member => aside (secondAside frame member)
      (stores.secondAside frame member)⟩
  · intro pair member
    rw [(pairs pair member).1, (pairs pair member).2]
    exact stores.frames pair member
  · intro tree member
    obtain ⟨firstOld, secondOld⟩ := stores.trees tree member
    omega

theorem getElem?_addFrame_of_lt (store : Store) (tree : Nat) {frame : Nat}
    (old : frame < store.frames.size) :
    (store.addFrame tree).2.frames[frame]? = store.frames[frame]? := by
  simp [Store.addFrame, Array.getElem?_push, Nat.ne_of_lt old]

/-- New frames without bindings, in trees that stand for each other. -/
theorem addPair (stores : matching.Stores pairing first second) (kind : FrameKind)
    {firstTree secondTree : Nat} (trees : (firstTree, secondTree) ∈ pairing.trees) :
    matching.Stores (pairing.addPair kind stores.older) (first.addFrame firstTree).2
      (second.addFrame secondTree).2 := by
  have kept : matching.Stores pairing (first.addFrame firstTree).2
      (second.addFrame secondTree).2 :=
    stores.retain
      (fun pair member => ⟨getElem?_addFrame_of_lt first firstTree (stores.size member).1,
        getElem?_addFrame_of_lt second secondTree (stores.size member).2⟩)
      (fun frame aside => getElem?_addFrame_of_lt first firstTree (stores.firstAside frame aside).1)
      (fun frame aside =>
        getElem?_addFrame_of_lt second secondTree (stores.secondAside frame aside).1)
      (Nat.le_max_left ..) (Nat.le_max_left ..)
  have grown := pairing.grows_addPair kind stores.older
  refine ⟨?_, kept.trees, kept.firstAside, kept.secondAside⟩
  intro pair member
  rcases List.mem_cons.1 member with rfl | member
  · exact ⟨⟨firstTree, []⟩, ⟨secondTree, []⟩, by simp [Store.addFrame],
      by simp [Store.addFrame], trees, .nil⟩
  · obtain ⟨frame, other, found, otherFound, trees, entries⟩ := kept.frames pair member
    exact ⟨frame, other, found, otherFound, trees, entries_grow grown entries⟩

/-- Scopes are opened inside of others. -/
theorem openChild (stores : matching.Stores pairing first second) {firstScope secondScope : Scope}
    (outer : pairing.Outer kind firstScope secondScope) :
    ∃ later, pairing.Grows later ∧
      matching.Stores later (first.childScope firstScope).2 (second.childScope secondScope).2 ∧
        later.Scopes kind (first.childScope firstScope).1
          (second.childScope secondScope).1 := by
  have grown := pairing.grows_addPair kind stores.older
  have member : ⟨kind, first.frames.size, second.frames.size⟩ ∈
      (pairing.addPair kind stores.older).pairs := List.mem_cons_self
  exact ⟨_, grown, stores.addPair kind outer.trees,
    ⟨⟨outer.trees, .pair member (outer.chains.grow grown)⟩, member⟩⟩

/-- Scopes of their own are opened in trees that stand for each other. -/
theorem openDetached (stores : matching.Stores pairing first second) (kind : FrameKind)
    {firstScope secondScope : Scope}
    (trees : (firstScope.tree, secondScope.tree) ∈ pairing.trees) :
    ∃ later, pairing.Grows later ∧
      matching.Stores later (first.detachedScope firstScope).2
        (second.detachedScope secondScope).2 ∧
        later.Scopes kind (first.detachedScope firstScope).1
          (second.detachedScope secondScope).1 := by
  have member : ⟨kind, first.frames.size, second.frames.size⟩ ∈
      (pairing.addPair kind stores.older).pairs := List.mem_cons_self
  exact ⟨_, pairing.grows_addPair kind stores.older, stores.addPair kind trees,
    ⟨⟨trees, .pair member .nil⟩, member⟩⟩

/-- New trees stand for each other. -/
theorem addTree (stores : matching.Stores pairing first second) :
    matching.Stores (pairing.addTree stores.trees) first.addTree second.addTree := by
  have grown := pairing.grows_addTree stores.trees
  refine ⟨?_, ?_, stores.firstAside, stores.secondAside⟩
  · intro pair member
    obtain ⟨frame, other, found, otherFound, trees, entries⟩ := stores.frames pair member
    exact ⟨frame, other, found, otherFound, grown.trees trees, entries_grow grown entries⟩
  · intro tree member
    rcases List.mem_cons.1 member with rfl | member
    · exact ⟨Nat.lt_succ_self _, Nat.lt_succ_self _⟩
    · obtain ⟨firstOld, secondOld⟩ := stores.trees tree member
      exact ⟨Nat.lt_succ_of_lt firstOld, Nat.lt_succ_of_lt secondOld⟩

/-- Scopes are opened in trees of their own. -/
theorem openNew (stores : matching.Stores pairing first second) (kind : FrameKind) :
    ∃ later, pairing.Grows later ∧
      matching.Stores later first.newScope.2 second.newScope.2 ∧
        later.Scopes kind first.newScope.1 second.newScope.1 := by
  have trees : (first.trees, second.trees) ∈ (pairing.addTree stores.trees).trees :=
    List.mem_cons_self
  have member : ⟨kind, first.frames.size, second.frames.size⟩ ∈
      ((pairing.addTree stores.trees).addPair kind stores.addTree.older).pairs :=
    List.mem_cons_self
  exact ⟨_, (pairing.grows_addTree stores.trees).trans (Pairing.grows_addPair _ kind _),
    stores.addTree.addPair kind trees, ⟨⟨trees, .pair member .nil⟩, member⟩⟩

/-! ### Scopes aside -/

theorem getElem?_withSuper_of_lt (store : Store) (scope : Scope) (value : Value) {frame : Nat}
    (old : frame < store.frames.size) :
    (store.withSuper scope value).frames[frame]? = store.frames[frame]? := by
  have other : (store.childScope scope).1.frame ≠ frame := Nat.ne_of_gt old
  rw [Store.withSuper, Store.bind, Store.getElem?_edit, if_neg other]
  exact getElem?_addFrame_of_lt store scope.tree old

/-- A new frame in which only `super` is bound. -/
theorem aside_withSuper (store : Store) (scope : Scope) (value : Value) :
    store.frames.size < (store.withSuper scope value).frames.size ∧
      ∀ name, name ≠ "super" →
        ((store.withSuper scope value).bindings store.frames.size).lookup name = none := by
  have present : (store.childScope scope).1.frame < (store.childScope scope).2.frames.size := by
    simp [Store.childScope, Store.addFrame, Scope.child]
  refine ⟨by rwa [Store.withSuper, Store.size_bind], fun name known => ?_⟩
  have bound := Store.bindings_bind_self _ (store.childScope scope).1 "super" value present
  change (((store.childScope scope).2.bind _ "super" value).bindings
    (store.childScope scope).1.frame).lookup name = none
  rw [bound, Table.lookup_store, if_neg known]
  change ((store.addFrame scope.tree).2.bindings store.frames.size).lookup name = none
  rw [Store.bindings_addFrame_self]
  rfl

/-- A scope in which only `super` is bound is opened in the first store. -/
theorem openFirst (stores : matching.Stores pairing first second) {scope secondScope : Scope}
    (outer : pairing.Outer .guarded scope secondScope) (value : Value) :
    ∃ later, pairing.Grows later ∧ matching.Stores later (first.withSuper scope value) second ∧
      later.Outer .guarded (first.childScope scope).1 secondScope := by
  have kept : matching.Stores pairing (first.withSuper scope value) second :=
    stores.retain
      (fun pair member => ⟨getElem?_withSuper_of_lt first scope value (stores.size member).1, rfl⟩)
      (fun frame aside =>
        getElem?_withSuper_of_lt first scope value (stores.firstAside frame aside).1)
      (fun _ _ => rfl) (Nat.le_max_left ..) (Nat.le_refl _)
  have grown := pairing.grows_addFirst fun pair member => (stores.older.pairs pair member).1
  refine ⟨_, grown, ⟨fun pair member => ?_, kept.trees, ?_, kept.secondAside⟩,
    outer.trees, .first List.mem_cons_self (outer.chains.grow grown)⟩
  · obtain ⟨frame, other, found, otherFound, trees, entries⟩ := kept.frames pair member
    exact ⟨frame, other, found, otherFound, trees, entries_grow grown entries⟩
  · exact List.forall_mem_cons.2 ⟨aside_withSuper first scope value, kept.firstAside⟩

/-- A scope in which only `super` is bound is opened in the second store. -/
theorem openSecond (stores : matching.Stores pairing first second) {firstScope scope : Scope}
    (outer : pairing.Outer .guarded firstScope scope) (value : Value) :
    ∃ later, pairing.Grows later ∧ matching.Stores later first (second.withSuper scope value) ∧
      later.Outer .guarded firstScope (second.childScope scope).1 := by
  have kept : matching.Stores pairing first (second.withSuper scope value) :=
    stores.retain
      (fun pair member => ⟨rfl, getElem?_withSuper_of_lt second scope value (stores.size member).2⟩)
      (fun _ _ => rfl)
      (fun frame aside =>
        getElem?_withSuper_of_lt second scope value (stores.secondAside frame aside).1)
      (Nat.le_refl _) (Nat.le_max_left ..)
  have grown := pairing.grows_addSecond fun pair member => (stores.older.pairs pair member).2
  refine ⟨_, grown, ⟨fun pair member => ?_, kept.trees, kept.firstAside, ?_⟩,
    outer.trees, .second List.mem_cons_self (outer.chains.grow grown)⟩
  · obtain ⟨frame, other, found, otherFound, trees, entries⟩ := kept.frames pair member
    exact ⟨frame, other, found, otherFound, trees, entries_grow grown entries⟩
  · exact List.forall_mem_cons.2 ⟨aside_withSuper second scope value, kept.secondAside⟩

/-! ### Binding names -/

/-- Matching values are bound in paired scopes. -/
theorem bind (stores : matching.Stores pairing first second) {firstScope secondScope : Scope}
    (scopes : pairing.Scopes kind firstScope secondScope) {value other : Value} (name : String)
    (values : matching.Values pairing value other) :
    matching.Stores pairing (first.bind firstScope name value)
      (second.bind secondScope name other) := by
  obtain ⟨firstApart, secondApart⟩ := pairing.apart _ scopes.frames
  refine ⟨?_, stores.trees, ?_, ?_⟩
  · intro pair member
    obtain ⟨frame, otherFrame, found, otherFound, trees, entries⟩ := stores.frames pair member
    have same := pairing.once _ scopes.frames pair member
    simp only [Store.bind, Store.getElem?_edit, found, otherFound, Option.map_some]
    by_cases nearest : firstScope.frame = pair.first
    · rw [if_pos nearest, if_pos (same.1 nearest)]
      exact ⟨_, _, rfl, rfl, trees, entries.store name values⟩
    · rw [if_neg nearest, if_neg fun further => nearest (same.2 further)]
      exact ⟨frame, otherFrame, rfl, rfl, trees, entries⟩
  · intro frame aside
    obtain ⟨present, unbound⟩ := stores.firstAside frame aside
    refine ⟨by simpa using present, ?_⟩
    rwa [Store.bindings_bind_of_ne]
    rintro rfl
    exact firstApart aside
  · intro frame aside
    obtain ⟨present, unbound⟩ := stores.secondAside frame aside
    refine ⟨by simpa using present, ?_⟩
    rwa [Store.bindings_bind_of_ne]
    rintro rfl
    exact secondApart aside

theorem bindAll (stores : matching.Stores pairing first second)
    {firstScope secondScope : Scope} (scopes : pairing.Scopes kind firstScope secondScope)
    {entries others : Table Value}
    (related : EntriesRelated (matching.Values pairing) entries others) :
    matching.Stores pairing (first.bindAll firstScope entries)
      (second.bindAll secondScope others) := by
  unfold EntriesRelated at related
  induction related generalizing first second with
  | nil => exact stores
  | @cons entry other rest otherRest same _ inductionHypothesis =>
      rw [Store.bindAll, Store.bindAll, List.foldl_cons, List.foldl_cons, ← same.1]
      exact inductionHypothesis (stores.bind scopes entry.1 same.2)

/-- The trees of paired scopes are released. -/
theorem release (stores : matching.Stores pairing first second) {firstRoot secondRoot : Scope}
    (scopes : pairing.Scopes kind firstRoot secondRoot) :
    matching.Stores pairing (first.release firstRoot) (second.release secondRoot) := by
  have aside : ∀ {store : Store} (root : Scope) {frames : List Nat},
      (∀ frame ∈ frames, frame < store.frames.size ∧
        ∀ name, name ≠ "super" → (store.bindings frame).lookup name = none) →
        ∀ frame ∈ frames, frame < (store.release root).frames.size ∧
          ∀ name, name ≠ "super" → ((store.release root).bindings frame).lookup name = none := by
    intro store root frames old frame member
    obtain ⟨present, unbound⟩ := old frame member
    refine ⟨by simpa using present, ?_⟩
    rcases store.bindings_release root frame with released | same
    · rw [released]
      exact fun _ _ => rfl
    · rwa [same]
  refine ⟨?_, stores.trees, aside firstRoot stores.firstAside,
    aside secondRoot stores.secondAside⟩
  intro pair member
  obtain ⟨frame, other, found, otherFound, trees, entries⟩ := stores.frames pair member
  have same := pairing.distinct _ trees _ scopes.trees
  simp only [Store.release, Array.getElem?_map, found, otherFound, Option.map_some]
  by_cases released : frame.tree = firstRoot.tree
  · rw [if_pos released, if_pos (same.1 released)]
    exact ⟨_, _, rfl, rfl, trees, .nil⟩
  · rw [if_neg released, if_neg fun further => released (same.2 further)]
    exact ⟨_, _, rfl, rfl, trees, entries⟩

end Stores

end Matching

end TemplateEngine

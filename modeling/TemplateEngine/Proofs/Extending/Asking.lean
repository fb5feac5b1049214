import TemplateEngine.Proofs.Reading
import TemplateEngine.Proofs.Vocabulary

/-!
# Readings that ask for a parent

A reader of a source loads a parent at most once, where an extends tag stands, and all else that
it gives does not depend on what is loaded.  Where parents are only named, the name that is kept
is the one that the tag has.

Both are shown for each reader in turn.  A reading is a reader for every way to load parents, so
that what is said of it can compare them.
-/

namespace TemplateEngine

/-- A way to load the parents that are named in a source. -/
abbrev Loading := String → Except TemplateError Lineage

/-- A lineage that stands for the parent of a name. -/
def Lineage.named (filename : String) : Lineage :=
  ⟨⟨filename, [], [], []⟩, []⟩

theorem Lineage.named_inj {filename other : String} :
    named filename = named other ↔ filename = other :=
  ⟨fun same => congrArg Lineage.identifier same, congrArg named⟩

/-- Load nothing and only name the parent. -/
def Loading.naming : Loading :=
  fun filename => .ok (.named filename)

/-- The state with another parent. -/
def SourceState.under (state : SourceState) (parent : Option Lineage) : SourceState :=
  { state with parent := parent }

namespace SourceReader

variable {α β : Type}

/-! ## Readings -/

/-- Whether a reading asks for at most one parent, and for none if one is there.  Nothing else
that it gives depends on how parents are loaded, and neither does an error once the parent is
loaded.  What it gives where parents are only named is as wanted. -/
def Asks (before : SourceState) (reading : Loading → SourceReader α)
    (wanted : α → SourceState → Prop) : Prop :=
  ∃ asked : Option String,
    (before.parent.isSome → asked = none) ∧
    (∀ (loading : Loading) (parent : Option Lineage),
      parent.isSome = before.parent.isSome →
        (reading loading).run (before.under parent) =
          asked.mapM loading >>= fun loaded =>
            ((reading .naming).run before).map fun ended =>
              (ended.1, ended.2.under (loaded.or parent))) ∧
    ∀ value after, (reading .naming).run before = .ok (value, after) →
      after.parent = (asked.map Lineage.named).or before.parent ∧ wanted value after

namespace Asks

variable {before : SourceState} {reading : Loading → SourceReader α}
  {rest : Loading → α → SourceReader β} {wanted : α → SourceState → Prop}
  {last : β → SourceState → Prop}

theorem bind (first : Asks before reading wanted)
    (second : ∀ value middle, wanted value middle →
      Asks middle (fun loading => rest loading value) last) :
    Asks before (fun loading => reading loading >>= rest loading) last := by
  obtain ⟨asked, unasked, runs, given⟩ := first
  cases ran : (reading .naming).run before with
  | error error =>
      refine ⟨asked, unasked, fun loading parent same => ?_, fun value after ended => ?_⟩
      · rw [StateT.run_bind, StateT.run_bind, runs loading parent same, ran]
        cases asked.mapM loading <;> rfl
      · rw [StateT.run_bind, ran] at ended
        cases ended
  | ok result =>
      obtain ⟨value, middle⟩ := result
      obtain ⟨parents, meets⟩ := given value middle ran
      obtain ⟨more, satisfied, moreRuns, moreGiven⟩ := second value middle meets
      have composed : (reading .naming >>= rest .naming).run before =
          (rest .naming value).run middle := by
        rw [StateT.run_bind, ran]
        rfl
      cases asked with
      | none =>
          -- Whatever the rest asks for is all that is asked for.
          refine ⟨more, fun present => satisfied (by simpa [parents] using present), ?_, ?_⟩
          · intro loading parent same
            rw [StateT.run_bind, runs loading parent same, ran, composed]
            exact moreRuns loading parent (by simpa [parents] using same)
          · intro result after ended
            rw [composed] at ended
            rw [(moreGiven result after ended).1, parents]
            exact ⟨rfl, (moreGiven result after ended).2⟩
      | some filename =>
          -- The parent that is loaded is there for the rest, which so asks for none.
          have nothing : more = none := satisfied (by simp [parents])
          subst nothing
          refine ⟨some filename, unasked, ?_, ?_⟩
          · intro loading parent same
            rw [StateT.run_bind, runs loading parent same, ran, composed, Option.mapM_some]
            cases loading filename with
            | error error => rfl
            | ok lineage => exact moreRuns loading (some lineage) (by simp [parents])
          · intro result after ended
            rw [composed] at ended
            rw [(moreGiven result after ended).1, parents]
            exact ⟨rfl, (moreGiven result after ended).2⟩

/-- What neither loads parents nor looks at them. -/
theorem quiet {reader : SourceReader α}
    (alike : ∀ parent, reader.run (before.under parent) =
      (reader.run before).map fun ended => (ended.1, ended.2.under parent))
    (given : ∀ value after, reader.run before = .ok (value, after) → wanted value after) :
    Asks before (fun _ => reader) wanted := by
  refine ⟨none, fun _ => rfl, fun loading parent _ => alike parent, fun value after ran => ?_⟩
  have same := alike before.parent
  rw [show before.under before.parent = before from rfl, ran] at same
  have unchanged : after = after.under before.parent := by simpa [Except.map] using same
  have parents : after.parent = before.parent := by
    rw [unchanged]
    rfl
  exact ⟨parents, given value after ran⟩

/-- What never fails, and does nothing to the parent. -/
theorem plain {reader : SourceReader α} {value : SourceState → α}
    {change : SourceState → SourceState}
    (runs : ∀ state, reader.run state = .ok (value state, change state))
    (blind : ∀ parent, value (before.under parent) = value before ∧
      change (before.under parent) = (change before).under parent)
    (given : wanted (value before) (change before)) : Asks before (fun _ => reader) wanted := by
  refine quiet (fun parent => ?_) fun found after ran => ?_
  · rw [runs, runs, (blind parent).1, (blind parent).2]
    rfl
  · rw [runs] at ran
    cases ran
    exact given

theorem pure {value : α} (given : wanted value before) :
    Asks before (fun _ => Pure.pure value) wanted :=
  plain (fun _ => rfl) (fun _ => ⟨rfl, rfl⟩) given

theorem fault (fault : SyntaxFault) (position : Position) :
    Asks before (fun _ => (SourceReader.fault fault position : SourceReader α)) wanted :=
  quiet (fun _ => rfl) fun _ _ ran => nomatch ran

/-- Of the parent that is there only its presence may be looked at. -/
theorem get {continuation : Loading → SourceState → SourceReader β}
    (blind : ∀ loading parent, parent.isSome = before.parent.isSome →
      continuation loading (before.under parent) = continuation loading before)
    (next : Asks before (fun loading => continuation loading before) last) :
    Asks before (fun loading => MonadState.get >>= continuation loading) last := by
  obtain ⟨asked, unasked, runs, given⟩ := next
  refine ⟨asked, unasked, fun loading parent same => ?_, given⟩
  refine Eq.trans ?_ (runs loading parent same)
  change (continuation loading (before.under parent)).run (before.under parent) = _
  rw [blind loading parent same]

theorem ite {condition : Prop} [Decidable condition] {first second : Loading → SourceReader α}
    (holds : condition → Asks before first wanted)
    (fails : ¬ condition → Asks before second wanted) :
    Asks before (fun loading => if condition then first loading else second loading) wanted := by
  by_cases decided : condition
  · simpa only [if_pos decided] using holds decided
  · simpa only [if_neg decided] using fails decided

theorem within (cursor : Cursor) (reader : TagReader α) :
    Asks before (fun _ => SourceReader.within cursor reader) fun _ after => after = before := by
  refine quiet (fun parent => ?_) fun value after ran => ?_
  · unfold SourceReader.within
    cases (reader.run.run cursor).1 <;> rfl
  · unfold SourceReader.within at ran
    split at ran
    · cases ran
      rfl
    · cases ran

end Asks

/-! ### Extends tags -/

/-- Whether an extends tag stands in the body of a block. -/
def Inside (blocks : Table (Body Node)) (filename : String) : Prop :=
  ∃ name body, blocks.lookup name = some body ∧
    .parent filename ∈ Node.allStatements body.nodes

/-- What is known of the parent when some statements are read: it is the one that an extends
tag among them names, or one in a block, or it was there before. -/
structure Told (before : SourceState) (listed : List (Statement Node)) (after : SourceState) :
    Prop where
  kept : ∀ parent, before.parent = some parent → after.parent = some parent
  blocks : ∀ name body, before.blocks.lookup name = some body →
    after.blocks.lookup name = some body
  named : ∀ filename, .parent filename ∈ listed → after.parent = some (.named filename)
  stored : ∀ filename, Inside after.blocks filename →
    Inside before.blocks filename ∨ after.parent = some (.named filename)
  found : ∀ filename, after.parent = some (.named filename) →
    before.parent = some (.named filename) ∨ .parent filename ∈ listed ∨
      Inside after.blocks filename

namespace Told

variable {before middle after : SourceState} {listed more : List (Statement Node)}

/-- Tokens are taken, and macros are stored, without an effect on parents. -/
theorem same (parent : after.parent = before.parent) (blocks : after.blocks = before.blocks) :
    Told before [] after where
  kept _ present := parent.trans present
  blocks _ _ held := (congrArg (List.lookup _) blocks).trans held
  named := nofun
  stored _ inside := .inl (blocks ▸ inside)
  found _ present := .inl (parent ▸ present)

theorem refl : Told before [] before :=
  same rfl rfl

theorem trans (told : Told before listed middle) (later : Told middle more after) :
    Told before (listed ++ more) after where
  kept parent present := later.kept parent (told.kept parent present)
  blocks name body held := later.blocks name body (told.blocks name body held)
  named filename member := by
    rcases List.mem_append.1 member with member | member
    · exact later.kept _ (told.named filename member)
    · exact later.named filename member
  stored filename inside := by
    rcases later.stored filename inside with inside | present
    · exact (told.stored filename inside).imp_right (later.kept _)
    · exact .inr present
  found filename present := by
    rcases later.found filename present with present | member | inside
    · rcases told.found filename present with present | member | ⟨name, body, held, member⟩
      · exact .inl present
      · exact .inr (.inl (List.mem_append_left _ member))
      · exact .inr (.inr ⟨name, body, later.blocks name body held, member⟩)
    · exact .inr (.inl (List.mem_append_right _ member))
    · exact .inr (.inr inside)

theorem congr {other : SourceState} (told : Told before listed after)
    (parent : other.parent = after.parent) (blocks : other.blocks = after.blocks) :
    Told before listed other := by
  simpa using told.trans (.same parent blocks)

/-- A statement that is not an extends tag itself. -/
theorem cons (told : Told before listed after) {described : Statement Node}
    (other : ∀ filename, .parent filename ≠ described) :
    Told before (described :: listed) after where
  kept := told.kept
  blocks := told.blocks
  named filename member :=
    told.named filename ((List.mem_cons.1 member).resolve_left (other filename))
  stored := told.stored
  found filename present :=
    (told.found filename present).imp_right (Or.imp_left (List.mem_cons_of_mem _))

end Told

/-! ### Statements -/

section Readers

variable {before : SourceState} {bodies : Loading → BodyReader} {setting : SourceSetting}

/-- Readers of bodies that ask for the parents that are named in them. -/
def BodiesAsk (bodies : Loading → BodyReader) : Prop :=
  ∀ names before, Asks before (fun loading => bodies loading names) fun result after =>
    Told before (Node.allStatements result.1.nodes) after

/-- What is wanted of a reader of statements. -/
def Tells (before : SourceState) (described : Statement Node) (after : SourceState) : Prop :=
  Told before (described :: Node.innerStatements described) after

theorem branches_asks (asks : BodiesAsk bodies) (bound : Nat) (condition : Expression) :
    Asks before (fun loading => branches (bodies loading) bound condition) fun result after =>
      Told before (Node.branchesStatements result.1 ++ Node.optionStatements result.2) after := by
  induction bound generalizing before condition with
  | zero => exact .fault _ _
  | succ bound inductionHypothesis =>
      refine (asks _ before).bind ?_
      rintro ⟨body, closing⟩ middle told
      dsimp only
      split
      · refine (Asks.within closing _).bind ?_
        rintro next _ rfl
        refine (inductionHypothesis next).bind ?_
        rintro ⟨rest, otherwise⟩ after others
        refine .pure ?_
        rw [Node.branchesStatements, List.append_assoc]
        exact told.trans others
      · refine (Asks.within closing _).bind ?_
        rintro _ _ rfl
        refine (asks _ _).bind ?_
        rintro ⟨otherwise, closing⟩ after others
        refine (Asks.within closing _).bind ?_
        rintro _ _ rfl
        refine .pure ?_
        rw [Node.branchesStatements, Node.branchesStatements, List.append_nil]
        exact told.trans others
      · refine (Asks.within closing _).bind ?_
        rintro _ _ rfl
        refine .pure ?_
        rw [Node.branchesStatements, Node.branchesStatements]
        exact (told.trans .refl).trans .refl

theorem loop_asks (asks : BodiesAsk bodies) (cursor : Cursor) :
    Asks before (fun loading => loop (bodies loading) cursor) (Tells before) := by
  refine (Asks.within cursor _).bind ?_
  rintro header _ rfl
  refine (asks _ _).bind ?_
  rintro ⟨body, closing⟩ middle told
  refine (Asks.within closing _).bind ?_
  rintro _ _ rfl
  refine .ite (fun _ => ?_) fun _ => .pure ((told.trans .refl).cons nofun)
  refine (asks _ _).bind ?_
  rintro ⟨empty, closing⟩ after others
  refine (Asks.within closing _).bind ?_
  rintro _ _ rfl
  exact .pure ((told.trans others).cons nofun)

theorem assignment_asks (asks : BodiesAsk bodies) (cursor : Cursor) :
    Asks before (fun loading => assignment (bodies loading) cursor) (Tells before) := by
  refine (Asks.within cursor _).bind ?_
  rintro ⟨target, _ | value⟩ _ rfl
  · refine (asks _ _).bind ?_
    rintro ⟨body, closing⟩ middle told
    refine (Asks.within closing _).bind ?_
    rintro _ _ rfl
    exact .pure (told.cons nofun)
  · exact .pure (Told.refl.cons nofun)

/-- A new block is stored under a name that no block had. -/
theorem Told.block {middle : SourceState} {name : String} {body : Body Node}
    (told : Told before (Node.allStatements body.nodes) middle)
    (unused : ¬ Table.has middle.blocks name = true) :
    Told before [.block name] { middle with blocks := Table.store name body middle.blocks } := by
  have absent : middle.blocks.lookup name = none := by
    rwa [Table.has, Option.not_isSome_iff_eq_none] at unused
  have others : ∀ other held, middle.blocks.lookup other = some held →
      (Table.store name body middle.blocks).lookup other = some held :=
    fun _ _ => Table.lookup_store_of_unused absent
  have stored : (Table.store name body middle.blocks).lookup name = some body := by
    rw [Table.lookup_store, if_pos rfl]
  refine ⟨told.kept, fun other held found => others other held (told.blocks other held found),
    by simp, ?_, ?_⟩
  · rintro filename ⟨other, held, found, member⟩
    rw [Table.lookup_store] at found
    split at found
    · cases found
      exact .inr (told.named filename member)
    · exact told.stored filename ⟨other, held, found, member⟩
  · intro filename present
    rcases told.found filename present with present | member | ⟨other, held, found, member⟩
    · exact .inl present
    · exact .inr (.inr ⟨name, body, stored, member⟩)
    · exact .inr (.inr ⟨other, held, others other held found, member⟩)

theorem block_asks (asks : BodiesAsk bodies) (cursor : Cursor) :
    Asks before (fun loading => block (bodies loading) cursor) (Tells before) := by
  refine (Asks.within cursor _).bind ?_
  rintro name _ rfl
  refine (asks _ _).bind ?_
  rintro ⟨body, closing⟩ middle told
  refine (Asks.within closing _).bind ?_
  rintro _ middle rfl
  let store : SourceReader (Statement Node) := do
    let state ← get
    if Table.has state.blocks name then fault (.duplicateBlock name) cursor.start
    else
      set { state with blocks := Table.store name body state.blocks }
      return .block name
  have runs : ∀ state : SourceState, store.run state =
      if Table.has state.blocks name then .error (.parse ⟨.duplicateBlock name, cursor.start⟩)
      else .ok (.block name,
        { state with blocks := Table.store name body state.blocks }) := by
    intro state
    change StateT.run (if _ then _ else _) state = _
    split <;> rfl
  change Asks _ (fun _ => store) _
  refine Asks.quiet (fun parent => ?_) fun value after ran => ?_
  · rw [runs, runs]
    change (if Table.has middle.blocks name = true then _ else _) = _
    split <;> rfl
  · rw [runs] at ran
    split at ran
    · cases ran
    · cases ran
      exact told.block ‹_›

/-- An extends tag asks for its parent, unless there is one. -/
theorem parent_asks (setting : SourceSetting) (cursor : Cursor) :
    Asks before (fun loading => parent { setting with loadParent := loading } cursor)
      (Tells before) := by
  refine (Asks.within cursor _).bind ?_
  rintro filename before rfl
  let ask : Loading → SourceReader (Statement Node) := fun loading => do
    if (← MonadState.get).parent.isSome then fault .secondParent cursor.start
    else
      let lineage ← loading filename
      modify fun state => { state with parent := some lineage }
      return .parent filename
  have runs : ∀ loading state, (ask loading).run state =
      if state.parent.isSome then .error (.parse ⟨.secondParent, cursor.start⟩)
      else (loading filename).map fun lineage =>
        (.parent filename, state.under (some lineage)) := by
    intro loading state
    change StateT.run (if _ then _ else _) state = _
    split
    · rfl
    · cases loading filename <;> rfl
  change Asks before ask (Tells before)
  by_cases present : before.parent.isSome
  · refine ⟨none, fun _ => rfl, fun loading parent same => ?_, fun value after ran => ?_⟩
    · have there : (before.under parent).parent.isSome := same.trans present
      rw [runs, runs, if_pos present, if_pos there]
      rfl
    · rw [runs, if_pos present] at ran
      cases ran
  · refine ⟨some filename, fun isSome => absurd isSome present, fun loading parent same => ?_,
      fun value after ran => ?_⟩
    · have absent : ¬ (before.under parent).parent.isSome := by
        rwa [show (before.under parent).parent = parent from rfl, same]
      rw [runs, runs, if_neg present, if_neg absent, Option.mapM_some]
      cases loading filename <;> rfl
    · rw [runs, if_neg present] at ran
      cases ran
      refine ⟨rfl, fun _ found => absurd (Option.isSome_of_eq_some found) present,
        fun _ _ found => found, ?_, fun _ inside => .inl inside, ?_⟩
      · intro other member
        obtain rfl : other = filename := by simpa [Node.innerStatements] using member
        rfl
      · intro other same
        obtain rfl : filename = other := Lineage.named_inj.1 (Option.some.inj same)
        exact .inr (.inl List.mem_cons_self)

theorem definition_asks (asks : BodiesAsk bodies) (cursor : Cursor) :
    Asks before (fun loading => definition (bodies loading) cursor) (Tells before) := by
  refine (Asks.within cursor _).bind ?_
  rintro header _ rfl
  refine (asks _ _).bind ?_
  rintro ⟨body, closing⟩ middle told
  refine (Asks.within closing _).bind ?_
  rintro _ middle rfl
  refine .plain (fun _ => rfl) (fun _ => ⟨rfl, rfl⟩) (Told.cons (told.congr ?_ ?_) nofun)
  · rfl
  · rfl

theorem box_asks (setting : SourceSetting) (asks : BodiesAsk bodies) (cursor : Cursor) :
    Asks before (fun loading => box { setting with loadParent := loading } (bodies loading) cursor)
      (Tells before) := by
  change Asks before (fun loading => box setting (bodies loading) cursor) (Tells before)
  refine (Asks.within cursor _).bind ?_
  rintro condition before rfl
  refine .get (fun loading parent same => ?_) ?_
  · have label : boxLabel setting (before.under parent) = boxLabel setting before := by
      simp [boxLabel, SourceState.under, same]
    simp only [label]
  refine (asks _ _).bind ?_
  rintro ⟨body, closing⟩ middle told
  refine (Asks.within closing _).bind ?_
  rintro _ _ rfl
  refine .ite (fun _ => ?_) fun _ => .pure ((told.trans .refl).cons nofun)
  refine (asks _ _).bind ?_
  rintro ⟨other, closing⟩ after others
  exact .pure ((told.trans others).cons nofun)

/-- The header of a statement that is not about parents and has no body. -/
theorem header_asks {reader : TagReader (Statement Node)}
    (other : reader.Gives fun described =>
      (∀ filename, .parent filename ≠ described) ∧ Node.innerStatements described = [])
    (cursor : Cursor) : Asks before (fun _ => within cursor reader) (Tells before) := by
  refine .quiet (fun parent => ?_) fun described after ran => ?_
  · unfold within
    cases (reader.run.run cursor).1 <;> rfl
  · unfold within at ran
    split at ran
    · rename_i given
      cases ran
      obtain ⟨notParent, alone⟩ := other cursor described given
      rw [Tells, alone]
      exact Told.refl.cons notParent
    · cases ran

theorem statement_asks (setting : SourceSetting) (asks : BodiesAsk bodies) (bound : Nat)
    (kind : StatementKind) (cursor : Cursor) :
    Asks before (fun loading =>
      statement { setting with loadParent := loading } bound (bodies loading) kind cursor)
      (Tells before) := by
  cases kind with
  | conditional =>
      refine (Asks.within cursor _).bind ?_
      rintro condition _ rfl
      refine (branches_asks asks bound condition).bind ?_
      rintro ⟨branches, otherwise⟩ after told
      exact .pure (told.cons nofun)
  | loop => exact loop_asks asks cursor
  | assignment => exact assignment_asks asks cursor
  | block => exact block_asks asks cursor
  | parent => exact parent_asks setting cursor
  | definition => exact definition_asks asks cursor
  | importModule =>
      exact header_asks (TagReader.gives_importModuleHeader fun _ _ _ => ⟨nofun, rfl⟩) cursor
  | importNames =>
      exact header_asks (TagReader.gives_importNamesHeader fun _ _ _ => ⟨nofun, rfl⟩) cursor
  | inclusion =>
      exact header_asks (TagReader.gives_inclusionHeader fun _ _ _ => ⟨nofun, rfl⟩) cursor
  | box => exact box_asks setting asks cursor

/-! ### Nodes -/

theorem next?_asks : Asks before (fun _ => next?) fun _ after => Told before [] after := by
  have runs : ∀ state : SourceState, next?.run state =
      .ok (state.remaining.head?, { state with remaining := state.remaining.tail }) := by
    rintro ⟨_ | ⟨token, rest⟩, parent, blocks, macros⟩ <;> rfl
  exact .plain runs (fun _ => ⟨rfl, rfl⟩) (.same rfl rfl)

theorem run_tag (closer : TokenKind) (start : Position) (state : SourceState) :
    (tag closer start).run state =
      match splitAtKind closer state.remaining with
      | some (tokens, finish, rest) =>
          .ok (⟨tokens, start, finish⟩, { state with remaining := rest })
      | none => .error (.parse ⟨.endInsideTag, start⟩) := by
  simp only [tag, StateT.run_bind, StateT.run_get, pure_bind]
  cases splitAtKind closer state.remaining <;> rfl

theorem tag_asks (closer : TokenKind) (start : Position) :
    Asks before (fun _ => tag closer start) fun _ after => Told before [] after := by
  refine .quiet (fun parent => ?_) fun cursor after ran => ?_
  · rw [run_tag, run_tag, show (before.under parent).remaining = before.remaining from rfl]
    cases splitAtKind closer before.remaining <;> rfl
  · rw [run_tag] at ran
    split at ran
    · cases ran
      exact .same rfl rfl
    · cases ran

theorem atEnd_asks : Asks before (fun _ => atEnd) fun _ after => after = before := by
  have runs : ∀ state : SourceState, atEnd.run state =
      .ok (state.remaining.head?.all fun token => token.kind == .eof, state) := by
    rintro ⟨_ | ⟨token, rest⟩, parent, blocks, macros⟩ <;> rfl
  exact .plain runs (fun _ => ⟨rfl, rfl⟩) rfl

theorem position_asks (setting : SourceSetting) :
    Asks before (fun _ => position setting) fun _ after => after = before := by
  have runs : ∀ state : SourceState, (position setting).run state =
      .ok ((state.remaining.head?.map Token.position).getD setting.finish, state) := by
    rintro ⟨_ | ⟨token, rest⟩, parent, blocks, macros⟩ <;> rfl
  exact .plain runs (fun _ => ⟨rfl, rfl⟩) rfl

theorem node_asks (setting : SourceSetting) (asks : BodiesAsk bodies) (bound : Nat) :
    Asks before (fun loading =>
        node { setting with loadParent := loading } bound (bodies loading))
      fun node after => Told before node.statements after := by
  refine next?_asks.bind ?_
  rintro (_ | token) middle taken
  · exact .fault _ setting.finish
  · dsimp only
    split
    · exact .pure taken
    · exact .pure taken
    · refine (tag_asks .variableEnd token.position).bind ?_
      rintro cursor middle whole
      refine .ite (fun _ => .fault _ _) fun _ => ?_
      refine (Asks.within cursor _).bind ?_
      rintro written _ rfl
      exact .pure (taken.trans whole)
    · refine next?_asks.bind ?_
      rintro (_ | name) middle named
      · exact .fault _ _
      refine .ite (fun _ => ?_) fun _ => .fault _ _
      dsimp only
      split
      · exact .fault _ _
      · rename_i kind _
        refine (tag_asks .blockEnd name.position).bind ?_
        rintro cursor middle whole
        refine (statement_asks setting asks bound kind cursor).bind ?_
        rintro described after told
        exact .pure (((taken.trans named).trans whole).trans told)
    · exact .fault _ _

/-- Nodes up to a tag form a body. -/
theorem bodyOf_asks (setting : SourceSetting)
    {nodes : Loading → List String → Position → SourceReader (List Node × String × Cursor)}
    (asks : ∀ names start before, Asks before (fun loading => nodes loading names start)
      fun result after => Told before (Node.allStatements result.1) after) :
    BodiesAsk fun loading => bodyOf { setting with loadParent := loading } (nodes loading) := by
  intro names before
  change Asks before (fun loading => bodyOf setting (nodes loading) names) _
  refine (position_asks setting).bind ?_
  rintro start _ rfl
  refine (asks names start _).bind ?_
  rintro ⟨nodes, endTag, closing⟩ after told
  exact .pure told

theorem nodesUntil_asks (setting : SourceSetting) (bound : Nat) (names : List String)
    (start : Position) (before : SourceState) :
    Asks before (fun loading =>
        nodesUntil { setting with loadParent := loading } bound names start)
      fun result after => Told before (Node.allStatements result.1) after := by
  induction bound generalizing names start before with
  | zero => exact .fault _ _
  | succ bound inductionHypothesis =>
      have bodies := bodyOf_asks setting inductionHypothesis
      refine atEnd_asks.bind ?_
      rintro ended state rfl
      refine .ite (fun _ => .fault _ _) fun _ => .get (fun _ _ _ => rfl) ?_
      split
      · rename_i name _
        have dropped : Asks state
            (fun _ => modify fun state => { state with remaining := state.remaining.drop 2 })
            fun _ after => Told state [] after :=
          .plain (fun _ => rfl) (fun _ => ⟨rfl, rfl⟩) (.same rfl rfl)
        refine dropped.bind ?_
        rintro _ middle taken
        refine (tag_asks .blockEnd name.position).bind ?_
        rintro cursor after whole
        exact .pure (taken.trans whole)
      · refine (node_asks setting bodies bound).bind ?_
        rintro first middle told
        refine (inductionHypothesis names start middle).bind ?_
        rintro ⟨rest, endTag, closing⟩ after others
        exact .pure (told.trans others)

/-- The nodes of a source. -/
theorem nodesToEnd_asks (setting : SourceSetting) (bound : Nat) :
    Asks before (fun loading => nodesToEnd { setting with loadParent := loading } bound)
      fun nodes after => Told before (Node.allStatements nodes) after := by
  induction bound generalizing before with
  | zero => exact .pure .refl
  | succ bound inductionHypothesis =>
      refine atEnd_asks.bind ?_
      rintro ended _ rfl
      refine .ite (fun _ => .pure .refl) fun _ => ?_
      have bodies := bodyOf_asks setting (nodesUntil_asks setting bound)
      refine (node_asks setting bodies bound).bind ?_
      rintro first middle told
      refine inductionHypothesis.bind ?_
      rintro rest after others
      exact .pure (told.trans others)

end Readers

end SourceReader

end TemplateEngine

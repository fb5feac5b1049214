import TemplateEngine.Proofs.Faults
import TemplateEngine.Proofs.Listing

/-!
# Reading sources

What a template lists stands in the same order as what its source lists.  Reading loses
nothing and repeats nothing.

Each reader is described by what it does to a state that stands between two tags: it leaves
one that stands between two tags, it keeps the blocks that are stored, and what lies between
the two states is what it has read.  Since a reader of nodes never stands elsewhere, it never
meets a token that can begin nothing, or the end of the source where a token should be.
-/

namespace TemplateEngine

namespace Table

variable {α : Type} {table : Table α} {name other : String} {value held : α}

/-- An entry under a new name is added. -/
theorem length_store (unused : table.lookup name = none) :
    (table.store name value).length = table.length + 1 := by
  induction table with
  | nil => rfl
  | cons entry rest inductionHypothesis =>
      obtain ⟨key, stored⟩ := entry
      rw [List.lookup_cons] at unused
      split at unused
      · cases unused
      · rename_i different
        have others := inductionHypothesis unused
        have notSame : key ≠ name := fun same => by simp [same] at different
        simp [store, notSame, others]

/-- An entry under a new name changes no other one. -/
theorem lookup_store_of_unused (unused : table.lookup name = none)
    (found : table.lookup other = some held) :
    (table.store name value).lookup other = some held := by
  have different : other ≠ name := by
    rintro rfl
    rw [unused] at found
    cases found
  rw [lookup_store, if_neg different, found]

end Table

/-! ## Readers of sources -/

namespace SourceReader

open Token (Stream TagKind)
open Node (allPieces blockPieces bodyPieces branchesPieces endPieces optionPieces
  statementPieces)

variable {α β : Type} {proper : TemplateError → Prop}

/-- A reader gives what is wanted from a state on, or fails properly. -/
def Meets (proper : TemplateError → Prop) (reader : SourceReader α) (before : SourceState)
    (wanted : α → SourceState → Prop) : Prop :=
  match reader.run before with
  | .ok (value, after) => wanted value after
  | .error error => proper error

namespace Meets

variable {reader : SourceReader α} {continuation : α → SourceReader β}
  {before : SourceState} {wanted weaker : α → SourceState → Prop}
  {last : β → SourceState → Prop}

theorem bind (first : Meets proper reader before wanted)
    (second : ∀ value after, wanted value after →
      Meets proper (continuation value) after last) :
    Meets proper (reader >>= continuation) before last := by
  rw [Meets] at first ⊢
  rw [StateT.run_bind]
  cases ran : reader.run before with
  | error error =>
      rw [ran] at first
      exact first
  | ok result =>
      rw [ran] at first
      exact second result.1 result.2 first

theorem weaken (first : Meets proper reader before wanted)
    (implies : ∀ value after, wanted value after → weaker value after) :
    Meets proper reader before weaker := by
  rw [Meets] at first ⊢
  cases ran : reader.run before with
  | error error =>
      rw [ran] at first
      exact first
  | ok result =>
      rw [ran] at first
      exact implies result.1 result.2 first

theorem get {continuation : SourceState → SourceReader β}
    (next : Meets proper (continuation before) before last) :
    Meets proper (MonadState.get >>= continuation) before last :=
  next

theorem set {after : SourceState} {continuation : PUnit → SourceReader β}
    (next : Meets proper (continuation ⟨⟩) after last) :
    Meets proper (MonadStateOf.set after >>= continuation) before last :=
  next

theorem ite {condition : Prop} [Decidable condition] {first second : SourceReader α}
    (holds : condition → Meets proper first before wanted)
    (fails : ¬ condition → Meets proper second before wanted) :
    Meets proper (if condition then first else second) before wanted := by
  split
  · exact holds ‹_›
  · exact fails ‹_›

end Meets

/-- The errors of reading a source that can be met: those of tags, and those of parents. -/
structure Proper (setting : SourceSetting) (proper : TemplateError → Prop) : Prop where
  parse : ∀ error : SyntaxError, ¬ error.fault.IsStray → proper (.parse error)
  parent : ∀ filename error, setting.loadParent filename = .error error → proper error

/-- Reading that leads from one state between two tags to another one: nothing that is stored
is lost, and what lies between the states is listed. -/
structure Reads (before after : SourceState) (listed : (String → List Piece) → List Piece) :
    Prop where
  boundary : Stream true after.remaining
  remaining_le : after.remaining.length ≤ before.remaining.length
  length_le : before.blocks.length ≤ after.blocks.length
  kept : ∀ name body, before.blocks.lookup name = some body →
    after.blocks.lookup name = some body
  pieces_eq : ∀ (stored : Table (Body Node)) (bound : Nat),
    (∀ name body, after.blocks.lookup name = some body → stored.lookup name = some body) →
      after.blocks.length ≤ bound →
        Token.pieces before.remaining =
          listed (blockPieces stored bound) ++ Token.pieces after.remaining

namespace Reads

variable {before middle after : SourceState}
  {first second listed : (String → List Piece) → List Piece}

/-- Nothing is read. -/
theorem refl (boundary : Stream true before.remaining) : Reads before before fun _ => [] where
  boundary := boundary
  remaining_le := Nat.le_refl _
  length_le := Nat.le_refl _
  kept _ _ found := found
  pieces_eq _ _ _ _ := rfl

/-- One reading follows another. -/
theorem trans (reads : Reads before middle first) (more : Reads middle after second) :
    Reads before after fun blocks => first blocks ++ second blocks where
  boundary := more.boundary
  remaining_le := Nat.le_trans more.remaining_le reads.remaining_le
  length_le := Nat.le_trans reads.length_le more.length_le
  kept name body found := more.kept name body (reads.kept name body found)
  pieces_eq stored bound held enough := by
    have earlier := reads.pieces_eq stored bound
      (fun name body found => held name body (more.kept name body found))
      (Nat.le_trans more.length_le enough)
    rw [earlier, more.pieces_eq stored bound held enough, List.append_assoc]

/-- Tokens that are taken at first are listed before what is read then. -/
theorem prepend {rest : List Token} (taken : List Piece)
    (pieces : Token.pieces before.remaining = taken ++ Token.pieces rest)
    (shorter : rest.length < before.remaining.length)
    (reads : Reads { before with remaining := rest } after listed) :
    Reads before after (fun blocks => taken ++ listed blocks) ∧
      after.remaining.length < before.remaining.length where
  left := {
    boundary := reads.boundary
    remaining_le := Nat.le_trans reads.remaining_le (Nat.le_of_lt shorter)
    length_le := reads.length_le
    kept := reads.kept
    pieces_eq := fun stored bound held enough => by
      rw [pieces, List.append_assoc, ← reads.pieces_eq stored bound held enough] }
  right := Nat.lt_of_le_of_lt reads.remaining_le shorter

theorem listing {other : (String → List Piece) → List Piece} (reads : Reads before after listed)
    (same : ∀ blocks, listed blocks = other blocks) : Reads before after other :=
  (funext same : listed = other) ▸ reads

/-- What is read does not depend on parents and macros. -/
theorem congr {other : SourceState} (reads : Reads before after listed)
    (remaining : other.remaining = after.remaining) (blocks : other.blocks = after.blocks) :
    Reads before other listed where
  boundary := remaining ▸ reads.boundary
  remaining_le := remaining ▸ reads.remaining_le
  length_le := blocks ▸ reads.length_le
  kept := blocks ▸ reads.kept
  pieces_eq stored bound held enough := by
    rw [blocks] at held enough
    rw [remaining, reads.pieces_eq stored bound held enough]

end Reads


/-! ### Single steps -/

section Readers

variable {setting : SourceSetting} {before : SourceState}

theorem fault_meets (properly : Proper setting proper) {fault : SyntaxFault}
    (known : ¬ fault.IsStray) (position : Position) {wanted : α → SourceState → Prop} :
    Meets proper (SourceReader.fault fault position) before wanted :=
  properly.parse ⟨fault, position⟩ known

theorem within_gives (properly : Proper setting proper) {reader : TagReader α}
    (orderly : reader.Orderly) (cursor : Cursor) :
    Meets proper (within cursor reader) before fun value after =>
      (reader.run.run cursor).1 = .ok value ∧ after = before := by
  rw [within]
  split
  · exact ⟨‹_›, rfl⟩
  · exact properly.parse _ (orderly cursor _ ‹_›)

/-- Reading inside a tag leaves the source as it is. -/
theorem within_meets (properly : Proper setting proper) {reader : TagReader α}
    (orderly : reader.Orderly) (cursor : Cursor) :
    Meets proper (within cursor reader) before fun _ after => after = before :=
  (within_gives properly orderly cursor).weaken fun _ _ given => given.2

/-- A tag ends at the delimiter that closes it. -/
theorem tag_meets (kind : TagKind) {words rest : List Token} {closing : Token}
    (inside : ∀ word ∈ words, word.kind.isWord = true) (closes : closing.kind = kind.closes)
    (remaining : before.remaining = words ++ closing :: rest) (start : Position) :
    Meets proper (tag kind.closes start) before fun cursor after =>
      cursor = ⟨words, start, closing.position⟩ ∧
        after = { before with remaining := rest } := by
  refine .get ?_
  rw [remaining, Token.splitAtKind_words kind inside closes]
  exact .set ⟨rfl, rfl⟩

theorem next?_meets {token : Token} {rest : List Token}
    (remaining : before.remaining = token :: rest) :
    Meets proper next? before fun taken after =>
      taken = some token ∧ after = { before with remaining := rest } := by
  refine .get ?_
  rw [remaining]
  exact .set ⟨rfl, rfl⟩

theorem atEnd_meets (boundary : Stream true before.remaining) :
    Meets proper atEnd before fun ended after =>
      after = before ∧ (ended = true → Token.pieces before.remaining = []) ∧
        (ended = false →
          ∃ token rest, before.remaining = token :: rest ∧ token.kind ≠ .eof) := by
  refine .get ?_
  cases remaining : before.remaining with
  | nil => exact absurd remaining boundary.ne_nil
  | cons token rest =>
      refine ⟨rfl, fun ended => ?_, fun ended => ⟨token, rest, rfl, by simpa using ended⟩⟩
      have last : token.kind = .eof := by simpa using ended
      rw [remaining] at boundary
      rcases boundary.after_of_not_opens (by rintro (_ | _) <;> simp [last, TagKind.opens]) with
        ⟨kind | kind, _⟩ | ⟨_, rfl⟩
      · cases last.symm.trans kind
      · cases last.symm.trans kind
      · simp only [Token.pieces, last]

/-! ### Statements -/

/-- What is wanted of a reader of bodies, as long as the tokens left are within a bound: a
body with the tag that closes it is read. -/
def BodiesMeet (proper : TemplateError → Prop) (bound : Nat) (bodies : BodyReader) : Prop :=
  ∀ names before, Stream true before.remaining → before.remaining.length ≤ bound →
    Meets proper (bodies names) before fun result after =>
      Reads before after (fun blocks => bodyPieces blocks result.1) ∧
        after.remaining.length < before.remaining.length

variable {bound : Nat} {bodies : BodyReader}

/-- Every branch of a conditional takes tokens, so that there are never more of them than
tokens. -/
theorem branches_meets (properly : Proper setting proper) (meets : BodiesMeet proper bound bodies)
    {fuel : Nat} (condition : Expression) (boundary : Stream true before.remaining)
    (fits : before.remaining.length ≤ bound) (enough : before.remaining.length < fuel) :
    Meets proper (branches bodies fuel condition) before fun result after =>
      Reads before after fun blocks =>
        branchesPieces blocks result.1 ++ optionPieces blocks result.2 := by
  induction fuel generalizing condition before with
  | zero => exact absurd enough (Nat.not_lt_zero _)
  | succ fuel inductionHypothesis =>
      refine (meets _ before boundary fits).bind ?_
      rintro ⟨body, closing⟩ middle ⟨reads, shorter⟩
      dsimp only
      split
      · refine (within_meets properly TagReader.orderly_wholeExpression closing).bind ?_
        rintro next _ rfl
        refine (inductionHypothesis next reads.boundary (by omega) (by omega)).bind ?_
        rintro ⟨rest, otherwise⟩ after more
        exact (reads.trans more).listing fun blocks => (List.append_assoc _ _ _).symm
      · refine (within_meets properly TagReader.orderly_finish closing).bind ?_
        rintro _ _ rfl
        refine (meets _ _ reads.boundary (by omega)).bind ?_
        rintro ⟨otherwise, closing⟩ after ⟨more, _⟩
        refine (within_meets properly TagReader.orderly_finish closing).bind ?_
        rintro _ _ rfl
        exact (reads.trans more).listing fun blocks => by
          rw [Node.branchesPieces_singleton, Node.optionPieces_some]
      · refine (within_meets properly TagReader.orderly_finish closing).bind ?_
        rintro _ _ rfl
        exact reads.listing fun blocks => by
          rw [Node.branchesPieces_singleton, optionPieces, List.append_nil]

theorem loop_meets (properly : Proper setting proper) (meets : BodiesMeet proper bound bodies)
    (cursor : Cursor) (boundary : Stream true before.remaining)
    (fits : before.remaining.length ≤ bound) :
    Meets proper (loop bodies cursor) before fun described after =>
      Reads before after fun blocks => statementPieces blocks described := by
  refine (within_meets properly TagReader.orderly_loopHeader cursor).bind ?_
  rintro header _ rfl
  refine (meets _ _ boundary fits).bind ?_
  rintro ⟨body, closing⟩ middle ⟨reads, shorter⟩
  refine (within_meets properly TagReader.orderly_finish closing).bind ?_
  rintro _ _ rfl
  refine .ite (fun _ => ?_) fun _ => ?_
  · refine (meets _ _ reads.boundary (by omega)).bind ?_
    rintro ⟨empty, closing⟩ after ⟨more, _⟩
    refine (within_meets properly TagReader.orderly_finish closing).bind ?_
    rintro _ _ rfl
    exact reads.trans more
  · exact reads.listing fun blocks => (List.append_nil _).symm

theorem assignment_meets (properly : Proper setting proper)
    (meets : BodiesMeet proper bound bodies) (cursor : Cursor)
    (boundary : Stream true before.remaining) (fits : before.remaining.length ≤ bound) :
    Meets proper (assignment bodies cursor) before fun described after =>
      Reads before after fun blocks => statementPieces blocks described := by
  refine (within_meets properly TagReader.orderly_assignmentHeader cursor).bind ?_
  rintro ⟨target, _ | value⟩ _ rfl
  · refine (meets _ _ boundary fits).bind ?_
    rintro ⟨body, closing⟩ after ⟨reads, _⟩
    refine (within_meets properly TagReader.orderly_finish closing).bind ?_
    rintro _ _ rfl
    exact reads
  · exact .refl boundary

/-- A block that is stored lists its body, since no other one has its name. -/
theorem Reads.store {middle : SourceState} {name : String} {body : Body Node}
    (reads : Reads before middle fun blocks => bodyPieces blocks body)
    (unused : middle.blocks.lookup name = none) :
    Reads before { middle with blocks := Table.store name body middle.blocks } fun blocks =>
      blocks name where
  boundary := reads.boundary
  remaining_le := reads.remaining_le
  length_le := by
    rw [Table.length_store unused]
    exact Nat.le_succ_of_le reads.length_le
  kept other found held := Table.lookup_store_of_unused unused (reads.kept other found held)
  pieces_eq stored bound held enough := by
    rw [Table.length_store unused] at enough
    obtain ⟨bound, rfl⟩ := Nat.exists_eq_add_of_le' enough
    have found : stored.lookup name = some body := held name body (by simp [Table.lookup_store])
    have listed := reads.pieces_eq stored (bound + middle.blocks.length)
      (fun other value earlier => held other value (Table.lookup_store_of_unused unused earlier))
      (Nat.le_add_left _ _)
    rw [listed, ← Nat.add_assoc, blockPieces, found]

theorem block_meets (properly : Proper setting proper) (meets : BodiesMeet proper bound bodies)
    (cursor : Cursor) (boundary : Stream true before.remaining)
    (fits : before.remaining.length ≤ bound) :
    Meets proper (block bodies cursor) before fun described after =>
      Reads before after fun blocks => statementPieces blocks described := by
  refine (within_meets properly TagReader.orderly_blockHeader cursor).bind ?_
  rintro name _ rfl
  refine (meets _ _ boundary fits).bind ?_
  rintro ⟨body, closing⟩ middle ⟨reads, _⟩
  have ends := TagReader.orderly_closingName name (.blockClosedBy name) fun _ => id
  refine (within_meets properly ends closing).bind ?_
  rintro _ _ rfl
  refine .get (.ite (fun _ => fault_meets properly id _) fun unused => .set ?_)
  exact reads.store (Option.not_isSome_iff_eq_none.1 unused)

theorem parent_meets (properly : Proper setting proper) (cursor : Cursor)
    (boundary : Stream true before.remaining) :
    Meets proper (parent setting cursor) before fun described after =>
      Reads before after fun blocks => statementPieces blocks described := by
  refine (within_meets properly TagReader.orderly_parentHeader cursor).bind ?_
  rintro filename _ rfl
  rename_i before
  refine .get (.ite (fun _ => fault_meets properly id _) fun _ => ?_)
  have loaded : Meets proper (liftM (setting.loadParent filename) : SourceReader Lineage) before
      fun _ after => after = before := by
    rw [Meets]
    cases found : setting.loadParent filename with
    | error error => exact properly.parent filename error found
    | ok lineage => exact rfl
  refine loaded.bind ?_
  rintro lineage _ rfl
  exact (Reads.refl boundary).congr rfl rfl

theorem definition_meets (properly : Proper setting proper)
    (meets : BodiesMeet proper bound bodies) (cursor : Cursor)
    (boundary : Stream true before.remaining) (fits : before.remaining.length ≤ bound) :
    Meets proper (definition bodies cursor) before fun described after =>
      Reads before after fun blocks => statementPieces blocks described := by
  refine (within_meets properly TagReader.orderly_definitionHeader cursor).bind ?_
  rintro ⟨name, parameters⟩ _ rfl
  refine (meets _ _ boundary fits).bind ?_
  rintro ⟨body, closing⟩ middle ⟨reads, _⟩
  have ends := TagReader.orderly_closingName name (.definitionClosedBy name) fun _ => id
  refine (within_meets properly ends closing).bind ?_
  rintro _ _ rfl
  exact reads.congr rfl rfl

theorem box_meets (properly : Proper setting proper) (meets : BodiesMeet proper bound bodies)
    (cursor : Cursor) (boundary : Stream true before.remaining)
    (fits : before.remaining.length ≤ bound) :
    Meets proper (box setting bodies cursor) before fun described after =>
      Reads before after fun blocks => statementPieces blocks described := by
  refine (within_meets properly TagReader.orderly_boxHeader cursor).bind ?_
  rintro condition _ rfl
  refine .get ((meets _ _ boundary fits).bind ?_)
  rintro ⟨body, closing⟩ middle ⟨reads, shorter⟩
  refine (within_meets properly TagReader.orderly_finish closing).bind ?_
  rintro _ _ rfl
  refine .ite (fun _ => ?_) fun _ => ?_
  · refine (meets _ _ reads.boundary (by omega)).bind ?_
    rintro ⟨other, _⟩ after ⟨more, _⟩
    exact reads.trans more
  · exact reads.listing fun blocks => (List.append_nil _).symm

/-- The header of a statement without bodies. -/
theorem header_meets (properly : Proper setting proper) {reader : TagReader (Statement Node)}
    (orderly : reader.Orderly)
    (bare : reader.Gives fun described => ∀ blocks, statementPieces blocks described = [])
    (cursor : Cursor) (boundary : Stream true before.remaining) :
    Meets proper (within cursor reader) before fun described after =>
      Reads before after fun blocks => statementPieces blocks described := by
  refine (within_gives properly orderly cursor).weaken ?_
  rintro described _ ⟨given, rfl⟩
  exact (Reads.refl boundary).listing fun blocks => (bare cursor described given blocks).symm

/-- The rest of a block tag with the bodies of its statement. -/
theorem statement_meets (properly : Proper setting proper)
    (meets : BodiesMeet proper bound bodies) (kind : StatementKind) (cursor : Cursor)
    (boundary : Stream true before.remaining) (fits : before.remaining.length < bound) :
    Meets proper (statement setting bound bodies kind cursor) before fun described after =>
      Reads before after fun blocks => statementPieces blocks described := by
  have within_bound := Nat.le_of_lt fits
  cases kind with
  | conditional =>
      refine (within_meets properly TagReader.orderly_wholeExpression cursor).bind ?_
      rintro condition _ rfl
      refine (branches_meets properly meets condition boundary within_bound fits).bind ?_
      rintro ⟨branches, otherwise⟩ after reads
      exact reads
  | loop => exact loop_meets properly meets cursor boundary within_bound
  | assignment => exact assignment_meets properly meets cursor boundary within_bound
  | block => exact block_meets properly meets cursor boundary within_bound
  | parent => exact parent_meets properly cursor boundary
  | definition => exact definition_meets properly meets cursor boundary within_bound
  | importModule =>
      exact header_meets properly TagReader.orderly_importModuleHeader
        (TagReader.gives_importModuleHeader fun _ _ _ _ => rfl) cursor boundary
  | importNames =>
      exact header_meets properly TagReader.orderly_importNamesHeader
        (TagReader.gives_importNamesHeader fun _ _ _ _ => rfl) cursor boundary
  | inclusion =>
      exact header_meets properly TagReader.orderly_inclusionHeader
        (TagReader.gives_inclusionHeader fun _ _ _ _ => rfl) cursor boundary
  | box => exact box_meets properly meets cursor boundary within_bound

/-! ### Nodes -/

/-- The node of a block tag.  Only its opening delimiter is taken before. -/
theorem blockTag_meets (properly : Proper setting proper)
    (meets : BodiesMeet proper bound bodies) {opening closing : Token} {words rest : List Token}
    (remaining : before.remaining = opening :: (words ++ closing :: rest))
    (opens : opening.kind = .blockBegin) (inside : ∀ word ∈ words, word.kind.isWord = true)
    (closes : closing.kind = .blockEnd) (boundary : Stream true rest)
    (fits : before.remaining.length ≤ bound + 1) :
    Meets proper (blockTag setting bound bodies opening.position)
      { before with remaining := words ++ closing :: rest } fun node after =>
        Reads before after (fun blocks => node.pieces blocks) ∧
          after.remaining.length < before.remaining.length := by
  have lengths := congrArg List.length remaining
  simp only [List.length_cons, List.length_append] at lengths
  cases words with
  | nil =>
      refine (next?_meets rfl).bind ?_
      rintro _ _ ⟨rfl, rfl⟩
      refine .ite (fun named => ?_) fun _ => fault_meets properly id _
      cases closes.symm.trans named
  | cons name words =>
      refine (next?_meets rfl).bind ?_
      rintro _ _ ⟨rfl, rfl⟩
      refine .ite (fun named => ?_) fun _ => fault_meets properly id _
      split
      · exact fault_meets properly id _
      rename_i kind registered
      have others : ∀ word ∈ words, word.kind.isWord = true :=
        fun word member => inside word (List.mem_cons_of_mem name member)
      refine (tag_meets .block others closes rfl name.position).bind ?_
      rintro cursor _ ⟨rfl, rfl⟩
      refine (statement_meets properly meets kind _ boundary ?_).bind ?_
      · simp only [List.length_cons] at lengths
        dsimp only
        omega
      rintro described after reads
      have listed := Token.pieces_blockTag opens inside closes rest
      rw [← remaining] at listed
      exact Reads.prepend [.tag name.text] listed (by omega) reads

/-- Every node takes tokens. -/
theorem node_meets (properly : Proper setting proper) (meets : BodiesMeet proper bound bodies)
    {token : Token} {rest : List Token} (boundary : Stream true before.remaining)
    (remaining : before.remaining = token :: rest) (notLast : token.kind ≠ .eof)
    (fits : before.remaining.length ≤ bound + 1) :
    Meets proper (node setting bound bodies) before fun node after =>
      Reads before after (fun blocks => node.pieces blocks) ∧
        after.remaining.length < before.remaining.length := by
  rw [remaining] at boundary
  have shorter : rest.length < before.remaining.length := by simp [remaining]
  refine (next?_meets remaining).bind ?_
  rintro _ _ ⟨rfl, rfl⟩
  dsimp only
  split
  · rename_i kind
    rcases boundary.after_of_not_opens (by rintro (_ | _) <;> simp [kind, TagKind.opens]) with
      ⟨_, after⟩ | ⟨last, _⟩
    · exact Reads.prepend [.data token.text token.trim token.position]
        (by rw [remaining, Token.pieces, kind]; rfl) shorter (.refl after)
    · exact absurd last notLast
  · rename_i kind
    rcases boundary.after_of_not_opens (by rintro (_ | _) <;> simp [kind, TagKind.opens]) with
      ⟨_, after⟩ | ⟨last, _⟩
    · exact Reads.prepend [.comment token.text token.position]
        (by rw [remaining, Token.pieces, kind]; rfl) shorter (.refl after)
    · exact absurd last notLast
  · rename_i kind
    rcases boundary.exists_of_opens .variable kind with
      ⟨words, closing, after, rfl, inside, closes, following⟩
    have listed := Token.pieces_outputTag kind inside closes after
    rw [← remaining] at listed
    refine (tag_meets .variable inside closes rfl token.position).bind ?_
    rintro cursor _ ⟨rfl, rfl⟩
    refine .ite (fun _ => fault_meets properly id _) fun _ => ?_
    refine (within_gives properly (TagReader.orderly_output token.position) _).bind ?_
    rintro written _ ⟨given, rfl⟩
    rw [given] at listed
    exact Reads.prepend [.output (.ok written)] listed
      (by simp only [List.length_append, List.length_cons] at shorter; omega) (.refl following)
  · rename_i kind
    rcases boundary.exists_of_opens .block kind with
      ⟨words, closing, after, rfl, inside, closes, following⟩
    exact blockTag_meets properly meets remaining kind inside closes following fits
  · rename_i notData notComment notVariable notBlock
    rcases boundary.after_of_not_opens (by rintro (_ | _) <;> assumption) with
      ⟨kind | kind, _⟩ | ⟨last, _⟩
    · exact absurd kind notData
    · exact absurd kind notComment
    · exact absurd last notLast

/-- Nodes up to a tag form a body. -/
theorem bodyOf_meets (setting : SourceSetting)
    {nodes : List String → Position → SourceReader (List Node × String × Cursor)}
    (nodesMeet : ∀ names start before, Stream true before.remaining →
      before.remaining.length ≤ bound →
        Meets proper (nodes names start) before fun result after =>
          Reads before after (fun blocks =>
            allPieces blocks result.1 ++ endPieces (some result.2.1)) ∧
              after.remaining.length < before.remaining.length) :
    BodiesMeet proper bound (bodyOf setting nodes) := by
  intro names before boundary fits
  have placed : Meets proper (position setting) before fun _ after => after = before := by
    refine .get ?_
    split
    · exact rfl
    · exact rfl
  refine placed.bind ?_
  rintro start _ rfl
  refine (nodesMeet names start _ boundary fits).bind ?_
  rintro ⟨nodes, endTag, closing⟩ after reads
  exact reads

/-- The tag that closes a body begins with its name. -/
theorem exists_of_closingTag? {names : List String} {tokens : List Token} {name : Token}
    (found : closingTag? names tokens = some name) :
    ∃ opening rest, tokens = opening :: name :: rest ∧ opening.kind = .blockBegin ∧
      name.kind = .name := by
  rw [closingTag?.eq_def] at found
  split at found
  · split at found
    · rename_i opening _ rest named
      cases found
      exact ⟨opening, rest, rfl, named.1, named.2.1⟩
    · cases found
  · cases found

/-- The tag that closes a body is taken whole. -/
theorem closing_meets {names : List String} {name : Token}
    (boundary : Stream true before.remaining)
    (found : closingTag? names before.remaining = some name) :
    Meets proper
      (tag .blockEnd name.position)
      { before with remaining := before.remaining.drop 2 } fun _ after =>
        Reads before after (fun _ => [.tag name.text]) ∧
          after.remaining.length < before.remaining.length := by
  rcases exists_of_closingTag? found with ⟨opening, rest, remaining, opens, named⟩
  rw [remaining] at boundary
  rcases boundary.exists_of_opens .block opens with
    ⟨words, closing, after, tokens, inside, closes, following⟩
  cases words with
  | nil =>
      cases tokens
      cases named.symm.trans closes
  | cons word words =>
      obtain ⟨rfl, rfl⟩ : name = word ∧ rest = words ++ closing :: after := by
        simpa using tokens
      have listed := (congrArg Token.pieces remaining).trans
        (Token.pieces_blockTag opens inside closes after)
      have others : ∀ word ∈ words, word.kind.isWord = true :=
        fun word member => inside word (List.mem_cons_of_mem name member)
      refine (tag_meets .block others closes (congrArg (List.drop 2) remaining)
        name.position).weaken ?_
      rintro cursor _ ⟨rfl, rfl⟩
      refine Reads.prepend [.tag name.text] listed ?_ (.refl following)
      simp only [remaining, List.length_cons, List.length_append]
      omega

/-- The nodes of a body, and the tag that closes it. -/
theorem nodesUntil_meets (properly : Proper setting proper) (bound : Nat) (names : List String)
    (start : Position) (before : SourceState) (boundary : Stream true before.remaining)
    (fits : before.remaining.length ≤ bound) :
    Meets proper (nodesUntil setting bound names start) before fun result after =>
      Reads before after (fun blocks =>
        allPieces blocks result.1 ++ endPieces (some result.2.1)) ∧
          after.remaining.length < before.remaining.length := by
  induction bound generalizing names start before with
  | zero => exact fault_meets properly id _
  | succ bound inductionHypothesis =>
      refine (atEnd_meets boundary).bind ?_
      rintro ended _ ⟨rfl, -, more⟩
      refine .ite (fun _ => fault_meets properly id _) fun notEnded => .get ?_
      rename_i before
      rcases more (by simpa using notEnded) with ⟨token, rest, remaining, notLast⟩
      dsimp only
      split
      · rename_i name found
        have dropped : Meets proper
            (modify fun state => { state with remaining := state.remaining.drop 2 }) before
            fun _ after => after = { before with remaining := before.remaining.drop 2 } := rfl
        refine dropped.bind ?_
        rintro _ _ rfl
        refine (closing_meets boundary found).bind ?_
        rintro closing after reads
        exact reads
      · have bodies := bodyOf_meets setting inductionHypothesis
        refine (node_meets properly bodies boundary remaining notLast fits).bind ?_
        rintro first middle ⟨reads, shorter⟩
        refine (inductionHypothesis names start middle reads.boundary (by omega)).bind ?_
        rintro ⟨others, endTag, closing⟩ after ⟨rest, _⟩
        refine ⟨(reads.trans rest).listing fun blocks => (List.append_assoc _ _ _).symm, ?_⟩
        omega

/-- The nodes of a source.  The last token is left. -/
theorem nodesToEnd_meets (properly : Proper setting proper) (bound : Nat) (before : SourceState)
    (boundary : Stream true before.remaining) (fits : before.remaining.length ≤ bound) :
    Meets proper (nodesToEnd setting bound) before fun nodes after =>
      Reads before after (fun blocks => allPieces blocks nodes) ∧
        Token.pieces after.remaining = [] := by
  induction bound generalizing before with
  | zero => exact absurd (List.eq_nil_of_length_eq_zero (Nat.le_zero.1 fits)) boundary.ne_nil
  | succ bound inductionHypothesis =>
      refine (atEnd_meets boundary).bind ?_
      rintro ended _ ⟨rfl, last, more⟩
      refine .ite (fun atEnd => ⟨.refl boundary, last atEnd⟩) fun notEnded => ?_
      rcases more (by simpa using notEnded) with ⟨token, rest, remaining, notLast⟩
      have bodies := bodyOf_meets setting (nodesUntil_meets properly bound)
      refine (node_meets properly bodies boundary remaining notLast fits).bind ?_
      rintro first middle ⟨reads, shorter⟩
      refine (inductionHypothesis middle reads.boundary (by omega)).bind ?_
      rintro others after ⟨rest, ended⟩
      exact ⟨reads.trans rest, ended⟩

end Readers

end SourceReader

/-! ## Sources -/

namespace Lineage

open SourceReader (Meets Proper)

variable {config : Config} {statements : Registry StatementKind} {loader : Loader}
  {identifier source : String}

/-- A source whose tokens are known is read to a lineage that lists them, or fails properly. -/
theorem read_meets (statements : Registry StatementKind) (loader : Loader)
    (identifier : String) (loadParent : String → Except TemplateError Lineage)
    (proper : TemplateError → Prop) {tokens : List Token}
    (tokenized : Token.tokenize config source = .ok tokens)
    (parse : ∀ error : SyntaxError, ¬ error.fault.IsStray → proper (.parse error))
    (parent : ∀ filename error, loadParent filename = .error error → proper error) :
    match read config statements loader identifier source loadParent with
    | .ok lineage => lineage.layer.pieces = Token.pieces tokens
    | .error error => proper error := by
  let setting : SourceSetting :=
    ⟨identifier, config, loader, statements, (tokens.getLast?.map Token.position).getD default,
      loadParent⟩
  have properly : Proper setting proper := ⟨parse, parent⟩
  have meets := SourceReader.nodesToEnd_meets properly tokens.length ⟨tokens, none, [], []⟩
    (Token.stream_of_tokenize config tokenized) (Nat.le_refl _)
  rw [read_of_tokenize tokenized]
  rw [Meets] at meets
  split at meets
  · rename_i nodes after ran
    rw [ran]
    rcases meets with ⟨reads, ended⟩
    have listed := reads.pieces_eq after.blocks after.blocks.length (fun _ _ found => found)
      (Nat.le_refl _)
    rw [ended, List.append_nil] at listed
    change (extending _ after.parent).layer.pieces = Token.pieces tokens
    cases after.parent
    · exact listed.symm
    · exact listed.symm
  · rename_i error ran
    rw [ran]
    exact meets

/-- What is read from a source lists what the tokens of the source list, in the same order:
nothing is lost, nothing is repeated. -/
theorem pieces_ofSource {depth : Nat} {lineage : Lineage}
    (loaded : ofSource config statements depth loader identifier source = .ok lineage) :
    ∃ tokens, Token.tokenize config source = .ok tokens ∧
      lineage.layer.pieces = Token.pieces tokens := by
  have listed : ∀ loadParent,
      read config statements loader identifier source loadParent = .ok lineage →
        ∃ tokens, Token.tokenize config source = .ok tokens ∧
          lineage.layer.pieces = Token.pieces tokens := by
    intro loadParent found
    cases tokenized : Token.tokenize config source with
    | error error =>
        simp only [read, tokenized] at found
        cases found
    | ok tokens =>
        have meets := read_meets statements loader identifier loadParent (fun _ => True)
          tokenized (fun _ _ => True.intro) fun _ _ _ => True.intro
        rw [found] at meets
        exact ⟨tokens, rfl, meets⟩
  cases depth with
  | zero => exact listed _ loaded
  | succ depth => exact listed _ loaded

/-- Blocks in branches and branches in blocks. -/
def nested : String :=
  "a\x7b% if x %\x7d\x7b% block b %\x7db\x7b% if y %\x7d\x7b\x7b y \x7d\x7d" ++
    "\x7b% else %\x7d\x7b% block c %\x7dc\x7b% endblock %\x7d\x7b% endif %\x7d" ++
      "\x7b% endblock %\x7d\x7b# d #\x7d\x7b% endif %\x7d"

/-- They are listed as they stand. -/
theorem pieces_ofSource_nested :
    ∃ lineage tokens,
      ofSource .default Registries.standardStatements 0 .empty "page" nested = .ok lineage ∧
        lineage.layer.blocks.length = 2 ∧ Token.tokenize .default nested = .ok tokens ∧
          lineage.layer.pieces = Token.pieces tokens := by
  have evaluated :
      (ofSource .default Registries.standardStatements 0 .empty "page" nested).toOption.map
        (fun lineage => lineage.layer.blocks.length) = some 2 := by
    decide +kernel
  cases loaded : ofSource .default Registries.standardStatements 0 .empty "page" nested with
  | error error =>
      rw [loaded] at evaluated
      cases evaluated
  | ok lineage =>
      rw [loaded] at evaluated
      rcases pieces_ofSource loaded with ⟨tokens, tokenized, listed⟩
      exact ⟨lineage, tokens, rfl, Option.some.inj evaluated, tokenized, listed⟩

end Lineage

end TemplateEngine

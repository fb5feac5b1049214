import TemplateEngine.Node.Reader
import TemplateEngine.Proofs.Grammar

/-!
# What sources and templates list

The literal texts, comments, output tags and names of block tags of a source stand in an
order.  A template has them, too: in its nodes, and, where a block stands, in the body that is
stored under the name of the block.  This module says what the tokens of a source list and
what a template lists.
-/

namespace TemplateEngine

/-- What a source is made of, as far as templates show it. -/
inductive Piece where
  | data (text : String) (trim : Trim) (position : Position)
  | comment (text : String) (position : Position)
  /-- An output tag, with what is read from it. -/
  | output (content : Except SyntaxError Output)
  /-- A block tag with its name. -/
  | tag (name : String)

namespace Token

open SourceReader (splitAtKind)

/-- What is read from the words of an output tag at a position, given the tokens after its
opening delimiter. -/
def outputOf (position : Position) (tokens : List Token) : Except SyntaxError Output :=
  match splitAtKind .variableEnd tokens with
  | some (words, finish, _) =>
      ((TagReader.output position).run.run ⟨words, position, finish⟩).1
  | none => .error ⟨.endInsideTag, position⟩

/-- What some tokens list. -/
def pieces : List Token → List Piece
  | [] => []
  | token :: rest =>
      match token.kind with
      | .data => .data token.text token.trim token.position :: pieces rest
      | .comment => .comment token.text token.position :: pieces rest
      | .variableBegin => .output (outputOf token.position rest) :: pieces rest
      | .blockBegin =>
          match rest.head? with
          | some name => .tag name.text :: pieces rest
          | none => pieces rest
      | _ => pieces rest

end Token

/-! ## Nodes -/

namespace Node

/-- The tag that closes a body. -/
def endPieces : Option String → List Piece
  | some endTag => [.tag endTag]
  | none => []

mutual

/-- What a node lists, given what the bodies of blocks list. -/
def pieces (blocks : String → List Piece) : Node → List Piece
  | .comment text position => [.comment text position]
  | .data text trim position => [.data text trim position]
  | .output written => [.output (.ok written)]
  | .statement tag described _ => .tag tag :: statementPieces blocks described
  | .wrapper ⟨nodes, endTag, _⟩ => allPieces blocks nodes ++ endPieces endTag

/-- What several nodes list. -/
def allPieces (blocks : String → List Piece) : List Node → List Piece
  | [] => []
  | node :: rest => pieces blocks node ++ allPieces blocks rest

/-- What a body lists, where there is one. -/
def optionPieces (blocks : String → List Piece) : Option (Body Node) → List Piece
  | none => []
  | some ⟨nodes, endTag, _⟩ => allPieces blocks nodes ++ endPieces endTag

/-- What the branches of a conditional list. -/
def branchesPieces (blocks : String → List Piece) : List (Expression × Body Node) → List Piece
  | [] => []
  | (_, ⟨nodes, endTag, _⟩) :: rest =>
      allPieces blocks nodes ++ endPieces endTag ++ branchesPieces blocks rest

/-- What the bodies of a statement list. -/
def statementPieces (blocks : String → List Piece) : Statement Node → List Piece
  | .conditional branches otherwise =>
      branchesPieces blocks branches ++ optionPieces blocks otherwise
  | .loop _ _ _ ⟨nodes, endTag, _⟩ empty =>
      allPieces blocks nodes ++ endPieces endTag ++ optionPieces blocks empty
  | .assignment _ _ => []
  | .capture _ ⟨nodes, endTag, _⟩ => allPieces blocks nodes ++ endPieces endTag
  | .block name => blocks name
  | .parent _ => []
  | .definition ⟨_, _, ⟨nodes, endTag, _⟩, _⟩ => allPieces blocks nodes ++ endPieces endTag
  | .importModule _ _ _ => []
  | .importNames _ _ _ => []
  | .inclusion _ _ _ => []
  | .box _ _ ⟨nodes, endTag, _⟩ other =>
      allPieces blocks nodes ++ endPieces endTag ++ optionPieces blocks other

end

/-- What a body lists, with the tag that closes it. -/
def bodyPieces (blocks : String → List Piece) (body : Body Node) : List Piece :=
  allPieces blocks body.nodes ++ endPieces body.endTag

theorem branchesPieces_singleton (blocks : String → List Piece) (condition : Expression)
    (body : Body Node) : branchesPieces blocks [(condition, body)] = bodyPieces blocks body :=
  List.append_nil _

theorem optionPieces_some (blocks : String → List Piece) (body : Body Node) :
    optionPieces blocks (some body) = bodyPieces blocks body := rfl

/-- What the stored body of a block lists, with the blocks in it, as deep as a bound. -/
def blockPieces (stored : Table (Body Node)) : Nat → String → List Piece
  | 0, _ => []
  | bound + 1, name =>
      match stored.lookup name with
      | some body => bodyPieces (blockPieces stored bound) body
      | none => []

end Node

/-- What a layer lists.  Blocks nest less deep than there are blocks. -/
def Layer.pieces (layer : Layer) : List Piece :=
  Node.allPieces (Node.blockPieces layer.blocks layer.blocks.length) layer.nodes

/-! ## Tags among tokens -/

namespace Token

open SourceReader (splitAtKind)

/-- The words of a tag list nothing. -/
theorem pieces_words {words : List Token} (inside : ∀ word ∈ words, word.kind.isWord = true)
    (rest : List Token) : pieces (words ++ rest) = pieces rest := by
  induction words with
  | nil => rfl
  | cons word words inductionHypothesis =>
      have first := inside word List.mem_cons_self
      have others := inductionHypothesis fun other member =>
        inside other (List.mem_cons_of_mem word member)
      rw [List.cons_append, ← others]
      cases kind : word.kind <;> simp_all [pieces, TokenKind.isWord]

theorem pieces_closing (tag : TagKind) {closing : Token} (closes : closing.kind = tag.closes)
    (rest : List Token) : pieces (closing :: rest) = pieces rest := by
  rcases tag with _ | _ <;> simp only [pieces, closes, TagKind.closes]

/-- The words of a tag end at the delimiter that closes it. -/
theorem splitAtKind_words (tag : TagKind) {words : List Token} {closing : Token}
    (inside : ∀ word ∈ words, word.kind.isWord = true) (closes : closing.kind = tag.closes)
    (rest : List Token) :
    splitAtKind tag.closes (words ++ closing :: rest) = some (words, closing.position, rest) := by
  induction words with
  | nil => simp [splitAtKind, closes]
  | cons word words inductionHypothesis =>
      have first := inside word List.mem_cons_self
      have others := inductionHypothesis fun other member =>
        inside other (List.mem_cons_of_mem word member)
      have notClosing : word.kind ≠ tag.closes := by
        rcases tag with _ | _ <;> intro same <;> rw [same] at first <;> cases first
      have notLast : word.kind ≠ .eof := by
        intro same
        rw [same] at first
        cases first
      simp [splitAtKind, notClosing, notLast, others]

/-- A block tag lists its name. -/
theorem pieces_blockTag {opening name closing : Token} {words : List Token}
    (opens : opening.kind = .blockBegin)
    (inside : ∀ word ∈ name :: words, word.kind.isWord = true)
    (closes : closing.kind = .blockEnd) (rest : List Token) :
    pieces (opening :: (name :: words ++ closing :: rest)) = .tag name.text :: pieces rest := by
  have skipped := pieces_words inside (closing :: rest)
  rw [pieces_closing .block closes] at skipped
  rw [pieces, opens, ← skipped]
  rfl

/-- An output tag lists what is read from it. -/
theorem pieces_outputTag {opening closing : Token} {words : List Token}
    (opens : opening.kind = .variableBegin)
    (inside : ∀ word ∈ words, word.kind.isWord = true) (closes : closing.kind = .variableEnd)
    (rest : List Token) :
    pieces (opening :: (words ++ closing :: rest)) =
      .output ((TagReader.output opening.position).run.run
        ⟨words, opening.position, closing.position⟩).1 :: pieces rest := by
  have skipped := pieces_words inside (closing :: rest)
  rw [pieces_closing .variable closes] at skipped
  have found := splitAtKind_words .variable inside closes rest
  rw [pieces, opens, ← skipped]
  simp only [outputOf, TagKind.closes] at found ⊢
  rw [found]

theorem TagKind.eq_of_opens {first second : TagKind} (same : first.opens = second.opens) :
    first = second := by
  rcases first with _ | _ <;> rcases second with _ | _
  · rfl
  · cases same
  · cases same
  · rfl

namespace Stream

variable {mayBeText : Bool} {token : Token} {rest : List Token}

/-- After an opening delimiter stand the words of a tag and the delimiter that closes it. -/
theorem exists_of_opens (stream : Stream mayBeText (token :: rest)) (tag : TagKind)
    (opens : token.kind = tag.opens) :
    ∃ words closing after, rest = words ++ closing :: after ∧
      (∀ word ∈ words, word.kind.isWord = true) ∧ closing.kind = tag.closes ∧
        Stream true after := by
  generalize tokens : token :: rest = all at stream
  cases stream with
  | finish kind =>
      cases tokens
      rcases tag with _ | _ <;> cases opens.symm.trans kind
  | data kind _ _ =>
      cases tokens
      rcases tag with _ | _ <;> cases opens.symm.trans kind
  | comment kind _ =>
      cases tokens
      rcases tag with _ | _ <;> cases opens.symm.trans kind
  | @tag _ opening closing words after other otherOpens inside closes following =>
      cases tokens
      obtain rfl : other = tag := TagKind.eq_of_opens (otherOpens.symm.trans opens)
      exact ⟨words, closing, after, rfl, inside, closes, following⟩

/-- A token that opens no tag is a text, a comment or the last token. -/
theorem after_of_not_opens (stream : Stream mayBeText (token :: rest))
    (notOpening : ∀ tag : TagKind, token.kind ≠ tag.opens) :
    (token.kind = .data ∨ token.kind = .comment) ∧ Stream true rest ∨
      token.kind = .eof ∧ rest = [] := by
  generalize tokens : token :: rest = all at stream
  cases stream with
  | finish kind =>
      cases tokens
      exact .inr ⟨kind, rfl⟩
  | data kind _ after =>
      cases tokens
      exact .inl ⟨.inl kind, after.relax⟩
  | comment kind after =>
      cases tokens
      exact .inl ⟨.inr kind, after⟩
  | tag tag opens =>
      cases tokens
      exact absurd opens (notOpening tag)

end Stream

end Token

end TemplateEngine

import TemplateEngine.Proofs.Scanning

/-!
# The grammar of token streams

The tokens of a source are literal texts, comments and tags, and one token that ends them.
Between the delimiters of a tag stand words only.  No literal text is empty, and two of them
never follow each other.  That holds of every source that can be taken apart, under every
configuration: what the configuration drops from literal texts leaves the rest in place.
-/

namespace TemplateEngine

namespace TokenKind

/-- Whether tokens of a kind may stand between the delimiters of a tag. -/
def isWord : TokenKind → Bool
  | .name => true
  | .string => true
  | .integer => true
  | .float => true
  | .operator => true
  | _ => false

end TokenKind

namespace Token

/-- The token streams of sources.  A stream may begin with a literal text or not, which says
whether another one stands before it. -/
inductive Stream : Bool → List Token → Prop where
  | finish {mayBeText : Bool} {token : Token} (kind : token.kind = .eof) :
      Stream mayBeText [token]
  | data {token : Token} {rest : List Token} (kind : token.kind = .data)
      (nonempty : token.text ≠ "") (after : Stream false rest) : Stream true (token :: rest)
  | comment {mayBeText : Bool} {token : Token} {rest : List Token}
      (kind : token.kind = .comment) (after : Stream true rest) :
      Stream mayBeText (token :: rest)
  | tag {mayBeText : Bool} {opening closing : Token} {words rest : List Token} (tag : TagKind)
      (opens : opening.kind = tag.opens) (inside : ∀ word ∈ words, word.kind.isWord = true)
      (closes : closing.kind = tag.closes) (after : Stream true rest) :
      Stream mayBeText (opening :: words ++ closing :: rest)

namespace Stream

theorem ne_nil {mayBeText : Bool} {tokens : List Token} (stream : Stream mayBeText tokens) :
    tokens ≠ [] := by
  cases stream <;> simp

/-- A stream that follows a literal text may follow anything. -/
theorem relax {mayBeText : Bool} {tokens : List Token} (stream : Stream mayBeText tokens) :
    Stream true tokens := by
  cases stream with
  | finish kind => exact .finish kind
  | data kind nonempty after => exact .data kind nonempty after
  | comment kind after => exact .comment kind after
  | tag tag opens inside closes after => exact .tag tag opens inside closes after

end Stream

/-! ## Words -/

theorem isWord_of_readOperator {first : Char} {rest : List Char} {word : Word}
    (read : readOperator first rest = some word) : word.kind.isWord = true := by
  rw [readOperator.eq_def] at read
  repeat' split at read
  all_goals cases read
  all_goals rfl

theorem isWord_readNumber (first : Char) (rest : List Char) :
    (readNumber first rest).kind.isWord = true := by
  simp only [readNumber]
  repeat' split
  all_goals rfl

/-- What is read inside a tag is a word. -/
theorem isWord_of_readWord {first : Char} {rest : List Char} {word : Word}
    (read : readWord first rest = .ok word) : word.kind.isWord = true := by
  rw [readWord] at read
  split at read
  · cases read
    rfl
  split at read
  · cases read
    exact isWord_readNumber first rest
  split at read
  · split at read
    · cases read
      rfl
    · cases read
  · split at read
    · cases read
      exact isWord_of_readOperator ‹_›
    · cases read

/-! ## Sources -/

/-- What is changed in a result was a result before. -/
theorem exists_of_map_eq_ok {ε α β : Type} {change : α → β} {result : Except ε α}
    {value : β}
    (changed : result.map change = .ok value) :
    ∃ before, result = .ok before ∧ change before = value := by
  cases result with
  | error error => cases changed
  | ok before =>
      cases changed
      exact ⟨before, rfl, rfl⟩

theorem error_of_map_eq_error {ε α β : Type} {change : α → β} {result : Except ε α}
    {error : ε} (changed : result.map change = .error error) : result = .error error := by
  cases result with
  | error other =>
      cases changed
      rfl
  | ok before => cases changed

/-- The tokens from a point of a source on: a stream, or inside a tag words and the
delimiter that closes it before a stream. -/
def Follows : Mode → List Token → Prop
  | .text, tokens => Stream true tokens
  | .tag kind _, tokens =>
      ∃ words closing rest, tokens = words ++ closing :: rest ∧
        (∀ word ∈ words, word.kind.isWord = true) ∧ closing.kind = kind.closes ∧
          Stream true rest

theorem Follows.word {kind : TagKind} {opened : Position} {word : Token} {tokens : List Token}
    (isWord : word.kind.isWord = true) (follows : Follows (.tag kind opened) tokens) :
    Follows (.tag kind opened) (word :: tokens) := by
  rcases follows with ⟨words, closing, rest, rfl, inside, closes, after⟩
  refine ⟨word :: words, closing, rest, rfl, ?_, closes, after⟩
  intro other member
  rcases List.mem_cons.1 member with rfl | member
  · exact isWord
  · exact inside other member

theorem Follows.opening {kind : TagKind} {opened : Position} {opening : Token}
    {tokens : List Token} {mayBeText : Bool} (opens : opening.kind = kind.opens)
    (follows : Follows (.tag kind opened) tokens) : Stream mayBeText (opening :: tokens) := by
  rcases follows with ⟨words, closing, rest, rfl, inside, closes, after⟩
  exact .tag kind opens inside closes after

variable (config : Config)

/-- A literal text leaves one token that is not empty, or none, in front of a stream that
does not begin with a text. -/
theorem stream_layout_text {content : List Char} {position : Position}
    {previous : Option Lexeme} {lexemes : List Lexeme}
    (after : ∀ previous, Stream false (layout config previous lexemes)) :
    Stream true (layout config previous (textLexemes content position ++ lexemes)) := by
  rw [textLexemes]
  split
  · exact (after previous).relax
  · simp only [List.cons_append, List.nil_append, layout, layoutLexeme, textTokens]
    generalize layoutText config previous lexemes.head? content position = text
    rcases text with ⟨kept, start⟩
    simp only
    split
    · exact (after _).relax
    · rename_i nonempty
      refine .data rfl ?_ (after _)
      intro same
      apply nonempty
      simpa using congrArg String.toList same

/-- The tokens of the lexemes of a source follow the grammar. -/
theorem follows_layout {mode : Mode} {position : Position} {characters : List Char}
    {read : List Lexeme} (taken : lexemes mode position characters = .ok read)
    (previous : Option Lexeme) : Follows mode (layout config previous read) := by
  fun_induction lexemes mode position characters generalizing read previous with
  | case1 position characters content here =>
      cases taken
      exact stream_layout_text config fun _ => .finish rfl
  | case2 => cases taken
  | case3 position characters content here rest next body after found parts lexeme =>
      rename_i inductionHypothesis
      rcases exists_of_map_eq_ok taken with ⟨more, readMore, rfl⟩
      apply stream_layout_text config
      intro _
      exact .comment rfl (inductionHypothesis readMore (some lexeme))
  | case4 position characters content here tag rest next lexeme =>
      rename_i inductionHypothesis
      rcases exists_of_map_eq_ok taken with ⟨more, readMore, rfl⟩
      have inside := inductionHypothesis readMore (some lexeme)
      apply stream_layout_text config
      intro _
      exact inside.opening rfl
  | case5 => cases taken
  | case6 position characters tag opened here first rest remaining dash after closed lexeme =>
      rename_i inductionHypothesis
      rcases exists_of_map_eq_ok taken with ⟨more, readMore, rfl⟩
      have stream : Stream true (layout config (some lexeme) more) :=
        inductionHypothesis readMore (some lexeme)
      exact ⟨[], _, _, rfl, List.forall_mem_nil _, rfl, stream⟩
  | case7 => cases taken
  | case8 position characters tag opened here first rest remaining closed word readFirst lexeme =>
      rename_i inductionHypothesis
      rcases exists_of_map_eq_ok taken with ⟨more, readMore, rfl⟩
      have inside := inductionHypothesis readMore (some lexeme)
      exact inside.word (isWord_of_readWord readFirst)

/-- The tokens of a source are a stream. -/
theorem stream_of_tokenize {source : String} {tokens : List Token}
    (read : tokenize config source = .ok tokens) : Stream true tokens := by
  rw [tokenize_eq] at read
  rcases exists_of_map_eq_ok read with ⟨taken, found, rfl⟩
  exact follows_layout config found none

end Token

end TemplateEngine

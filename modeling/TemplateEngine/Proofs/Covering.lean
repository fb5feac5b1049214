import Mathlib.Data.List.Induction
import TemplateEngine.Proofs.Grammar

/-!
# Tokens cover the source

Each token but the last stands for a slice of the source, and the slices follow each other in
the order of the tokens.  Between two of them lie blanks inside a tag, and outside of tags
only the newline and the indentation that the configuration drops around block tags.  The
position of a token is where its slice begins, counted from the start of the source.

A source is taken apart into lexemes first, whose positions advance by their spellings.  So
it is enough to follow the lexemes with the text before them, and to show what the layout of
a literal text between its neighbours leaves out.
-/

namespace TemplateEngine

/-- The position of the character after some first characters of a source: its line is
counted by the newlines before it, and its column by the characters since the last one. -/
def Position.after (before : List Char) : Position :=
  ⟨before.count '\n' + 1, (before.reverse.takeWhile (· ≠ '\n')).length + 1⟩

/-- Going on from the start of a source character by character gives the position after
them. -/
theorem Position.advance_start (before : List Char) :
    Position.start.advance before = Position.after before := by
  induction before using List.reverseRecOn with
  | nil => rfl
  | append_singleton earlier character inductionHypothesis =>
      rw [advance_append, inductionHypothesis, advance, List.foldl_cons, List.foldl_nil, next]
      by_cases newline : character = '\n'
      · simp [after, newline]
      · simp [after, newline]

theorem Position.advance_after (before text : List Char) :
    (Position.after before).advance text = Position.after (before ++ text) := by
  rw [← advance_start, ← advance_start, advance_append]

namespace TokenKind

/-- Whether what follows a token of a kind is inside a tag. -/
def isInside : TokenKind → Bool
  | .variableBegin => true
  | .blockBegin => true
  | kind => kind.isWord

theorem isInside_of_isWord {kind : TokenKind} (word : kind.isWord = true) :
    kind.isInside = true := by
  cases kind <;> first | rfl | cases word

end TokenKind

namespace Token

/-- What the characters between the quotes of a string literal spell. -/
inductive Spells (quote : Char) : List Char → List Char → Prop where
  | nil : Spells quote [] []
  | escaped (character : Char) {rest content : List Char} (more : Spells quote rest content) :
      Spells quote ('\\' :: character :: rest) (unescape character :: content)
  | plain {character : Char} {rest content : List Char} (backslash : character ≠ '\\')
      (closing : character ≠ quote) (more : Spells quote rest content) :
      Spells quote (character :: rest) (character :: content)

/-- The slices of a source that a token may stand for. -/
inductive StandsFor : Token → List Char → Prop where
  /-- Most tokens are the text that they stand for. -/
  | verbatim {token : Token}
      (kind : token.kind ≠ .string ∧ token.kind ≠ .comment ∧ token.kind ≠ .eof) :
      StandsFor token token.text.toList
  /-- A string is a quoted literal, and its text what that spells. -/
  | literal {token : Token} {quote : Char} {spelled : List Char} (kind : token.kind = .string)
      (quotes : quote = '"' ∨ quote = '\'') (spells : Spells quote spelled token.text.toList) :
      StandsFor token (quote :: spelled ++ [quote])
  /-- A comment reaches to the first delimiter that closes it. -/
  | comment {token : Token} {opensWithDash closesWithDash : Bool} {body : List Char}
      (kind : token.kind = .comment)
      (text : token.text.toList = Text.trimCharacters Unicode.isBlank body)
      (first : ¬ ['#', '}'] <:+: dashText opensWithDash ++ body ++ dashText closesWithDash) :
      StandsFor token (['{', '#'] ++ dashText opensWithDash ++ body ++
        dashText closesWithDash ++ ['#', '}'])

/-- What may lie between the slices of two neighbours, given the source before it. -/
inductive Gap (config : Config) (before : List Char) :
    Option Token → Token → List Char → Prop where
  /-- Inside a tag there are blanks. -/
  | blanks {previous next : Token} {gap : List Char} (inside : previous.kind.isInside = true)
      (blank : ∀ character ∈ gap, Unicode.isBlank character = true) :
      Gap config before (some previous) next gap
  /-- Outside of tags there are the newline that is dropped after a block tag and the
  indentation that is dropped before one. -/
  | dropped {previous : Option Token} {next : Token} {newline indentation : List Char}
      (outside : ∀ token, previous = some token → token.kind.isInside = false)
      (newlineDropped : newline = [] ∨ newline = ['\n'] ∧ config.trimBlocks = true ∧
        ∃ token, previous = some token ∧ token.kind = .blockEnd ∧ token.text = "%\x7d")
      (indentationDropped : indentation = [] ∨ config.lstripBlocks = true ∧
        (∀ character ∈ indentation, character = ' ' ∨ character = '\t') ∧
        (Position.after (before ++ newline)).column = 1 ∧
        next.kind = .blockBegin ∧ next.text = "\x7b%") :
      Gap config before previous next (newline ++ indentation)

/-- Tokens that cover the rest of a source, given the source before it and the token that
ends there. -/
inductive Covers (config : Config) : List Char → Option Token → List Char → List Token → Prop
    where
  | finish {before gap : List Char} {previous : Option Token} {token : Token}
      (between : Gap config before previous token gap) (kind : token.kind = .eof)
      (position : token.position = Position.after (before ++ gap)) :
      Covers config before previous gap [token]
  | token {before gap slice rest : List Char} {previous : Option Token} {token : Token}
      {tokens : List Token} (between : Gap config before previous token gap)
      (stands : StandsFor token slice)
      (position : token.position = Position.after (before ++ gap))
      (after : Covers config (before ++ gap ++ slice) (some token) rest tokens) :
      Covers config before previous (gap ++ slice ++ rest) (token :: tokens)

/-! ## Words -/

/-- A token that is not read off in another way stands for its text. -/
theorem standsFor_ofList {token : Token} {slice : List Char}
    (text : token.text = String.ofList slice)
    (kind : token.kind ≠ .string ∧ token.kind ≠ .comment ∧ token.kind ≠ .eof) :
    StandsFor token slice := by
  have stands := StandsFor.verbatim kind
  rwa [text, String.toList_ofList] at stands

/-- A string literal is read through its closing quote, and its content is what it spells. -/
theorem spells_of_readString {quote : Char} {rest content : List Char} {length : Nat}
    (read : readString quote rest = some (content, length)) :
    ∃ spelled, rest.take length = spelled ++ [quote] ∧ Spells quote spelled content := by
  fun_induction readString quote rest generalizing content length with
  | case1 => cases read
  | case2 => cases read
  | case3 escaped rest inductionHypothesis =>
      obtain ⟨⟨inner, taken⟩, readRest, same⟩ := Option.map_eq_some_iff.1 read
      cases same
      obtain ⟨spelled, prefixed, spells⟩ := inductionHypothesis readRest
      exact ⟨'\\' :: escaped :: spelled, by simp [prefixed], .escaped escaped spells⟩
  | case4 rest notBackslash =>
      cases read
      exact ⟨[], rfl, .nil⟩
  | case5 character rest notBackslash notQuote inductionHypothesis =>
      obtain ⟨⟨inner, taken⟩, readRest, same⟩ := Option.map_eq_some_iff.1 read
      cases same
      obtain ⟨spelled, prefixed, spells⟩ := inductionHypothesis readRest
      exact ⟨character :: spelled, by simp [prefixed], .plain notBackslash notQuote spells⟩

theorem take_takeWhile (condition : Char → Bool) (characters : List Char) :
    characters.take (characters.takeWhile condition).length = characters.takeWhile condition :=
  (List.prefix_iff_eq_take.1 (List.takeWhile_prefix condition)).symm

/-- A number is its digits, with the point between them. -/
theorem text_readNumber (first : Char) (rest : List Char) :
    (readNumber first rest).text.toList =
      first :: rest.take (readNumber first rest).length := by
  have parts := List.takeWhile_append_dropWhile (p := Char.isDigit) (l := rest)
  have whole := take_takeWhile Char.isDigit rest
  simp only [readNumber]
  split
  · rename_i after point
    split
    · simp [whole]
    · have taken : rest.take ((rest.takeWhile Char.isDigit).length + 1 +
            (after.takeWhile Char.isDigit).length) =
          rest.takeWhile Char.isDigit ++ '.' :: after.takeWhile Char.isDigit :=
        calc
          _ = (rest.takeWhile Char.isDigit ++ '.' :: after).take
                ((rest.takeWhile Char.isDigit).length + 1 +
                  (after.takeWhile Char.isDigit).length) := by rw [← point, parts]
          _ = _ := by
            rw [Nat.add_assoc, List.take_length_add_append, Nat.add_comm 1,
              List.take_succ_cons, take_takeWhile]
      simp [taken]
  · simp [whole]

/-- What is read as an operator is its text. -/
theorem text_readOperator {first : Char} {rest : List Char} {word : Word}
    (read : readOperator first rest = some word) :
    word.kind = .operator ∧ word.text.toList = first :: rest.take word.length := by
  rw [readOperator.eq_def] at read
  repeat' split at read
  all_goals cases read
  all_goals exact ⟨rfl, by simp⟩

/-- The characters that are taken for a word are those that its token stands for. -/
theorem standsFor_of_readWord {first : Char} {rest : List Char} {word : Word}
    (read : readWord first rest = .ok word) (position : Position) :
    StandsFor (plain word.kind word.text position) (first :: rest.take word.length) := by
  have verbatim (kind : word.kind ≠ .string ∧ word.kind ≠ .comment ∧ word.kind ≠ .eof)
      (text : word.text.toList = first :: rest.take word.length) :
      StandsFor (plain word.kind word.text position) (first :: rest.take word.length) := by
    rw [← text]
    exact .verbatim kind
  rw [readWord] at read
  split at read
  · cases read
    exact verbatim (by simp [readName]) (by simp [readName, take_takeWhile])
  split at read
  · cases read
    refine verbatim ?_ (text_readNumber first rest)
    simp only [readNumber]
    repeat' split
    all_goals simp
  split at read
  · rename_i quotes
    split at read
    · rename_i content length readContent
      cases read
      obtain ⟨spelled, taken, spells⟩ := spells_of_readString readContent
      rw [taken]
      exact .literal rfl quotes (by simpa [plain] using spells)
    · cases read
  · split at read
    · rename_i readSign
      cases read
      obtain ⟨kind, text⟩ := text_readOperator readSign
      exact verbatim (by simp [kind]) text
    · cases read

/-! ## Comments -/

/-- The body of a comment does not hold the delimiter that closes it. -/
theorem no_closer_in_body {characters body rest : List Char}
    (split : splitComment characters = some (body, rest)) : ¬ ['#', '}'] <:+: body := by
  fun_induction splitComment characters generalizing body rest with
  | case1 => cases split
  | case2 after =>
      cases split
      simp
  | case3 character tail notCloser inductionHypothesis =>
      obtain ⟨⟨inner, after⟩, splitRest, same⟩ := Option.map_eq_some_iff.1 split
      cases same
      rw [List.infix_cons_iff]
      rintro (⟨more, start⟩ | inside)
      · cases start
        exact notCloser _ rfl (splitComment_append splitRest).symm
      · exact inductionHypothesis splitRest inside

/-- A dash before the body of a comment does not make up a closing delimiter. -/
theorem no_closer_after_dash {body : List Char} (dash : Bool)
    (free : ¬ ['#', '}'] <:+: body) : ¬ ['#', '}'] <:+: dashText dash ++ body := by
  cases dash with
  | false => exact free
  | true =>
      rw [dashText, if_pos rfl, List.singleton_append, List.infix_cons_iff]
      rintro (⟨more, start⟩ | inside)
      · cases start
      · exact free inside

/-! ## Literal texts -/

variable {config : Config}

/-- The indentation at the end of a text is all of it or stands after a newline. -/
theorem dropIndentation_append (beginsLine : Bool) (content : List Char) :
    ∃ indentation, content = dropIndentation beginsLine content ++ indentation ∧
      (indentation = [] ∨ (∀ character ∈ indentation, character = ' ' ∨ character = '\t') ∧
        ((dropIndentation beginsLine content).getLast? = some '\n' ∨
          dropIndentation beginsLine content = [] ∧ beginsLine = true)) := by
  have parts : content = Text.dropWhileEnd isIndentation content ++
      (content.reverse.takeWhile isIndentation).reverse := by
    rw [Text.dropWhileEnd, ← List.reverse_append, List.takeWhile_append_dropWhile,
      List.reverse_reverse]
  have indents : ∀ character ∈ (content.reverse.takeWhile isIndentation).reverse,
      character = ' ' ∨ character = '\t' := by
    intro character member
    have indents := List.all_eq_true.1 List.all_takeWhile character (List.mem_reverse.1 member)
    simpa [isIndentation] using indents
  rw [dropIndentation]
  split
  · rename_i character last
    split
    · rename_i newline
      exact ⟨_, parts, .inr ⟨indents, .inl (newline ▸ last)⟩⟩
    · exact ⟨[], by simp, .inl rfl⟩
  · rename_i nothing
    split
    · rename_i begins
      refine ⟨_, ?_, .inr ⟨indents, .inr ⟨rfl, begins⟩⟩⟩
      rw [List.getLast?_eq_none_iff.1 nothing, List.nil_append] at parts
      exact parts
    · exact ⟨[], by simp, .inl rfl⟩

/-- A position after a dropped newline is the position after that newline. -/
theorem next_after (before : List Char) :
    (Position.after before).next '\n' = Position.after (before ++ ['\n']) := by
  rw [← Position.advance_after]
  rfl

/-- A position is the first of its line at the start of a source and after a newline. -/
theorem column_after {before : List Char}
    (begins : before = [] ∨ before.getLast? = some '\n') : (Position.after before).column = 1 := by
  rcases begins with rfl | last
  · rfl
  · obtain ⟨earlier, rfl⟩ := List.getLast?_eq_some_iff.1 last
    simp [Position.after]

/-- How the text read so far ends outside of tags: the lexeme and the token that stand last
there.  Only the first literal text has no lexeme before it. -/
structure Ends (before : List Char) (previous : Option Lexeme) (last : Option Token) : Prop where
  outside : ∀ token, last = some token → token.kind.isInside = false
  closes : previous.any Lexeme.closesBlockPlainly = true →
    ∃ token, last = some token ∧ token.kind = .blockEnd ∧ token.text = "%\x7d"
  starts : previous = none → before = []

/-- What the configuration keeps of a text before a block tag stands before an indentation. -/
theorem indentation_parts (config : Config) (next : Option Lexeme) {before newline : List Char}
    (text : List Char) {begins : Bool}
    (column : begins = true → (Position.after (before ++ newline)).column = 1) :
    ∃ kept indentation,
      (if config.lstripBlocks && next.any Lexeme.opensBlockPlainly then
        (dropIndentation begins text, Position.after (before ++ newline))
      else (text, Position.after (before ++ newline))) =
        (kept, Position.after (before ++ newline)) ∧
      text = kept ++ indentation ∧
      (indentation = [] ∨ config.lstripBlocks = true ∧
        (∀ character ∈ indentation, character = ' ' ∨ character = '\t') ∧
        (Position.after (before ++ newline ++ kept)).column = 1 ∧
        next.any Lexeme.opensBlockPlainly = true) := by
  split
  · rename_i strips
    rw [Bool.and_eq_true] at strips
    obtain ⟨indentation, parts, dropped⟩ := dropIndentation_append begins text
    refine ⟨_, indentation, rfl, parts, dropped.imp_right ?_⟩
    rintro ⟨indents, newlineBefore | ⟨nothing, begins⟩⟩
    · exact ⟨strips.1, indents, column_after (.inr (by simp [newlineBefore])), strips.2⟩
    · rw [nothing, List.append_nil]
      exact ⟨strips.1, indents, column begins, strips.2⟩
  · exact ⟨text, [], rfl, by simp, .inl rfl⟩

/-- What the configuration keeps of a literal text stands between a newline and an
indentation, each of which it drops only next to a block tag. -/
theorem layoutText_parts (config : Config) {before : List Char} {previous : Option Lexeme}
    {last : Option Token}
    (ends : Ends before previous last) (next : Option Lexeme) (content : List Char) :
    ∃ newline kept indentation,
      layoutText config previous next content (Position.after before) =
        (kept, Position.after (before ++ newline)) ∧
      content = newline ++ kept ++ indentation ∧
      (newline = [] ∨ newline = ['\n'] ∧ config.trimBlocks = true ∧
        ∃ token, last = some token ∧ token.kind = .blockEnd ∧ token.text = "%\x7d") ∧
      (indentation = [] ∨ config.lstripBlocks = true ∧
        (∀ character ∈ indentation, character = ' ' ∨ character = '\t') ∧
        (Position.after (before ++ newline ++ kept)).column = 1 ∧
        next.any Lexeme.opensBlockPlainly = true) := by
  simp only [layoutText, dropNewline]
  cases drops : dropsNewline config previous content with
  | true =>
      obtain ⟨trims, closes⟩ := Bool.and_eq_true_iff.1 (Bool.and_eq_true_iff.1 drops).1
      obtain ⟨rest, rfl⟩ := exists_of_dropsNewline drops
      have starts : (previous.isNone || true) = true →
          (Position.after (before ++ ['\n'])).column = 1 :=
        fun _ => column_after (.inr (by simp))
      obtain ⟨kept, indentation, laid, parts, dropped⟩ :=
        indentation_parts config next rest starts
      refine ⟨['\n'], kept, indentation, ?_, by simp [parts],
        .inr ⟨rfl, trims, ends.closes closes⟩, dropped⟩
      rw [next_after]
      exact laid
  | false =>
      have starts : (previous.isNone || false) = true →
          (Position.after (before ++ [])).column = 1 := by
        intro begins
        have first : previous = none := by simpa using begins
        rw [ends.starts first]
        rfl
      obtain ⟨kept, indentation, laid, parts, dropped⟩ :=
        indentation_parts config next content starts
      refine ⟨[], kept, indentation, ?_, parts, .inl rfl, dropped⟩
      rw [List.append_nil] at laid ⊢
      exact laid

/-- Tokens that cover what comes after some text, whatever part of that text the slice of
their first token leaves out. -/
def CoversAfter (config : Config) (whole rest : List Char) (token : Token)
    (tokens : List Token) : Prop :=
  ∀ before gap last, before ++ gap = whole → Gap config before last token gap →
    Covers config before last (gap ++ rest) (token :: tokens)

/-- A literal text is left out, or covered by one token after a newline and before an
indentation that are left out. -/
theorem covers_text {before content rest : List Char} {previous : Option Lexeme}
    {last : Option Token} {lexeme : Lexeme} {token : Token} {more : List Lexeme}
    (ends : Ends before previous last)
    (laid : ∀ previous next, layoutLexeme config previous next lexeme = [token])
    (opens : lexeme.opensBlockPlainly = true → token.kind = .blockBegin ∧ token.text = "\x7b%")
    (after : CoversAfter config (before ++ content) rest token
      (layout config (some lexeme) more)) :
    Covers config before last (content ++ rest)
      (layout config previous
        (textLexemes content (Position.after before) ++ lexeme :: more)) := by
  have laidNext (previous : Option Lexeme) :
      layout config previous (lexeme :: more) = token :: layout config (some lexeme) more := by
    simp only [layout, laid, List.singleton_append]
  rw [textLexemes]
  split
  · rename_i nothing
    rw [List.isEmpty_iff.1 nothing] at after ⊢
    rw [List.nil_append, List.nil_append, laidNext]
    exact after before [] last rfl (.dropped ends.outside (.inl rfl) (.inl rfl))
  · obtain ⟨newline, kept, indentation, kepts, parts, newlineDropped, dropped⟩ :=
      layoutText_parts config ends (some lexeme) content
    have opened (next : (some lexeme).any Lexeme.opensBlockPlainly = true) :
        token.kind = .blockBegin ∧ token.text = "\x7b%" := opens (by simpa using next)
    have laidText : layout config previous
          (.text content (Position.after before) :: lexeme :: more) =
        (if kept.isEmpty then []
          else [⟨.data, String.ofList kept, Position.after (before ++ newline),
            ⟨previous.any Lexeme.closesWithDash, (some lexeme).any Lexeme.opensWithDash⟩⟩]) ++
          layout config (some (.text content (Position.after before))) (lexeme :: more) := by
      rw [layout, layoutLexeme, List.head?_cons, kepts, textTokens]
    rw [List.singleton_append, laidText, laidNext]
    subst parts
    split
    · rename_i nothing
      rw [List.isEmpty_iff.1 nothing] at after dropped ⊢
      rw [List.append_nil] at after dropped ⊢
      rw [List.nil_append]
      refine after before _ last rfl (.dropped ends.outside newlineDropped ?_)
      exact dropped.imp_right fun drops => ⟨drops.1, drops.2.1, drops.2.2.1, opened drops.2.2.2⟩
    · have between (data : Token) : Gap config before last data newline := by
        have dropped : Gap config before last data (newline ++ []) :=
          .dropped ends.outside newlineDropped (.inl rfl)
        rwa [List.append_nil] at dropped
      have covered (data : Token) (kind : data.kind = .data) :
          Covers config (before ++ newline ++ kept) (some data) (indentation ++ rest)
            (token :: layout config (some lexeme) more) := by
        refine after _ indentation (some data) (by simp) ?_
        rw [← List.nil_append indentation]
        refine .dropped ?_ (.inl rfl) ?_
        · rintro _ ⟨⟩
          rw [kind]
          rfl
        · rw [List.append_nil]
          exact dropped.imp_right fun drops =>
            ⟨drops.1, drops.2.1, drops.2.2.1, opened drops.2.2.2⟩
      rw [List.append_assoc, List.singleton_append]
      exact .token (between _) (standsFor_ofList rfl (by simp)) rfl (covered _ rfl)

/-! ## Sources -/

/-- How the text read so far ends: outside of tags, or at a token that is inside one. -/
def EndsIn (before : List Char) (previous : Option Lexeme) (last : Option Token) : Mode → Prop
  | .text => Ends before previous last
  | .tag _ _ => ∃ token, last = some token ∧ token.kind.isInside = true

/-- A token that stands for a slice covers what comes after some text, if the tokens after it
cover what comes after the slice. -/
theorem coversAfter_of_standsFor {whole slice rest : List Char} {token : Token}
    {tokens : List Token} (stands : StandsFor token slice)
    (position : token.position = Position.after whole)
    (after : Covers config (whole ++ slice) (some token) rest tokens) :
    CoversAfter config whole (slice ++ rest) token tokens := by
  rintro before gap last rfl between
  rw [← List.append_assoc]
  exact .token between stands position after

/-- Inside a tag a token stands for what comes after some blanks. -/
theorem covers_inside {before characters slice rest : List Char} {previous token : Token}
    {tokens : List Token} (inside : previous.kind.isInside = true)
    (remaining : characters.dropWhile Unicode.isBlank = slice ++ rest)
    (stands : StandsFor token slice)
    (position : token.position =
      Position.after (before ++ characters.takeWhile Unicode.isBlank))
    (after : Covers config (before ++ characters.takeWhile Unicode.isBlank ++ slice) (some token)
      rest tokens) :
    Covers config before (some previous) characters (token :: tokens) := by
  have blank := List.all_eq_true.1 (List.all_takeWhile (p := Unicode.isBlank) (l := characters))
  have covered := coversAfter_of_standsFor stands position after before _ (some previous) rfl
    (.blanks inside blank)
  rwa [← remaining, List.takeWhile_append_dropWhile] at covered

/-- After a closing delimiter the text ends outside of tags. -/
theorem ends_closing (before : List Char) (tag : TagKind) (dash : Bool)
    (position : Position) :
    Ends before (some (.closing tag dash position))
      (some (plain tag.closes (String.ofList (dashText dash ++ tag.closer)) position)) where
  outside := by
    rintro _ ⟨⟩
    cases tag <;> rfl
  closes plainly := by
    rcases tag with _ | _
    · cases plainly
    · cases dash with
      | false => exact ⟨_, rfl, rfl, rfl⟩
      | true => cases plainly
  starts first := by cases first

/-- An opening delimiter without a dash is the one of a block tag. -/
theorem opens_of_opensBlockPlainly {tag : TagKind} {dash : Bool} {position : Position}
    (plainly : (Lexeme.opening tag dash position).opensBlockPlainly = true) :
    tag.opens = .blockBegin ∧ String.ofList (tag.opener ++ dashText dash) = "\x7b%" := by
  rcases tag with _ | _
  · cases plainly
  · cases dash with
    | false => exact ⟨rfl, rfl⟩
    | true => cases plainly

/-- A source with a comment is the text before it, the comment and what follows. -/
theorem append_comment {characters rest body after : List Char}
    (next : (splitText characters).2 = some (.comment, rest))
    (found : splitComment (splitDash rest).2 = some (body, after)) (position : Position) :
    characters = (splitText characters).1 ++
      ((Lexeme.comment (splitDash rest).1 (splitFinalDash body).1 (splitFinalDash body).2
        position).spelling ++ after) := by
  conv_lhs =>
    rw [← splitText_append next, ← splitDash_append rest, ← splitComment_append found,
      ← splitFinalDash_append body]
  simp [Lexeme.spelling, Construct.mark]

/-- A source with a tag is the text before it, the opening delimiter and what follows. -/
theorem append_opening {characters rest : List Char} {tag : TagKind}
    (next : (splitText characters).2 = some (.tag tag, rest)) (position : Position) :
    characters = (splitText characters).1 ++
      ((Lexeme.opening tag (splitDash rest).1 position).spelling ++ (splitDash rest).2) := by
  conv_lhs => rw [← splitText_append next, ← splitDash_append rest]
  simp [Lexeme.spelling, Construct.mark, TagKind.opener]

/-- A comment stands for its spelling. -/
theorem standsFor_comment {characters body after : List Char}
    (found : splitComment characters = some (body, after)) (dash : Bool) (position : Position) :
    StandsFor (plain .comment (String.ofList
        (Text.trimCharacters Unicode.isBlank (splitFinalDash body).1)) position)
      (Lexeme.comment dash (splitFinalDash body).1 (splitFinalDash body).2 position).spelling := by
  refine .comment rfl (String.toList_ofList ..) ?_
  rw [List.append_assoc, splitFinalDash_append]
  exact no_closer_after_dash _ (no_closer_in_body found)

/-- The tokens of the lexemes of a source cover it. -/
theorem covers_layout {mode : Mode} {position : Position} {characters : List Char}
    {read : List Lexeme} (taken : lexemes mode position characters = .ok read)
    {before : List Char} {previous : Option Lexeme} {last : Option Token}
    (here : position = Position.after before) (ends : EndsIn before previous last mode) :
    Covers config before last characters (layout config previous read) := by
  fun_induction lexemes mode position characters generalizing read before previous last with
  | case1 position characters content now =>
      rename_i next
      cases taken
      subst here
      have whole : characters = content ++ [] := by simp [content, splitText_fst_eq next]
      rw [whole]
      refine covers_text ends (fun _ _ => rfl) (fun opens => ?_) ?_
      · cases opens
      · rintro earlier gap last' same between
        rw [List.append_nil]
        refine .finish between rfl ?_
        rw [same]
        exact Position.advance_after before content
  | case2 => cases taken
  | case3 position characters content now rest next body after found =>
      rename_i parts lexeme inductionHypothesis
      obtain ⟨more, readMore, rfl⟩ := exists_of_map_eq_ok taken
      subst here
      have here : now = Position.after (before ++ content) := Position.advance_after ..
      have whole : characters = content ++ (lexeme.spelling ++ after) :=
        append_comment next found now
      rw [whole]
      refine covers_text ends (fun _ _ => rfl) (fun opens => by cases opens) ?_
      refine coversAfter_of_standsFor (standsFor_comment found _ now) here
        (inductionHypothesis readMore ?_ ⟨?_, ?_, ?_⟩)
      · rw [here, Position.advance_after]
      · rintro _ ⟨⟩
        rfl
      · intro closes
        cases closes
      · intro none
        cases none
  | case4 position characters content now tag rest next =>
      rename_i lexeme inductionHypothesis
      obtain ⟨more, readMore, rfl⟩ := exists_of_map_eq_ok taken
      subst here
      have here : now = Position.after (before ++ content) := Position.advance_after ..
      have whole : characters = content ++ (lexeme.spelling ++ (splitDash rest).2) :=
        append_opening next now
      rw [whole]
      refine covers_text ends (fun _ _ => rfl) opens_of_opensBlockPlainly ?_
      refine coversAfter_of_standsFor
        (standsFor_ofList rfl (by cases tag <;> simp [plain, TagKind.opens])) here
        (inductionHypothesis readMore ?_ ⟨_, rfl, by cases tag <;> rfl⟩)
      rw [here, Position.advance_after, Lexeme.spelling]
  | case5 => cases taken
  | case6 position characters tag opened now first rest remaining dash after closed lexeme =>
      rename_i inductionHypothesis
      obtain ⟨more, readMore, rfl⟩ := exists_of_map_eq_ok taken
      subst here
      obtain ⟨opener, rfl, inside⟩ := ends
      have here : now = Position.after (before ++ characters.takeWhile Unicode.isBlank) :=
        Position.advance_after ..
      rw [layout, layoutLexeme, List.singleton_append]
      refine covers_inside inside (remaining.trans (splitCloser_append closed).symm)
        (standsFor_ofList rfl (by cases tag <;> simp [plain, TagKind.closes])) here
        (inductionHypothesis readMore ?_ (ends_closing _ tag dash now))
      rw [here, Position.advance_after, Lexeme.spelling]
  | case7 => cases taken
  | case8 position characters tag opened now first rest remaining closed word readFirst lexeme =>
      rename_i inductionHypothesis
      obtain ⟨more, readMore, rfl⟩ := exists_of_map_eq_ok taken
      subst here
      obtain ⟨opener, rfl, inside⟩ := ends
      have here : now = Position.after (before ++ characters.takeWhile Unicode.isBlank) :=
        Position.advance_after ..
      have whole : first :: rest = first :: rest.take word.length ++ rest.drop word.length := by
        rw [List.cons_append, List.take_append_drop]
      refine covers_inside inside (remaining.trans whole) (standsFor_of_readWord readFirst now)
        here (inductionHypothesis readMore ?_
          ⟨_, rfl, TokenKind.isInside_of_isWord (isWord_of_readWord readFirst)⟩)
      rw [here, Position.advance_after, Lexeme.spelling]

/-- What is read of a source is all of it but for one newline at the end, which the
configuration may leave out. -/
theorem sourceCharacters_append (config : Config) (source : String) :
    source.toList = sourceCharacters config source ++
      (if config.keepTrailingNewline = false ∧ source.toList.getLast? = some '\n' then ['\n']
      else []) := by
  simp only [sourceCharacters, Bool.and_eq_true, Bool.not_eq_true', beq_iff_eq]
  split
  · rename_i drops
    obtain ⟨earlier, parts⟩ := List.getLast?_eq_some_iff.1 drops.2
    rw [parts, List.dropLast_concat]
  · exact (List.append_nil _).symm

/-- The tokens of a source cover it, less one final newline that the configuration may leave
out. -/
theorem covers_of_tokenize {source : String} {tokens : List Token}
    (read : tokenize config source = .ok tokens) :
    ∃ characters ending, source.toList = characters ++ ending ∧
      ending = (if config.keepTrailingNewline = false ∧ source.toList.getLast? = some '\n'
        then ['\n'] else []) ∧
      Covers config [] none characters tokens := by
  rw [tokenize_eq] at read
  obtain ⟨taken, found, rfl⟩ := exists_of_map_eq_ok read
  refine ⟨sourceCharacters config source, _, sourceCharacters_append config source, rfl,
    covers_layout found rfl ⟨?_, ?_, ?_⟩⟩
  · intro token none
    cases none
  · intro closes
    cases closes
  · exact fun _ => rfl

/-- A literal text, a block tag after an indentation that is dropped, and a comment after a
newline that is dropped. -/
private def laidOut : String :=
  "a\n  \x7b% if b == 'c\\n' %\x7d\n\x7b#- d #\x7d\n"

theorem covers_laidOut :
    ∃ tokens, tokenize ⟨false, true, true, false, false⟩ laidOut = .ok tokens ∧
      ∃ characters ending, laidOut.toList = characters ++ ending ∧ ending = ['\n'] ∧
        Covers ⟨false, true, true, false, false⟩ [] none characters tokens := by
  have read : (tokenize ⟨false, true, true, false, false⟩ laidOut).toOption =
      some [plain .data "a\n" ⟨1, 1⟩, plain .blockBegin "\x7b%" ⟨2, 3⟩,
        plain .name "if" ⟨2, 6⟩, plain .name "b" ⟨2, 9⟩, plain .operator "==" ⟨2, 11⟩,
        plain .string "c\n" ⟨2, 14⟩, plain .blockEnd "%\x7d" ⟨2, 20⟩,
        plain .comment "d" ⟨3, 1⟩, plain .eof "" ⟨3, 9⟩] := by
    decide +kernel
  cases tokenized : tokenize ⟨false, true, true, false, false⟩ laidOut with
  | error error =>
      rw [tokenized] at read
      cases read
  | ok tokens =>
      obtain ⟨characters, ending, parts, last, covers⟩ := covers_of_tokenize tokenized
      exact ⟨tokens, rfl, characters, ending, parts, last.trans (by decide +kernel), covers⟩

end Token

end TemplateEngine

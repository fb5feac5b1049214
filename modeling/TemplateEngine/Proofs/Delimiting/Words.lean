import TemplateEngine.Proofs.Printing.Roundtrip
import TemplateEngine.Proofs.Covering

/-!
# The same words in front of both delimiters

The words of a tag are read without looking at the kind of the tag; only where one may begin, its
closing delimiter is looked for first.  So the words in front of the end of a block tag are those
in front of the end of an output tag, unless two of them are braces that stand side by side: there
the output tag is closed before its end.
-/

namespace TemplateEngine

/-- Positions grow from character to character. -/
theorem Position.advance_grows (position : Position) (characters : List Char) :
    position.line < (position.advance characters).line ∨
      (position.advance characters).line = position.line ∧
        (position.advance characters).column = position.column + characters.length := by
  induction characters generalizing position with
  | nil => exact .inr ⟨rfl, rfl⟩
  | cons character characters inductionHypothesis =>
      have grows := inductionHypothesis (position.next character)
      rw [show position.advance (character :: characters) =
        (position.next character).advance characters from rfl]
      by_cases newline : character = '\n'
      · simp only [next, if_pos newline] at grows ⊢
        omega
      · simp only [next, if_neg newline, List.length_cons] at grows ⊢
        omega

theorem Position.eq_nil_of_advance {position : Position} {characters : List Char}
    (same : position.advance characters = position) : characters = [] := by
  have grows := position.advance_grows characters
  rw [same] at grows
  exact List.length_eq_zero_iff.1 (by omega)

namespace Token

open Unicode (isBlank)

/-! ## Words in front of the end of a tag -/

section Words

variable {first quote : Char} {rest content : List Char} {length : Nat} {word : Word}
  {tag : TagKind}

/-- What a class of characters takes does not go on behind a character outside of it. -/
theorem takeWhile_append_cons {within : Char → Bool} {character : Char}
    (outside : within character = false) (rest tail : List Char) :
    (rest ++ character :: tail).takeWhile within = rest.takeWhile within ∧
      (rest ++ character :: tail).dropWhile within =
        rest.dropWhile within ++ character :: tail := by
  induction rest with
  | nil => simp [outside]
  | cons other rest inductionHypothesis =>
      cases inside : within other with
      | false => simp [inside]
      | true => simpa [inside] using inductionHypothesis

theorem readName_ending (first : Char) (rest : List Char) (tag : TagKind) :
    readName first (rest ++ tag.ending) = readName first rest := by
  have outside : continuesName ' ' = false := by decide
  simp only [readName, TagKind.ending, (takeWhile_append_cons outside rest tag.closer).1]

theorem readNumber_ending (first : Char) (rest : List Char) (tag : TagKind) :
    readNumber first (rest ++ tag.ending) = readNumber first rest := by
  have outside : ' '.isDigit = false := by decide
  have whole := takeWhile_append_cons outside rest tag.closer
  simp only [readNumber, TagKind.ending, whole]
  cases rest.dropWhile Char.isDigit with
  | nil => rfl
  | cons point after =>
      by_cases isPoint : point = '.'
      · subst isPoint
        have fraction := takeWhile_append_cons outside after tag.closer
        simp only [List.cons_append, fraction]
      · simp [isPoint]

/-- A number takes no more characters than there are. -/
theorem length_readNumber_le (first : Char) (rest : List Char) :
    (readNumber first rest).length ≤ rest.length := by
  have whole := congrArg List.length
    (List.takeWhile_append_dropWhile (p := Char.isDigit) (l := rest))
  rw [List.length_append] at whole
  simp only [readNumber]
  split
  · rename_i after point
    have fraction := (List.takeWhile_sublist Char.isDigit (l := after)).length_le
    rw [point, List.length_cons] at whole
    split <;> dsimp only <;> omega
  · dsimp only
    omega

/-- No string literal ends with the tag. -/
theorem readString_ending (isQuote : quote = '"' ∨ quote = '\'') (tag : TagKind) :
    readString quote tag.ending = none ∧ readString quote tag.closer = none := by
  rcases isQuote with rfl | rfl
  · cases tag <;> exact ⟨rfl, rfl⟩
  · cases tag <;> exact ⟨rfl, rfl⟩

theorem readString_append_ending (isQuote : quote = '"' ∨ quote = '\'')
    (read : readString quote (rest ++ tag.ending) = some (content, length)) :
    length ≤ rest.length ∧ ∀ other : TagKind,
      readString quote (rest ++ other.ending) = some (content, length) := by
  fun_induction readString quote rest generalizing content length with
  | case1 => cases (readString_ending isQuote tag).1.symm.trans read
  | case2 =>
      -- The escaped character would be the space in front of the delimiter.
      rw [List.singleton_append, TagKind.ending, readString.eq_def] at read
      simp only [if_true, (readString_ending isQuote tag).2] at read
      cases read
  | case3 escaped rest inductionHypothesis =>
      rw [List.cons_append, List.cons_append, readString.eq_def] at read
      obtain ⟨⟨inner, taken⟩, readRest, same⟩ := Option.map_eq_some_iff.1 read
      cases same
      obtain ⟨short, others⟩ := inductionHypothesis readRest
      refine ⟨by simpa using short, fun other => ?_⟩
      rw [List.cons_append, List.cons_append, readString.eq_def]
      simp only [if_true, others other, Option.map_some]
  | case4 rest notBackslash =>
      rw [List.cons_append, readString.eq_def] at read
      simp only [if_neg notBackslash, if_true] at read
      cases read
      refine ⟨by simp, fun other => ?_⟩
      rw [List.cons_append, readString.eq_def]
      simp only [if_neg notBackslash, if_true]
  | case5 character rest notBackslash notQuote inductionHypothesis =>
      rw [List.cons_append, readString.eq_def] at read
      simp only [if_neg notBackslash, if_neg notQuote] at read
      obtain ⟨⟨inner, taken⟩, readRest, same⟩ := Option.map_eq_some_iff.1 read
      cases same
      obtain ⟨short, others⟩ := inductionHypothesis readRest
      refine ⟨by simpa using short, fun other => ?_⟩
      rw [List.cons_append, readString.eq_def]
      simp only [if_neg notBackslash, if_neg notQuote, others other, Option.map_some]

/-- No operator has a space in it. -/
theorem readOperator_ending (first : Char) (tag : TagKind) :
    readOperator first tag.ending =
      if shortOperators.contains first then some ⟨.operator, String.ofList [first], 0⟩
      else none := by
  have noSpace : ¬ longOperators.contains (first, ' ') = true := by
    simp [longOperators]
  rw [TagKind.ending, readOperator, if_neg noSpace]

theorem readOperator_append_ending
    (read : readOperator first (rest ++ tag.ending) = some word) :
    word.length ≤ rest.length ∧ ∀ other : TagKind,
      readOperator first (rest ++ other.ending) = some word := by
  cases rest with
  | nil =>
      rw [List.nil_append, readOperator_ending] at read
      refine ⟨?_, fun other => by rw [List.nil_append, readOperator_ending, read]⟩
      split at read <;> cases read
      exact Nat.le_refl 0
  | cons second rest =>
      refine ⟨?_, fun other => read⟩
      rw [List.cons_append, readOperator] at read
      repeat' split at read
      all_goals cases read
      all_goals simp

/-- A word in front of the end of one tag is the same in front of the end of the other. -/
theorem readWord_append_ending (read : readWord first (rest ++ tag.ending) = .ok word) :
    word.length ≤ rest.length ∧ ∀ other : TagKind,
      readWord first (rest ++ other.ending) = .ok word := by
  by_cases begins : beginsName first = true
  · simp only [readWord, if_pos begins, readName_ending] at read ⊢
    cases read
    exact ⟨(List.takeWhile_sublist continuesName).length_le, fun _ => rfl⟩
  by_cases digit : first.isDigit = true
  · simp only [readWord, if_neg begins, if_pos digit, readNumber_ending] at read ⊢
    cases read
    exact ⟨length_readNumber_le first rest, fun _ => rfl⟩
  by_cases isQuote : first = '"' ∨ first = '\''
  · simp only [readWord, if_neg begins, if_neg digit, if_pos isQuote] at read ⊢
    split at read
    · rename_i content length readContent
      cases read
      obtain ⟨short, others⟩ := readString_append_ending isQuote readContent
      exact ⟨short, fun other => by rw [others other]⟩
    · cases read
  · simp only [readWord, if_neg begins, if_neg digit, if_neg isQuote] at read ⊢
    split at read
    · rename_i readSign
      cases read
      obtain ⟨short, others⟩ := readOperator_append_ending readSign
      exact ⟨short, fun other => by rw [others other]⟩
    · cases read

end Words

/-! ## The words in front of the end of a block tag -/

/-- A delimiter in front of the end of a tag is read before that end. -/
theorem exists_of_splitCloser? {tag other : TagKind} {characters after : List Char} {dash : Bool}
    (closes : splitCloser? tag (characters ++ other.ending) = some (dash, after)) :
    ∃ front, characters = dashText dash ++ tag.closer ++ front ∧ after = front ++ other.ending := by
  have split := splitCloser_append closes
  rcases List.append_eq_append_iff.1 split with ⟨front, rfl, same⟩ | ⟨between, same, rest⟩
  · exact ⟨front, rfl, same⟩
  · cases between with
    | nil => exact ⟨[], by simpa using same.symm, by simpa using rest.symm⟩
    | cons space between =>
        -- The delimiter would have the space in it.
        obtain rfl := (List.cons.inj rest).1
        have member : ' ' ∈ dashText dash ++ tag.closer := by
          rw [same]
          exact List.mem_append_right _ List.mem_cons_self
        cases tag <;> cases dash <;> exact absurd member (by decide)

/-- The words of a text from a position on, in front of the end of a block tag. -/
inductive Worded : Position → List Char → List Token → Prop where
  | nil {position : Position} : Worded position [] []
  | blank {position : Position} {first : Char} {rest : List Char} {words : List Token}
      (blank : isBlank first = true) (more : Worded (position.next first) rest words) :
      Worded position (first :: rest) words
  | word {position : Position} {first : Char} {rest : List Char} {word : Word}
      {words : List Token} (notBlank : isBlank first = false) (fits : word.length ≤ rest.length)
      (read : ∀ tag : TagKind, readWord first (rest ++ tag.ending) = .ok word)
      (more : Worded (position.advance (first :: rest.take word.length))
        (rest.drop word.length) words) :
      Worded position (first :: rest) (plain word.kind word.text position :: words)

/-- What is read of a text in front of the end of a block tag: its words up to the end of the tag,
which is the one behind the text or one within it. -/
def EndsBlock (position : Position) (characters : List Char) (read : List Lexeme) : Prop :=
  ∃ (words : List Lexeme) (tokens : List Token) (dash : Bool) (closed : Position)
    (more : List Lexeme) (after : List Char),
    read = words ++ .closing .block dash closed :: more ∧
      (words.map Lexeme.word? = tokens.map some ∧ ∀ token ∈ tokens, token.kind.isWord = true) ∧
        lexemes .text (closed.advance (dashText dash ++ TagKind.block.closer)) after = .ok more ∧
          (after = [] ∧ Worded position characters tokens ∨
            ∃ front, after = front ++ TagKind.block.ending)

namespace EndsBlock

variable {position : Position} {first : Char} {rest : List Char} {read : List Lexeme} {word : Word}

theorem blank_cons (blank : isBlank first = true)
    (ends : EndsBlock (position.next first) rest read) :
    EndsBlock position (first :: rest) read := by
  obtain ⟨words, tokens, dash, closed, more, after, split, spelled, readMore, ended⟩ := ends
  exact ⟨words, tokens, dash, closed, more, after, split, spelled, readMore,
    ended.imp_left fun worded => ⟨worded.1, .blank blank worded.2⟩⟩

theorem word_cons (notBlank : isBlank first = false)
    (found : readWord first (rest ++ TagKind.block.ending) = .ok word)
    (ends : EndsBlock (position.advance (first :: rest.take word.length)) (rest.drop word.length)
      read) :
    EndsBlock position (first :: rest)
      (.word word.kind word.text (first :: rest.take word.length) position :: read) := by
  obtain ⟨words, tokens, dash, closed, more, after, rfl, ⟨spelled, areWords⟩, readMore, ended⟩ :=
    ends
  obtain ⟨fits, others⟩ := readWord_append_ending found
  refine ⟨.word word.kind word.text (first :: rest.take word.length) position :: words,
    plain word.kind word.text position :: tokens, dash, closed, more, after, rfl, ⟨?_, ?_⟩,
    readMore, ended.imp_left fun worded => ⟨worded.1, .word notBlank fits others worded.2⟩⟩
  · rw [List.map_cons, List.map_cons, spelled]
    rfl
  · exact List.forall_mem_cons.2 ⟨isWord_of_readWord found, areWords⟩

end EndsBlock

/-- A block tag ends behind the words of a text, unless it ends inside of the text. -/
theorem endsBlock_of_lexemes {opened position : Position} {characters : List Char}
    {read : List Lexeme}
    (taken : lexemes (.tag .block opened) position (characters ++ TagKind.block.ending) =
      .ok read) : EndsBlock position characters read := by
  induction size : characters.length using Nat.strongRecOn
    generalizing characters position read with
  | ind size inductionHypothesis =>
  subst size
  cases characters with
  | nil =>
      have closes : splitCloser? .block ['%', '\x7d'] = some (false, []) := rfl
      rw [List.nil_append, TagKind.ending, lexemes_blank (by decide), TagKind.closer,
        lexemes_notBlank (by decide), closes] at taken
      obtain ⟨more, readMore, rfl⟩ := exists_of_map_eq_ok taken
      exact ⟨[], [], false, _, more, [], rfl, ⟨rfl, by simp⟩, readMore, .inl ⟨rfl, .nil⟩⟩
  | cons first rest =>
      rw [List.cons_append] at taken
      cases blank : isBlank first with
      | true =>
          rw [lexemes_blank blank] at taken
          exact .blank_cons blank (inductionHypothesis rest.length (Nat.lt_succ_self _) taken rfl)
      | false =>
          rw [lexemes_notBlank blank] at taken
          cases closes : splitCloser? .block (first :: (rest ++ TagKind.block.ending)) with
          | some parts =>
              obtain ⟨dash, after⟩ := parts
              rw [closes] at taken
              obtain ⟨more, readMore, rfl⟩ := exists_of_map_eq_ok taken
              obtain ⟨front, _, rfl⟩ := exists_of_splitCloser?
                (show splitCloser? .block (first :: rest ++ TagKind.block.ending) = _ from closes)
              exact ⟨[], [], dash, position, more, _, rfl, ⟨rfl, by simp⟩, readMore,
                .inr ⟨front, rfl⟩⟩
          | none =>
              rw [closes] at taken
              cases found : readWord first (rest ++ TagKind.block.ending) with
              | error fault =>
                  rw [found] at taken
                  cases taken
              | ok word =>
                  have fits := (readWord_append_ending found).1
                  simp only [found, List.take_append_of_le_length fits,
                    List.drop_append_of_le_length fits] at taken
                  obtain ⟨read, readRest, rfl⟩ := exists_of_map_eq_ok taken
                  have shorter : (rest.drop word.length).length < (first :: rest).length := by
                    simp only [List.length_drop, List.length_cons]
                    omega
                  exact .word_cons blank found (inductionHypothesis _ shorter readRest rfl)

/-! ## Braces side by side -/

/-- Whether two closing braces stand side by side. -/
def bracesMeet : List Token → Bool
  | first :: second :: rest =>
      first.isOperator "\x7d" && second.isOperator "\x7d" &&
        second.position == first.position.next '\x7d' || bracesMeet (second :: rest)
  | _ => false

/-- An output tag ends within some characters, in front of others. -/
def Cuts (characters following : List Char) : Prop :=
  ∀ opened position, ∃ (words : List Lexeme) (signs : List Sign) (dash : Bool)
    (closed : Position) (front : List Char), words.map Lexeme.sign? = signs.map some ∧
      (∀ sign ∈ signs, sign.kind.isWord = true) ∧
        lexemes (.tag .variable opened) position (characters ++ following) =
          (lexemes .text (closed.advance (dashText dash ++ TagKind.variable.closer))
            (front ++ following)).map fun more => words ++ .closing .variable dash closed :: more

section Braces

variable {first : Char} {characters rest following : List Char} {position : Position}
  {words : List Token} {signs : List Sign} {word : Word}

theorem scans_nil : Scans [] [] following := by
  intro opened position
  refine ⟨position, [], rfl, ?_⟩
  rw [List.nil_append]
  cases lexemes (.tag .variable opened) position following <;> rfl

/-- What ends a tag ends it behind other words as well. -/
theorem Scans.cuts {others : List Char} (scans : Scans characters signs (others ++ following))
    (inside : ∀ sign ∈ signs, sign.kind.isWord = true) (cuts : Cuts others following) :
    Cuts (characters ++ others) following := by
  intro opened position
  obtain ⟨middle, words, spelled, taken⟩ := scans opened position
  obtain ⟨more, moreSigns, dash, closed, front, moreSpelled, moreInside, ended⟩ :=
    cuts opened middle
  refine ⟨words ++ more, signs ++ moreSigns, dash, closed, front, by simp [spelled, moreSpelled],
    List.forall_mem_append.2 ⟨inside, moreInside⟩, ?_⟩
  rw [List.append_assoc, taken, ended]
  cases lexemes .text (closed.advance (dashText dash ++ TagKind.variable.closer))
    (front ++ following) with
  | error error => rfl
  | ok lexed => simp [Except.map]

/-- Nothing makes a brace or a dash longer. -/
theorem readWord_lasting (lasting : first = '\x7d' ∨ first = '-') (rest : List Char) :
    readWord first rest = .ok ⟨.operator, String.ofList [first], 0⟩ := by
  have alone : readOperator first rest = some ⟨.operator, String.ofList [first], 0⟩ := by
    rcases lasting with rfl | rfl
    · cases rest <;> simp [readOperator, longOperators, shortOperators]
    · cases rest <;> simp [readOperator, longOperators, shortOperators]
  rcases lasting with rfl | rfl
  · simp [readWord, alone, show beginsName '\x7d' = false by decide]
  · simp [readWord, alone, show beginsName '-' = false by decide]

/-- An operator is spelled as it is read. -/
theorem text_of_readWord (read : readWord first rest = .ok word)
    (kind : word.kind = .operator) : word.text.toList = first :: rest.take word.length := by
  have stands := standsFor_of_readWord read default
  generalize first :: rest.take word.length = slice at stands
  cases stands with
  | verbatim => rfl
  | literal string => cases kind.symm.trans string
  | comment comment => cases kind.symm.trans comment

/-- Only a brace is read as one. -/
theorem eq_brace_of_readWord (read : readWord first rest = .ok word)
    (brace : (plain word.kind word.text position).isOperator "\x7d" = true) : first = '\x7d' := by
  obtain ⟨kind, text⟩ : word.kind = .operator ∧ word.text = "\x7d" := by
    simpa [isOperator, plain] using brace
  have spelled := text_of_readWord read kind
  rw [text, show "\x7d".toList = ['\x7d'] from rfl] at spelled
  exact (List.cons.inj spelled).1.symm

/-- An output tag ends where its delimiter begins. -/
theorem cuts_of_splitCloser? {dash : Bool} {after : List Char} (notBlank : isBlank first = false)
    (closes : splitCloser? .variable (first :: rest ++ TagKind.variable.ending) =
      some (dash, after)) : Cuts (first :: rest) TagKind.variable.ending := by
  intro opened position
  obtain ⟨front, _, rfl⟩ := exists_of_splitCloser? closes
  refine ⟨[], [], dash, position, front, rfl, by simp, ?_⟩
  rw [List.cons_append] at closes ⊢
  rw [lexemes_notBlank notBlank, closes]
  rfl

namespace Worded

theorem isWord (worded : Worded position characters words) :
    ∀ word ∈ words, word.kind.isWord = true := by
  induction worded with
  | nil => simp
  | blank _ _ inductionHypothesis => exact inductionHypothesis
  | word _ _ read _ inductionHypothesis =>
      exact List.forall_mem_cons.2 ⟨isWord_of_readWord (read .block), inductionHypothesis⟩

/-- Words stand where they begin, behind blanks. -/
theorem position_eq {token : Token} (worded : Worded position characters (token :: words)) :
    ∃ gap, token.position = position.advance gap := by
  generalize whole : token :: words = tokens at worded
  induction worded with
  | nil => cases whole
  | @blank position first rest tokens _ _ inductionHypothesis =>
      obtain ⟨gap, same⟩ := inductionHypothesis whole
      exact ⟨first :: gap, same⟩
  | word =>
      cases whole
      exact ⟨[], rfl⟩

/-- A brace that stands at the position of a text begins the text. -/
theorem exists_of_isOperator {token : Token}
    (worded : Worded position characters (token :: words)) (here : token.position = position)
    (brace : token.isOperator "\x7d" = true) :
    ∃ rest, characters = '\x7d' :: rest := by
  cases worded with
  | @blank _ first rest _ _ more =>
      obtain ⟨gap, same⟩ := more.position_eq
      have nothing : first :: gap = [] := Position.eq_nil_of_advance (same.symm.trans here)
      cases nothing
  | @word _ first rest _ _ _ _ read =>
      exact ⟨rest, by rw [eq_brace_of_readWord (read .block) brace]⟩

theorem of_blank (blank : isBlank first = true) (worded : Worded position (first :: rest) words) :
    Worded (position.next first) rest words := by
  cases worded with
  | blank _ more => exact more
  | word notBlank => cases blank.symm.trans notBlank

/-- A text begins with the word that is read there. -/
theorem of_word (notBlank : isBlank first = false)
    (read : readWord first (rest ++ TagKind.block.ending) = .ok word)
    (worded : Worded position (first :: rest) words) :
    ∃ others, words = plain word.kind word.text position :: others ∧
      Worded (position.advance (first :: rest.take word.length)) (rest.drop word.length)
        others := by
  cases worded with
  | blank blank => cases blank.symm.trans notBlank
  | @word _ _ _ other others _ _ found more =>
      cases read.symm.trans (found .block)
      exact ⟨others, rfl, more⟩

/-- A text that begins with a brace or a dash begins with that word. -/
theorem of_lasting (lasting : first = '\x7d' ∨ first = '-')
    (worded : Worded position (first :: rest) words) :
    ∃ others, words = plain .operator (String.ofList [first]) position :: others ∧
      Worded (position.next first) rest others := by
  have notBlank : isBlank first = false := by
    rcases lasting with rfl | rfl <;> decide
  exact worded.of_word notBlank (readWord_lasting lasting _)

/-- Braces meet where an output tag would end. -/
theorem bracesMeet_of_closer {dash : Bool} {front : List Char}
    (worded : Worded position (dashText dash ++ TagKind.variable.closer ++ front) words) :
    bracesMeet words = true := by
  have meet (position : Position) (words : List Token)
      (worded : Worded position ('\x7d' :: '\x7d' :: front) words) : bracesMeet words = true := by
    obtain ⟨others, rfl, more⟩ := worded.of_lasting (.inl rfl)
    obtain ⟨others, rfl, _⟩ := more.of_lasting (.inl rfl)
    simp [bracesMeet, isOperator, plain]
  cases dash with
  | false => exact meet position words worded
  | true =>
      have dashed : Worded position ('-' :: '\x7d' :: '\x7d' :: front) words := worded
      obtain ⟨others, rfl, more⟩ := dashed.of_lasting (.inr rfl)
      have behind := meet _ others more
      cases others with
      | nil => cases behind
      | cons second others => rw [bracesMeet, behind, Bool.or_true]

/-- A word that does not begin where an output tag would end meets no other brace. -/
theorem bracesMeet_cons (notClosing : splitCloser? .variable (first :: (rest ++ following)) = none)
    (read : ∀ tag : TagKind, readWord first (rest ++ tag.ending) = .ok word)
    (more : Worded (position.advance (first :: rest.take word.length)) (rest.drop word.length)
      words) :
    bracesMeet (plain word.kind word.text position :: words) = bracesMeet words := by
  cases words with
  | nil => rfl
  | cons second words =>
      rw [bracesMeet, Bool.or_eq_right_iff_imp]
      intro meet
      obtain ⟨⟨brace, other⟩, behind⟩ :
          ((plain word.kind word.text position).isOperator "\x7d" = true ∧
            second.isOperator "\x7d" = true) ∧ second.position = position.next '\x7d' := by
        simpa [plain] using meet
      obtain rfl := eq_brace_of_readWord (read .block) brace
      cases (readWord_lasting (.inl rfl) _).symm.trans (read .block)
      obtain ⟨tail, begins⟩ := more.exists_of_isOperator behind other
      rw [List.drop_zero] at begins
      rw [begins] at notClosing
      cases notClosing

/-- Where the words of a text end a block tag, they end an output tag, unless braces meet: then
the output tag ends there. -/
theorem scans_or_cuts (worded : Worded position characters words) :
    bracesMeet words = false ∧
        Scans characters (words.map Token.sign) TagKind.variable.ending ∨
      bracesMeet words = true ∧ Cuts characters TagKind.variable.ending := by
  induction worded with
  | nil => exact .inl ⟨rfl, scans_nil⟩
  | blank blank _ inductionHypothesis =>
      exact inductionHypothesis.imp
        (fun ended => ⟨ended.1, (scans_blank blank).append ended.2⟩)
        fun ended => ⟨ended.1, (scans_blank blank).cuts (by simp) ended.2⟩
  | @word position first rest word words notBlank fits read more inductionHypothesis =>
      cases closes : splitCloser? .variable (first :: (rest ++ TagKind.variable.ending)) with
      | some parts =>
          obtain ⟨front, split, _⟩ := exists_of_splitCloser?
            (show splitCloser? .variable (first :: rest ++ TagKind.variable.ending) = _ from closes)
          have worded : Worded position (first :: rest) _ := .word notBlank fits read more
          rw [split] at worded
          exact .inr ⟨worded.bracesMeet_of_closer, cuts_of_splitCloser? notBlank closes⟩
      | none =>
          rw [bracesMeet_cons closes read more]
          have whole : first :: rest = first :: rest.take word.length ++ rest.drop word.length := by
            rw [List.cons_append, List.take_append_drop]
          have scans : Scans (first :: rest.take word.length) [⟨word.kind, word.text⟩]
              (rest.drop word.length ++ TagKind.variable.ending) := by
            apply scans_word notBlank
            · rwa [← List.append_assoc, List.take_append_drop]
            · rw [← List.append_assoc, List.take_append_drop, read, List.length_take,
                Nat.min_eq_left fits]
          rw [whole]
          refine inductionHypothesis.imp (fun ended => ⟨ended.1, scans.append ended.2⟩)
            fun ended => ⟨ended.1, scans.cuts ?_ ended.2⟩
          exact List.forall_mem_singleton.2 (isWord_of_readWord (read .block))

end Worded

end Braces

end Token

end TemplateEngine

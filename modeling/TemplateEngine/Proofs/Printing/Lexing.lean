import TemplateEngine.Proofs.Printing
import TemplateEngine.Proofs.Scanning

/-!
# Taking printed expressions apart

Inside an output tag the text of an expression is taken apart into the tokens it was put
together from.  Every word ends where the next one begins: what is printed behind a name does
not continue it, what is printed behind an integer does not make it a float, and no two
operators run together to another one or to the end of the tag.
-/

namespace TemplateEngine

open Unicode (isBlank isAlphabetic blankRanges alphabeticRanges)

namespace Token

/-! ## Steps inside a tag -/

section Steps

variable {tag : TagKind} {opened position : Position} {first : Char} {rest : List Char}

/-- Behind the blanks, the end of the tag is looked for first, and then a word. -/
theorem lexemes_tag {characters : List Char}
    (remaining : characters.dropWhile isBlank = first :: rest) :
    let here := position.advance (characters.takeWhile isBlank)
    lexemes (.tag tag opened) position characters =
      match splitCloser? tag (first :: rest) with
      | some (dash, after) =>
          (lexemes .text (here.advance (dashText dash ++ tag.closer)) after).map fun more =>
            .closing tag dash here :: more
      | none =>
          match readWord first rest with
          | .error fault => .error ⟨fault, here⟩
          | .ok word =>
              (lexemes (.tag tag opened) (here.advance (first :: rest.take word.length))
                (rest.drop word.length)).map fun more =>
                  .word word.kind word.text (first :: rest.take word.length) here :: more := by
  intro here
  rw [lexemes]
  split
  · rename_i nothing
    cases remaining.symm.trans nothing
  · rename_i other others same
    cases remaining.symm.trans same
    split
    · rename_i closes
      rw [closes]
      rfl
    · rename_i closes
      rw [closes]
      rfl

theorem lexemes_unclosed {characters : List Char} (nothing : characters.dropWhile isBlank = []) :
    lexemes (.tag tag opened) position characters =
      .error ⟨.unclosedTag (String.ofList tag.closer), opened⟩ := by
  rw [lexemes]
  split
  · rfl
  · rename_i some
    cases nothing.symm.trans some

theorem lexemes_blank (blank : isBlank first = true) :
    lexemes (.tag tag opened) position (first :: rest) =
      lexemes (.tag tag opened) (position.next first) rest := by
  have dropped : (first :: rest).dropWhile isBlank = rest.dropWhile isBlank :=
    List.dropWhile_cons_of_pos blank
  have taken : (first :: rest).takeWhile isBlank = first :: rest.takeWhile isBlank :=
    List.takeWhile_cons_of_pos blank
  cases remaining : rest.dropWhile isBlank with
  | nil => rw [lexemes_unclosed remaining, lexemes_unclosed (dropped.trans remaining)]
  | cons next after =>
      rw [lexemes_tag remaining, lexemes_tag (dropped.trans remaining), taken]
      rfl

theorem lexemes_notBlank (notBlank : isBlank first = false) :
    lexemes (.tag tag opened) position (first :: rest) =
      match splitCloser? tag (first :: rest) with
      | some (dash, after) =>
          (lexemes .text (position.advance (dashText dash ++ tag.closer)) after).map fun more =>
            .closing tag dash position :: more
      | none =>
          match readWord first rest with
          | .error fault => .error ⟨fault, position⟩
          | .ok word =>
              (lexemes (.tag tag opened) (position.advance (first :: rest.take word.length))
                (rest.drop word.length)).map fun more =>
                  .word word.kind word.text (first :: rest.take word.length) position :: more := by
  have kept : (first :: rest).dropWhile isBlank = first :: rest :=
    List.dropWhile_cons_of_neg (by simp [notBlank])
  have nothing : (first :: rest).takeWhile isBlank = [] :=
    List.takeWhile_cons_of_neg (by simp [notBlank])
  rw [lexemes_tag kept, nothing]
  rfl

end Steps

/-! ## Words of a text -/

/-- The sign of a word. -/
def Lexeme.sign? : Lexeme → Option Sign
  | .word kind content _ _ => some ⟨kind, content⟩
  | _ => none

/-- Some characters in front of others are taken apart into words with some signs. -/
def Scans (characters : List Char) (signs : List Sign) (following : List Char) : Prop :=
  ∀ opened position, ∃ after words, words.map Lexeme.sign? = signs.map some ∧
    lexemes (.tag .variable opened) position (characters ++ following) =
      (lexemes (.tag .variable opened) after following).map fun more => words ++ more

variable {first second rest following : List Char}

/-- One text is taken apart after another. -/
theorem Scans.append {signs others : List Sign} (scans : Scans first signs (second ++ following))
    (more : Scans second others following) :
    Scans (first ++ second) (signs ++ others) following := by
  intro opened position
  rcases scans opened position with ⟨middle, words, spelled, taken⟩
  rcases more opened middle with ⟨after, rest, restSpelled, restTaken⟩
  refine ⟨after, words ++ rest, by simp [spelled, restSpelled], ?_⟩
  rw [List.append_assoc, taken, restTaken]
  cases lexemes (.tag .variable opened) after following with
  | error error => rfl
  | ok lexed => simp [Except.map]

/-- Blanks are skipped. -/
theorem scans_blank {character : Char} (blank : isBlank character = true) :
    Scans [character] [] following := by
  intro opened position
  refine ⟨position.next character, [], rfl, ?_⟩
  rw [List.singleton_append, lexemes_blank blank]
  cases lexemes (.tag .variable opened) (position.next character) following <;> rfl

theorem scans_space : Scans [' '] [] following :=
  scans_blank (by decide)

/-- A word is taken whole. -/
theorem scans_word {initial : Char} {kind : TokenKind} {content : String}
    (notBlank : isBlank initial = false)
    (notClosing : splitCloser? .variable (initial :: (rest ++ following)) = none)
    (read : readWord initial (rest ++ following) = .ok ⟨kind, content, rest.length⟩) :
    Scans (initial :: rest) [⟨kind, content⟩] following := by
  intro opened position
  refine ⟨position.advance (initial :: rest),
    [.word kind content (initial :: rest) position], rfl, ?_⟩
  rw [List.cons_append, lexemes_notBlank notBlank]
  simp only [notClosing, read, List.take_left, List.drop_left]
  rfl

/-! ## Characters -/

/-- What holds of all characters of a list is decided for one after another, and not for all
characters that there are. -/
theorem forall_mem_of_all {holds : Char → Prop} [DecidablePred holds] {characters : List Char}
    (all : (characters.all fun character => decide (holds character)) = true) :
    ∀ character ∈ characters, holds character :=
  fun character member => of_decide_eq_true (List.all_eq_true.1 all character member)

/-- A character between two bounds has no property whose ranges lie outside of them. -/
theorem not_contains_of_between {ranges : Unicode.Ranges} {character : Char} (low high : Nat)
    (outside : ∀ range ∈ ranges, range.2 < low ∨ high < range.1)
    (least : low ≤ character.toNat) (greatest : character.toNat ≤ high) :
    ranges.contains character = false := by
  cases covered : ranges.contains character with
  | false => rfl
  | true =>
      rcases Unicode.Ranges.exists_of_covers covered with ⟨range, member, first, last⟩
      rcases outside range member with below | above
      · omega
      · omega

theorem isAlphabetic_of_lt {character : Char} (low : character.toNat < 0x41) :
    isAlphabetic character = false :=
  not_contains_of_between 0 0x40 (by decide +kernel) (Nat.zero_le _) (Nat.le_of_lt_succ low)

theorem not_blank_of_isAlphabetic {character : Char} (alphabetic : isAlphabetic character = true) :
    isBlank character = false := by
  have disjoint : ∀ range ∈ blankRanges, ∀ offset < range.2 + 1 - range.1,
      alphabeticRanges.covers (range.1 + offset) = false := by
    decide +kernel
  cases blank : isBlank character with
  | false => rfl
  | true =>
      rcases Unicode.Ranges.exists_of_covers blank with ⟨range, member, least, greatest⟩
      have outside := disjoint range member (character.toNat - range.1) (by omega)
      rw [Nat.add_sub_cancel' least] at outside
      cases outside.symm.trans alphabetic

theorem not_blank_of_beginsName {character : Char} (begins : beginsName character = true) :
    isBlank character = false := by
  rcases Bool.or_eq_true _ _ ▸ begins with alphabetic | underscore
  · exact not_blank_of_isAlphabetic alphabetic
  · rw [beq_iff_eq.1 underscore]
    decide

theorem toNat_of_isDigit {character : Char} (digit : character.isDigit = true) :
    0x30 ≤ character.toNat ∧ character.toNat ≤ 0x39 := by
  simpa [Char.isDigit, Char.le_def, UInt32.le_iff_toNat_le] using digit

/-- No digit begins a name. -/
theorem not_beginsName_of_isDigit {character : Char} (digit : character.isDigit = true) :
    beginsName character = false := by
  have bounds := toNat_of_isDigit digit
  have notUnderscore : character ≠ '_' := by
    rintro rfl
    cases digit
  simp [beginsName, isAlphabetic_of_lt (by omega : character.toNat < 0x41), notUnderscore]

theorem not_blank_of_isDigit {character : Char} (digit : character.isDigit = true) :
    isBlank character = false :=
  not_contains_of_between 0x30 0x39 (by decide) (toNat_of_isDigit digit).1
    (toNat_of_isDigit digit).2

/-- What begins with neither a dash nor a brace does not close an output tag. -/
theorem splitCloser?_of_ne {character : Char} (notDash : character ≠ '-')
    (notBrace : character ≠ '\x7d') (characters : List Char) :
    splitCloser? .variable (character :: characters) = none := by
  simp [splitCloser?, Text.dropBeginning?, TagKind.closer, notDash.symm, notBrace.symm]

/-- A dash or a brace does not close an output tag when no brace follows. -/
theorem splitCloser?_of_head {character : Char} {characters : List Char}
    (notBrace : characters.head? ≠ some '\x7d') :
    splitCloser? .variable (character :: characters) = none := by
  cases characters with
  | nil => simp [splitCloser?, Text.dropBeginning?, TagKind.closer]
  | cons next rest =>
      have apart : '\x7d' ≠ next := fun same => notBrace (by rw [same]; rfl)
      simp [splitCloser?, Text.dropBeginning?, TagKind.closer, apart]

/-! ## Words -/

/-- What a class of characters takes from the front ends where the class does. -/
theorem takeWhile_append_stop {within : Char → Bool}
    (inside : ∀ character ∈ rest, within character = true)
    (stops : ∀ character ∈ following.head?, within character = false) :
    (rest ++ following).takeWhile within = rest ∧
      (rest ++ following).dropWhile within = following := by
  have nothing : following.takeWhile within = [] ∧ following.dropWhile within = following := by
    cases following with
    | nil => exact ⟨rfl, rfl⟩
    | cons next tail => simp [stops next rfl]
  rw [List.takeWhile_append_of_pos inside, List.dropWhile_append_of_pos inside, nothing.1,
    nothing.2, List.append_nil]
  exact ⟨rfl, rfl⟩

theorem scans_name {initial : Char} (begins : beginsName initial = true)
    (continues : rest.all continuesName = true)
    (stops : ∀ character ∈ following.head?, continuesName character = false) :
    Scans (initial :: rest) [.name (String.ofList (initial :: rest))] following := by
  have taken := (takeWhile_append_stop (List.all_eq_true.1 continues) stops).1
  have read : readWord initial (rest ++ following) =
      .ok ⟨.name, String.ofList (initial :: rest), rest.length⟩ := by
    simp only [readWord, begins, if_true, readName, taken]
  have notDash : initial ≠ '-' := by
    rintro rfl
    exact absurd begins (by decide)
  have notBrace : initial ≠ '\x7d' := by
    rintro rfl
    exact absurd begins (by decide)
  exact scans_word (not_blank_of_beginsName begins) (splitCloser?_of_ne notDash notBrace _) read

/-- A name in front of a space. -/
theorem scans_spacedName {initial : Char} (begins : beginsName initial = true)
    (continues : rest.all continuesName = true) :
    Scans (initial :: (rest ++ [' '])) [.name (String.ofList (initial :: rest))] following := by
  have stops : ∀ character ∈ ([' '] ++ following).head?, continuesName character = false := by
    intro character head
    cases head
    decide
  exact (scans_name begins continues stops).append scans_space

theorem scans_integer {initial : Char} (digit : initial.isDigit = true)
    (digits : ∀ character ∈ rest, character.isDigit = true)
    (stops : ∀ character ∈ following.head?, character.isDigit = false)
    (whole : following.head? = some '.' → ∀ next ∈ (following.drop 1).head?, next.isDigit = false) :
    Scans (initial :: rest) [⟨.integer, String.ofList (initial :: rest)⟩] following := by
  have taken := takeWhile_append_stop digits stops
  have number : readNumber initial (rest ++ following) =
      ⟨.integer, String.ofList (initial :: rest), rest.length⟩ := by
    simp only [readNumber, taken.1, taken.2]
    split
    · rename_i after
      have nothing : after.takeWhile Char.isDigit = [] := by
        cases after with
        | nil => rfl
        | cons next tail => simp [whole rfl next rfl]
      simp [nothing]
    · rfl
  have read : readWord initial (rest ++ following) =
      .ok ⟨.integer, String.ofList (initial :: rest), rest.length⟩ := by
    simp [readWord, not_beginsName_of_isDigit digit, digit, number]
  have notDash : initial ≠ '-' := by
    rintro rfl
    cases digit
  have notBrace : initial ≠ '\x7d' := by
    rintro rfl
    cases digit
  exact scans_word (not_blank_of_isDigit digit) (splitCloser?_of_ne notDash notBrace _) read

/-- A plain character is quoted so that reading gives it back. -/
theorem readString_quoteCharacter {character : Char} (plain : isPlainCharacter character = true)
    (following : List Char) :
    readString '"' (Text.quoteCharacter character ++ following) =
      (readString '"' following).map fun read =>
        (character :: read.1, read.2 + (Text.quoteCharacter character).length) := by
  by_cases tab : character = '\t'
  · subst tab
    rfl
  by_cases carriageReturn : character = '\r'
  · subst carriageReturn
    rfl
  by_cases newline : character = '\n'
  · subst newline
    rfl
  by_cases backslash : character = '\\'
  · subst backslash
    rfl
  by_cases quote : character = '"'
  · subst quote
    rfl
  have bounds : 0x20 ≤ character.toNat ∧ character.toNat ≤ 0x7E := by
    simpa [isPlainCharacter, tab, carriageReturn, newline, Char.le_def,
      UInt32.le_iff_toNat_le] using plain
  have notZero : character ≠ '\x00' := by
    rintro rfl
    exact absurd bounds.1 (by decide)
  have notExtending : Unicode.isExtending character = false :=
    not_contains_of_between 0x20 0x7E (by decide +kernel) bounds.1 bounds.2
  have printable : Unicode.isUnprintable character = false :=
    not_contains_of_between 0x20 0x7E (by decide +kernel) bounds.1 bounds.2
  have itself : Text.quoteCharacter character = [character] := by
    simp [Text.quoteCharacter, tab, carriageReturn, newline, backslash, quote, notZero,
      notExtending, printable]
  rw [itself, List.singleton_append, readString.eq_def]
  simp only [if_neg backslash, if_neg quote]
  rfl

theorem readString_quoted {content : List Char}
    (plain : ∀ character ∈ content, isPlainCharacter character = true) (following : List Char) :
    readString '"' (content.flatMap Text.quoteCharacter ++ '"' :: following) =
      some (content, (content.flatMap Text.quoteCharacter).length + 1) := by
  induction content with
  | nil =>
      rw [List.flatMap_nil, List.nil_append, readString.eq_def]
      rfl
  | cons character content inductionHypothesis =>
      have others := inductionHypothesis fun other member =>
        plain other (List.mem_cons_of_mem character member)
      rw [List.flatMap_cons, List.append_assoc,
        readString_quoteCharacter (plain character List.mem_cons_self), others]
      simp only [Option.map_some, List.length_append]
      congr 2
      omega

theorem scans_string {content : String} (plain : content.toList.all isPlainCharacter = true) :
    Scans (Text.quoted content).toList [⟨.string, content⟩] following := by
  have inside :
      readString '"' ((content.toList.flatMap Text.quoteCharacter ++ ['"']) ++ following) =
        some (content.toList, (content.toList.flatMap Text.quoteCharacter).length + 1) := by
    rw [List.append_assoc]
    exact readString_quoted (List.all_eq_true.1 plain) following
  have read : readWord '"' ((content.toList.flatMap Text.quoteCharacter ++ ['"']) ++ following) =
      .ok ⟨.string, content, (content.toList.flatMap Text.quoteCharacter ++ ['"']).length⟩ := by
    have notName : beginsName '"' = false := by decide
    have notDigit : '"'.isDigit = false := by decide
    simp only [readWord, notName, notDigit, inside]
    simp
  have spelled : (Text.quoted content).toList =
      '"' :: (content.toList.flatMap Text.quoteCharacter ++ ['"']) := by
    simp [Text.quoted]
  rw [spelled]
  exact scans_word (by decide) (splitCloser?_of_ne (by decide) (by decide) _) read

/-! ## Operators -/

/-- What is read as an operator is taken whole, unless it closes the tag. -/
theorem scans_operator {symbol : Char} (short : symbol ∈ shortOperators)
    (single : ∀ next ∈ following.head?, (symbol, next) ∉ longOperators)
    (notClosing : splitCloser? .variable (symbol :: following) = none) :
    Scans [symbol] [.operator (String.ofList [symbol])] following := by
  have classes : ∀ symbol ∈ shortOperators, isBlank symbol = false ∧
      beginsName symbol = false ∧ symbol.isDigit = false ∧ symbol ≠ '"' ∧ symbol ≠ '\'' :=
    forall_mem_of_all (by decide)
  rcases classes symbol short with ⟨notBlank, notName, notDigit, notDouble, notSingle⟩
  have known := List.contains_iff_mem.2 short
  have alone : readOperator symbol following = some ⟨.operator, String.ofList [symbol], 0⟩ := by
    cases following with
    | nil => simp only [readOperator, if_pos known]
    | cons next tail =>
        have apart : ¬ longOperators.contains (symbol, next) = true := fun found =>
          single next rfl (List.contains_iff_mem.1 found)
        simp only [readOperator, if_neg apart, if_pos known]
  have read : readWord symbol ([] ++ following) =
      .ok ⟨.operator, String.ofList [symbol], 0⟩ := by
    simp [readWord, notName, notDigit, notDouble, notSingle, alone]
  exact scans_word notBlank notClosing read

/-- The operators of one character that no other character makes longer. -/
def lastingSymbols : List Char :=
  ['(', ')', '[', ']', '\x7b', '\x7d', ',', '.', '|', ':', '-']

theorem scans_lastingSymbol {symbol : Char} (lasting : symbol ∈ lastingSymbols)
    (notClosing : splitCloser? .variable (symbol :: following) = none) :
    Scans [symbol] [.operator (String.ofList [symbol])] following := by
  have classes : ∀ symbol ∈ lastingSymbols,
      symbol ∈ shortOperators ∧ ∀ pair ∈ longOperators, pair.1 ≠ symbol :=
    forall_mem_of_all (by decide)
  rcases classes symbol lasting with ⟨short, notLong⟩
  exact scans_operator short (fun next _ long => notLong (symbol, next) long rfl) notClosing

/-- The symbols that never begin the end of a tag. -/
theorem scans_openSymbol {symbol : Char} (lasting : symbol ∈ lastingSymbols)
    (notDash : symbol ≠ '-') (notBrace : symbol ≠ '\x7d') :
    Scans [symbol] [.operator (String.ofList [symbol])] following :=
  scans_lastingSymbol lasting (splitCloser?_of_ne notDash notBrace following)

/-- The mark between the name and the value of an argument. -/
theorem scans_equals (apart : following.head? ≠ some '=') :
    Scans ['='] [.operator "="] following := by
  refine scans_operator (by decide) ?_ (splitCloser?_of_ne (by decide) (by decide) following)
  intro next head long
  have single : ∀ pair ∈ longOperators, pair.1 = '=' → pair.2 = '=' := by decide
  obtain rfl : next = '=' := single ('=', next) long rfl
  exact apart head

/-- An operator of one character in front of a space. -/
theorem scans_spacedSymbol {symbol : Char} (short : symbol ∈ shortOperators) :
    Scans [symbol] [.operator (String.ofList [symbol])] (' ' :: following) := by
  have notBrace : (' ' :: following).head? ≠ some '\x7d' := by simp
  refine scans_operator short ?_ (splitCloser?_of_head notBrace)
  intro next head long
  have noSpace : ∀ pair ∈ longOperators, pair.2 ≠ ' ' := by decide
  cases head
  exact noSpace (symbol, ' ') long rfl

/-- An operator of two characters. -/
theorem scans_longSymbol {initial next : Char} (long : (initial, next) ∈ longOperators) :
    Scans [initial, next] [.operator (String.ofList [initial, next])] following := by
  have classes : ∀ pair ∈ longOperators, isBlank pair.1 = false ∧ beginsName pair.1 = false ∧
      pair.1.isDigit = false ∧ pair.1 ≠ '"' ∧ pair.1 ≠ '\'' ∧ pair.1 ≠ '-' ∧
        pair.1 ≠ '\x7d' := by
    decide
  rcases classes _ long with
    ⟨notBlank, notName, notDigit, notDouble, notSingle, notDash, notBrace⟩
  have pair : readOperator initial (next :: following) =
      some ⟨.operator, String.ofList [initial, next], 1⟩ := by
    simp only [readOperator, if_pos (List.contains_iff_mem.2 long)]
  have read : readWord initial ([next] ++ following) =
      .ok ⟨.operator, String.ofList [initial, next], 1⟩ := by
    simp only [readWord, notName, notDigit, List.singleton_append, pair]
    simp [notDouble, notSingle]
  exact scans_word notBlank (splitCloser?_of_ne notDash notBrace _) read

theorem scans_comma : Scans [',', ' '] [.comma] following :=
  (scans_openSymbol (by decide) (by decide) (by decide)).append scans_space

/-- An operator between spaces. -/
theorem scans_binaryOperator (operator : BinaryOperator) :
    Scans operator.symbol.toList operator.signs (' ' :: following) := by
  have stops : ∀ character ∈ (' ' :: following).head?, continuesName character = false := by
    intro character head
    cases head
    decide
  cases operator with
  | or => exact scans_name (by decide) (by decide) stops
  | and => exact scans_name (by decide) (by decide) stops
  | isIn => exact scans_name (by decide) (by decide) stops
  | notIn =>
      have first : Scans ['n', 'o', 't', ' '] [.name "not"] (['i', 'n'] ++ ' ' :: following) :=
        scans_spacedName (by decide) (by decide)
      have second : Scans ['i', 'n'] [.name "in"] (' ' :: following) :=
        scans_name (by decide) (by decide) stops
      exact first.append second
  | equal | notEqual | lessEqual | greaterEqual | floorDivide =>
      exact scans_longSymbol (by decide)
  | less | greater | concat | add | subtract | multiply | divide | modulo =>
      exact scans_spacedSymbol (by decide)

end Token

end TemplateEngine

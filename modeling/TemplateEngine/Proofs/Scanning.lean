import TemplateEngine.Proofs.Layout

/-!
# The pass of the scanner

The scanner finds the constructs of a source and lays its literal texts out in one pass,
in which a newline that is dropped moves the cursor.  The pass is followed with the lexemes
that it has read: the cursor stands in front of the characters that are left, or behind the
newline of theirs that is dropped.  In both places the next literal text ends at the same
construct and at the same position, so a single step of the pass is a step through the
lexemes, laid out, and the tokens of a source are the layout of its lexemes.
-/

namespace TemplateEngine.Token

open TemplateEngine.Unicode

/-! ## Literal texts without their newline -/

/-- A newline at the beginning of some characters belongs to the literal text there. -/
theorem head?_splitText (characters : List Char) :
    ((splitText characters).1.head? == some '\n') = (characters.head? == some '\n') := by
  fun_cases splitText characters with
  | case1 => rfl
  | case2 => rfl
  | case3 => simp
  | case4 => simp
  | case5 => simp

theorem dropsNewline_splitText (config : Config) (previous : Option Lexeme)
    (characters : List Char) :
    dropsNewline config previous (splitText characters).1 =
      dropsNewline config previous characters := by
  rw [dropsNewline, dropsNewline, head?_splitText]

/-- The literal text in front of the next construct loses the newline that the characters
lose. -/
theorem splitText_dropNewline (config : Config) (previous : Option Lexeme)
    (characters : List Char) :
    splitText (dropNewline config previous characters) =
      (dropNewline config previous (splitText characters).1, (splitText characters).2) := by
  rw [dropNewline, dropNewline, dropsNewline_splitText]
  split
  · rename_i drops
    obtain ⟨rest, rfl⟩ := exists_of_dropsNewline drops
    rw [splitText.eq_def ('\n' :: rest)]
    rfl
  · rfl

/-- A text ends at one position, whether or not its newline is dropped. -/
theorem advance_dropNewline (config : Config) (previous : Option Lexeme)
    (content : List Char) (position : Position) :
    (if dropsNewline config previous content then position.next '\n' else position).advance
        (dropNewline config previous content) = position.advance content := by
  rw [dropNewline]
  split
  · rename_i drops
    obtain ⟨rest, rfl⟩ := exists_of_dropsNewline drops
    rfl
  · rfl

/-- The lexeme behind a literal text, as the cursor sees it: the construct that begins there
and whether it begins with a dash. -/
structure Begins (next : Option Construct) (dash : Bool) (lexeme : Lexeme) : Prop where
  opensWithDash : lexeme.opensWithDash = (next.isSome && dash)
  opensBlockPlainly : lexeme.opensBlockPlainly =
    (next == some (.tag .block) && !(next.isSome && dash))

namespace Begins

theorem comment (dash : Bool) (body : List Char) (closes : Bool) (position : Position) :
    Begins (some .comment) dash (.comment dash body closes position) :=
  ⟨rfl, rfl⟩

theorem opening (tag : TagKind) (dash : Bool) (position : Position) :
    Begins (some (.tag tag)) dash (.opening tag dash position) :=
  ⟨rfl, by cases tag <;> cases dash <;> rfl⟩

theorem finish (dash : Bool) (position : Position) : Begins none dash (.finish position) :=
  ⟨rfl, rfl⟩

end Begins

namespace Scanner

theorem advance_of_append {scanner : Scanner} {passed after : List Char}
    (parts : scanner.rest = passed ++ after) :
    scanner.advance passed.length =
      ⟨passed.getLast?.or scanner.behind, after, scanner.position.advance passed,
        scanner.trimNext⟩ := by
  simp [advance, parts]

/-- The cursor sees a dash where splitting one off finds it. -/
theorem sees_dash {scanner : Scanner} {passed after : List Char}
    (parts : scanner.rest = passed ++ after) :
    scanner.sees '-' passed.length = (splitDash after).1 := by
  rw [sees, parts, List.drop_left]
  fun_cases splitDash after with
  | case1 => rfl
  | case2 other => cases after <;> simp_all

/-- Where the cursor stands when the lexemes up to one have been read: in front of the
characters that are left, or behind a newline of theirs that is dropped. -/
structure Stands (config : Config) (previous : Option Lexeme) (position : Position)
    (characters : List Char) (scanner : Scanner) : Prop where
  rest : scanner.rest = dropNewline config previous characters
  position : scanner.position =
    if dropsNewline config previous characters then position.next '\n' else position
  beginsLine : scanner.beginsLine =
    (previous.isNone || dropsNewline config previous characters)
  trimNext : scanner.trimNext = previous.any Lexeme.closesWithDash

namespace Stands

variable {config : Config} {previous : Option Lexeme} {position : Position}
  {characters : List Char} {scanner : Scanner}

theorem start (config : Config) (characters : List Char) :
    Stands config none .start characters (.start characters) where
  rest := by simp [dropNewline, dropsNewline, Scanner.start]
  position := by simp [dropsNewline, Scanner.start]
  beginsLine := rfl
  trimNext := rfl

/-- The text in front of the next construct is the one that is laid out. -/
theorem splitText_rest (stands : Stands config previous position characters scanner) :
    splitText scanner.rest =
      (dropNewline config previous (splitText characters).1, (splitText characters).2) := by
  rw [stands.rest, splitText_dropNewline]

/-- Behind a lexeme that lets no newline be dropped. -/
theorem of_not_drops {lexeme : Lexeme}
    (notDropped : dropsNewline config (some lexeme) characters = false) {behind : Option Char}
    (isSome : behind.isSome) (notNewline : behind ≠ some '\n') :
    Stands config (some lexeme) position characters
      ⟨behind, characters, position, lexeme.closesWithDash⟩ where
  rest := by simp [dropNewline, notDropped]
  position := by simp [notDropped]
  beginsLine := by
    obtain ⟨character, rfl⟩ := Option.isSome_iff_exists.1 isSome
    simpa [notDropped, Scanner.beginsLine] using notNewline
  trimNext := rfl

/-- Where the text ends does not depend on what is dropped at its beginning. -/
theorem advance_text (stands : Stands config previous position characters scanner) :
    scanner.position.advance (dropNewline config previous (splitText characters).1) =
      position.advance (splitText characters).1 := by
  rw [stands.position, ← dropsNewline_splitText, advance_dropNewline]

/-- What the cursor makes of a literal text is the layout of the text in front of the lexeme
behind it. -/
theorem literal (stands : Stands config previous position characters scanner)
    {text after : List Char} (parts : scanner.rest = text ++ after)
    (kept : text = dropNewline config previous (splitText characters).1)
    {next : Option Construct} {lexeme : Lexeme}
    (begins : Begins next (scanner.sees '-' (text.length + 2)) lexeme) :
    ∃ behind, scanner.literal config text.length next =
      (textTokens previous (some lexeme)
          (layoutText config previous (some lexeme) (splitText characters).1 position),
        ⟨behind, after, position.advance (splitText characters).1, false⟩) := by
  have place := stands.position
  rw [← dropsNewline_splitText] at place
  have starts := stands.beginsLine
  rw [← dropsNewline_splitText] at starts
  have cursor := advance_of_append parts
  rw [kept, stands.advance_text, ← kept] at cursor
  have opens : (config.lstripBlocks && lexeme.opensBlockPlainly) =
      (next == some (.tag .block) && config.lstripBlocks &&
        !(next.isSome && scanner.sees '-' (text.length + 2))) := by
    rw [begins.opensBlockPlainly, Bool.and_assoc, Bool.and_left_comm]
  have laid : layoutText config previous (some lexeme) (splitText characters).1 position =
      (if next == some (.tag .block) && config.lstripBlocks &&
          !(next.isSome && scanner.sees '-' (text.length + 2))
        then dropIndentation scanner.beginsLine text else text, scanner.position) := by
    rw [layoutText, Option.any_some, opens, starts, place, kept]
    split <;> rfl
  refine ⟨text.getLast?.or scanner.behind, ?_⟩
  rw [Scanner.literal, cursor, laid, textTokens, Option.any_some, begins.opensWithDash, parts,
    List.take_left, stands.trimNext]
  rfl

end Stands

section

variable {config : Config} {scanner : Scanner} {rest : List Char} {here : Position}

/-- Where nothing but literal text is left, the text and the end of the source are read. -/
theorem run_of_none (last : (splitText scanner.rest).2 = none) :
    scanner.run config = .ok ((scanner.literal config scanner.rest.length none).1 ++
      [plain .eof "" (scanner.position.advance scanner.rest)]) := by
  have finish (scanner : Scanner) (finished : scanner.rest = []) :
      scanner.run config = .ok [plain .eof "" scanner.position] := by
    rw [run, dif_pos finished]
  by_cases finished : scanner.rest = []
  · rw [finish scanner finished, literal, finished]
    rfl
  · rw [run, dif_neg finished, show splitText scanner.rest = (_, none) from Prod.ext rfl last]
    have parts : scanner.rest = scanner.rest ++ [] := by simp
    simp only [literal, advance_of_append parts]
    rw [finish _ rfl]
    rfl

/-- In front of a construct, the text, the construct and the rest are read in turn. -/
theorem run_of_some {content after : List Char} {next : Construct}
    (found : splitText scanner.rest = (content, some (next, after))) :
    scanner.run config =
      (((scanner.literal config content.length (some next)).2.construct config next).bind
        fun read => (run config read.2).map fun more => read.1 ++ more).map fun more =>
          (scanner.literal config content.length (some next)).1 ++ more := by
  have remaining : scanner.rest ≠ [] := by
    intro finished
    rw [finished] at found
    cases found
  rw [run, dif_neg remaining, found]
  dsimp only
  split
  · rename_i failed
    rw [failed]
    rfl
  · rename_i tokens after read
    rw [read]
    simp only [Except.bind]
    cases run config after with
    | error error => rfl
    | ok more => exact congrArg Except.ok (List.append_assoc ..)

namespace Stands

variable {previous : Option Lexeme} {position : Position} {characters : List Char}

/-- The text at the end of a source is laid out in front of the end. -/
theorem run_of_none (stands : Stands config previous position characters scanner)
    (last : (splitText characters).2 = none) :
    scanner.run config = .ok (layout config previous
      (textLexemes (splitText characters).1 position ++
        [.finish (position.advance (splitText characters).1)])) := by
  have split := stands.splitText_rest
  rw [last] at split
  have whole : scanner.rest = dropNewline config previous (splitText characters).1 :=
    (splitText_fst_eq (congrArg Prod.snd split)).symm.trans (congrArg Prod.fst split)
  have parts : scanner.rest = scanner.rest ++ [] := (List.append_nil _).symm
  obtain ⟨behind, read⟩ := stands.literal parts whole
    (.finish _ (position.advance (splitText characters).1))
  have ends := stands.advance_text
  rw [← whole] at ends
  rw [Scanner.run_of_none (congrArg Prod.snd split), read, ends,
    layout_text _ _ _ _ fun _ _ => rfl]
  rfl

/-- The text in front of a construct is laid out, and the cursor stands at the construct. -/
theorem run_of_some (stands : Stands config previous position characters scanner)
    {next : Construct} (found : (splitText characters).2 = some (next, rest)) {lexeme : Lexeme}
    (begins : Begins (some next) (splitDash rest).1 lexeme) :
    ∃ cursor : Scanner, cursor.rest = '{' :: next.mark :: rest ∧
      cursor.position = position.advance (splitText characters).1 ∧
      scanner.run config =
        ((cursor.construct config next).bind fun read =>
          (run config read.2).map fun more => read.1 ++ more).map fun more =>
            textTokens previous (some lexeme) (layoutText config previous (some lexeme)
              (splitText characters).1 position) ++ more := by
  have split := stands.splitText_rest
  rw [found] at split
  have parts := splitText_append (congrArg Prod.snd split)
  rw [split] at parts
  have dash : scanner.sees '-'
      ((dropNewline config previous (splitText characters).1).length + 2) =
        (splitDash rest).1 := by
    have spread : scanner.rest =
        (dropNewline config previous (splitText characters).1 ++ ['{', next.mark]) ++ rest := by
      simp [← parts]
    simpa using sees_dash spread
  rw [← dash] at begins
  obtain ⟨behind, read⟩ := stands.literal parts.symm rfl begins
  rw [Scanner.run_of_some split, read]
  exact ⟨⟨behind, _, _, false⟩, rfl, rfl, rfl⟩

end Stands

/-- The delimiter that opens a construct, with its dash, and what follows it. -/
theorem opening_parts {mark : Char} (opens : scanner.rest = '{' :: mark :: rest) :
    scanner.rest = ('{' :: mark :: dashText (splitDash rest).1) ++ (splitDash rest).2 ∧
      scanner.openingLength = ('{' :: mark :: dashText (splitDash rest).1).length := by
  have parts : scanner.rest = ['{', mark] ++ rest := opens
  have dash : scanner.sees '-' 2 = (splitDash rest).1 := sees_dash parts
  constructor
  · rw [opens]
    simp [splitDash_append]
  · rw [openingLength, dash]
    cases (splitDash rest).1 <;> rfl

/-- The comment at the cursor is read as its lexeme is laid out, and the cursor stands behind
it. -/
theorem comment_eq (opens : scanner.rest = '{' :: '#' :: rest) {body after : List Char}
    (found : splitComment (splitDash rest).2 = some (body, after)) (previous next : Option Lexeme) :
    let lexeme := Lexeme.comment (splitDash rest).1 (splitFinalDash body).1
      (splitFinalDash body).2 scanner.position
    ∃ read, scanner.comment = .ok (layoutLexeme config previous next lexeme, read) ∧
      Stands config (some lexeme) (scanner.position.advance lexeme.spelling) after read := by
  obtain ⟨parts, length⟩ := opening_parts opens
  have opened := advance_of_append parts
  rw [← length] at opened
  have closes : (splitDash rest).2 = (body ++ ['#', '}']) ++ after := by
    rw [← splitComment_append found]
    simp
  have inner : (splitFinalDash body).1 ++ (dashText (splitFinalDash body).2 ++ ['#', '}']) =
      body ++ ['#', '}'] := by
    rw [← List.append_assoc, splitFinalDash_append]
  rw [comment, opened]
  dsimp only
  rw [found]
  dsimp only
  rw [show body.length + 2 = (body ++ ['#', '}']).length by simp, advance_of_append closes]
  refine ⟨_, rfl, ?_⟩
  have spelled : '{' :: '#' :: dashText (splitDash rest).1 ++ (body ++ ['#', '}']) =
      (Lexeme.comment (splitDash rest).1 (splitFinalDash body).1 (splitFinalDash body).2
        scanner.position).spelling := by
    simp [Lexeme.spelling, inner]
  rw [← spelled, Position.advance_append]
  exact .of_not_drops (by simp [dropsNewline, Lexeme.closesBlockPlainly]) (by simp) (by simp)

/-- Behind a closing delimiter the cursor stands in literal text again. -/
theorem stands_leave (tag : TagKind) (dash : Bool) (position : Position) (after : List Char) :
    Stands config (some (.closing tag dash position)) here after
      (leave config tag dash ⟨some '}', after, here, dash⟩) := by
  have drops : (tag == .block && !dash && config.trimBlocks &&
        Scanner.sees ⟨some '}', after, here, dash⟩ '\n' 0) =
      dropsNewline config (some (.closing tag dash position)) after := by
    rw [dropsNewline, Bool.and_comm _ config.trimBlocks, Scanner.sees]
    cases tag <;> cases dash <;> rfl
  rw [leave, drops]
  split
  · rename_i dropped
    obtain ⟨rest, rfl⟩ := exists_of_dropsNewline dropped
    exact ⟨by rw [dropNewline, dropped]; rfl, by rw [dropped]; rfl, by rw [dropped]; rfl, rfl⟩
  · rename_i kept
    exact .of_not_drops (Bool.eq_false_iff.2 kept) rfl (by simp)

/-- The closing delimiter at the cursor is read as its lexeme is laid out, and the cursor
stands behind it. -/
theorem closing_eq {tag : TagKind} {dash : Bool} {after : List Char}
    (parts : scanner.rest = dashText dash ++ tag.closer ++ after) (previous next : Option Lexeme) :
    let lexeme := Lexeme.closing tag dash scanner.position
    ∃ read, scanner.closing config tag dash =
        (layoutLexeme config previous next lexeme, read) ∧
      Stands config (some lexeme) (scanner.position.advance lexeme.spelling) after read := by
  have length : (if dash then 3 else 2) = (dashText dash ++ tag.closer).length := by
    cases tag <;> cases dash <;> rfl
  have last : (dashText dash ++ tag.closer).getLast?.or scanner.behind = some '}' := by
    cases tag <;> cases dash <;> rfl
  rw [closing, length, advance_of_append parts, last, parts, List.take_left]
  exact ⟨_, rfl, stands_leave tag dash scanner.position after⟩

/-- The token of a lexeme stands in front of those of the lexemes after it. -/
theorem map_layout {previous : Option Lexeme} {lexeme : Lexeme} {token : Token}
    (laid : ∀ previous next, layoutLexeme config previous next lexeme = [token])
    (read : Except SyntaxError (List Lexeme)) :
    (read.map (layout config (some lexeme))).map (fun more => [token] ++ more) =
      (read.map fun more => lexeme :: more).map (layout config previous) := by
  cases read with
  | error error => rfl
  | ok more => simp [Except.map, layout, laid]

/-- So does what is laid out of the text between it and the lexeme before. -/
theorem map_layout_text {previous : Option Lexeme} {lexeme : Lexeme} {token : Token}
    (laid : ∀ previous next, layoutLexeme config previous next lexeme = [token])
    (content : List Char) (position : Position) (read : Except SyntaxError (List Lexeme)) :
    ((read.map (layout config (some lexeme))).map (fun more => [token] ++ more)).map
        (fun more => textTokens previous (some lexeme)
          (layoutText config previous (some lexeme) content position) ++ more) =
      (read.map fun more => textLexemes content position ++ lexeme :: more).map
        (layout config previous) := by
  cases read with
  | error error => rfl
  | ok more => simp [Except.map, layout_text config previous content position laid]

/-- Behind the blanks the cursor stands in front of what follows them. -/
theorem skipBlanks_eq (scanner : Scanner) :
    scanner.skipBlanks.rest = scanner.rest.dropWhile isBlank ∧
      scanner.skipBlanks.position =
        scanner.position.advance (scanner.rest.takeWhile isBlank) := by
  rw [skipBlanks, advance_of_append List.takeWhile_append_dropWhile.symm]
  exact ⟨rfl, rfl⟩

theorem words_of_nothing {tag : TagKind} {opened : Position}
    (remaining : scanner.rest.dropWhile isBlank = []) :
    scanner.words config tag opened =
      .error ⟨.unclosedTag (String.ofList tag.closer), opened⟩ := by
  rw [← (skipBlanks_eq scanner).1] at remaining
  rw [words]
  split
  · rfl
  · rename_i more
    cases remaining.symm.trans more

theorem words_of_something {tag : TagKind} {opened : Position} {first : Char}
    (remaining : scanner.rest.dropWhile isBlank = first :: rest) :
    scanner.words config tag opened =
      match splitCloser? tag (first :: rest) with
      | some (dash, _) => .ok (scanner.skipBlanks.closing config tag dash)
      | none =>
          match readWord first rest with
          | .error fault => .error ⟨fault, scanner.skipBlanks.position⟩
          | .ok word =>
              (words config tag opened (scanner.skipBlanks.advance (word.length + 1))).map
                fun (tokens, after) =>
                  (plain word.kind word.text scanner.skipBlanks.position :: tokens, after) := by
  rw [← (skipBlanks_eq scanner).1] at remaining
  rw [words]
  split
  · rename_i nothing
    cases nothing.symm.trans remaining
  · rename_i more
    cases more.symm.trans remaining
    rfl

/-- The tokens from a point of the pass on, in literal text or inside a tag. -/
def resume (config : Config) (scanner : Scanner) : Mode → Except SyntaxError (List Token)
  | .text => scanner.run config
  | .tag tag opened =>
      (scanner.words config tag opened).bind fun read =>
        (read.2.run config).map fun more => read.1 ++ more

/-- Where the cursor stands in each mode: only in literal text does it matter what has been
read. -/
def At (config : Config) (previous : Option Lexeme) (position : Position)
    (characters : List Char) (scanner : Scanner) : Mode → Prop
  | .text => Stands config previous position characters scanner
  | .tag _ _ => scanner.rest = characters ∧ scanner.position = position

/-- The tag at the cursor begins with its delimiter, and the rest of it is read from inside. -/
theorem resume_tag {tag : TagKind} (opens : scanner.rest = '{' :: tag.mark :: rest)
    (previous next : Option Lexeme) :
    let lexeme := Lexeme.opening tag (splitDash rest).1 scanner.position
    ∃ read, At config (some lexeme) (scanner.position.advance lexeme.spelling)
        (splitDash rest).2 read (.tag tag scanner.position) ∧
      (scanner.construct config (.tag tag)).bind
          (fun read => (read.2.run config).map fun more => read.1 ++ more) =
        (read.resume config (.tag tag scanner.position)).map fun more =>
          layoutLexeme config previous next lexeme ++ more := by
  obtain ⟨parts, length⟩ := opening_parts opens
  refine ⟨scanner.advance scanner.openingLength, ?_, ?_⟩
  · rw [length, advance_of_append parts]
    exact ⟨rfl, rfl⟩
  · have token : scanner.rest.take scanner.openingLength =
        tag.opener ++ dashText (splitDash rest).1 := by
      rw [length, parts, List.take_left]
      rfl
    simp only [construct, Scanner.tag, resume, token]
    cases words config tag scanner.position (scanner.advance scanner.openingLength) with
    | error error => rfl
    | ok read =>
        simp only [Except.map, Except.bind]
        cases read.2.run config <;> rfl

/-- The pass gives the layout of the lexemes that are left, from every point and in either
mode. -/
theorem resume_eq {mode : Mode} {position : Position} {characters : List Char}
    {previous : Option Lexeme} (stands : At config previous position characters scanner mode) :
    scanner.resume config mode =
      (lexemes mode position characters).map (layout config previous) := by
  fun_induction lexemes mode position characters generalizing previous scanner with
  | case1 =>
      rename_i last
      exact Stands.run_of_none stands last
  | case2 =>
      rename_i position characters content here rest next unclosed
      obtain ⟨cursor, remains, place, read⟩ :=
        Stands.run_of_some stands next (.comment _ [] false here)
      obtain ⟨parts, length⟩ := opening_parts remains
      rw [resume, read, construct, comment, length, advance_of_append parts, place]
      dsimp only
      rw [unclosed]
      rfl
  | case3 =>
      rename_i position characters content here rest next body after found parts lexeme
        inductionHypothesis
      obtain ⟨cursor, remains, place, read⟩ :=
        Stands.run_of_some stands next (.comment _ parts.1 parts.2 here)
      obtain ⟨behind, readComment, stood⟩ := comment_eq remains found previous none
      rw [place] at readComment stood
      rw [resume, read, construct, readComment, ← map_layout_text (fun _ _ => rfl) content,
        ← inductionHypothesis stood]
      rfl
  | case4 =>
      rename_i position characters content here tag rest next lexeme inductionHypothesis
      obtain ⟨cursor, remains, place, read⟩ :=
        Stands.run_of_some stands next (.opening tag _ here)
      obtain ⟨inside, stood, readTag⟩ := resume_tag remains previous none
      rw [place] at readTag stood
      rw [resume, read, readTag, ← map_layout_text (fun _ _ => rfl) content,
        ← inductionHypothesis stood]
      rfl
  | case5 =>
      rename_i remaining
      obtain ⟨rfl, rfl⟩ := stands
      rw [resume, words_of_nothing remaining]
      rfl
  | case6 =>
      rename_i position characters tag opened here first rest remaining dash after closed lexeme
        inductionHypothesis
      obtain ⟨rfl, rfl⟩ := stands
      obtain ⟨rests, place⟩ := skipBlanks_eq scanner
      have parts : scanner.skipBlanks.rest = dashText dash ++ tag.closer ++ after := by
        rw [rests, remaining, splitCloser_append closed]
      obtain ⟨read, readClosing, stood⟩ := closing_eq parts previous none
      rw [place] at readClosing stood
      rw [resume, words_of_something remaining, closed]
      dsimp only
      rw [readClosing, ← map_layout fun _ _ => rfl, ← inductionHypothesis stood]
      rfl
  | case7 =>
      rename_i position characters tag opened here first rest remaining notClosed fault failed
      obtain ⟨rfl, rfl⟩ := stands
      rw [resume, words_of_something remaining, notClosed]
      dsimp only
      rw [failed, (skipBlanks_eq scanner).2]
      rfl
  | case8 =>
      rename_i position characters tag opened here first rest remaining notClosed word readFirst
        lexeme inductionHypothesis
      obtain ⟨rfl, rfl⟩ := stands
      obtain ⟨rests, place⟩ := skipBlanks_eq scanner
      have stood : At config (some lexeme) (here.advance lexeme.spelling)
          (rest.drop word.length) (scanner.skipBlanks.advance (word.length + 1))
          (.tag tag opened) := by
        constructor
        · rw [advance, rests, remaining, List.drop_succ_cons]
        · rw [advance, rests, remaining, List.take_succ_cons, place]
          rfl
      rw [resume, words_of_something remaining, notClosed]
      dsimp only
      rw [readFirst, place, ← map_layout fun _ _ => rfl, ← inductionHypothesis stood, resume]
      dsimp only
      cases words config tag opened (scanner.skipBlanks.advance (word.length + 1)) with
      | error error => rfl
      | ok read =>
          simp only [Except.map, Except.bind]
          cases run config read.2 <;> rfl

end

end Scanner

/-- The tokens of a source are its lexemes as the configuration lays them out. -/
theorem tokenize_eq (config : Config) (source : String) :
    tokenize config source =
      (lexemes .text .start (sourceCharacters config source)).map (layout config none) := by
  have stands : Scanner.At config none .start (sourceCharacters config source)
      (.start (sourceCharacters config source)) .text := Scanner.Stands.start config _
  exact Scanner.resume_eq stands

end TemplateEngine.Token

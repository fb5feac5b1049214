import TemplateEngine.Config
import TemplateEngine.Token.Delimiter

/-!
# The scanner

A source is taken apart in one pass of a cursor.  The configuration takes part in the
pass: behind a block tag the cursor may step over a newline, and a literal text may
lose the indentation at its end.  The whitespace that dashes ask to strip is left in
place and recorded as the trim of the text.
-/

namespace TemplateEngine.Token

/-- Whether a character is indentation. -/
def isIndentation (character : Char) : Bool :=
  character == ' ' || character == '\t'

/-- A text without the indentation at its end, if that begins a line: after a newline
of the text, or with the text when the text begins a line itself. -/
def dropIndentation (beginsLine : Bool) (content : List Char) : List Char :=
  let kept := Text.dropWhileEnd isIndentation content
  match kept.getLast? with
  | some character => if character = '\n' then kept else content
  | none => if beginsLine then [] else content

/-- A cursor in a source. -/
structure Scanner where
  /-- The character before the cursor, if there is one. -/
  behind : Option Char
  /-- The characters from the cursor on. -/
  rest : List Char
  position : Position
  /-- The tag or comment that was read last closed with a dash. -/
  trimNext : Bool

namespace Scanner

/-- The cursor before the first of some characters. -/
def start (characters : List Char) : Scanner :=
  ⟨none, characters, Position.start, false⟩

/-- The cursor after some more characters. -/
def advance (scanner : Scanner) (count : Nat) : Scanner :=
  let passed := scanner.rest.take count
  { scanner with
    behind := passed.getLast?.or scanner.behind
    rest := scanner.rest.drop count
    position := scanner.position.advance passed }

/-- The cursor after a tag or comment that closed with a dash or without one. -/
def trimming (scanner : Scanner) (dash : Bool) : Scanner :=
  { scanner with trimNext := dash }

@[simp]
theorem length_rest_advance (scanner : Scanner) (count : Nat) :
    (scanner.advance count).rest.length = scanner.rest.length - count :=
  List.length_drop

@[simp]
theorem rest_trimming (scanner : Scanner) (dash : Bool) :
    (scanner.trimming dash).rest = scanner.rest :=
  rfl

/-- Whether the cursor stands at the beginning of a line. -/
def beginsLine (scanner : Scanner) : Bool :=
  scanner.behind.all (· == '\n')

/-- Whether a character stands a distance after the cursor. -/
def sees (scanner : Scanner) (character : Char) (distance : Nat) : Bool :=
  (scanner.rest.drop distance).head? == some character

/-- Read a literal text, given its length and the construct that begins after it. -/
def literal (config : Config) (scanner : Scanner) (length : Nat)
    (next : Option Construct) : List Token × Scanner :=
  let trims := next.isSome && scanner.sees '-' (length + 2)
  let content := scanner.rest.take length
  let text :=
    if next == some (.tag .block) && config.lstripBlocks && !trims then
      dropIndentation scanner.beginsLine content
    else content
  let tokens :=
    if text.isEmpty then []
    else [⟨.data, String.ofList text, scanner.position, ⟨scanner.trimNext, trims⟩⟩]
  (tokens, (scanner.advance length).trimming false)

theorem length_rest_literal (config : Config) (scanner : Scanner) (length : Nat)
    (next : Option Construct) :
    (scanner.literal config length next).2.rest.length = scanner.rest.length - length :=
  length_rest_advance ..

/-- The length of the opening delimiter at the cursor. -/
def openingLength (scanner : Scanner) : Nat :=
  if scanner.sees '-' 2 then 3 else 2

/-- Read the comment at the cursor. -/
def comment (scanner : Scanner) : Except SyntaxError (List Token × Scanner) :=
  let opened := scanner.advance scanner.openingLength
  match splitComment opened.rest with
  | none => .error ⟨.unclosedComment, scanner.position⟩
  | some (body, _) =>
      let (inner, trims) := splitFinalDash body
      let text := String.ofList (Text.trimCharacters Unicode.isBlank inner)
      .ok ([plain .comment text scanner.position],
        (opened.advance (body.length + 2)).trimming trims)

/-- The cursor after the blanks at it. -/
def skipBlanks (scanner : Scanner) : Scanner :=
  scanner.advance (scanner.rest.takeWhile Unicode.isBlank).length

theorem length_rest_skipBlanks_le (scanner : Scanner) :
    scanner.skipBlanks.rest.length ≤ scanner.rest.length := by
  simp [skipBlanks]

/-- The cursor after the newline behind a tag, if the configuration drops it. -/
def leave (config : Config) (tag : TagKind) (dash : Bool) (scanner : Scanner) : Scanner :=
  if tag == .block && !dash && config.trimBlocks && scanner.sees '\n' 0 then scanner.advance 1
  else scanner

theorem length_rest_leave_le (config : Config) (tag : TagKind) (dash : Bool)
    (scanner : Scanner) : (scanner.leave config tag dash).rest.length ≤ scanner.rest.length := by
  rw [leave]
  split
  · simp
  · exact Nat.le_refl _

/-- Read the closing delimiter at the cursor. -/
def closing (config : Config) (tag : TagKind) (dash : Bool) (scanner : Scanner) :
    List Token × Scanner :=
  let length := if dash then 3 else 2
  ([plain tag.closes (String.ofList (scanner.rest.take length)) scanner.position],
    ((scanner.advance length).trimming dash).leave config tag dash)

/-- Read the words of a tag and the delimiter that closes it, from a point inside the
tag. -/
def words (config : Config) (tag : TagKind) (opened : Position) (scanner : Scanner) :
    Except SyntaxError (List Token × Scanner) :=
  match _remaining : scanner.skipBlanks.rest with
  | [] => .error ⟨.unclosedTag (String.ofList tag.closer), opened⟩
  | first :: rest =>
      match splitCloser? tag (first :: rest) with
      | some (dash, _) => .ok (scanner.skipBlanks.closing config tag dash)
      | none =>
          let here := scanner.skipBlanks.position
          match readWord first rest with
          | .error fault => .error ⟨fault, here⟩
          | .ok word =>
              (words config tag opened (scanner.skipBlanks.advance (word.length + 1))).map
                fun (tokens, after) => (plain word.kind word.text here :: tokens, after)
termination_by scanner.rest.length
decreasing_by
  have blanks := scanner.length_rest_skipBlanks_le
  have more := congrArg List.length _remaining
  rw [List.length_cons] at more
  rw [length_rest_advance]
  omega

/-- Read the tag at the cursor. -/
def tag (config : Config) (tag : TagKind) (scanner : Scanner) :
    Except SyntaxError (List Token × Scanner) :=
  let length := scanner.openingLength
  let token := plain tag.opens (String.ofList (scanner.rest.take length)) scanner.position
  (words config tag scanner.position (scanner.advance length)).map
    fun (tokens, after) => (token :: tokens, after)

/-- Read the construct at the cursor. -/
def construct (config : Config) (scanner : Scanner) :
    Construct → Except SyntaxError (List Token × Scanner)
  | .comment => scanner.comment
  | .tag kind => scanner.tag config kind

/-! ## What is left to read -/

theorem length_rest_closing_le (config : Config) (tag : TagKind) (dash : Bool)
    (scanner : Scanner) :
    (scanner.closing config tag dash).2.rest.length ≤ scanner.rest.length := by
  refine Nat.le_trans (length_rest_leave_le ..) ?_
  rw [rest_trimming, length_rest_advance]
  exact Nat.sub_le ..

theorem length_rest_words_le {config : Config} {tag : TagKind} {opened : Position}
    {scanner after : Scanner} {tokens : List Token}
    (read : scanner.words config tag opened = .ok (tokens, after)) :
    after.rest.length ≤ scanner.rest.length := by
  have blanks (scanner : Scanner) := scanner.length_rest_skipBlanks_le
  fun_induction words config tag opened scanner generalizing tokens after with
  | case1 => cases read
  | case2 scanner first rest remaining dash closed found =>
      have closing := length_rest_closing_le config tag dash scanner.skipBlanks
      simp only [Except.ok.injEq] at read
      rw [read] at closing
      exact Nat.le_trans closing (blanks scanner)
  | case3 => cases read
  | case4 scanner first rest remaining closed here word readFirst =>
      rename_i inductionHypothesis
      cases more : words config tag opened (scanner.skipBlanks.advance (word.length + 1)) with
      | error error =>
          rw [more] at read
          cases read
      | ok result =>
          rw [more] at read
          cases read
          have shorter := inductionHypothesis more
          rw [length_rest_advance] at shorter
          exact Nat.le_trans shorter (Nat.le_trans (Nat.sub_le ..) (blanks scanner))

/-- A construct takes the two characters it begins with. -/
theorem length_rest_construct_le {config : Config} {scanner after : Scanner}
    {kind : Construct} {tokens : List Token}
    (read : scanner.construct config kind = .ok (tokens, after)) :
    after.rest.length ≤ scanner.rest.length - 2 := by
  have opened : (scanner.advance scanner.openingLength).rest.length ≤
      scanner.rest.length - 2 := by
    rw [length_rest_advance, openingLength]
    split <;> omega
  cases kind with
  | comment =>
      simp only [construct, comment] at read
      split at read
      · cases read
      · cases read
        rw [rest_trimming, length_rest_advance]
        exact Nat.le_trans (Nat.sub_le ..) opened
  | tag kind =>
      simp only [construct, tag] at read
      cases inside : words config kind scanner.position
          (scanner.advance scanner.openingLength) with
      | error error =>
          rw [inside] at read
          cases read
      | ok result =>
          rw [inside] at read
          cases read
          exact Nat.le_trans (length_rest_words_le inside) opened

/-! ## The pass -/

/-- Read the tokens from the cursor on. -/
def run (config : Config) (scanner : Scanner) : Except SyntaxError (List Token) :=
  if _finished : scanner.rest = [] then .ok [plain .eof "" scanner.position]
  else
    match splitText scanner.rest with
    | (_, none) =>
        let text := scanner.literal config scanner.rest.length none
        (run config text.2).map fun more => text.1 ++ more
    | (content, some (next, _)) =>
        let text := scanner.literal config content.length (some next)
        match _read : text.2.construct config next with
        | .error error => .error error
        | .ok (tokens, after) => (run config after).map fun more => text.1 ++ tokens ++ more
termination_by scanner.rest.length
decreasing_by
  · have remaining := List.length_pos_iff.2 _finished
    rw [length_rest_literal]
    omega
  · have remaining := List.length_pos_iff.2 _finished
    have shorter := length_rest_construct_le _read
    rw [length_rest_literal] at shorter
    omega

end Scanner

/-- The characters of a source that are read: without one final newline, unless the
configuration keeps it. -/
def sourceCharacters (config : Config) (source : String) : List Char :=
  let characters := source.toList
  if !config.keepTrailingNewline && characters.getLast? == some '\n' then
    characters.dropLast
  else characters

/-- The tokens of a source. -/
def tokenize (config : Config) (source : String) : Except SyntaxError (List Token) :=
  (Scanner.start (sourceCharacters config source)).run config

end TemplateEngine.Token

import TemplateEngine.Token.Scanner

/-!
# Lexemes and their layout

The lexemes of a source are its literal texts, comments, tag delimiters and words, as
they stand there: no configuration takes part in finding them.  What lies between them is
only the blanks inside tags.  A configuration lays the lexemes out as tokens: of a literal
text, it may drop a newline at the beginning and the indentation at the end, and a text
that becomes empty is no token.
-/

namespace TemplateEngine.Token

open TemplateEngine.Unicode

/-- A piece of a source at its position. -/
inductive Lexeme where
  | text (content : List Char) (position : Position)
  | comment (opensWithDash : Bool) (body : List Char) (closesWithDash : Bool)
      (position : Position)
  | opening (tag : TagKind) (dash : Bool) (position : Position)
  | word (kind : TokenKind) (text : String) (spelling : List Char) (position : Position)
  | closing (tag : TagKind) (dash : Bool) (position : Position)
  | finish (position : Position)

namespace Lexeme

/-- The characters of the source that a lexeme stands for. -/
def spelling : Lexeme → List Char
  | .text content _ => content
  | .comment opensWithDash body closesWithDash _ =>
      ['{', '#'] ++ dashText opensWithDash ++ body ++ dashText closesWithDash ++ ['#', '}']
  | .opening tag dash _ => tag.opener ++ dashText dash
  | .word _ _ spelling _ => spelling
  | .closing tag dash _ => dashText dash ++ tag.closer
  | .finish _ => []

/-- Whether a lexeme ends a tag or comment with a dash. -/
def closesWithDash : Lexeme → Bool
  | .comment _ _ dash _ => dash
  | .closing _ dash _ => dash
  | _ => false

/-- Whether a lexeme begins a tag or comment with a dash. -/
def opensWithDash : Lexeme → Bool
  | .comment dash _ _ _ => dash
  | .opening _ dash _ => dash
  | _ => false

/-- Whether a lexeme closes a block tag without a dash. -/
def closesBlockPlainly : Lexeme → Bool
  | .closing .block false _ => true
  | _ => false

/-- Whether a lexeme opens a block tag without a dash. -/
def opensBlockPlainly : Lexeme → Bool
  | .opening .block false _ => true
  | _ => false

end Lexeme

/-- Where reading stands: in literal text, or inside a tag that opened at a
position. -/
inductive Mode where
  | text
  | tag (kind : TagKind) (opened : Position)

/-- The lexeme of a literal text, unless the text is empty. -/
def textLexemes (content : List Char) (position : Position) : List Lexeme :=
  if content.isEmpty then [] else [.text content position]

/-- The lexemes of the characters from a position on. -/
def lexemes (mode : Mode) (position : Position) (characters : List Char) :
    Except SyntaxError (List Lexeme) :=
  match mode with
  | .text =>
      let content := (splitText characters).1
      let here := position.advance content
      match next : (splitText characters).2 with
      | none => .ok (textLexemes content position ++ [.finish here])
      | some (.comment, rest) =>
          match found : splitComment (splitDash rest).2 with
          | none => .error ⟨.unclosedComment, here⟩
          | some (body, after) =>
              let parts := splitFinalDash body
              let lexeme := .comment (splitDash rest).1 parts.1 parts.2 here
              (lexemes .text (here.advance lexeme.spelling) after).map fun more =>
                textLexemes content position ++ lexeme :: more
      | some (.tag tag, rest) =>
          let lexeme := .opening tag (splitDash rest).1 here
          (lexemes (.tag tag here) (here.advance lexeme.spelling) (splitDash rest).2).map
            fun more => textLexemes content position ++ lexeme :: more
  | .tag tag opened =>
      let here := position.advance (characters.takeWhile isBlank)
      match _remaining : characters.dropWhile isBlank with
      | [] => .error ⟨.unclosedTag (String.ofList tag.closer), opened⟩
      | first :: rest =>
          match _closed : splitCloser? tag (first :: rest) with
          | some (dash, after) =>
              let lexeme := .closing tag dash here
              (lexemes .text (here.advance lexeme.spelling) after).map fun more =>
                lexeme :: more
          | none =>
              match readWord first rest with
              | .error fault => .error ⟨fault, here⟩
              | .ok word =>
                  let lexeme :=
                    .word word.kind word.text (first :: rest.take word.length) here
                  (lexemes (.tag tag opened) (here.advance lexeme.spelling)
                    (rest.drop word.length)).map fun more => lexeme :: more
termination_by characters.length
decreasing_by
  · have whole := congrArg List.length (splitText_append next)
    have dash := congrArg List.length (splitDash_append rest)
    have comment := congrArg List.length (splitComment_append found)
    simp only [List.length_append, List.length_cons] at whole dash comment
    omega
  · have whole := congrArg List.length (splitText_append next)
    have dash := congrArg List.length (splitDash_append rest)
    simp only [List.length_append, List.length_cons] at whole dash
    omega
  · have blanks := (List.dropWhile_sublist isBlank (l := characters)).length_le
    have delimiter := congrArg List.length (splitCloser_append _closed)
    have closerLength : tag.closer.length = 2 := by cases tag <;> rfl
    simp only [_remaining, List.length_append, List.length_cons] at blanks delimiter
    omega
  · have blanks := (List.dropWhile_sublist isBlank (l := characters)).length_le
    simp only [_remaining, List.length_cons] at blanks
    simp only [List.length_drop]
    omega

/-! ## Layout -/

/-- Whether the newline at the beginning of some characters is dropped after a lexeme. -/
def dropsNewline (config : Config) (previous : Option Lexeme) (characters : List Char) :
    Bool :=
  config.trimBlocks && previous.any Lexeme.closesBlockPlainly &&
    characters.head? == some '\n'

theorem exists_of_dropsNewline {config : Config} {previous : Option Lexeme}
    {characters : List Char} (drops : dropsNewline config previous characters = true) :
    ∃ rest, characters = '\n' :: rest :=
  List.head?_eq_some_iff.1 (eq_of_beq (Bool.and_eq_true_iff.1 drops).2)

/-- What is left of some characters after a lexeme when that newline is dropped. -/
def dropNewline (config : Config) (previous : Option Lexeme) (characters : List Char) :
    List Char :=
  if dropsNewline config previous characters then characters.drop 1 else characters

/-- The literal text that the configuration leaves between two lexemes, with its
position.  The text begins a line at the start of the source and after a dropped
newline. -/
def layoutText (config : Config) (previous next : Option Lexeme) (content : List Char)
    (position : Position) : List Char × Position :=
  let drops := dropsNewline config previous content
  let text := dropNewline config previous content
  let start := if drops then position.next '\n' else position
  if config.lstripBlocks && next.any Lexeme.opensBlockPlainly then
    (dropIndentation (previous.isNone || drops) text, start)
  else (text, start)

/-- The token of a literal text, unless nothing of the text is left. -/
def textTokens (previous next : Option Lexeme) (laid : List Char × Position) : List Token :=
  if laid.1.isEmpty then []
  else
    [⟨.data, String.ofList laid.1, laid.2,
      ⟨previous.any Lexeme.closesWithDash, next.any Lexeme.opensWithDash⟩⟩]

/-- The tokens of one lexeme between its neighbours. -/
def layoutLexeme (config : Config) (previous next : Option Lexeme) : Lexeme → List Token
  | .text content position =>
      textTokens previous next (layoutText config previous next content position)
  | .comment _ body _ position =>
      [plain .comment (String.ofList (Text.trimCharacters Unicode.isBlank body)) position]
  | .opening tag dash position =>
      [plain tag.opens (String.ofList (tag.opener ++ dashText dash)) position]
  | .word kind text _ position => [plain kind text position]
  | .closing tag dash position =>
      [plain tag.closes (String.ofList (dashText dash ++ tag.closer)) position]
  | .finish position => [plain .eof "" position]

/-- The tokens of lexemes, given the lexeme before them. -/
def layout (config : Config) (previous : Option Lexeme) : List Lexeme → List Token
  | [] => []
  | lexeme :: rest =>
      layoutLexeme config previous rest.head? lexeme ++ layout config (some lexeme) rest

/-- Nothing is laid out of a text without characters. -/
theorem layoutText_nil (config : Config) (previous next : Option Lexeme) (position : Position) :
    (layoutText config previous next [] position).1 = [] := by
  simp only [layoutText, dropNewline, List.drop_nil, ite_self]
  split
  · simp [dropIndentation, Text.dropWhileEnd]
  · rfl

/-- A text is laid out between the lexemes around it, in front of the token of the next one. -/
theorem layout_text (config : Config) (previous : Option Lexeme) (content : List Char)
    (position : Position) {lexeme : Lexeme} {token : Token}
    (laid : ∀ previous next, layoutLexeme config previous next lexeme = [token])
    (more : List Lexeme) :
    layout config previous (textLexemes content position ++ lexeme :: more) =
      textTokens previous (some lexeme)
          (layoutText config previous (some lexeme) content position) ++
        token :: layout config (some lexeme) more := by
  have next (previous : Option Lexeme) :
      layout config previous (lexeme :: more) = token :: layout config (some lexeme) more := by
    simp only [layout, laid, List.singleton_append]
  rw [textLexemes]
  split
  · rename_i nothing
    have empty := layoutText_nil config previous (some lexeme) position
    rw [List.isEmpty_iff.1 nothing, List.nil_append, next, textTokens, empty]
    rfl
  · rw [List.singleton_append, layout, next]
    rfl

end TemplateEngine.Token

import TemplateEngine.Text.Search
import TemplateEngine.Token.Word

/-!
# Delimiters

An opening brace and the character after it begin a tag or a comment.  A dash right
after an opening delimiter belongs to it, and a dash right before a closing
delimiter belongs to that one.

Each function that takes the beginning of some characters comes with the equation
that puts the parts together again: nothing is lost on the way.
-/

namespace TemplateEngine.Token

open TemplateEngine.Unicode

/-- The two kinds of tags. -/
inductive TagKind where
  | variable
  | block
deriving DecidableEq

namespace TagKind

/-- The character after the brace that opens a tag. -/
def mark : TagKind → Char
  | .variable => '{'
  | .block => '%'

/-- The characters that open a tag. -/
def opener (tag : TagKind) : List Char :=
  ['{', tag.mark]

/-- The characters that close a tag. -/
def closer : TagKind → List Char
  | .variable => ['}', '}']
  | .block => ['%', '}']

/-- The kind of the token that opens a tag. -/
def opens : TagKind → TokenKind
  | .variable => .variableBegin
  | .block => .blockBegin

/-- The kind of the token that closes a tag. -/
def closes : TagKind → TokenKind
  | .variable => .variableEnd
  | .block => .blockEnd

end TagKind

/-- A construct that an opening brace can begin. -/
inductive Construct where
  | tag (kind : TagKind)
  | comment
deriving DecidableEq

namespace Construct

/-- The character after the opening brace of a construct. -/
def mark : Construct → Char
  | .tag kind => kind.mark
  | .comment => '#'

/-- The construct that an opening brace and the next character begin. -/
def ofMark? : Char → Option Construct
  | '{' => some (.tag .variable)
  | '%' => some (.tag .block)
  | '#' => some .comment
  | _ => none

theorem mark_of_ofMark? {character : Char} {construct : Construct}
    (found : ofMark? character = some construct) : construct.mark = character := by
  unfold ofMark? at found
  split at found <;> cases found <;> rfl

end Construct

/-- The characters of an optional dash. -/
def dashText (dash : Bool) : List Char :=
  if dash then ['-'] else []

/-- The literal text at the beginning of some characters, with what follows it:
nothing, or the construct that begins there and the characters after its opening
ones. -/
def splitText : List Char → List Char × Option (Construct × List Char)
  | [] => ([], none)
  | '{' :: [] => (['{'], none)
  | '{' :: second :: rest =>
      match Construct.ofMark? second with
      | some construct => ([], some (construct, rest))
      | none =>
          let parts := splitText (second :: rest)
          ('{' :: parts.1, parts.2)
  | character :: rest =>
      let parts := splitText rest
      (character :: parts.1, parts.2)

/-- The body of a comment and the characters after its closing delimiter. -/
def splitComment : List Char → Option (List Char × List Char)
  | [] => none
  | '#' :: '}' :: rest => some ([], rest)
  | character :: rest =>
      (splitComment rest).map fun parts => (character :: parts.1, parts.2)

/-- Whether some characters begin with a dash, and what follows it. -/
def splitDash : List Char → Bool × List Char
  | '-' :: rest => (true, rest)
  | rest => (false, rest)

/-- Whether some characters end with a dash, and what comes before it. -/
def splitFinalDash (characters : List Char) : List Char × Bool :=
  if characters.getLast? = some '-' then (characters.dropLast, true)
  else (characters, false)

/-- The closing delimiter of a tag at the beginning of some characters: whether it
has a dash, and what follows it. -/
def splitCloser? (tag : TagKind) (characters : List Char) : Option (Bool × List Char) :=
  match Text.dropBeginning? ('-' :: tag.closer) characters with
  | some rest => some (true, rest)
  | none => (Text.dropBeginning? tag.closer characters).map fun rest => (false, rest)

theorem splitText_append {characters rest : List Char} {construct : Construct}
    (next : (splitText characters).2 = some (construct, rest)) :
    (splitText characters).1 ++ '{' :: construct.mark :: rest = characters := by
  fun_induction splitText characters with
  | case1 => simp at next
  | case2 => simp at next
  | case3 second tail found opened =>
      simp only [Option.some.injEq, Prod.mk.injEq] at next
      obtain ⟨rfl, rfl⟩ := next
      simp [Construct.mark_of_ofMark? opened]
  | case4 second tail opened parts inductionHypothesis =>
      simpa using inductionHypothesis next
  | case5 character tail _ _ parts inductionHypothesis =>
      simpa using inductionHypothesis next

theorem splitText_fst_eq {characters : List Char}
    (last : (splitText characters).2 = none) : (splitText characters).1 = characters := by
  fun_induction splitText characters with
  | case1 => rfl
  | case2 => rfl
  | case3 => simp at last
  | case4 second tail opened parts inductionHypothesis =>
      simpa using inductionHypothesis last
  | case5 character tail _ _ parts inductionHypothesis =>
      simpa using inductionHypothesis last

theorem splitComment_append {characters body rest : List Char}
    (found : splitComment characters = some (body, rest)) :
    body ++ '#' :: '}' :: rest = characters := by
  fun_induction splitComment characters generalizing body rest with
  | case1 => simp at found
  | case2 after =>
      simp only [Option.some.injEq, Prod.mk.injEq] at found
      obtain ⟨rfl, rfl⟩ := found
      rfl
  | case3 character tail _ inductionHypothesis =>
      obtain ⟨⟨inner, after⟩, split, same⟩ := Option.map_eq_some_iff.1 found
      simp only [Prod.mk.injEq] at same
      obtain ⟨rfl, rfl⟩ := same
      simpa using inductionHypothesis split

theorem splitDash_append (characters : List Char) :
    dashText (splitDash characters).1 ++ (splitDash characters).2 = characters := by
  fun_cases splitDash characters <;> simp [dashText]

theorem splitFinalDash_append (characters : List Char) :
    (splitFinalDash characters).1 ++ dashText (splitFinalDash characters).2 =
      characters := by
  unfold splitFinalDash
  split
  · rename_i last
    obtain ⟨before, rfl⟩ := List.getLast?_eq_some_iff.1 last
    simp [dashText]
  · simp [dashText]

theorem dropBeginning_append {beginning characters rest : List Char}
    (found : Text.dropBeginning? beginning characters = some rest) :
    beginning ++ rest = characters := by
  fun_induction Text.dropBeginning? beginning characters with
  | case1 characters => simpa using found.symm
  | case2 => simp at found
  | case3 beginning character tail inductionHypothesis =>
      simpa using inductionHypothesis found
  | case4 => simp at found

theorem splitCloser_append {tag : TagKind} {characters rest : List Char} {dash : Bool}
    (found : splitCloser? tag characters = some (dash, rest)) :
    dashText dash ++ tag.closer ++ rest = characters := by
  unfold splitCloser? at found
  split at found
  · rename_i after dropped
    simp only [Option.some.injEq, Prod.mk.injEq] at found
    obtain ⟨rfl, rfl⟩ := found
    simpa [dashText] using dropBeginning_append dropped
  · obtain ⟨after, dropped, same⟩ := Option.map_eq_some_iff.1 found
    simp only [Prod.mk.injEq] at same
    obtain ⟨rfl, rfl⟩ := same
    simpa [dashText] using dropBeginning_append dropped

end TemplateEngine.Token

import Mathlib.Data.List.DropRight
import TemplateEngine.Proofs.Covering

/-!
# Segments of literal text

The tags and comments of a source divide it into segments of literal text.  Four rules say
what is written for a segment: two switches of the configuration drop the newline after a
block tag and the indentation before one, and a dash in a delimiter drops the whitespace
between it and the text.  Division and rules are stated on the characters of the source alone.
-/

namespace TemplateEngine

namespace Token

/-- The characters that close a construct. -/
def Construct.closer : Construct → List Char
  | .tag kind => kind.closer
  | .comment => ['#', '}']

/-- One end of a tag or comment: which of them it is, and whether the delimiter there has a
dash. -/
structure Edge where
  construct : Construct
  dash : Bool
deriving DecidableEq

namespace Edge

/-- The delimiter at the beginning of a tag or comment. -/
def opener (edge : Edge) : List Char :=
  '{' :: edge.construct.mark :: dashText edge.dash

/-- The delimiter at the end of a tag or comment. -/
def closer (edge : Edge) : List Char :=
  dashText edge.dash ++ edge.construct.closer

end Edge

/-- A segment of literal text: the source before it, the end of the tag or comment there, the
text, and the beginning of the tag or comment after it. -/
structure Segment where
  before : List Char
  left : Option Edge
  text : List Char
  right : Option Edge

/-! ## What is written -/

/-- Whether a line begins after some characters of a source. -/
def BeginsLine (before : List Char) : Prop :=
  before = [] ∨ before.getLast? = some '\n'

instance (before : List Char) : Decidable (BeginsLine before) :=
  inferInstanceAs (Decidable (_ ∨ _))

namespace Segment

variable (config : Config) (segment : Segment)

/-- The newline that is dropped after a block tag that closes without a dash. -/
def newline : List Char :=
  if config.trimBlocks = true ∧ segment.left = some ⟨.tag .block, false⟩ ∧
      segment.text.head? = some '\n' then ['\n']
  else []

/-- The text after the newline that is dropped. -/
def afterNewline : List Char :=
  segment.text.drop (segment.newline config).length

/-- That text up to its final run of spaces and tabs. -/
def beforeIndentation : List Char :=
  (segment.afterNewline config).rdropWhile fun character => character = ' ' ∨ character = '\t'

/-- The text without the final run of spaces and tabs, where that is the indentation of a
block tag that opens without a dash. -/
def kept : List Char :=
  if config.lstripBlocks = true ∧ segment.right = some ⟨.tag .block, false⟩ ∧
      BeginsLine (segment.before ++ segment.newline config ++ segment.beforeIndentation config)
  then segment.beforeIndentation config
  else segment.afterNewline config

/-- Whether a dash strips a character. -/
def isStripped (character : Char) : Bool :=
  character = ' ' ∨ character = '\t' ∨ character = '\n'

/-- What is written for a segment: what is kept of it, stripped on the sides where the
delimiter has a dash. -/
def written : List Char :=
  let text :=
    if segment.left.any Edge.dash then (segment.kept config).dropWhile isStripped
    else segment.kept config
  if segment.right.any Edge.dash then text.rdropWhile isStripped else text

end Segment

/-! ## How a source is divided -/

/-- Whether no tag or comment begins in a text. -/
def Literal (text : List Char) : Prop :=
  ∀ construct : Construct, ¬ ['{', construct.mark] <:+: text

/-- The rest of a source, given the source and the end of the tag or comment before it, is
divided by marks into segments.  A dash that may belong to either delimiter of a tag or comment
belongs to the opening one. -/
inductive Divides : List Char → Option Edge → List Char → List Token → List Segment → Prop
  | finish {before text : List Char} {left : Option Edge} (literal : Literal text) :
      Divides before left text [plain .eof "" (Position.after (before ++ text))]
        [⟨before, left, text, none⟩]
  | comment {before text body rest : List Char} {left : Option Edge} {opens closes : Bool}
      {token : Token} {tokens : List Token} {segments : List Segment}
      (literal : Literal (text ++ ['{'])) (kind : token.kind = .comment)
      (position : token.position = Position.after (before ++ text))
      (opening : opens = false → (body ++ Edge.closer ⟨.comment, closes⟩).head? ≠ some '-')
      (first : ¬ ['#', '}'] <:+: body ++ dashText closes)
      (closing : closes = false → body.getLast? ≠ some '-')
      (after : Divides (before ++ text ++ Edge.opener ⟨.comment, opens⟩ ++ body ++
        Edge.closer ⟨.comment, closes⟩) (some ⟨.comment, closes⟩) rest tokens segments) :
      Divides before left
        (text ++ Edge.opener ⟨.comment, opens⟩ ++ body ++ Edge.closer ⟨.comment, closes⟩ ++ rest)
        (token :: tokens) (⟨before, left, text, some ⟨.comment, opens⟩⟩ :: segments)
  | tag (tag : TagKind) {before text inside rest : List Char} {left : Option Edge}
      {opens closes : Bool} {words tokens : List Token} {segments : List Segment}
      (literal : Literal (text ++ ['{']))
      (opening : opens = false → (inside ++ Edge.closer ⟨.tag tag, closes⟩).head? ≠ some '-')
      (within : ∀ word ∈ words, word.kind.isWord = true)
      (closing : closes = false → inside.getLast? ≠ some '-')
      (after : Divides (before ++ text ++ Edge.opener ⟨.tag tag, opens⟩ ++ inside ++
        Edge.closer ⟨.tag tag, closes⟩) (some ⟨.tag tag, closes⟩) rest tokens segments) :
      Divides before left
        (text ++ Edge.opener ⟨.tag tag, opens⟩ ++ inside ++ Edge.closer ⟨.tag tag, closes⟩ ++
          rest)
        (plain tag.opens (String.ofList (Edge.opener ⟨.tag tag, opens⟩))
            (Position.after (before ++ text)) :: words ++
          plain tag.closes (String.ofList (Edge.closer ⟨.tag tag, closes⟩))
            (Position.after (before ++ text ++ Edge.opener ⟨.tag tag, opens⟩ ++ inside)) ::
              tokens)
        (⟨before, left, text, some ⟨.tag tag, opens⟩⟩ :: segments)

/-! ## Literal texts -/

/-- The literal text at the beginning of some characters, and the brace after it if there is
one. -/
def literalPart (characters : List Char) : List Char :=
  (splitText characters).1 ++ ((splitText characters).2.map fun _ => '{').toList

theorem literalPart_begins (characters : List Char) : literalPart characters <+: characters := by
  rw [literalPart]
  cases next : (splitText characters).2 with
  | none =>
      rw [splitText_fst_eq next]
      simp
  | some found =>
      obtain ⟨construct, rest⟩ := found
      have parts := splitText_append next
      exact ⟨construct.mark :: rest, by simpa using parts⟩

/-- A tag or comment that begins with a brace begins at its mark. -/
theorem literal_cons {character : Char} {text : List Char}
    (notOpening : character = '{' → ∀ construct : Construct, ¬ [construct.mark] <+: text)
    (literal : Literal text) : Literal (character :: text) := by
  intro construct opens
  rcases List.infix_cons_iff.1 opens with start | inside
  · rw [List.cons_prefix_cons] at start
    exact notOpening start.1.symm construct start.2
  · exact literal construct inside

theorem ofMark?_mark (construct : Construct) :
    Construct.ofMark? construct.mark = some construct := by
  rcases construct with (_ | _) | _ <;> rfl

/-- The text before the first tag or comment holds no beginning of one. -/
theorem literal_literalPart (characters : List Char) : Literal (literalPart characters) := by
  have single : Literal ['{'] := by
    intro construct opens
    have short := opens.length_le
    simp at short
  fun_induction splitText characters with
  | case1 =>
      intro construct opens
      simp [literalPart, splitText] at opens
  | case2 => exact single
  | case3 second tail construct opened =>
      simpa [literalPart, splitText, opened] using single
  | case4 second tail opened parts inductionHypothesis =>
      have whole : literalPart ('{' :: second :: tail) = '{' :: literalPart (second :: tail) := by
        simp [literalPart, splitText, opened]
      rw [whole]
      refine literal_cons (fun _ construct begins => ?_) inductionHypothesis
      have same : construct.mark = second := by
        simpa using begins.trans (literalPart_begins (second :: tail))
      rw [← same, ofMark?_mark] at opened
      cases opened
  | case5 character tail last more parts inductionHypothesis =>
      have whole : literalPart (character :: tail) = character :: literalPart tail := by
        rw [literalPart, splitText.eq_4 character tail last more, literalPart]
        rfl
      rw [whole]
      refine literal_cons (fun brace => ?_) inductionHypothesis
      cases tail with
      | nil => exact (last brace rfl).elim
      | cons second rest => exact (more second rest brace rfl).elim

/-! ## Dashes at the end of words -/

theorem forall_mem_readNumber {first : Char} (digit : first.isDigit = true) (rest : List Char) :
    ∀ character ∈ (readNumber first rest).text.toList,
      character.isDigit = true ∨ character = '.' := by
  have digits (characters : List Char) :
      ∀ character ∈ characters.takeWhile Char.isDigit, character.isDigit = true :=
    List.all_eq_true.1 List.all_takeWhile
  intro character member
  simp only [readNumber] at member
  repeat' split at member
  all_goals
    simp only [String.toList_ofList, List.cons_append, List.mem_cons, List.mem_append] at member
  all_goals grind

/-- A word that ends with a dash is nothing but the dash. -/
theorem eq_dash_of_readWord {first : Char} {rest : List Char} {word : Word}
    (read : readWord first rest = .ok word)
    (ends : (first :: rest.take word.length).getLast? = some '-') :
    first = '-' ∧ word.length = 0 := by
  have member := List.mem_of_getLast? ends
  rw [readWord] at read
  split at read
  · rename_i begins
    cases read
    rw [readName, take_takeWhile] at member
    rcases List.mem_cons.1 member with rfl | continues
    · cases begins
    · have continues := List.all_eq_true.1 List.all_takeWhile _ continues
      cases continues
  split at read
  · rename_i digit
    cases read
    rw [← text_readNumber] at member
    rcases forall_mem_readNumber digit rest '-' member with isDigit | point
    · cases isDigit
    · cases point
  split at read
  · rename_i quotes
    split at read
    · rename_i content length readContent
      cases read
      obtain ⟨spelled, taken, _⟩ := spells_of_readString readContent
      rw [taken, ← List.cons_append, List.getLast?_concat] at ends
      rw [Option.some.inj ends] at quotes
      rcases quotes with quote | quote
      · cases quote
      · cases quote
    · cases read
  · split at read
    · rename_i readSign
      cases read
      rw [readOperator.eq_def] at readSign
      repeat' split at readSign
      all_goals cases readSign
      · rename_i second tail long
        obtain rfl : second = '-' := Option.some.inj ends
        simp [longOperators] at long
      · exact ⟨(by simpa using member : '-' = first).symm, rfl⟩
      · exact ⟨(by simpa using member : '-' = first).symm, rfl⟩
    · cases read

end Token

end TemplateEngine

import Mathlib.Data.List.Forall2
import TemplateEngine.Proofs.Printing.Lexing

/-!
# Texts and their tokens

The text of an expression that reads back is taken apart into the tokens of the expression,
wherever something follows it that does not continue its last word.  The induction is on the
expression: each part of a text is followed by something that does not continue it.
-/

namespace TemplateEngine

open Token (Scans beginsName continuesName scans_name scans_integer scans_string scans_comma
  scans_space scans_spacedName scans_equals scans_openSymbol scans_lastingSymbol
  scans_binaryOperator)
open Sign (separated)

/-- The characters that follow parts of an expression. -/
def endMarks : List Char :=
  [' ', ',', ')', ']', ':', '.', '[', '(', '|', '\x7d']

/-- What follows a text does not continue its last word: it begins with a mark, the mark does
not make a float of an integer, and it does not close the tag together with the text. -/
structure Apart (text following : List Char) : Prop where
  mark : ∃ mark ∈ endMarks, following.head? = some mark
  whole : following.head? = some '.' → ∀ next ∈ (following.drop 1).head?, next.isDigit = false
  brace : following.head? = some '\x7d' → text.getLast? ≠ some '\x7d'

namespace Apart

variable {text front last following rest : List Char}

/-- Most marks follow every text. -/
theorem of_mark {mark : Char} (member : mark ∈ endMarks) (notPoint : mark ≠ '.')
    (notBrace : mark ≠ '\x7d') : Apart text (mark :: rest) where
  mark := ⟨mark, member, rfl⟩
  whole same := absurd (Option.some.inj same) notPoint
  brace same := absurd (Option.some.inj same) notBrace

/-- A point follows every text when a name follows it. -/
theorem of_point {initial : Char} (begins : beginsName initial = true) :
    Apart text ('.' :: initial :: rest) where
  mark := ⟨'.', by decide, rfl⟩
  whole _ next head := by
    cases head
    cases digit : initial.isDigit with
    | false => rfl
    | true => exact absurd begins (by simp [Token.not_beginsName_of_isDigit digit])
  brace same := absurd (Option.some.inj same) (by decide)

/-- What follows a text follows its last part. -/
theorem of_append (apart : Apart (front ++ last) following) : Apart last following where
  mark := apart.mark
  whole := apart.whole
  brace same ends := apart.brace same (by rw [List.getLast?_append, ends]; rfl)

theorem of_cons {first : Char} (apart : Apart (first :: last) following) :
    Apart last following := by
  rw [← List.singleton_append] at apart
  exact apart.of_append

theorem not_continuesName (apart : Apart text following) :
    ∀ character ∈ following.head?, continuesName character = false := by
  have marks : ∀ mark ∈ endMarks, continuesName mark = false :=
    Token.forall_mem_of_all (by decide +kernel)
  rcases apart.mark with ⟨mark, member, head⟩
  intro character same
  cases head.symm.trans same
  exact marks mark member

theorem not_isDigit (apart : Apart text following) :
    ∀ character ∈ following.head?, character.isDigit = false := by
  have marks : ∀ mark ∈ endMarks, mark.isDigit = false := Token.forall_mem_of_all (by decide)
  rcases apart.mark with ⟨mark, member, head⟩
  intro character same
  cases head.symm.trans same
  exact marks mark member

end Apart

/-- A text is taken apart into some tokens before everything that is apart from it. -/
def Spells (text : List Char) (signs : List Sign) : Prop :=
  ∀ following, Apart text following → Scans text signs following

/-- A text may be followed by another one that begins with a mark. -/
theorem Spells.append {front tail : List Char} {signs others : List Sign} {mark : Char}
    (spells : Spells front signs) (member : mark ∈ endMarks) (notPoint : mark ≠ '.')
    (notBrace : mark ≠ '\x7d') (more : Spells (mark :: tail) others) :
    Spells (front ++ mark :: tail) (signs ++ others) := by
  intro following apart
  exact (spells _ (.of_mark member notPoint notBrace)).append (more following apart.of_append)

/-! ### Single words -/

/-- An identifier begins with the first character of a name and goes on with others. -/
theorem exists_of_isIdentifier {text : String} (identifier : isIdentifier text = true) :
    ∃ initial rest, text.toList = initial :: rest ∧ beginsName initial = true ∧
      rest.all continuesName = true ∧ text ∉ reservedNames := by
  rw [isIdentifier] at identifier
  split at identifier
  · cases identifier
  · rename_i initial rest characters
    simp only [Bool.and_eq_true, Bool.not_eq_true', List.contains_eq_mem,
      decide_eq_false_iff_not] at identifier
    exact ⟨initial, rest, characters, identifier.1.1, identifier.1.2, identifier.2⟩

theorem scans_identifier {text : String} {following : List Char}
    (identifier : isIdentifier text = true)
    (stops : ∀ character ∈ following.head?, continuesName character = false) :
    Scans text.toList [.name text] following := by
  rcases exists_of_isIdentifier identifier with ⟨initial, rest, characters, begins, continues, _⟩
  have scans := scans_name begins continues stops
  rwa [← characters, String.ofList_toList] at scans

theorem spells_identifier {text : String} (identifier : isIdentifier text = true) :
    Spells text.toList [.name text] := by
  intro following apart
  exact scans_identifier identifier apart.not_continuesName

/-- The digits of a natural number. -/
theorem spells_natural (value : Nat) : Spells value.repr.toList [⟨.integer, value.repr⟩] := by
  intro following apart
  have digits : ∀ character ∈ value.repr.toList, character.isDigit = true := by
    intro character member
    rw [Nat.toList_repr] at member
    exact Nat.isDigit_of_mem_toDigits (by decide) (by decide) member
  cases characters : value.repr.toList with
  | nil =>
      rw [Nat.toList_repr] at characters
      exact absurd characters Nat.toDigits_ne_nil
  | cons initial rest =>
      rw [characters] at digits
      have scans := scans_integer (digits initial List.mem_cons_self)
        (fun other member => digits other (List.mem_cons_of_mem initial member))
        apart.not_isDigit apart.whole
      rw [← characters, String.ofList_toList] at scans
      rw [← characters]
      exact scans

theorem spells_literal {value : Literal} (back : value.readsBack = true) :
    Spells value.text.toList [value.sign] := by
  intro following apart
  cases value with
  | none => exact scans_name (by decide) (by decide) apart.not_continuesName
  | bool value =>
      cases value with
      | false => exact scans_name (by decide) (by decide) apart.not_continuesName
      | true => exact scans_name (by decide) (by decide) apart.not_continuesName
  | integer value =>
      cases value with
      | ofNat value => exact spells_natural value following apart
      | negSucc value => simp [Literal.readsBack] at back
  | float value => cases back
  | string value => exact scans_string back

/-! ### Lists and brackets -/

/-- Parts that are spelled are spelled with commas between them. -/
theorem scans_separated {texts : List String} {parts : List (List Sign)} {following : List Char}
    (spelled : List.Forall₂ (fun text signs => Spells text.toList signs) texts parts)
    (last : ∀ text ∈ texts.getLast?, Apart text.toList following) :
    Scans (Expression.commaSeparated texts).toList (separated parts) following := by
  induction spelled with
  | nil =>
      intro opened position
      refine ⟨position, [], rfl, ?_⟩
      change Token.lexemes _ position following = _
      cases Token.lexemes (.tag .variable opened) position following <;> rfl
  | @cons text signs texts parts spells others inductionHypothesis =>
      cases others with
      | nil =>
          have whole : (Expression.commaSeparated [text]).toList = text.toList := by
            simp [Expression.commaSeparated]
          rw [whole, separated, List.flatMap_nil, List.append_nil]
          exact spells following (last text rfl)
      | @cons next nextSigns texts parts =>
          have split : (Expression.commaSeparated (text :: next :: texts)).toList =
              text.toList ++
                ([',', ' '] ++ (Expression.commaSeparated (next :: texts)).toList) := by
            simp [Expression.commaSeparated, String.toList_intercalate]
          have rest := inductionHypothesis fun other member => last other (by simpa using member)
          rw [split]
          exact (spells _ (.of_mark (by decide) (by decide) (by decide))).append
            (scans_comma.append rest)

/-- A content between an opening and a closing character. -/
theorem spells_bracketed {opening closing : Char} {content : List Char} {signs : List Sign}
    (opens : opening ∈ ['(', '[', '\x7b']) (closes : closing ∈ [')', ']', '\x7d'])
    (scans : ∀ following, Scans content signs (closing :: following)) :
    Spells (opening :: (content ++ [closing]))
      (.operator (String.ofList [opening]) ::
        (signs ++ [.operator (String.ofList [closing])])) := by
  intro following apart
  have openings : ∀ opening ∈ ['(', '[', '\x7b'],
      opening ∈ Token.lastingSymbols ∧ opening ≠ '-' ∧ opening ≠ '\x7d' :=
    Token.forall_mem_of_all (by decide)
  have closings : ∀ closing ∈ [')', ']', '\x7d'],
      closing ∈ Token.lastingSymbols ∧ closing ≠ '-' :=
    Token.forall_mem_of_all (by decide)
  rcases openings opening opens with ⟨lasting, notDash, notBrace⟩
  rcases closings closing closes with ⟨closingLasting, closingNotDash⟩
  have notClosing : Token.splitCloser? .variable (closing :: following) = none := by
    by_cases brace : closing = '\x7d'
    · refine Token.splitCloser?_of_head fun same => apart.brace same ?_
      rw [← List.cons_append, List.getLast?_append, brace]
      rfl
    · exact Token.splitCloser?_of_ne closingNotDash brace following
  have inside : Scans (content ++ [closing])
      (signs ++ [.operator (String.ofList [closing])]) following :=
    (scans following).append (scans_lastingSymbol closingLasting notClosing)
  exact (scans_openSymbol lasting notDash notBrace).append inside

/-- A text begins neither with the end of a tag nor with a mark of equality. -/
def OpensWell (text : List Char) : Prop :=
  ∃ initial rest, text = initial :: rest ∧ initial ≠ '\x7d' ∧ initial ≠ '='

namespace OpensWell

variable {front : List Char}

theorem append (opens : OpensWell front) (last : List Char) : OpensWell (front ++ last) := by
  rcases opens with ⟨initial, rest, rfl, apart⟩
  exact ⟨initial, rest ++ last, rfl, apart⟩

theorem not_brace (opens : OpensWell front) : front.head? ≠ some '\x7d' := by
  rcases opens with ⟨initial, rest, rfl, notBrace, _⟩
  exact fun same => notBrace (Option.some.inj same)

theorem not_equals (opens : OpensWell front) : front.head? ≠ some '=' := by
  rcases opens with ⟨initial, rest, rfl, _, notEquals⟩
  exact fun same => notEquals (Option.some.inj same)

end OpensWell

theorem opensWell_identifier {text : String} (identifier : isIdentifier text = true) :
    OpensWell text.toList := by
  rcases exists_of_isIdentifier identifier with ⟨initial, rest, characters, begins, _⟩
  refine ⟨initial, rest, characters, ?_, ?_⟩
  · rintro rfl
    exact absurd begins (by decide)
  · rintro rfl
    exact absurd begins (by decide)

theorem opensWell_literal {value : Literal} (back : value.readsBack = true) :
    OpensWell value.text.toList := by
  cases value with
  | none => exact ⟨'n', ['o', 'n', 'e'], rfl, by decide, by decide⟩
  | bool value =>
      cases value with
      | false => exact ⟨'f', ['a', 'l', 's', 'e'], rfl, by decide, by decide⟩
      | true => exact ⟨'t', ['r', 'u', 'e'], rfl, by decide, by decide⟩
  | integer value =>
      cases value with
      | ofNat value =>
          cases digits : Nat.toDigits 10 value with
          | nil => exact absurd digits Nat.toDigits_ne_nil
          | cons initial rest =>
              have member : initial ∈ Nat.toDigits 10 value := by simp [digits]
              have digit := Nat.isDigit_of_mem_toDigits (by decide) (by decide) member
              refine ⟨initial, rest, Nat.toList_repr.trans digits, ?_, ?_⟩
              · rintro rfl
                cases digit
              · rintro rfl
                cases digit
      | negSucc value => simp [Literal.readsBack] at back
  | float value => cases back
  | string value =>
      exact ⟨'"', value.toList.flatMap Text.quoteCharacter ++ ['"'],
        by simp [Literal.text, Text.quoted], by decide, by decide⟩

namespace Expression

theorem opensWell (expression : Expression) (back : expression.readsBack = true) :
    OpensWell expression.text.toList := by
  match expression with
  | .literal value _ => exact opensWell_literal back
  | .name identifier _ => exact opensWell_identifier back
  | .list items _ =>
      have bracket : OpensWell "[".toList := ⟨'[', [], rfl, by decide, by decide⟩
      simp only [text, String.toList_append, List.append_assoc]
      exact bracket.append _
  | .dict entries _ =>
      have brace : OpensWell "\x7b".toList := ⟨'\x7b', [], rfl, by decide, by decide⟩
      simp only [text, String.toList_append, List.append_assoc]
      exact brace.append _
  | .member target memberName _ =>
      simp only [readsBack, Bool.and_eq_true] at back
      simp only [text, String.toList_append, List.append_assoc]
      exact (opensWell target back.1.2).append _
  | .item target index _ =>
      simp only [readsBack, Bool.and_eq_true] at back
      simp only [text, String.toList_append, List.append_assoc]
      exact (opensWell target back.1.2).append _
  | .call callee arguments _ =>
      simp only [readsBack, Bool.and_eq_true] at back
      simp only [text, String.toList_append]
      exact (opensWell callee back.1.2).append _
  | .filter target filterName arguments _ =>
      simp only [readsBack, Bool.and_eq_true] at back
      simp only [text, String.toList_append, List.append_assoc]
      exact (opensWell target back.1.1.2).append _
  | .test target testName arguments negated _ =>
      simp only [readsBack, Bool.and_eq_true] at back
      simp only [text, String.toList_append, List.append_assoc]
      exact (opensWell target back.1.1.2).append _
  | .unary .not operand _ =>
      have word : OpensWell "not ".toList := ⟨'n', _, rfl, by decide, by decide⟩
      simp only [text, String.toList_append]
      exact word.append _
  | .unary .negate operand _ =>
      have dash : OpensWell "-".toList := ⟨'-', [], rfl, by decide, by decide⟩
      simp only [text, String.toList_append]
      exact dash.append _
  | .binary operator left right _ =>
      have parenthesis : OpensWell "(".toList := ⟨'(', [], rfl, by decide, by decide⟩
      simp only [text, String.toList_append, List.append_assoc]
      exact parenthesis.append _

/-- The text of arguments begins with a parenthesis. -/
theorem exists_argumentsText (arguments : CallArguments Expression) :
    ∃ tail, (argumentsText arguments).toList = '(' :: tail := by
  rcases arguments with ⟨positional, keyword⟩
  exact ⟨_, by simp only [argumentsText, String.toList_append, List.append_assoc]; rfl⟩

variable {front : List Char} {frontSigns : List Sign}

/-- Arguments in parentheses follow every text. -/
theorem spells_call (spells : Spells front frontSigns) {arguments : CallArguments Expression}
    (given : Spells (argumentsText arguments).toList (argumentsSigns arguments)) :
    Spells (front ++ (argumentsText arguments).toList)
      (frontSigns ++ argumentsSigns arguments) := by
  rcases exists_argumentsText arguments with ⟨tail, opened⟩
  rw [opened] at given ⊢
  exact spells.append (by decide) (by decide) (by decide) given

/-- A name with arguments, which are not printed when there are none. -/
theorem spells_applied {applied : String} (identifier : isIdentifier applied = true)
    {arguments : CallArguments Expression}
    (given : Spells (argumentsText arguments).toList (argumentsSigns arguments)) :
    Spells (applied.toList ++ (if arguments.isEmpty then "" else argumentsText arguments).toList)
      (.name applied :: if arguments.isEmpty then [] else argumentsSigns arguments) := by
  cases empty : arguments.isEmpty with
  | true =>
      rw [if_pos rfl, if_pos rfl, String.toList_empty, List.append_nil]
      exact spells_identifier identifier
  | false => exact spells_call (spells_identifier identifier) given

theorem entryTexts_eq_map (entries : List (Expression × Expression)) :
    entryTexts entries = entries.map fun entry => text entry.1 ++ ": " ++ text entry.2 := by
  induction entries with
  | nil => rfl
  | cons entry rest inductionHypothesis => rw [entryTexts, inductionHypothesis, List.map_cons]

/-- A closing brace follows the last entry of a dictionary whose value does not end in one. -/
theorem apart_brace {entries : List (Expression × Expression)} {last : String}
    {following : List Char}
    (apart : entries.getLast?.any (fun entry => entry.2.endsInBrace) = false)
    (member : last ∈ (entryTexts entries).getLast?) : Apart last.toList ('\x7d' :: following) where
  mark := ⟨'\x7d', by decide, rfl⟩
  whole same := absurd (Option.some.inj same) (by decide)
  brace _ ends := by
    rw [entryTexts_eq_map, List.getLast?_map] at member
    rcases Option.map_eq_some_iff.1 member with ⟨entry, found, rfl⟩
    rw [found, Option.any_some, endsInBrace, beq_eq_false_iff_ne] at apart
    simp only [String.toList_append, List.getLast?_append] at ends
    cases value : (text entry.2).toList.getLast? with
    | none =>
        rw [value] at ends
        cases ends
    | some character =>
        rw [value] at ends
        exact apart (value.trans ends)

/-! ### Forms of expressions -/

section Forms

variable {target index left right : Expression} {text : String} {position : Position}
  {arguments : CallArguments Expression}

/-- Texts with commas between them inside brackets. -/
theorem spells_enclosed {opening closing : Char} {texts : List String} {parts : List (List Sign)}
    (opens : opening ∈ ['(', '[', '\x7b']) (closes : closing ∈ [')', ']', '\x7d'])
    (spelled : List.Forall₂ (fun text signs => Spells text.toList signs) texts parts)
    (last : ∀ text ∈ texts.getLast?, ∀ following, Apart text.toList (closing :: following)) :
    Spells (opening :: ((commaSeparated texts).toList ++ [closing]))
      (.operator (String.ofList [opening]) ::
        (separated parts ++ [.operator (String.ofList [closing])])) :=
  spells_bracketed opens closes fun following =>
    scans_separated spelled fun text member => last text member following

theorem spells_member (given : Spells target.text.toList target.signs)
    (identifier : isIdentifier text = true) :
    Spells (Expression.member target text position).text.toList
      (Expression.member target text position).signs := by
  rcases exists_of_isIdentifier identifier with ⟨initial, rest, characters, begins, _⟩
  have spelled : (Expression.member target text position).text.toList =
      target.text.toList ++ (['.'] ++ text.toList) := by
    simp [Expression.text]
  intro following apart
  rw [spelled] at apart ⊢
  have selected := spells_identifier identifier following apart.of_append.of_append
  have pointed : Apart target.text.toList ((['.'] ++ text.toList) ++ following) := by
    rw [characters]
    exact .of_point begins
  exact (given _ pointed).append
    ((scans_openSymbol (by decide) (by decide) (by decide)).append selected)

theorem spells_item (given : Spells target.text.toList target.signs)
    (inside : Spells index.text.toList index.signs) :
    Spells (Expression.item target index position).text.toList
      (Expression.item target index position).signs := by
  have scans : ∀ following, Scans index.text.toList index.signs (']' :: following) :=
    fun following => inside _ (.of_mark (by decide) (by decide) (by decide))
  have spelled : (Expression.item target index position).text.toList =
      target.text.toList ++ ('[' :: (index.text.toList ++ [']'])) := by
    simp [Expression.text]
  have opened : (Expression.item target index position).signs =
      target.signs ++ .operator "[" :: (index.signs ++ [.operator "]"]) := by
    simp [signs]
  rw [spelled, opened]
  exact given.append (by decide) (by decide) (by decide)
    (spells_bracketed (by decide) (by decide) scans)

theorem spells_filter (given : Spells target.text.toList target.signs)
    (identifier : isIdentifier text = true)
    (inside : Spells (argumentsText arguments).toList (argumentsSigns arguments)) :
    Spells (Expression.filter target text arguments position).text.toList
      (Expression.filter target text arguments position).signs := by
  have applied := spells_applied identifier inside
  have spelled : (Expression.filter target text arguments position).text.toList =
      target.text.toList ++ '|' :: (text.toList ++
        (if arguments.isEmpty then "" else argumentsText arguments).toList) := by
    simp [Expression.text]
  rw [spelled, signs]
  apply given.append (by decide) (by decide) (by decide)
  intro following apart
  exact (scans_openSymbol (by decide) (by decide) (by decide)).append
    (applied following apart.of_cons)

theorem spells_test {negated : Bool} (given : Spells target.text.toList target.signs)
    (identifier : isIdentifier text = true)
    (inside : Spells (argumentsText arguments).toList (argumentsSigns arguments)) :
    Spells (Expression.test target text arguments negated position).text.toList
      (Expression.test target text arguments negated position).signs := by
  have applied := spells_applied identifier inside
  have is : ∀ following, Scans ['i', 's', ' '] [.name "is"] following := fun _ =>
    scans_spacedName (by decide) (by decide)
  have not : ∀ following, Scans ['n', 'o', 't', ' '] [.name "not"] following := fun _ =>
    scans_spacedName (by decide) (by decide)
  have spelled : (Expression.test target text arguments negated position).text.toList =
      target.text.toList ++ ' ' :: 'i' :: 's' :: ' ' ::
        ((if negated then "not " else "").toList ++ (text.toList ++
          (if arguments.isEmpty then "" else argumentsText arguments).toList)) := by
    simp [Expression.text]
  rw [spelled, signs, List.append_assoc]
  apply given.append (by decide) (by decide) (by decide)
  intro following apart
  have last := applied following apart.of_cons.of_cons.of_cons.of_cons.of_append
  cases negated with
  | false => exact scans_space.append ((is _).append last)
  | true => exact scans_space.append ((is _).append ((not _).append last))

theorem spells_not (given : Spells target.text.toList target.signs) :
    Spells (Expression.unary .not target position).text.toList
      (Expression.unary .not target position).signs := by
  have spelled : (Expression.unary .not target position).text.toList =
      ['n', 'o', 't', ' '] ++ target.text.toList := by
    simp [Expression.text, UnaryOperator.text]
  intro following apart
  rw [spelled] at apart ⊢
  have word : Scans ['n', 'o', 't', ' '] [.name "not"] (target.text.toList ++ following) :=
    scans_spacedName (by decide) (by decide)
  exact word.append (given following apart.of_append)

theorem spells_negate (given : Spells target.text.toList target.signs)
    (opens : OpensWell target.text.toList) :
    Spells (Expression.unary .negate target position).text.toList
      (Expression.unary .negate target position).signs := by
  have spelled : (Expression.unary .negate target position).text.toList =
      ['-'] ++ target.text.toList := by
    simp [Expression.text, UnaryOperator.text]
  intro following apart
  rw [spelled] at apart ⊢
  have notBrace := (opens.append following).not_brace
  exact (scans_lastingSymbol (by decide) (Token.splitCloser?_of_head notBrace)).append
    (given following apart.of_append)

theorem spells_binary {operator : BinaryOperator}
    (leftGiven : Spells left.text.toList left.signs)
    (rightGiven : Spells right.text.toList right.signs) :
    Spells (Expression.binary operator left right position).text.toList
      (Expression.binary operator left right position).signs := by
  have scans : ∀ following, Scans
      (left.text.toList ++ ([' '] ++ (operator.symbol.toList ++ ([' '] ++ right.text.toList))))
      (left.signs ++ (operator.signs ++ right.signs)) (')' :: following) := by
    intro following
    have last := rightGiven (')' :: following) (.of_mark (by decide) (by decide) (by decide))
    have second := (scans_binaryOperator operator).append (scans_space.append last)
    exact (leftGiven _ (.of_mark (by decide) (by decide) (by decide))).append
      (scans_space.append second)
  have spelled : (Expression.binary operator left right position).text.toList =
      '(' :: ((left.text.toList ++ ([' '] ++ (operator.symbol.toList ++ ([' '] ++
        right.text.toList)))) ++ [')']) := by
    simp [Expression.text]
  have opened : (Expression.binary operator left right position).signs =
      .operator "(" :: ((left.signs ++ (operator.signs ++ right.signs)) ++ [.operator ")"]) := by
    simp [signs]
  rw [spelled, opened]
  exact spells_bracketed (by decide) (by decide) scans

theorem spells_entry (keyGiven : Spells left.text.toList left.signs)
    (valueGiven : Spells right.text.toList right.signs) :
    Spells (left.text ++ ": " ++ right.text).toList
      (left.signs ++ .operator ":" :: right.signs) := by
  have spelled : (left.text ++ ": " ++ right.text).toList =
      left.text.toList ++ ':' :: ' ' :: right.text.toList := by
    simp
  rw [spelled]
  apply keyGiven.append (by decide) (by decide) (by decide)
  intro following apart
  exact (scans_openSymbol (by decide) (by decide) (by decide)).append
    (scans_space.append (valueGiven following apart.of_cons.of_cons))

theorem spells_keyword (identifier : isIdentifier text = true)
    (given : Spells target.text.toList target.signs) (opens : OpensWell target.text.toList) :
    Spells (text ++ "=" ++ target.text).toList (.name text :: .operator "=" :: target.signs) := by
  have spelled : (text ++ "=" ++ target.text).toList =
      text.toList ++ (['='] ++ target.text.toList) := by
    simp
  intro following apart
  rw [spelled] at apart ⊢
  have notEquals := (opens.append following).not_equals
  have named : Scans text.toList [.name text] ((['='] ++ target.text.toList) ++ following) := by
    apply scans_identifier identifier
    intro character head
    cases head
    decide
  exact named.append
    ((scans_equals notEquals).append (given following apart.of_append.of_append))

end Forms

mutual

/-- The text of an expression that reads back is taken apart into its tokens. -/
theorem spells (expression : Expression) (back : expression.readsBack = true) :
    Spells expression.text.toList expression.signs := by
  match expression with
  | .literal value _ => exact spells_literal back
  | .name identifier _ => exact spells_identifier back
  | .list items position =>
      rw [readsBack] at back
      have spelled : (text (.list items position)).toList =
          '[' :: ((commaSeparated (itemTexts items)).toList ++ [']']) := by
        simp [text]
      rw [spelled]
      exact spells_enclosed (by decide) (by decide) (spells_items items back) fun _ _ _ =>
        .of_mark (by decide) (by decide) (by decide)
  | .dict entries position =>
      rw [readsBack, Bool.and_eq_true] at back
      have spelled : (text (.dict entries position)).toList =
          '\x7b' :: ((commaSeparated (entryTexts entries)).toList ++ ['\x7d']) := by
        simp [text]
      rw [spelled]
      exact spells_enclosed (by decide) (by decide) (spells_entries entries back.1)
        fun _ member _ => apart_brace (by simpa using back.2) member
  | .member target memberName position =>
      simp only [readsBack, Bool.and_eq_true] at back
      exact spells_member (spells target back.1.2) back.2
  | .item target index position =>
      simp only [readsBack, Bool.and_eq_true] at back
      exact spells_item (spells target back.1.2) (spells index back.2)
  | .call callee arguments position =>
      simp only [readsBack, Bool.and_eq_true] at back
      rw [text, signs, String.toList_append]
      exact spells_call (spells callee back.1.2) (spells_arguments arguments back.2)
  | .filter target filterName arguments position =>
      simp only [readsBack, Bool.and_eq_true] at back
      exact spells_filter (spells target back.1.1.2) back.1.2 (spells_arguments arguments back.2)
  | .test target testName arguments negated position =>
      simp only [readsBack, Bool.and_eq_true] at back
      exact spells_test (spells target back.1.1.2) back.1.2 (spells_arguments arguments back.2)
  | .unary .not operand position =>
      rw [readsBack] at back
      exact spells_not (spells operand back)
  | .unary .negate operand position =>
      rw [readsBack, Bool.and_eq_true] at back
      exact spells_negate (spells operand back.2) (opensWell operand back.2)
  | .binary operator left right position =>
      simp only [readsBack, Bool.and_eq_true] at back
      exact spells_binary (spells left back.1.1.2) (spells right back.2)

theorem spells_items (items : List Expression) (back : itemsReadBack items = true) :
    List.Forall₂ (fun text signs => Spells text.toList signs) (itemTexts items)
      (itemSigns items) := by
  match items with
  | [] => exact .nil
  | first :: rest =>
      simp only [itemsReadBack, Bool.and_eq_true] at back
      exact .cons (spells first back.1) (spells_items rest back.2)

theorem spells_entries (entries : List (Expression × Expression))
    (back : entriesReadBack entries = true) :
    List.Forall₂ (fun text signs => Spells text.toList signs) (entryTexts entries)
      (entrySigns entries) := by
  match entries with
  | [] => exact .nil
  | (key, value) :: rest =>
      simp only [entriesReadBack, Bool.and_eq_true] at back
      exact .cons (spells_entry (spells key back.1.1) (spells value back.1.2))
        (spells_entries rest back.2)

theorem spells_keywords (keywords : List (String × Expression))
    (back : keywordsReadBack keywords = true) :
    List.Forall₂ (fun text signs => Spells text.toList signs) (keywordTexts keywords)
      (keywordSigns keywords) := by
  match keywords with
  | [] => exact .nil
  | (keyword, value) :: rest =>
      simp only [keywordsReadBack, Bool.and_eq_true] at back
      exact .cons
        (spells_keyword back.1.1 (spells value back.1.2) (opensWell value back.1.2))
        (spells_keywords rest back.2)

theorem spells_arguments (arguments : CallArguments Expression)
    (back : argumentsReadBack arguments = true) :
    Spells (argumentsText arguments).toList (argumentsSigns arguments) := by
  match arguments with
  | ⟨positional, keyword⟩ =>
      simp only [argumentsReadBack, Bool.and_eq_true] at back
      have spelled : (argumentsText ⟨positional, keyword⟩).toList =
          '(' :: ((commaSeparated (itemTexts positional ++ keywordTexts keyword)).toList ++
            [')']) := by
        simp [argumentsText]
      rw [spelled]
      exact spells_enclosed (by decide) (by decide)
        (List.rel_append (spells_items positional back.1) (spells_keywords keyword back.2))
        fun _ _ _ => .of_mark (by decide) (by decide) (by decide)

end

end Expression

end TemplateEngine

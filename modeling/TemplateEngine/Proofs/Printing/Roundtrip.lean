import TemplateEngine.Proofs.Printing.Levels
import TemplateEngine.Proofs.Printing.Spelling

/-!
# Printing and reading back

Between the delimiters of an output tag the text of an expression is a source of the same
expression.  The tag is taken apart into the tokens of the expression and those around them;
the cursor of the tag has the former only, and the reader of expressions takes all of them.
-/

namespace TemplateEngine

namespace Token

/-- The token of a word. -/
def Lexeme.word? : Lexeme → Option Token
  | .word kind content _ position => some (plain kind content position)
  | _ => none

/-- Every sign of a word is that of its token. -/
theorem exists_words {words : List Lexeme} {signs : List Sign}
    (spelled : words.map Lexeme.sign? = signs.map some) :
    ∃ tokens : List Token, words.map Lexeme.word? = tokens.map some ∧
      tokens.map Token.sign = signs := by
  induction words generalizing signs with
  | nil =>
      cases List.map_eq_nil_iff.1 spelled.symm
      exact ⟨[], rfl, rfl⟩
  | cons word words inductionHypothesis =>
      cases signs with
      | nil => cases spelled
      | cons sign signs =>
          rw [List.map_cons, List.map_cons] at spelled
          injection spelled with same others
          obtain ⟨tokens, tokenWords, tokenSigns⟩ := inductionHypothesis others
          cases word with
          | word kind content characters position =>
              refine ⟨plain kind content position :: tokens, ?_, ?_⟩
              · rw [List.map_cons, List.map_cons, tokenWords]
                rfl
              · rw [List.map_cons, tokenSigns]
                exact congrArg (· :: signs) (Option.some.inj same)
          | _ => cases same

/-- A word is laid out as its token. -/
theorem layout_words {words : List Lexeme} {tokens : List Token}
    (spelled : words.map Lexeme.word? = tokens.map some) (config : Config)
    (previous : Option Lexeme) (rest : List Lexeme) :
    ∃ last, layout config previous (words ++ rest) = tokens ++ layout config last rest := by
  induction words generalizing tokens previous with
  | nil =>
      cases List.map_eq_nil_iff.1 spelled.symm
      exact ⟨previous, rfl⟩
  | cons word words inductionHypothesis =>
      cases tokens with
      | nil => cases spelled
      | cons token tokens =>
          rw [List.map_cons, List.map_cons] at spelled
          injection spelled with same others
          cases word with
          | word kind content characters position =>
              cases same
              obtain ⟨last, laidOut⟩ := inductionHypothesis others _
              refine ⟨last, ?_⟩
              rw [List.cons_append, layout, laidOut]
              rfl
          | _ => cases same

/-- The end of a tag behind a text. -/
def TagKind.ending (tag : TagKind) : List Char :=
  ' ' :: tag.closer

/-- Nothing but its end is left of a source without characters. -/
theorem lexemes_nil (position : Position) : lexemes .text position [] = .ok [.finish position] := by
  rw [lexemes.eq_def]
  rfl

/-- The end of an output tag that ends the source. -/
theorem lexemes_closer (opened position : Position) :
    ∃ closed finish, lexemes (.tag .variable opened) position [' ', '\x7d', '\x7d'] =
      .ok [.closing .variable false closed, .finish finish] := by
  have closes : splitCloser? .variable ['\x7d', '\x7d'] = some (false, []) := rfl
  rw [lexemes_blank (by decide), lexemes_notBlank (by decide), closes]
  simp only [lexemes_nil]
  exact ⟨_, _, rfl⟩

/-- The beginning of a tag that begins the source. -/
theorem lexemes_opener (tag : TagKind) (position : Position) (rest : List Char) :
    ∃ inside, lexemes .text position (tag.opener ++ ' ' :: rest) =
      (lexemes (.tag tag position) inside (' ' :: rest)).map fun more =>
        .opening tag false position :: more := by
  cases tag <;> rw [TagKind.opener, lexemes] <;> split
  all_goals rename_i opens
  all_goals cases opens
  all_goals exact ⟨_, rfl⟩

/-- What ends with a delimiter is read as it stands. -/
theorem sourceCharacters_of_closer (config : Config) {source : String} {front : List Char}
    (ends : source.toList = front ++ ['\x7d']) :
    sourceCharacters config source = source.toList := by
  have last : source.toList.getLast? = some '\x7d' := List.getLast?_eq_some_iff.2 ⟨front, ends⟩
  rw [sourceCharacters, last]
  exact if_neg (by simp)

/-- What a tag and its end are put around is read as it stands. -/
theorem tokenize_of_toList {tag : TagKind} {inner : List Char}
    {source : String}
    (spelled : source.toList = tag.opener ++ ' ' :: (inner ++ tag.ending))
    (config : Config) :
    ∃ inside, tokenize config source =
      (lexemes (.tag tag Position.start) inside (' ' :: (inner ++ tag.ending))).map fun more =>
        layout config none (.opening tag false Position.start :: more) := by
  obtain ⟨inside, opened⟩ := lexemes_opener tag Position.start (inner ++ tag.ending)
  refine ⟨inside, ?_⟩
  have ends : ∃ front, source.toList = front ++ ['\x7d'] := by
    rw [spelled]
    rcases tag with _ | _
    · exact ⟨TagKind.variable.opener ++ ' ' :: (inner ++ [' ', '\x7d']), by
        simp [TagKind.ending, TagKind.closer]⟩
    · exact ⟨TagKind.block.opener ++ ' ' :: (inner ++ [' ', '%']), by
        simp [TagKind.ending, TagKind.closer]⟩
  obtain ⟨front, ends⟩ := ends
  rw [tokenize_eq, sourceCharacters_of_closer config ends, spelled, opened]
  cases lexemes (.tag tag Position.start) inside (' ' :: (inner ++ tag.ending)) <;> rfl

/-- An output tag is laid out as the tokens of what it encloses and three more. -/
theorem tokenize_output {source : String} {signs : List Sign}
    (scans : Scans source.toList signs [' ', '\x7d', '\x7d']) (config : Config) :
    ∃ first tokens second third, tokens.map Token.sign = signs ∧
      (first.kind = .variableBegin ∧ second.kind = .variableEnd ∧ third.kind = .eof) ∧
        tokenize config ("\x7b\x7b " ++ source ++ " \x7d\x7d") =
          .ok (first :: (tokens ++ [second, third])) := by
  have spelled : ("\x7b\x7b " ++ source ++ " \x7d\x7d").toList =
      TagKind.variable.opener ++ ' ' :: (source.toList ++ TagKind.variable.ending) := by
    simp [TagKind.opener, TagKind.mark, TagKind.ending, TagKind.closer]
  obtain ⟨inside, opened⟩ := tokenize_of_toList spelled config
  obtain ⟨middle, words, signed, taken⟩ := (scans_space.append scans) Position.start inside
  obtain ⟨closed, finish, ended⟩ := lexemes_closer Position.start middle
  obtain ⟨tokens, tokenWords, tokenSigns⟩ := exists_words signed
  obtain ⟨last, laidOut⟩ := layout_words tokenWords config
    (some (.opening .variable false Position.start))
    [.closing .variable false closed, .finish finish]
  rw [ended] at taken
  rw [opened, show ' ' :: (source.toList ++ TagKind.variable.ending) =
    [' '] ++ source.toList ++ [' ', '\x7d', '\x7d'] from rfl, taken]
  simp only [Except.map, layout]
  rw [laidOut]
  exact ⟨_, tokens, _, _, tokenSigns, ⟨rfl, rfl, rfl⟩, rfl⟩

end Token

/-- The cursor of a source has the tokens of its text. -/
theorem Cursor.ofSource_eq_ok {source : String} {signs : List Sign}
    (scans : Token.Scans source.toList signs [' ', '\x7d', '\x7d']) :
    ∃ cursor, Cursor.ofSource source = .ok cursor ∧ cursor.remaining.map Token.sign = signs := by
  obtain ⟨first, tokens, second, third, spelled, _, tokenized⟩ :=
    Token.tokenize_output scans Config.default
  have inner : (first :: (tokens ++ [second, third])).take
      ((first :: (tokens ++ [second, third])).length - 2) = first :: tokens := by
    simp
  have last := List.getLast?_eq_some_getLast (List.cons_ne_nil first tokens)
  generalize (first :: tokens).getLast (List.cons_ne_nil first tokens) = final at last
  refine ⟨⟨tokens, first.position, final.position⟩, ?_, spelled⟩
  rw [Cursor.ofSource, tokenized]
  simp only [bind, Except.bind, inner, last]
  rfl

namespace Expression

/-- Between the delimiters of an output tag the text of an expression is read as the expression,
up to positions, and nothing is left. -/
theorem text_roundtrip (expression : Expression) (back : expression.readsBack = true) :
    ∃ cursor read after, Cursor.ofSource expression.text = .ok cursor ∧
      TagReader.wholeExpression.run.run cursor = (.ok read, after) ∧
        read.unplaced = expression.unplaced := by
  have scans := spells expression back [' ', '\x7d', '\x7d']
    (.of_mark (by decide) (by decide) (by decide))
  rcases Cursor.ofSource_eq_ok scans with ⟨cursor, begun, spelled⟩
  rcases TagReader.takes_wholeExpression back cursor cursor.remaining []
    (List.append_nil _).symm spelled rfl with ⟨read, like, ran⟩
  exact ⟨cursor, read, _, begun, ran, like⟩

/-- An expression of several levels: a negated test of the negation of a filter, whose arguments
are a membership and a dictionary. -/
def nested : Expression :=
  .unary .not
    (.test
      (.unary .negate
        (.filter (.member (.literal (.integer 5) default) "x" default) "round"
          ⟨[.binary .notIn (.name "a" default) (.list [.literal (.string "\"\n") default] default)
              default],
            [("by", .dict [(.literal .none default, .unary .not (.name "b" default) default)]
              default)]⟩
          default)
        default)
      "even" .none true default)
    default

theorem text_roundtrip_nested :
    nested.text =
        "not -5.x|round((a not in [\"\\\"\\n\"]), by=\x7bnone: not b\x7d) is not even" ∧
      nested.readsBack = true ∧
        ∃ cursor read after, Cursor.ofSource nested.text = .ok cursor ∧
          TagReader.wholeExpression.run.run cursor = (.ok read, after) ∧
            read.unplaced = nested.unplaced := by
  have back : nested.readsBack = true := by decide +kernel
  exact ⟨by decide +kernel, back, text_roundtrip nested back⟩

end Expression

end TemplateEngine

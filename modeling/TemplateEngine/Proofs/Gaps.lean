import TemplateEngine.Proofs.Covering

/-!
# Texts in the gaps between marks

The tokens of a source other than its literal texts are its marks.  The switches that drop a
newline after a block tag and the indentation before one reach the gaps between marks only:
under any setting of the two, a source is refused with the same error, or its marks are the
same and each gap is a part of the gap that stands there with both switches off.

A newline that is stepped over moves the point from which the scanner goes on.  That it goes
on to the same constructs is what following its pass shows (`tokenize_eq`): under every
configuration the tokens are a layout of the same lexemes.  Here two layouts of them are
compared.
-/

namespace TemplateEngine

namespace Token

/-- Whether a token is no literal text. -/
def isMark (token : Token) : Bool :=
  token.kind != .data

/-- The tokens that are no literal texts. -/
def marks (tokens : List Token) : List Token :=
  tokens.filter isMark

/-- What the literal texts amount to in each gap: before the first mark, between two
neighbours, and after the last one. -/
def gaps (tokens : List Token) : List (List Char) :=
  (tokens.splitOnP isMark).map fun gap => gap.flatMap fun token => token.text.toList

theorem marks_cons_of_isMark {token : Token} (mark : token.isMark = true)
    (tokens : List Token) : marks (token :: tokens) = token :: marks tokens :=
  List.filter_cons_of_pos mark

theorem gaps_cons_of_isMark {token : Token} (mark : token.isMark = true)
    (tokens : List Token) : gaps (token :: tokens) = [] :: gaps tokens := by
  rw [gaps, List.splitOnP_cons_eq_if_modifyHead, if_pos mark]
  rfl

/-- A literal text before a mark is the whole gap there. -/
theorem gaps_data {data mark : Token} (isData : data.kind = .data) (isMark : mark.isMark = true)
    (tokens : List Token) : gaps (data :: mark :: tokens) = data.text.toList :: gaps tokens := by
  have noMark : ¬ data.isMark = true := by simp [Token.isMark, isData]
  rw [gaps, List.splitOnP_cons_eq_if_modifyHead, if_neg noMark,
    List.splitOnP_cons_eq_if_modifyHead, if_pos isMark]
  simp [gaps]

/-! ## Literal texts that are laid out -/

/-- The tokens of a literal text are no marks. -/
theorem marks_textTokens (previous next : Option Lexeme) (laid : List Char × Position)
    (tokens : List Token) : marks (textTokens previous next laid ++ tokens) = marks tokens := by
  rw [textTokens]
  split
  · rfl
  · exact List.filter_cons_of_neg (by simp [isMark])

/-- What is left of a text is the gap before the next mark. -/
theorem gaps_textTokens (previous next : Option Lexeme) (laid : List Char × Position)
    {mark : Token} (isMark : mark.isMark = true) (tokens : List Token) :
    gaps (textTokens previous next laid ++ mark :: tokens) = laid.1 :: gaps tokens := by
  rw [textTokens]
  split
  · rename_i nothing
    rw [List.isEmpty_iff.1 nothing, List.nil_append, gaps_cons_of_isMark isMark]
  · rw [List.singleton_append, gaps_data rfl isMark, String.toList_ofList]

/-! ## What the switches drop -/

/-- Whether a text comes from another one by dropping a newline at its beginning and spaces
and tabs at its end. -/
def Shortens (whole text : List Char) : Prop :=
  ∃ newline indentation, whole = newline ++ text ++ indentation ∧
    (newline = [] ∨ newline = ['\n']) ∧
      ∀ character ∈ indentation, character = ' ' ∨ character = '\t'

theorem Shortens.refl (text : List Char) : Shortens text text :=
  ⟨[], [], by simp, .inl rfl, by simp⟩

/-- At most the indentation at the end of a text is dropped there. -/
theorem exists_indentation (drops beginsLine : Bool) (content : List Char) (start : Position) :
    ∃ indentation, content =
        (if drops then (dropIndentation beginsLine content, start) else (content, start)).1 ++
          indentation ∧
      ∀ character ∈ indentation, character = ' ' ∨ character = '\t' := by
  cases drops with
  | false => exact ⟨[], by simp, by simp⟩
  | true =>
      obtain ⟨indentation, parts, dropped⟩ := dropIndentation_append beginsLine content
      refine ⟨indentation, parts, ?_⟩
      rcases dropped with rfl | ⟨indents, _⟩
      · simp
      · exact indents

/-- Whatever the switches are, a text is laid out as a part of itself. -/
theorem shortens_layoutText (config : Config) (previous next : Option Lexeme)
    (content : List Char) (position : Position) :
    Shortens content (layoutText config previous next content position).1 := by
  simp only [layoutText, dropNewline]
  cases drops : dropsNewline config previous content with
  | true =>
      obtain ⟨rest, rfl⟩ := exists_of_dropsNewline drops
      obtain ⟨indentation, parts, indents⟩ := exists_indentation
        (config.lstripBlocks && next.any Lexeme.opensBlockPlainly) (previous.isNone || true) rest
        (position.next '\n')
      exact ⟨['\n'], indentation, congrArg (List.cons '\n') parts, .inr rfl, indents⟩
  | false =>
      obtain ⟨indentation, parts, indents⟩ := exists_indentation
        (config.lstripBlocks && next.any Lexeme.opensBlockPlainly) (previous.isNone || false)
        content position
      exact ⟨[], indentation, parts, .inl rfl, indents⟩

/-! ## Two layouts of the same lexemes -/

/-- The configuration with the two switches at given values. -/
def switched (config : Config) (trimBlocks lstripBlocks : Bool) : Config :=
  { config with trimBlocks := trimBlocks, lstripBlocks := lstripBlocks }

/-- With both switches off a text is laid out whole. -/
theorem layoutText_off (config : Config) (previous next : Option Lexeme) (content : List Char)
    (position : Position) :
    layoutText (switched config false false) previous next content position =
      (content, position) := by
  simp [layoutText, dropNewline, dropsNewline, switched]

/-- Two layouts of the same lexemes: the marks are the same, and the gaps of the one are parts
of the gaps of the other. -/
structure Agree (config whole : Config) (previous : Option Lexeme) (read : List Lexeme) :
    Prop where
  marks : marks (layout config previous read) = marks (layout whole previous read)
  gaps : List.Forall₂ Shortens (gaps (layout whole previous read))
    (gaps (layout config previous read))

namespace Agree

variable {config other : Config} {lexeme : Lexeme} {token : Token} {more : List Lexeme}

/-- A mark is laid out under both configurations. -/
theorem mark (laid : ∀ config previous next, layoutLexeme config previous next lexeme = [token])
    (isMark : token.isMark = true) (previous : Option Lexeme)
    (after : Agree config other (some lexeme) more) :
    Agree config other previous (lexeme :: more) where
  marks := by
    simp only [layout, laid, List.singleton_append, marks_cons_of_isMark isMark, after.marks]
  gaps := by
    simp only [layout, laid, List.singleton_append, gaps_cons_of_isMark isMark]
    exact .cons (.refl []) after.gaps

/-- A literal text before a mark makes a gap, of which the switches may drop the ends. -/
theorem text (laid : ∀ config previous next, layoutLexeme config previous next lexeme = [token])
    (isMark : token.isMark = true) (previous : Option Lexeme) (content : List Char)
    (position : Position) (after : Agree config (switched other false false) (some lexeme) more) :
    Agree config (switched other false false) previous
      (textLexemes content position ++ lexeme :: more) where
  marks := by
    simp only [layout_text _ _ _ _ (laid _), marks_textTokens, marks_cons_of_isMark isMark,
      after.marks]
  gaps := by
    simp only [layout_text _ _ _ _ (laid _), gaps_textTokens _ _ _ isMark, layoutText_off]
    exact .cons (shortens_layoutText config previous (some lexeme) content position) after.gaps

end Agree

/-- The layout of the lexemes of a source under a configuration agrees with that under one
with both switches off. -/
theorem agree_layout {mode : Mode} {position : Position} {characters : List Char}
    {read : List Lexeme} (taken : lexemes mode position characters = .ok read)
    (config other : Config) (previous : Option Lexeme) :
    Agree config (switched other false false) previous read := by
  fun_induction lexemes mode position characters generalizing read previous with
  | case1 position characters content here =>
      cases taken
      exact .text (fun _ _ _ => rfl) rfl previous content position
        ⟨rfl, .cons (.refl []) .nil⟩
  | case2 => cases taken
  | case3 position characters content here rest next body after found parts lexeme =>
      rename_i inductionHypothesis
      obtain ⟨more, readMore, rfl⟩ := exists_of_map_eq_ok taken
      exact .text (fun _ _ _ => rfl) rfl previous content position
        (inductionHypothesis readMore (some lexeme))
  | case4 position characters content here tag rest next lexeme =>
      rename_i inductionHypothesis
      obtain ⟨more, readMore, rfl⟩ := exists_of_map_eq_ok taken
      exact .text (fun _ _ _ => rfl) (by cases tag <;> rfl) previous content
        position (inductionHypothesis readMore (some lexeme))
  | case5 => cases taken
  | case6 position characters tag opened here first rest remaining dash after closed lexeme =>
      rename_i inductionHypothesis
      obtain ⟨more, readMore, rfl⟩ := exists_of_map_eq_ok taken
      exact .mark (fun _ _ _ => rfl) (by cases tag <;> rfl) previous
        (inductionHypothesis readMore (some lexeme))
  | case7 => cases taken
  | case8 position characters tag opened here first rest remaining closed word readFirst lexeme =>
      rename_i inductionHypothesis
      obtain ⟨more, readMore, rfl⟩ := exists_of_map_eq_ok taken
      have mark : (plain word.kind word.text here).isMark = true := by
        have isWord := isWord_of_readWord readFirst
        cases kind : word.kind <;> simp_all [plain, isMark, TokenKind.isWord]
      exact .mark (fun _ _ _ => rfl) mark previous (inductionHypothesis readMore (some lexeme))

/-! ## Sources -/

/-- Two outcomes of taking a source apart: the same error, or tokens that are related. -/
inductive Alike (related : List Token → List Token → Prop) :
    Except SyntaxError (List Token) → Except SyntaxError (List Token) → Prop
  | error (error : SyntaxError) : Alike related (.error error) (.error error)
  | ok {first second : List Token} (tokens : related first second) :
      Alike related (.ok first) (.ok second)

/-- Two layouts of what is read are alike if they are related. -/
theorem Alike.map {related : List Token → List Token → Prop}
    {outcome : Except SyntaxError (List Lexeme)} {first second : List Lexeme → List Token}
    (laid : ∀ read, outcome = .ok read → related (first read) (second read)) :
    Alike related (outcome.map first) (outcome.map second) := by
  cases outcome with
  | error error => exact .error error
  | ok read => exact .ok (laid read rfl)

/-- Two configurations that differ only in the two switches refuse a source with the same
error, or find the same marks in it.  What each of them leaves in the gaps is what stands there
with both switches off, but for a newline at the beginning and spaces and tabs at the end. -/
theorem alike_switched (config : Config) (source : String)
    (trimBlocks lstripBlocks trimOthers lstripOthers : Bool) :
    Alike (fun first second => marks first = marks second)
        (tokenize (switched config trimBlocks lstripBlocks) source)
        (tokenize (switched config trimOthers lstripOthers) source) ∧
      Alike (fun whole tokens => List.Forall₂ Shortens (gaps whole) (gaps tokens))
        (tokenize (switched config false false) source)
        (tokenize (switched config trimBlocks lstripBlocks) source) := by
  have agree (trims lstrips : Bool) (read : List Lexeme)
      (taken : lexemes .text .start (sourceCharacters config source) = .ok read) :
      Agree (switched config trims lstrips) (switched config false false) none read :=
    agree_layout taken _ config none
  simp only [tokenize_eq]
  constructor
  · refine Alike.map fun read taken => ?_
    exact (agree trimBlocks lstripBlocks read taken).marks.trans
      (agree trimOthers lstripOthers read taken).marks.symm
  · exact Alike.map fun read taken => (agree trimBlocks lstripBlocks read taken).gaps

/-- A block tag behind an indentation and in front of a newline. -/
private def indented : String :=
  "a\n  \x7b% if b %\x7d\nc\x7b% endif %\x7d"

/-- In this source one switch drops the newline and the other the indentation. -/
theorem alike_indented :
    (Alike (fun first second => marks first = marks second)
        (tokenize (switched .default true true) indented)
        (tokenize (switched .default false false) indented) ∧
      Alike (fun whole tokens => List.Forall₂ Shortens (gaps whole) (gaps tokens))
        (tokenize (switched .default false false) indented)
        (tokenize (switched .default true true) indented)) ∧
      (tokenize (switched .default true true) indented).toOption.map gaps =
        some ["a\n".toList, [], [], [], "c".toList, [], [], [], []] ∧
      (tokenize (switched .default false false) indented).toOption.map gaps =
        some ["a\n  ".toList, [], [], [], "\nc".toList, [], [], [], []] :=
  ⟨alike_switched .default indented true true false false, by decide +kernel,
    by decide +kernel⟩

end Token

end TemplateEngine

import TemplateEngine.Interpreter.Render
import TemplateEngine.Proofs.Gaps
import TemplateEngine.Proofs.Reading
import TemplateEngine.Proofs.Whitespace.Segments

/-!
# Whitespace around tags

What is written for each segment of literal text is what the rules keep of it.  The work is done
in two places: tokens are laid out without the newline and the indentation that the switches
drop, and the whitespace next to dashes is still there until the text is written.
-/

namespace TemplateEngine

theorem Position.advance_of_eq {position : Position} {before : List Char}
    (here : position = Position.after before) (text : List Char) :
    position.advance text = Position.after (before ++ text) := by
  rw [here, advance_after]

namespace Token

/-! ## What is kept of a text -/

namespace Lexeme

/-- The end of a tag or comment that a lexeme is. -/
def closingEdge? : Lexeme → Option Edge
  | .comment _ _ dash _ => some ⟨.comment, dash⟩
  | .closing tag dash _ => some ⟨.tag tag, dash⟩
  | _ => none

/-- The beginning of a tag or comment that a lexeme is. -/
def openingEdge? : Lexeme → Option Edge
  | .comment dash _ _ _ => some ⟨.comment, dash⟩
  | .opening tag dash _ => some ⟨.tag tag, dash⟩
  | _ => none

theorem closesBlockPlainly_iff (lexeme : Lexeme) :
    lexeme.closesBlockPlainly = true ↔ lexeme.closingEdge? = some ⟨.tag .block, false⟩ := by
  cases lexeme with
  | closing tag dash position =>
      cases tag <;> cases dash <;> simp [closesBlockPlainly, closingEdge?]
  | _ => simp [closesBlockPlainly, closingEdge?]

theorem opensBlockPlainly_iff (lexeme : Lexeme) :
    lexeme.opensBlockPlainly = true ↔ lexeme.openingEdge? = some ⟨.tag .block, false⟩ := by
  cases lexeme with
  | opening tag dash position =>
      cases tag <;> cases dash <;> simp [opensBlockPlainly, openingEdge?]
  | _ => simp [opensBlockPlainly, openingEdge?]

theorem closesWithDash_eq (lexeme : Lexeme) :
    lexeme.closesWithDash = lexeme.closingEdge?.any Edge.dash := by
  cases lexeme <;> rfl

theorem opensWithDash_eq (lexeme : Lexeme) :
    lexeme.opensWithDash = lexeme.openingEdge?.any Edge.dash := by
  cases lexeme <;> rfl

end Lexeme

/-- What comes after some source is a line's beginning at the start of the source or after a
newline, and after a tag or comment it is not. -/
structure Before (before : List Char) (previous : Option Lexeme) : Prop where
  start : previous = none → before = []
  after : ∀ lexeme, previous = some lexeme →
    before.getLast? = some '\x7d' ∧ lexeme.closingEdge?.isSome = true

theorem beginsLine_append {earlier text : List Char} {character : Char}
    (last : text.getLast? = some character) :
    BeginsLine (earlier ++ text) ↔ character = '\n' := by
  have nonempty : text ≠ [] := by
    rintro rfl
    cases last
  simp [BeginsLine, List.getLast?_append, last, nonempty]

/-- The indentation of a text is dropped where it begins a line of the source. -/
theorem dropIndentation_eq {earlier : List Char} {begins : Bool}
    (line : begins = true ↔ BeginsLine earlier) (text : List Char) :
    dropIndentation begins text =
      if BeginsLine (earlier ++
        text.rdropWhile fun character => character = ' ' ∨ character = '\t')
      then text.rdropWhile fun character => character = ' ' ∨ character = '\t'
      else text := by
  have same : Text.dropWhileEnd isIndentation text =
      text.rdropWhile fun character => character = ' ' ∨ character = '\t' := by
    have indents : isIndentation = fun character => character = ' ' ∨ character = '\t' := by
      funext character
      rw [Bool.eq_iff_iff]
      simp [isIndentation]
    rw [indents]
    rfl
  rw [dropIndentation, same]
  split
  · rename_i character last
    simp only [beginsLine_append last]
  · rename_i nothing
    rw [List.getLast?_eq_none_iff.1 nothing, List.append_nil]
    simp only [line]

/-- The layout of a text between its neighbours is what the rules keep of it. -/
theorem layoutText_eq_kept (config : Config) {before : List Char} {previous : Option Lexeme}
    (here : Before before previous) (next : Option Lexeme) (content : List Char)
    (position : Position) :
    (layoutText config previous next content position).1 =
      Segment.kept config
        ⟨before, previous.bind Lexeme.closingEdge?, content, next.bind Lexeme.openingEdge?⟩ := by
  have closes : previous.any Lexeme.closesBlockPlainly = true ↔
      previous.bind Lexeme.closingEdge? = some ⟨.tag .block, false⟩ := by
    cases previous with
    | none => simp
    | some lexeme => exact lexeme.closesBlockPlainly_iff
  have opens : next.any Lexeme.opensBlockPlainly = true ↔
      next.bind Lexeme.openingEdge? = some ⟨.tag .block, false⟩ := by
    cases next with
    | none => simp
    | some lexeme => exact lexeme.opensBlockPlainly_iff
  have line (behindNewline : Bool) : (previous.isNone || behindNewline) = true ↔
      BeginsLine (before ++ if behindNewline then ['\n'] else []) := by
    cases behindNewline with
    | true => simp [BeginsLine]
    | false =>
        cases previous with
        | none => simp [here.start rfl, BeginsLine]
        | some lexeme =>
            have last := (here.after lexeme rfl).1
            have nonempty : before ≠ [] := by
              rintro rfl
              cases last
            simp [BeginsLine, last, nonempty]
  generalize drops : dropsNewline config previous content = behindNewline
  have newline : Segment.newline config
      ⟨before, previous.bind Lexeme.closingEdge?, content, next.bind Lexeme.openingEdge?⟩ =
        if behindNewline then ['\n'] else [] := by
    simp only [Segment.newline, ← drops, dropsNewline, Bool.and_eq_true, beq_iff_eq, closes, and_assoc]
  have text : (if behindNewline then content.drop 1 else content) =
      content.drop (if behindNewline then ['\n'] else []).length := by
    cases behindNewline <;> rfl
  have strips : (config.lstripBlocks && next.any Lexeme.opensBlockPlainly) = true ↔
      config.lstripBlocks = true ∧
        next.bind Lexeme.openingEdge? = some ⟨.tag .block, false⟩ := by
    rw [Bool.and_eq_true, opens]
  simp only [layoutText, dropNewline, drops, text, Segment.kept, Segment.beforeIndentation,
    Segment.afterNewline, newline, ← and_assoc, ← strips]
  by_cases applies : (config.lstripBlocks && next.any Lexeme.opensBlockPlainly) = true
  · simp only [applies, if_true, true_and]
    exact dropIndentation_eq (line behindNewline) _
  · rw [Bool.not_eq_true] at applies
    simp only [applies, Bool.false_eq_true, if_false, false_and]

/-! ## What is written for the nodes of a text -/

end Token

/-- The node of a literal text. -/
def Piece.textNode? : Piece → Option Node
  | .data text trim position => some (.data text trim position)
  | _ => none

/-- The nodes of the literal texts in each gap between other pieces: before the first of these,
between two neighbours, and after the last. -/
def textGaps (pieces : List Piece) : List (List Node) :=
  (pieces.splitOnP fun piece => piece.textNode?.isNone).map (List.filterMap Piece.textNode?)

theorem textGaps_cons {piece : Piece} (noText : piece.textNode? = none) (pieces : List Piece) :
    textGaps (piece :: pieces) = [] :: textGaps pieces := by
  rw [textGaps, List.splitOnP_cons_eq_if_modifyHead, noText]
  rfl

/-- A literal text goes to the first gap. -/
theorem textGaps_data (text : String) (trim : Trim) (position : Position)
    (pieces : List Piece) :
    textGaps (.data text trim position :: pieces) =
      (textGaps pieces).modifyHead (.data text trim position :: ·) := by
  rw [textGaps, List.splitOnP_cons_eq_if_modifyHead, Piece.textNode?, textGaps]
  cases List.splitOnP (fun piece => piece.textNode?.isNone) pieces <;> rfl

namespace Token

/-- Whether the nodes of a gap write a text: they do so wherever it fits, and nothing else
changes. -/
def Writes (nodes : List Node) (text : String) : Prop :=
  ∀ (effects : Effects) (depth : Nat) (environment : Environment) (store : Store)
    (sink : Sink), sink.takes text = true →
      ∃ after, (Interpreter.renderNodes effects depth environment nodes).run ⟨store, sink⟩ =
        some (.ok (), ⟨store, after⟩) ∧ after.text = sink.text ++ text

theorem writes_nil : Writes [] "" := by
  intro effects depth environment store sink _
  exact ⟨sink, rfl, by simp⟩

theorem writes_data (text : String) (trim : Trim) (position : Position) :
    Writes [.data text trim position] (Interpreter.trimmedText text trim) := by
  intro effects depth environment store sink takes
  have wrote : (Run.write (Interpreter.trimmedText text trim)).run ⟨store, sink⟩ =
      some (.ok (), ⟨store, sink.add (Interpreter.trimmedText text trim)⟩) :=
    if_pos takes
  refine ⟨sink.add (Interpreter.trimmedText text trim), ?_, Sink.text_add ..⟩
  simp only [Interpreter.renderNodes, Interpreter.renderNode]
  change (Run.write _ >>= fun _ => pure ()).run _ = _
  rw [bind_pure_unit]
  exact wrote

/-- The node that is read from the token of a literal text. -/
def textNode (token : Token) : Node :=
  .data token.text token.trim token.position

/-- The tokens of a literal text are its nodes in the gap before what follows. -/
theorem textGaps_textTokens (previous next : Option Lexeme) (laid : List Char × Position)
    (tokens : List Token) :
    textGaps (pieces (textTokens previous next laid ++ tokens)) =
      (textGaps (pieces tokens)).modifyHead
        ((textTokens previous next laid).map textNode ++ ·) := by
  rw [textTokens]
  split
  · rw [List.nil_append]
    cases textGaps (pieces tokens) <;> rfl
  · exact textGaps_data ..

/-- The dashes on both sides of a text strip what is written for it. -/
theorem trimmedText_ofList (text : List Char) (left right : Bool) :
    Interpreter.trimmedText (String.ofList text) ⟨left, right⟩ =
      String.ofList
        (let stripped := if left then text.dropWhile Segment.isStripped else text
        if right then stripped.rdropWhile Segment.isStripped else stripped) := by
  have blank : (fun character => character == ' ' || character == '\t' || character == '\n') =
      Segment.isStripped := by
    funext character
    rw [Bool.eq_iff_iff]
    simp [Segment.isStripped, or_assoc]
  simp only [Interpreter.trimmedText, blank, String.toList_ofList]
  rfl

/-- What is laid out of a text is written as the rules say. -/
theorem writes_textTokens (config : Config) {before : List Char} {previous : Option Lexeme}
    (here : Before before previous) (next : Option Lexeme) (content : List Char)
    (position : Position) :
    Writes ((textTokens previous next
        (layoutText config previous next content position)).map textNode)
      (String.ofList (Segment.written config
        ⟨before, previous.bind Lexeme.closingEdge?, content, next.bind Lexeme.openingEdge?⟩)) := by
  have left : previous.any Lexeme.closesWithDash =
      (previous.bind Lexeme.closingEdge?).any Edge.dash := by
    cases previous with
    | none => rfl
    | some lexeme => exact lexeme.closesWithDash_eq
  have right : next.any Lexeme.opensWithDash = (next.bind Lexeme.openingEdge?).any Edge.dash := by
    cases next with
    | none => rfl
    | some lexeme => exact lexeme.opensWithDash_eq
  have kept := layoutText_eq_kept config here next content position
  rw [textTokens, kept, left, right]
  split
  · rename_i nothing
    rw [Segment.written, List.isEmpty_iff.1 nothing]
    simpa using writes_nil
  · rw [List.map_singleton, textNode, Segment.written, ← trimmedText_ofList]
    exact writes_data _ _ _

/-! ## Sources -/

theorem head_ne_dash_of_splitDash {characters : List Char}
    (dash : (splitDash characters).1 = false) :
    (splitDash characters).2.head? ≠ some '-' := by
  fun_cases splitDash characters with
  | case1 rest => cases dash
  | case2 _ noDash =>
      intro first
      obtain ⟨rest, same⟩ := List.head?_eq_some_iff.1 first
      exact noDash rest same

theorem getLast_ne_dash_of_splitFinalDash {characters : List Char}
    (dash : (splitFinalDash characters).2 = false) :
    (splitFinalDash characters).1.getLast? ≠ some '-' := by
  rw [splitFinalDash] at dash ⊢
  split at dash
  · cases dash
  · rename_i noDash
    rwa [if_neg noDash]

/-- The rest of a source is divided by the marks of its layout, and the nodes in the gaps write
what the rules say. -/
def Divided (config : Config) (before characters : List Char) (previous : Option Lexeme)
    (read : List Lexeme) : Prop :=
  ∃ segments,
    Divides before (previous.bind Lexeme.closingEdge?) characters
        (marks (layout config previous read)) segments ∧
      List.Forall₂ (fun nodes segment => Writes nodes (String.ofList (segment.written config)))
        (textGaps (pieces (layout config previous read))) segments

/-- What is read from a point of a source on: what is divided, or the rest of a tag in front
of that. -/
def DividedIn (config : Config) (before characters : List Char) (read : List Lexeme) :
    Mode → Prop
  | .text => ∀ previous, Before before previous → Divided config before characters previous read
  | .tag tag _ =>
      ∃ inside closes rest words more,
        let closing := Lexeme.closing tag closes (Position.after (before ++ inside))
        characters = inside ++ Edge.closer ⟨.tag tag, closes⟩ ++ rest ∧
          (∀ word ∈ words, word.kind.isWord = true) ∧
          (closes = false → inside.getLast? ≠ some '-') ∧
          (∀ previous, layout config previous read =
            words ++
              plain tag.closes (String.ofList (Edge.closer ⟨.tag tag, closes⟩))
                (Position.after (before ++ inside)) :: layout config (some closing) more) ∧
          Divided config (before ++ inside ++ Edge.closer ⟨.tag tag, closes⟩) rest
            (some closing) more

/-- A text is written as the rules say if what follows it is. -/
theorem divided_text {config : Config} {before characters content : List Char}
    {previous : Option Lexeme} (here : Before before previous) {position : Position}
    {lexeme : Lexeme} {token : Token} {more : List Lexeme} {segments : List Segment}
    {gaps : List (List Node)}
    (laid : ∀ previous next, layoutLexeme config previous next lexeme = [token])
    (mark : token.isMark = true)
    (divides : Divides before (previous.bind Lexeme.closingEdge?) characters
      (token :: marks (layout config (some lexeme) more))
      (⟨before, previous.bind Lexeme.closingEdge?, content, lexeme.openingEdge?⟩ :: segments))
    (found : textGaps (pieces (token :: layout config (some lexeme) more)) = [] :: gaps)
    (writes : List.Forall₂
      (fun nodes segment => Writes nodes (String.ofList (segment.written config))) gaps segments) :
    Divided config before characters previous
      (textLexemes content position ++ lexeme :: more) := by
  refine ⟨⟨before, previous.bind Lexeme.closingEdge?, content, lexeme.openingEdge?⟩ :: segments,
    ?_, ?_⟩
  · rw [layout_text config previous content position laid, marks_textTokens,
      marks_cons_of_isMark mark]
    exact divides
  · rw [layout_text config previous content position laid, textGaps_textTokens, found,
      List.modifyHead_cons, List.append_nil]
    exact .cons (writes_textTokens config here (some lexeme) content position) writes

/-- A dash after an opening delimiter that has none would belong to it. -/
theorem head_ne_dash {rest inside after : List Char}
    (parts : (splitDash rest).2 = inside ++ after) (dash : (splitDash rest).1 = false) :
    inside.head? ≠ some '-' := by
  intro first
  apply head_ne_dash_of_splitDash dash
  rw [parts, List.head?_append, first]
  rfl

/-- The tokens of a tag are marks. -/
theorem marks_tag {words : List Token} (within : ∀ word ∈ words, word.kind.isWord = true)
    {closing : Token} (isMark : closing.isMark = true) (tokens : List Token) :
    marks (words ++ closing :: tokens) = words ++ closing :: marks tokens := by
  have all : marks words = words := by
    refine List.filter_eq_self.2 fun word member => ?_
    have isWord := within word member
    cases kind : word.kind <;> simp_all [Token.isMark, TokenKind.isWord]
  rw [marks, List.filter_append]
  exact congrArg₂ _ all (marks_cons_of_isMark isMark tokens)

/-- Between the texts on both sides of a tag there is one piece. -/
theorem textGaps_tag (tag : TagKind) {opening closing : Token} {words : List Token}
    (opens : opening.kind = tag.opens) (within : ∀ word ∈ words, word.kind.isWord = true)
    (closes : closing.kind = tag.closes) (tokens : List Token) :
    textGaps (pieces (opening :: (words ++ closing :: tokens))) =
      [] :: textGaps (pieces tokens) := by
  have skipped := pieces_words within (closing :: tokens)
  rw [pieces_closing tag closes] at skipped
  rcases tag with _ | _
  · simp only [pieces, opens, TagKind.opens, skipped]
    exact textGaps_cons rfl _
  · simp only [pieces, opens, TagKind.opens, skipped]
    cases words <;> exact textGaps_cons rfl _

/-- Blanks do not end with a dash. -/
theorem getLast_takeWhile_ne_dash (characters : List Char) :
    (characters.takeWhile Unicode.isBlank).getLast? ≠ some '-' := by
  intro ends
  have blank := List.all_eq_true.1 List.all_takeWhile _ (List.mem_of_getLast? ends)
  cases blank

/-- After a closing delimiter comes what a tag or comment is before. -/
theorem before_closing {before : List Char} {lexeme : Lexeme} {edge : Edge}
    (closes : lexeme.closingEdge? = some edge) : Before (before ++ edge.closer) (some lexeme) where
  start none := by cases none
  after := by
    rintro _ ⟨⟩
    rcases edge with ⟨(_ | _) | _, dash⟩ <;>
      simp [Edge.closer, Construct.closer, TagKind.closer, closes]

/-- A comment is the characters between its delimiters. -/
theorem append_closer_comment {characters body after : List Char}
    (found : splitComment characters = some (body, after)) :
    characters = (splitFinalDash body).1 ++
      Edge.closer ⟨.comment, (splitFinalDash body).2⟩ ++ after := by
  rw [Edge.closer, ← List.append_assoc, splitFinalDash_append, ← splitComment_append found]
  simp [Construct.closer]

variable {config : Config} {before characters : List Char} {previous : Option Lexeme}

/-- The text before a comment is divided from what follows the comment. -/
theorem divided_comment {rest body after : List Char} {more : List Lexeme}
    (start : Before before previous)
    (next : (splitText characters).2 = some (.comment, rest))
    (found : splitComment (splitDash rest).2 = some (body, after)) (position : Position)
    {now : Position} (here : now = Position.after (before ++ (splitText characters).1)) :
    let content := (splitText characters).1
    let lexeme :=
      Lexeme.comment (splitDash rest).1 (splitFinalDash body).1 (splitFinalDash body).2 now
    DividedIn config (before ++ content ++ lexeme.spelling) after more .text →
      Divided config before characters previous
        (textLexemes content position ++ lexeme :: more) := by
  intro content lexeme divided
  have spelled : lexeme.spelling =
      Edge.opener ⟨.comment, (splitDash rest).1⟩ ++ (splitFinalDash body).1 ++
        Edge.closer ⟨.comment, (splitFinalDash body).2⟩ := by
    simp [lexeme, Lexeme.spelling, Edge.opener, Edge.closer, Construct.mark, Construct.closer]
  rw [spelled] at divided
  simp only [← List.append_assoc] at divided
  obtain ⟨segments, divides, writes⟩ := divided (some lexeme) (before_closing rfl)
  have literal := literal_literalPart characters
  rw [literalPart, next] at literal
  have parts := append_closer_comment found
  have whole := append_comment next found now
  change characters = content ++ (lexeme.spelling ++ after) at whole
  refine divided_text start (fun _ _ => rfl) rfl ?_ rfl writes
  rw [spelled] at whole
  simp only [← List.append_assoc] at whole
  rw [whole]
  refine .comment literal rfl here (head_ne_dash parts) ?_ getLast_ne_dash_of_splitFinalDash
    divides
  rw [splitFinalDash_append]
  exact no_closer_in_body found

/-- The text before a tag is divided from what follows the tag. -/
theorem divided_tag {rest : List Char} {tag : TagKind} {more : List Lexeme}
    (start : Before before previous)
    (next : (splitText characters).2 = some (.tag tag, rest)) (opened position : Position)
    {now : Position} (here : now = Position.after (before ++ (splitText characters).1)) :
    let content := (splitText characters).1
    let lexeme := Lexeme.opening tag (splitDash rest).1 now
    DividedIn config (before ++ content ++ lexeme.spelling) (splitDash rest).2 more
        (.tag tag opened) →
      Divided config before characters previous
        (textLexemes content position ++ lexeme :: more) := by
  subst here
  intro content lexeme
  rintro ⟨inside, closes, after, words, others, parts, within, closing, laid, segments,
    divides, writes⟩
  have literal := literal_literalPart characters
  rw [literalPart, next] at literal
  have spelled : lexeme.spelling = Edge.opener ⟨.tag tag, (splitDash rest).1⟩ := rfl
  have whole := append_opening next (Position.after (before ++ content))
  rw [parts] at whole
  change characters = content ++ (lexeme.spelling ++ _) at whole
  simp only [← List.append_assoc] at whole
  rw [spelled] at divides writes whole laid
  have opening (previous next : Option Lexeme) : layoutLexeme config previous next lexeme =
      [plain tag.opens (String.ofList (Edge.opener ⟨.tag tag, (splitDash rest).1⟩))
        (Position.after (before ++ content))] :=
    rfl
  refine divided_text start opening (by cases tag <;> rfl) ?_ ?_ writes
  · rw [laid, marks_tag within (by cases tag <;> rfl), whole]
    exact .tag tag literal (head_ne_dash parts) within closing divides
  · rw [laid]
    exact textGaps_tag tag rfl within rfl _

/-- A dash at the end of the words of a tag would belong to the delimiter that closes it. -/
theorem getLast_word_ne_dash {first : Char} {rest inside after : List Char} {tag : TagKind}
    {word : Word} (noCloser : splitCloser? tag (first :: rest) = none)
    (read : readWord first rest = .ok word)
    (parts : rest.drop word.length = inside ++ tag.closer ++ after)
    (closing : inside.getLast? ≠ some '-') (blanks : List Char) :
    (blanks ++ first :: rest.take word.length ++ inside).getLast? ≠ some '-' := by
  intro ends
  rw [List.getLast?_append] at ends
  cases last : inside.getLast? with
  | some character =>
      rw [last] at ends
      exact closing (last.trans ends)
  | none =>
      have lastOfWord : (first :: rest.take word.length).getLast? = some '-' := by
        rw [last, Option.none_or, List.getLast?_append, List.getLast?_cons, Option.some_or] at ends
        rw [List.getLast?_cons]
        exact ends
      obtain ⟨rfl, short⟩ := eq_dash_of_readWord read lastOfWord
      rw [List.getLast?_eq_none_iff.1 last, short, List.drop_zero, List.nil_append] at parts
      rw [parts] at noCloser
      cases tag <;> simp [splitCloser?, TagKind.closer, Text.dropBeginning?] at noCloser

/-- A tag goes on after a word. -/
theorem dividedIn_word {first : Char} {rest : List Char} {tag : TagKind} {opened : Position}
    {word : Word} {more : List Lexeme}
    (remaining : characters.dropWhile Unicode.isBlank = first :: rest)
    (noCloser : splitCloser? tag (first :: rest) = none)
    (read : readWord first rest = .ok word) {now : Position}
    (here : now = Position.after (before ++ characters.takeWhile Unicode.isBlank)) :
    let blanks := characters.takeWhile Unicode.isBlank
    let lexeme := Lexeme.word word.kind word.text (first :: rest.take word.length) now
    DividedIn config (before ++ blanks ++ lexeme.spelling) (rest.drop word.length) more
        (.tag tag opened) →
      DividedIn config before characters (lexeme :: more) (.tag tag opened) := by
  subst here
  intro blanks lexeme
  rintro ⟨inside, closes, after, words, others, parts, within, closing, laid, divided⟩
  have whole : characters = blanks ++ lexeme.spelling ++ rest.drop word.length := by
    have split := List.takeWhile_append_dropWhile (p := Unicode.isBlank) (l := characters)
    rw [remaining] at split
    simp [blanks, lexeme, Lexeme.spelling, split]
  refine ⟨blanks ++ lexeme.spelling ++ inside, closes, after,
    plain word.kind word.text (Position.after (before ++ blanks)) :: words, others,
    ?_, ?_, ?_, ?_, ?_⟩
  · rw [parts] at whole
    simpa only [List.append_assoc] using whole
  · rintro other member
    rcases List.mem_cons.1 member with rfl | member
    · exact isWord_of_readWord read
    · exact within other member
  · rintro rfl
    exact getLast_word_ne_dash noCloser read parts (closing rfl) blanks
  · intro previous
    simp only [← List.append_assoc]
    rw [layout, laid]
    rfl
  · simp only [← List.append_assoc]
    exact divided

/-- A tag ends at the delimiter that closes it. -/
theorem dividedIn_closing {first : Char} {rest after : List Char} {tag : TagKind}
    {opened : Position} {dash : Bool} {more : List Lexeme}
    (remaining : characters.dropWhile Unicode.isBlank = first :: rest)
    (closed : splitCloser? tag (first :: rest) = some (dash, after)) {now : Position}
    (here : now = Position.after (before ++ characters.takeWhile Unicode.isBlank)) :
    let blanks := characters.takeWhile Unicode.isBlank
    let lexeme := Lexeme.closing tag dash now
    DividedIn config (before ++ blanks ++ lexeme.spelling) after more .text →
      DividedIn config before characters (lexeme :: more) (.tag tag opened) := by
  subst here
  intro blanks lexeme divided
  have whole : characters = blanks ++ Edge.closer ⟨.tag tag, dash⟩ ++ after := by
    have split := List.takeWhile_append_dropWhile (p := Unicode.isBlank) (l := characters)
    rw [remaining, ← splitCloser_append closed] at split
    simpa [Edge.closer, Construct.closer] using split.symm
  refine ⟨blanks, dash, after, [], more, whole, by simp,
    fun _ => getLast_takeWhile_ne_dash characters, ?_, ?_⟩
  · intro previous
    rw [layout, layoutLexeme]
    rfl
  · have start : Before (before ++ blanks ++ Edge.closer ⟨.tag tag, dash⟩) (some lexeme) :=
      before_closing rfl
    exact divided (some lexeme) start

/-- What is read from a point of a source on is divided. -/
theorem dividedIn_layout {mode : Mode} {position : Position} {characters : List Char}
    {read : List Lexeme} (taken : lexemes mode position characters = .ok read)
    {before : List Char} (here : position = Position.after before) :
    DividedIn config before characters read mode := by
  fun_induction lexemes mode position characters generalizing read before with
  | case1 position characters content now =>
      rename_i next
      cases taken
      intro previous start
      have literal := literal_literalPart characters
      rw [literalPart, next, splitText_fst_eq next] at literal
      have whole : characters = content := (splitText_fst_eq next).symm
      have last : now = Position.after (before ++ content) := Position.advance_of_eq here content
      refine divided_text start (fun _ _ => rfl) rfl ?_ rfl .nil
      rw [last, whole]
      exact .finish (by simpa [whole] using literal)
  | case2 => cases taken
  | case3 position characters content now rest next body after found =>
      rename_i parts lexeme inductionHypothesis
      obtain ⟨more, readMore, rfl⟩ := exists_of_map_eq_ok taken
      intro previous start
      have last : now = Position.after (before ++ content) := Position.advance_of_eq here content
      exact divided_comment start next found position last
        (inductionHypothesis readMore (Position.advance_of_eq last _))
  | case4 position characters content now tag rest next =>
      rename_i lexeme inductionHypothesis
      obtain ⟨more, readMore, rfl⟩ := exists_of_map_eq_ok taken
      intro previous start
      have last : now = Position.after (before ++ content) := Position.advance_of_eq here content
      exact divided_tag start next now position last
        (inductionHypothesis readMore (Position.advance_of_eq last _))
  | case5 => cases taken
  | case6 position characters tag opened now first rest remaining dash after closed lexeme =>
      rename_i inductionHypothesis
      obtain ⟨more, readMore, rfl⟩ := exists_of_map_eq_ok taken
      have last : now = Position.after (before ++ characters.takeWhile Unicode.isBlank) :=
        Position.advance_of_eq here _
      exact dividedIn_closing remaining closed last
        (inductionHypothesis readMore (Position.advance_of_eq last _))
  | case7 => cases taken
  | case8 position characters tag opened now first rest remaining closed word readFirst lexeme =>
      rename_i inductionHypothesis
      obtain ⟨more, readMore, rfl⟩ := exists_of_map_eq_ok taken
      have last : now = Position.after (before ++ characters.takeWhile Unicode.isBlank) :=
        Position.advance_of_eq here _
      exact dividedIn_word remaining closed readFirst last
        (inductionHypothesis readMore (Position.advance_of_eq last _))

/-- The marks of a source divide it, less one final newline that the configuration may leave
out, into segments of literal text.  For each segment the nodes that are read from its tokens
write what the rules keep of it, and these nodes stand between the tags and comments of every
template that is read from the source. -/
theorem written_of_tokenize {source : String} {tokens : List Token}
    (read : tokenize config source = .ok tokens) :
    ∃ characters ending segments,
      source.toList = characters ++ ending ∧
        ending = (if config.keepTrailingNewline = false ∧ source.toList.getLast? = some '\n'
          then ['\n'] else []) ∧
        Divides [] none characters (marks tokens) segments ∧
        List.Forall₂ (fun nodes segment => Writes nodes (String.ofList (segment.written config)))
          (textGaps (pieces tokens)) segments ∧
        ∀ statements loader identifier loadParent lineage,
          Lineage.read config statements loader identifier source loadParent = .ok lineage →
            textGaps lineage.layer.pieces = textGaps (pieces tokens) := by
  have listed (statements : Registry StatementKind) (loader : Loader) (identifier : String)
      (loadParent : String → Except TemplateError Lineage) (lineage : Lineage)
      (loaded : Lineage.read config statements loader identifier source loadParent =
        .ok lineage) : textGaps lineage.layer.pieces = textGaps (pieces tokens) := by
    have meets := Lineage.read_meets statements loader identifier loadParent (fun _ => True) read
      (fun _ _ => trivial) fun _ _ _ => trivial
    rw [loaded] at meets
    exact congrArg textGaps meets
  rw [tokenize_eq] at read
  obtain ⟨taken, found, rfl⟩ := exists_of_map_eq_ok read
  have start : Before [] none := ⟨fun _ => rfl, fun _ none => by cases none⟩
  have divided : DividedIn config [] (sourceCharacters config source) taken .text :=
    dividedIn_layout found rfl
  obtain ⟨segments, divides, writes⟩ := divided none start
  exact ⟨sourceCharacters config source, _, segments, sourceCharacters_append config source, rfl,
    divides, writes, listed⟩

/-- The configuration that drops newlines after block tags and indentations before them. -/
private def dropping : Config :=
  switched .default true true

/-- A newline and indentations around block tags, and dashes on either side of texts. -/
private def spaced : String :=
  "a \n \t\x7b% if b -%\x7d \n c\t\x7b%- endif %\x7d\n  \x7b% if d %\x7d\n" ++
    "\x7b% endif %\x7d \x7b#- e -#\x7d \n f\n"

/-- A template is read from this source, with six gaps for literal text. -/
theorem written_spaced :
    ∃ tokens lineage, tokenize dropping spaced = .ok tokens ∧
      Lineage.read dropping Registries.standardStatements .empty "page" spaced
          (fun filename => .error (.recursion filename 0)) = .ok lineage ∧
        (textGaps lineage.layer.pieces).length = 6 ∧
          ∃ characters segments, spaced.toList = characters ++ ['\n'] ∧
            Divides [] none characters (marks tokens) segments ∧
              List.Forall₂
                (fun nodes segment => Writes nodes (String.ofList (segment.written dropping)))
                (textGaps lineage.layer.pieces) segments := by
  have evaluated : ((Lineage.read dropping Registries.standardStatements .empty "page" spaced
      (fun filename => .error (.recursion filename 0))).toOption.map fun lineage =>
        (textGaps lineage.layer.pieces).length) = some 6 := by
    decide +kernel
  cases tokenized : tokenize dropping spaced with
  | error error =>
      rw [Lineage.read, tokenized] at evaluated
      cases evaluated
  | ok tokens =>
      cases loaded : Lineage.read dropping Registries.standardStatements .empty "page" spaced
          (fun filename => .error (.recursion filename 0)) with
      | error error =>
          rw [loaded] at evaluated
          cases evaluated
      | ok lineage =>
          rw [loaded] at evaluated
          obtain ⟨characters, ending, segments, parts, last, divides, writes, listed⟩ :=
            written_of_tokenize tokenized
          have final : ending = ['\n'] := last.trans (by decide +kernel)
          rw [← listed _ _ _ _ lineage loaded] at writes
          exact ⟨tokens, lineage, rfl, rfl, Option.some.inj evaluated, characters, segments,
            final ▸ parts, divides, writes⟩

end Token

end TemplateEngine

import TemplateEngine.Proofs.Completing
import TemplateEngine.Proofs.Delimiting.Words
import TemplateEngine.Proofs.Reading

/-!
# One expression in both kinds of tag

What an assignment gives to its target can be written by an output tag as well, and read for
itself: the words are the same, and expressions depend on nothing else.  There is one exception.
Where two closing braces stand side by side, as behind a dictionary in a dictionary, the output
tag is closed, although its expression is not finished.
-/

namespace TemplateEngine

/-- The source that gives a name what a text means. -/
def assignmentTag (source : String) : String :=
  "\x7b% set x = " ++ source ++ " %\x7d"

/-- The source that writes what a text means. -/
def outputTag (source : String) : String :=
  "\x7b\x7b " ++ source ++ " \x7d\x7d"

namespace Token

/-! ## The tokens of the sources -/

section Sources

variable {config : Config} {source : String} {position : Position} {read : List Lexeme}
  {words tokens : List Token} {closing : Token}

/-- A literal text keeps what follows it from being nothing. -/
theorem pieces_layout_text {content : List Char} {previous : Option Lexeme} {lexeme : Lexeme}
    {more : List Lexeme}
    (nothing : pieces (layout config previous (textLexemes content position ++ lexeme :: more)) =
      []) :
    ∃ previous, pieces (layout config previous (lexeme :: more)) = [] := by
  rw [textLexemes] at nothing
  split at nothing
  · exact ⟨previous, nothing⟩
  · rw [List.singleton_append, layout, layoutLexeme] at nothing
    generalize layoutText config previous _ content position = text at nothing
    rcases text with ⟨kept, start⟩
    rw [textTokens] at nothing
    split at nothing
    · exact ⟨_, nothing⟩
    · cases nothing

/-- The end of a tag is no blank line that a configuration drops. -/
theorem layoutText_ending (config : Config) (tag : TagKind) (front : List Char)
    (position : Position) (previous : Option Lexeme) (finish : Position) :
    (layoutText config previous (some (.finish finish)) (front ++ tag.ending) position).1 ≠ [] := by
  have notOpening : (config.lstripBlocks &&
      (some (Lexeme.finish finish)).any Lexeme.opensBlockPlainly) = false := by
    simp [Lexeme.opensBlockPlainly]
  simp only [layoutText, dropNewline, notOpening, Bool.false_eq_true, if_false]
  intro none
  have length := congrArg List.length none
  have closerLength : tag.closer.length = 2 := by rcases tag with _ | _ <;> rfl
  split at length <;>
    simp [TagKind.ending, closerLength] at length

/-- A source that goes on with the end of a tag lists something more. -/
theorem pieces_layout_ne_nil {tag : TagKind} {front : List Char}
    (taken : lexemes .text position (front ++ tag.ending) = .ok read) (previous : Option Lexeme) :
    pieces (layout config previous read) ≠ [] := by
  intro nothing
  rw [lexemes] at taken
  split at taken
  · rename_i last
    rw [splitText_fst_eq last] at taken
    cases taken
    rw [textLexemes, if_neg (by simp [TagKind.ending]), List.singleton_append, layout,
      layoutLexeme, List.head?_cons] at nothing
    have kept := layoutText_ending config tag front position previous
      (position.advance (front ++ tag.ending))
    generalize layoutText config previous _ (front ++ tag.ending) position = text at nothing kept
    rcases text with ⟨characters, start⟩
    rw [textTokens, if_neg (by simpa using kept)] at nothing
    cases nothing
  · split at taken
    · cases taken
    · obtain ⟨more, _, rfl⟩ := exists_of_map_eq_ok taken
      obtain ⟨previous, nothing⟩ := pieces_layout_text nothing
      cases nothing
  · rename_i other rest _
    obtain ⟨more, readMore, rfl⟩ := exists_of_map_eq_ok taken
    obtain ⟨previous, nothing⟩ := pieces_layout_text nothing
    rcases other with _ | _
    · cases nothing
    · obtain ⟨words, closing, after, laidOut, _⟩ := follows_layout config readMore
        (some (.opening .block (splitDash rest).1 (position.advance (splitText _).1)))
      rw [layout, laidOut] at nothing
      cases words <;> cases nothing

/-- Tokens that begin with a tag. -/
structure Tagged (tag : TagKind) (tokens : List Token) (opening : Token) (words : List Token)
    (closing : Token) (rest : List Token) : Prop where
  split : tokens = opening :: (words ++ closing :: rest)
  opens : opening.kind = tag.opens
  inside : ∀ word ∈ words, word.kind.isWord = true
  closes : closing.kind = tag.closes

/-- A tag lists one piece. -/
theorem Tagged.pieces_eq {tag : TagKind} {opening : Token} {rest : List Token}
    (tagged : Tagged tag tokens opening words closing rest) :
    ∃ piece, pieces tokens = piece :: pieces rest := by
  rw [tagged.split]
  rcases tag with _ | _
  · exact ⟨_, pieces_outputTag tagged.opens tagged.inside tagged.closes rest⟩
  · cases words with
    | nil =>
        have opens : opening.kind = .blockBegin := tagged.opens
        refine ⟨.tag closing.text, ?_⟩
        rw [List.nil_append, pieces, opens, pieces_closing .block tagged.closes]
        rfl
    | cons name words => exact ⟨_, pieces_blockTag tagged.opens tagged.inside tagged.closes rest⟩

/-- The words of a tag are laid out between its delimiters. -/
theorem tagged_layout {tag : TagKind} {lexed : List Lexeme} {dash : Bool} {closed : Position}
    (config : Config) (spelled : lexed.map Lexeme.word? = words.map some)
    (inside : ∀ word ∈ words, word.kind.isWord = true) (more : List Lexeme) :
    ∃ opening closing, Tagged tag
      (layout config none (.opening tag false position ::
        (lexed ++ .closing tag dash closed :: more))) opening words closing
          (layout config (some (.closing tag dash closed)) more) := by
  obtain ⟨last, laidOut⟩ := layout_words spelled config (some (.opening tag false position))
    (.closing tag dash closed :: more)
  rw [layout, laidOut, layout]
  rcases tag with _ | _
  · exact ⟨_, _, rfl, rfl, inside, rfl⟩
  · exact ⟨_, _, rfl, rfl, inside, rfl⟩

/-- What stands in an assignment in front of its value. -/
def assignmentStart : List Char :=
  ['s', 'e', 't', ' ', 'x', ' ', '=', ' ']

theorem toList_assignmentTag (source : String) :
    (assignmentTag source).toList = TagKind.block.opener ++
      ' ' :: (assignmentStart ++ source.toList ++ TagKind.block.ending) := by
  simp [assignmentTag, assignmentStart, TagKind.opener, TagKind.mark, TagKind.ending,
    TagKind.closer]

theorem toList_outputTag (source : String) :
    (outputTag source).toList = TagKind.variable.opener ++
      ' ' :: (source.toList ++ TagKind.variable.ending) := by
  simp [outputTag, TagKind.opener, TagKind.mark, TagKind.ending, TagKind.closer]

/-- The assignment ends with the source, or something follows it. -/
theorem tagged_assignmentTag (tokenized : tokenize config (assignmentTag source) = .ok tokens) :
    ∃ opening words closing rest, Tagged .block tokens opening words closing rest ∧
      ((∃ last, rest = [last] ∧ last.kind = .eof) ∧
          (∃ start, Worded start (' ' :: (assignmentStart ++ source.toList)) words) ∨
        pieces rest ≠ []) := by
  obtain ⟨inside, opened⟩ := tokenize_of_toList (toList_assignmentTag source) config
  rw [opened] at tokenized
  obtain ⟨read, taken, rfl⟩ := exists_of_map_eq_ok tokenized
  obtain ⟨lexed, words, dash, closed, more, after, rfl, spelled, readMore, ends⟩ :=
    endsBlock_of_lexemes (show lexemes (.tag .block Position.start) inside
      (' ' :: (assignmentStart ++ source.toList) ++ TagKind.block.ending) = _ from taken)
  obtain ⟨opening, closing, tagged⟩ := tagged_layout config spelled.1 spelled.2 more
  refine ⟨opening, words, closing, _, tagged, ?_⟩
  rcases ends with ⟨rfl, worded⟩ | ⟨front, rfl⟩
  · rw [lexemes_nil] at readMore
    cases readMore
    exact .inl ⟨⟨_, rfl, rfl⟩, inside, worded⟩
  · exact .inr (pieces_layout_ne_nil readMore _)

/-- Where an output tag ends within its source, something follows it. -/
theorem tagged_outputTag (cuts : Cuts source.toList TagKind.variable.ending)
    (tokenized : tokenize config (outputTag source) = .ok tokens) :
    ∃ opening words closing rest, Tagged .variable tokens opening words closing rest ∧
      pieces rest ≠ [] := by
  obtain ⟨inside, opened⟩ := tokenize_of_toList (toList_outputTag source) config
  obtain ⟨lexed, signs, dash, closed, front, signed, areWords, taken⟩ :=
    (scans_space.cuts (by simp) cuts) Position.start inside
  rw [opened, show ' ' :: (source.toList ++ TagKind.variable.ending) =
    [' '] ++ source.toList ++ TagKind.variable.ending from rfl, taken] at tokenized
  obtain ⟨read, found, rfl⟩ := exists_of_map_eq_ok tokenized
  obtain ⟨more, readMore, rfl⟩ := exists_of_map_eq_ok found
  obtain ⟨words, spelled, rfl⟩ := exists_words signed
  obtain ⟨opening, closing, tagged⟩ := tagged_layout config spelled
    (fun word member => areWords word.sign (List.mem_map_of_mem member)) more
  exact ⟨opening, words, closing, _, tagged, pieces_layout_ne_nil readMore _⟩

/-- The words of an assignment are its name, its target, the sign between the target and the
value, and the words of the value. -/
theorem Worded.of_assignment {characters : List Char}
    (worded : Worded position (' ' :: (assignmentStart ++ characters)) words) :
    ∃ first second third start others,
      words = plain .name "set" first :: plain .name "x" second :: plain .operator "=" third ::
        others ∧ Worded start characters others := by
  have isSet (rest : List Char) :
      readWord 's' ('e' :: 't' :: ' ' :: rest) = .ok ⟨.name, "set", 2⟩ := rfl
  have isTarget (rest : List Char) : readWord 'x' (' ' :: rest) = .ok ⟨.name, "x", 0⟩ := rfl
  have isEquals (rest : List Char) : readWord '=' (' ' :: rest) = .ok ⟨.operator, "=", 0⟩ := rfl
  obtain ⟨afterSet, rfl, more⟩ := (worded.of_blank (by decide)).of_word (by decide) (isSet _)
  have behindSet : Worded _ (' ' :: 'x' :: ' ' :: '=' :: ' ' :: characters) afterSet := more
  obtain ⟨afterTarget, rfl, moreTarget⟩ :=
    (behindSet.of_blank (by decide)).of_word (by decide) (isTarget _)
  have behindTarget : Worded _ (' ' :: '=' :: ' ' :: characters) afterTarget := moreTarget
  obtain ⟨others, rfl, moreEquals⟩ :=
    (behindTarget.of_blank (by decide)).of_word (by decide) (isEquals _)
  have behindEquals : Worded _ (' ' :: characters) others := moreEquals
  exact ⟨_, _, _, _, others, rfl, behindEquals.of_blank (by decide)⟩

/-- What is no brace does not meet one. -/
theorem bracesMeet_cons_of_kind {token : Token} (kind : token.kind ≠ .operator)
    (rest : List Token) : bracesMeet (token :: rest) = bracesMeet rest := by
  cases rest with
  | nil => rfl
  | cons second rest => simp [bracesMeet, isOperator, kind]

theorem bracesMeet_append {token : Token} (kind : token.kind ≠ .operator) (rest : List Token) :
    bracesMeet (words ++ token :: rest) = (bracesMeet words || bracesMeet rest) := by
  fun_induction bracesMeet words with
  | case1 first second words inductionHypothesis =>
      rw [List.cons_append] at inductionHypothesis
      rw [List.cons_append, List.cons_append, bracesMeet, inductionHypothesis, Bool.or_assoc]
  | case2 words short =>
      cases words with
      | nil => exact bracesMeet_cons_of_kind kind rest
      | cons first others =>
          cases others with
          | nil =>
            rw [List.singleton_append, bracesMeet, bracesMeet_cons_of_kind kind]
            simp [isOperator, kind]
          | cons second others => exact (short first second others rfl).elim

/-- Braces meet in the tokens of an assignment where they meet in its value. -/
theorem bracesMeet_assignment {opening last : Token} {first second third : Position}
    (tagged : Tagged .block tokens opening
      (plain .name "set" first :: plain .name "x" second :: plain .operator "=" third :: words)
      closing [last]) : bracesMeet tokens = bracesMeet words := by
  have opens : opening.kind ≠ .operator := by simp [tagged.opens, TagKind.opens]
  have closes : closing.kind ≠ .operator := by simp [tagged.closes, TagKind.closes]
  have nothing : bracesMeet [last] = false := rfl
  rw [tagged.split, bracesMeet_cons_of_kind opens, bracesMeet_append closes, nothing,
    Bool.or_false, bracesMeet_cons_of_kind (by simp [plain]),
    bracesMeet_cons_of_kind (by simp [plain])]
  cases words with
  | nil => rfl
  | cons word words => simp [bracesMeet, isOperator, plain]

end Sources

end Token

/-! ## The contents of the tags -/

namespace TagReader

/-- An expression that fills an output tag is all that the tag holds. -/
theorem run_output {cursor after : Cursor} {value : Expression}
    (ran : wholeExpression.run.run cursor = (.ok value, after)) (position : Position) :
    ((output position).run.run cursor).1 = .ok ⟨value, none, none, position⟩ := by
  rw [wholeExpression, run_bind] at ran
  rw [output, run_bind]
  generalize expression.run.run cursor = outcome at ran
  rcases outcome with ⟨_ | read, ⟨_ | ⟨token, rest⟩, start, finish⟩⟩
  · cases ran
  · cases ran
  · cases ran
    rfl
  · cases ran

/-- The value of an assignment fills the rest of its tag. -/
theorem run_assignmentHeader {words : List Token} {first second start finish : Position}
    {target : String} {value : Expression}
    (ran : (assignmentHeader.run.run
      ⟨Token.plain .name "x" first :: Token.plain .operator "=" second :: words, start,
        finish⟩).1 = .ok (target, some value)) :
    ∃ after, wholeExpression.run.run ⟨words, start, finish⟩ = (.ok value, after) := by
  have reads : (assignmentHeader.run.run
      ⟨Token.plain .name "x" first :: Token.plain .operator "=" second :: words, start,
        finish⟩).1 = ((wholeExpression >>= fun value => pure ("x", some value)).run.run
          ⟨words, start, finish⟩).1 := rfl
  rw [reads, run_bind] at ran
  generalize wholeExpression.run.run ⟨words, start, finish⟩ = outcome at ran
  rcases outcome with ⟨_ | read, after⟩
  · cases ran
  · cases ran
    exact ⟨after, rfl⟩

/-- What one tag reads as an expression is read by every other tag with the same words. -/
theorem wholeExpression_again {tokens : List Token} {start finish : Position} {value : Expression}
    {after : Cursor} (ran : wholeExpression.run.run ⟨tokens, start, finish⟩ = (.ok value, after))
    (cursor : Cursor) (same : cursor.remaining.map Token.sign = tokens.map Token.sign) :
    ∃ read after, wholeExpression.run.run cursor = (.ok read, after) ∧
      read.unplaced = value.unplaced := by
  obtain ⟨_, _, reading⟩ := reads_of_wholeExpression ran
  obtain ⟨read, like, again⟩ := takes_wholeExpression_of_within reading cursor cursor.remaining []
    (List.append_nil _).symm same rfl
  exact ⟨read, _, again, like⟩

end TagReader

namespace SourceReader

open Token (Stream Tagged)

variable {α β : Type} {setting : SourceSetting} {bound : Nat} {bodies : BodyReader}
  {before : SourceState}

/-- What is wanted of the last reader may be met whatever was read before. -/
theorem Meets.later {reader : SourceReader α} {continuation : α → SourceReader β}
    {last : β → SourceState → Prop}
    (next : ∀ value after, Meets (fun _ => True) (continuation value) after last) :
    Meets (fun _ => True) (reader >>= continuation) before last := by
  have anything : Meets (fun _ => True) reader before fun _ _ => True := by
    rw [Meets]
    split <;> exact True.intro
  exact anything.bind fun value after _ => next value after

/-- If a statement gives a name a value, its tag is the header of an assignment. -/
def Assigns (cursor : Cursor) (described : Statement Node) : Prop :=
  ∀ target value, described = .assignment target value →
    (TagReader.assignmentHeader.run.run cursor).1 = .ok (target, some value)

theorem within_reads {reader : TagReader α} (cursor : Cursor) :
    Meets (fun _ => True) (within cursor reader) before fun value _ =>
      (reader.run.run cursor).1 = .ok value := by
  rw [within]
  split
  · assumption
  · exact True.intro

theorem statement_assigns (kind : StatementKind) (cursor : Cursor) :
    Meets (fun _ => True) (statement setting bound bodies kind cursor) before
      fun described _ => Assigns cursor described := by
  cases kind with
  | conditional =>
      exact .later fun _ _ => .later fun _ _ _ _ same => nomatch same
  | loop =>
      refine .later fun _ _ => .later fun _ _ => .later fun _ _ => .ite (fun _ => ?_) fun _ => ?_
      · exact .later fun _ _ => .later fun _ _ _ _ same => nomatch same
      · exact fun _ _ same => nomatch same
  | assignment =>
      refine (within_reads cursor).bind ?_
      rintro ⟨target, _ | value⟩ _ given
      · exact .later fun _ _ => .later fun _ _ _ _ same => nomatch same
      · intro other read same
        cases same
        exact given
  | block =>
      refine .later fun _ _ => .later fun _ _ => .later fun _ _ => .later fun _ _ =>
        .ite (fun _ => True.intro) fun _ => ?_
      exact .later fun _ _ _ _ same => nomatch same
  | parent =>
      refine .later fun _ _ => .later fun _ _ => .ite (fun _ => True.intro) fun _ => ?_
      exact .later fun _ _ => .later fun _ _ _ _ same => nomatch same
  | definition =>
      refine .later fun _ _ => .later fun _ _ => .later fun _ _ => .later fun _ _ => ?_
      exact fun _ _ same => nomatch same
  | importModule =>
      refine (within_reads cursor).weaken fun described _ given => ?_
      exact TagReader.gives_importModuleHeader (fun _ _ _ _ _ same => nomatch same) cursor _ given
  | importNames =>
      refine (within_reads cursor).weaken fun described _ given => ?_
      exact TagReader.gives_importNamesHeader (fun _ _ _ _ _ same => nomatch same) cursor _ given
  | inclusion =>
      refine (within_reads cursor).weaken fun described _ given => ?_
      exact TagReader.gives_inclusionHeader (fun _ _ _ _ _ same => nomatch same) cursor _ given
  | box =>
      refine .later fun _ _ => .later fun _ _ => .later fun _ _ => .later fun _ _ =>
        .ite (fun _ => ?_) fun _ => ?_
      · exact .later fun _ _ _ _ same => nomatch same
      · exact fun _ _ same => nomatch same

/-- What is read first of an assignment. -/
theorem nodesToEnd_assigns {opening name closing : Token} {words rest : List Token}
    (boundary : Stream true before.remaining)
    (tagged : Tagged .block before.remaining opening (name :: words) closing rest) :
    Meets (fun _ => True) (nodesToEnd setting (bound + 1)) before fun nodes _ =>
      ∀ tag described position others, nodes = .statement tag described position :: others →
        Assigns ⟨words, name.position, closing.position⟩ described := by
  have opens : opening.kind = .blockBegin := tagged.opens
  have inside : ∀ word ∈ words, word.kind.isWord = true :=
    fun word member => tagged.inside word (List.mem_cons_of_mem name member)
  refine (atEnd_meets boundary).bind ?_
  rintro ended before ⟨rfl, -, -⟩
  refine .ite (fun _ _ _ _ _ none => nomatch none) fun _ => ?_
  have read : Meets (fun _ => True) (node setting bound (bodyOf setting (nodesUntil setting bound)))
      before fun node _ => ∀ tag described position, node = .statement tag described position →
        Assigns ⟨words, name.position, closing.position⟩ described := by
    refine (next?_meets tagged.split).bind ?_
    rintro _ _ ⟨rfl, rfl⟩
    simp only [opens]
    refine (next?_meets rfl).bind ?_
    rintro _ _ ⟨rfl, rfl⟩
    refine .ite (fun _ => ?_) fun _ => True.intro
    split
    · exact True.intro
    · refine (tag_meets .block inside tagged.closes rfl name.position).bind ?_
      rintro cursor _ ⟨rfl, rfl⟩
      refine (statement_assigns _ _).bind fun described _ assigns => ?_
      intro tag other position same
      cases same
      exact assigns
  refine read.bind fun first _ assigns => .later fun others _ => ?_
  intro tag described position more same
  cases same
  exact assigns tag described position rfl

/-- What is read of an output tag that ends the source. -/
theorem nodesToEnd_writes {opening closing last : Token} {words : List Token} {written : Output}
    (boundary : Stream true before.remaining)
    (tagged : Tagged .variable before.remaining opening words closing [last])
    (ends : last.kind = .eof) (some : words ≠ [])
    (given : ((TagReader.output opening.position).run.run
      ⟨words, opening.position, closing.position⟩).1 = .ok written) :
    Meets (fun _ => False) (nodesToEnd setting (bound + 2)) before fun nodes _ =>
      nodes = [.output written] := by
  have opens : opening.kind = .variableBegin := tagged.opens
  refine (atEnd_meets boundary).bind ?_
  rintro ended before ⟨rfl, atEnd, -⟩
  refine .ite (fun isEnd => ?_) fun _ => ?_
  · have nothing := atEnd isEnd
    rw [tagged.split, Token.pieces_outputTag opens tagged.inside tagged.closes] at nothing
    cases nothing
  have read : Meets (fun _ => False)
      (node setting (bound + 1) (bodyOf setting (nodesUntil setting (bound + 1)))) before
      fun node after => node = .output written ∧ after.remaining = [last] := by
    refine (next?_meets tagged.split).bind ?_
    rintro _ _ ⟨rfl, rfl⟩
    simp only [opens]
    refine (tag_meets .variable tagged.inside tagged.closes rfl opening.position).bind ?_
    rintro cursor _ ⟨rfl, rfl⟩
    refine .ite (fun atEnd => ?_) fun _ => ?_
    · exact (some (List.isEmpty_iff.1 atEnd)).elim
    · have ran : Meets (fun _ => False)
          (within ⟨words, opening.position, closing.position⟩ (TagReader.output opening.position))
          { before with remaining := [last] } fun content after =>
            content = written ∧ after = { before with remaining := [last] } := by
        rw [within, given]
        exact ⟨rfl, rfl⟩
      refine ran.bind ?_
      rintro _ _ ⟨rfl, rfl⟩
      exact ⟨rfl, rfl⟩
  refine read.bind ?_
  rintro _ after ⟨rfl, remaining⟩
  have ended : Meets (fun _ => False) (nodesToEnd setting (bound + 1)) after fun others _ =>
      others = [] := by
    have boundary : Stream true after.remaining := remaining ▸ .finish ends
    refine (atEnd_meets boundary).bind ?_
    rintro ended _ ⟨rfl, -, more⟩
    refine .ite (fun _ => rfl) fun notEnded => ?_
    obtain ⟨token, rest, same, notLast⟩ := more (by simpa using notEnded)
    cases remaining.symm.trans same
    exact (notLast ends).elim
  refine ended.bind ?_
  rintro _ _ rfl
  exact rfl

end SourceReader

/-! ## The templates of the tags -/

namespace Lineage

open SourceReader (Meets nodesToEnd)
open Token (Tagged bracesMeet)

variable {config : Config} {statements : Registry StatementKind} {loader : Loader}
  {identifier source : String} {loadParent : String → Except TemplateError Lineage}
  {tokens : List Token} {lineage : Lineage}

/-- Only the parents that a source names depend on how deep it may extend others. -/
theorem ofSource_eq_read (config : Config) (statements : Registry StatementKind) (depth : Nat)
    (loader : Loader) (identifier : String) :
    ∃ loadParent, ∀ source, ofSource config statements depth loader identifier source =
      read config statements loader identifier source loadParent := by
  cases depth with
  | zero => exact ⟨_, fun _ => rfl⟩
  | succ depth => exact ⟨_, fun _ => rfl⟩

/-- What is read from a source lists what the tokens of the source list. -/
theorem pieces_of_read
    (found : read config statements loader identifier source loadParent = .ok lineage) :
    ∃ tokens, Token.tokenize config source = .ok tokens ∧
      lineage.layer.pieces = Token.pieces tokens := by
  cases tokenized : Token.tokenize config source with
  | error error =>
      simp only [read, tokenized] at found
      cases found
  | ok tokens =>
      have listed := read_meets statements loader identifier loadParent (fun _ => True)
        tokenized (fun _ _ => True.intro) fun _ _ _ => True.intro
      rw [found] at listed
      exact ⟨tokens, rfl, listed⟩

/-- The nodes of a template are those of its tokens. -/
theorem read_meets_nodes {proper : TemplateError → Prop} {wanted : List Node → Prop}
    (statements : Registry StatementKind) (loader : Loader) (identifier : String)
    (loadParent : String → Except TemplateError Lineage)
    (tokenized : Token.tokenize config source = .ok tokens)
    (meets : ∀ setting, Meets proper (nodesToEnd setting tokens.length) ⟨tokens, none, [], []⟩
      fun nodes _ => wanted nodes) :
    (∀ lineage, read config statements loader identifier source loadParent = .ok lineage →
      wanted lineage.layer.nodes) ∧
        ∀ error, read config statements loader identifier source loadParent = .error error →
          proper error := by
  rw [read_of_tokenize tokenized]
  have ran := meets ⟨identifier, config, loader, statements,
    (tokens.getLast?.map Token.position).getD default, loadParent⟩
  rw [Meets] at ran
  split at ran
  · rename_i nodes after result
    rw [result]
    refine ⟨fun lineage found => ?_, fun error found => (by cases found)⟩
    cases found
    change wanted (extending _ after.parent).layer.nodes
    cases after.parent <;> exact ran
  · rename_i error result
    rw [result]
    refine ⟨fun lineage found => (by cases found), fun error found => ?_⟩
    cases found
    exact ran

/-- A template that begins with a block tag begins with its statement. -/
theorem assigns_of_read {opening name closing : Token} {words rest : List Token} {tag : String}
    {described : Statement Node} {position : Position} {others : List Node}
    (tokenized : Token.tokenize config source = .ok tokens)
    (tagged : Tagged .block tokens opening (name :: words) closing rest)
    (found : read config statements loader identifier source loadParent = .ok lineage)
    (begins : lineage.layer.nodes = .statement tag described position :: others) :
    SourceReader.Assigns ⟨words, name.position, closing.position⟩ described := by
  have meets (setting : SourceSetting) : Meets (fun _ => True)
      (nodesToEnd setting tokens.length) ⟨tokens, none, [], []⟩ fun nodes _ =>
        ∀ tag described position others, nodes = .statement tag described position :: others →
          SourceReader.Assigns ⟨words, name.position, closing.position⟩ described := by
    rw [congrArg List.length tagged.split]
    exact SourceReader.nodesToEnd_assigns (Token.stream_of_tokenize config tokenized) tagged
  exact (read_meets_nodes statements loader identifier loadParent tokenized meets).1 lineage found
    tag described position others begins

/-- A template that is an output tag is read to what the tag holds. -/
theorem exists_of_output {opening closing last : Token} {words : List Token} {written : Output}
    (statements : Registry StatementKind) (loader : Loader) (identifier : String)
    (loadParent : String → Except TemplateError Lineage)
    (tokenized : Token.tokenize config source = .ok tokens)
    (tagged : Tagged .variable tokens opening words closing [last]) (ends : last.kind = .eof)
    (some : words ≠ [])
    (given : ((TagReader.output opening.position).run.run
      ⟨words, opening.position, closing.position⟩).1 = .ok written) :
    ∃ lineage, read config statements loader identifier source loadParent = .ok lineage ∧
      lineage.layer.nodes = [.output written] := by
  have long : tokens.length = words.length + 1 + 2 := by
    rw [tagged.split]
    simp
  obtain ⟨nodes, never⟩ := read_meets_nodes statements loader identifier loadParent tokenized
    fun setting => long ▸ SourceReader.nodesToEnd_writes
      (Token.stream_of_tokenize config tokenized) tagged ends some given
  cases found : read config statements loader identifier source loadParent with
  | error error => exact (never error found).elim
  | ok lineage => exact ⟨lineage, rfl, nodes lineage found⟩

/-- The words of a single assignment are those of its value, and braces meet in them only. -/
theorem exists_words_of_read {tag target : String} {value : Expression} {position : Position}
    (tokenized : Token.tokenize config (assignmentTag source) = .ok tokens)
    (found : read config statements loader identifier (assignmentTag source) loadParent =
      .ok lineage)
    (single : lineage.layer.nodes = [.statement tag (.assignment target value) position]) :
    ∃ words begins starts finish after, Token.Worded begins source.toList words ∧
      bracesMeet tokens = bracesMeet words ∧
        TagReader.wholeExpression.run.run ⟨words, starts, finish⟩ = (.ok value, after) := by
  obtain ⟨_, tokenizedAgain, listed⟩ := pieces_of_read found
  cases tokenized.symm.trans tokenizedAgain
  rw [Layer.pieces, single] at listed
  obtain ⟨opening, words, closing, rest, tagged, ends⟩ := Token.tagged_assignmentTag tokenized
  rcases ends with ⟨⟨last, rfl, isEnd⟩, start, worded⟩ | more
  · obtain ⟨first, second, third, begins, words, rfl, inner⟩ := worded.of_assignment
    have header := assigns_of_read tokenized tagged found single target value rfl
    obtain ⟨after, ran⟩ := TagReader.run_assignmentHeader header
    exact ⟨words, begins, first, closing.position, after, inner,
      Token.bracesMeet_assignment tagged, ran⟩
  · -- What follows the tag would be listed, too.
    obtain ⟨piece, pieces⟩ := tagged.pieces_eq
    exact absurd (List.cons.inj (listed.trans pieces)).2.symm more

/-- What an expression is set to is written by an output tag with its words. -/
theorem exists_output {words : List Token} {starts finish : Position} {value : Expression}
    {after : Cursor} {loadParent : String → Except TemplateError Lineage}
    (scans : Token.Scans source.toList (words.map Token.sign) Token.TagKind.variable.ending)
    (inside : ∀ word ∈ words, word.kind.isWord = true)
    (ran : TagReader.wholeExpression.run.run ⟨words, starts, finish⟩ = (.ok value, after)) :
    ∃ other written,
      read config statements loader identifier (outputTag source) loadParent = .ok other ∧
        other.layer.nodes = [.output written] ∧ written.condition = none ∧
          written.expression.unplaced = value.unplaced := by
  obtain ⟨opening, tokens, closing, last, spelled, ⟨opens, closes, ends⟩, tokenized⟩ :=
    Token.tokenize_output scans config
  have tagged : Tagged .variable (opening :: (tokens ++ [closing, last])) opening tokens closing
      [last] := by
    refine ⟨rfl, opens, fun token member => ?_, closes⟩
    have signed : token.sign ∈ words.map Token.sign := spelled ▸ List.mem_map_of_mem member
    obtain ⟨word, among, same⟩ := List.mem_map.1 signed
    have kinds : word.kind = token.kind := congrArg Sign.kind same
    exact kinds ▸ inside word among
  have nonempty : tokens ≠ [] := by
    rintro rfl
    exact (reads_of_wholeExpression ran).2.1 spelled.symm
  obtain ⟨read, after, again, like⟩ := TagReader.wholeExpression_again ran
    ⟨tokens, opening.position, closing.position⟩ spelled
  obtain ⟨other, found, nodes⟩ := exists_of_output statements loader identifier loadParent tokenized
    tagged ends nonempty (TagReader.run_output again opening.position)
  exact ⟨other, _, found, nodes, rfl, like⟩

/-- An output tag with a text, and the text for itself, mean a value, up to positions. -/
def TagsAgree (load : String → Except TemplateError Lineage) (source : String)
    (value : Expression) : Prop :=
  (∃ lineage written, load (outputTag source) = .ok lineage ∧
      lineage.layer.nodes = [.output written] ∧ written.condition = none ∧
        written.expression.unplaced = value.unplaced) ∧
    ∃ cursor read after, Cursor.ofSource source = .ok cursor ∧
      TagReader.wholeExpression.run.run cursor = (.ok read, after) ∧
        read.unplaced = value.unplaced

/-- The output tag and the bare text mean what the assignment gives to its target, unless two
closing braces stand side by side. -/
theorem tags_agree_iff {depth : Nat} {tag target : String} {value : Expression}
    {position : Position} (tokenized : Token.tokenize config (assignmentTag source) = .ok tokens)
    (loaded : ofSource config statements depth loader identifier (assignmentTag source) =
      .ok lineage)
    (single : lineage.layer.nodes = [.statement tag (.assignment target value) position]) :
    TagsAgree (ofSource config statements depth loader identifier) source value ↔
      bracesMeet tokens = false := by
  obtain ⟨loadParent, same⟩ := ofSource_eq_read config statements depth loader identifier
  simp only [TagsAgree, same] at loaded ⊢
  obtain ⟨words, begins, starts, finish, after, worded, meets, ran⟩ :=
    exists_words_of_read tokenized loaded single
  rw [meets]
  rcases worded.scans_or_cuts with ⟨apart, scans⟩ | ⟨meet, cuts⟩
  · refine iff_of_true ⟨exists_output scans worded.isWord ran, ?_⟩ apart
    obtain ⟨cursor, begun, spelled⟩ := Cursor.ofSource_eq_ok scans
    obtain ⟨read, after, again, like⟩ := TagReader.wholeExpression_again ran cursor spelled
    exact ⟨cursor, read, after, begun, again, like⟩
  · refine iff_of_false ?_ (by simp [meet])
    -- What follows the tag that is closed too early is listed, too.
    rintro ⟨⟨other, written, loadedOther, singleOther, _⟩, _⟩
    obtain ⟨tokens, tokenized, listed⟩ := pieces_of_read loadedOther
    obtain ⟨opening, words, closing, rest, tagged, more⟩ := Token.tagged_outputTag cuts tokenized
    obtain ⟨piece, pieces⟩ := tagged.pieces_eq
    rw [Layer.pieces, singleOther] at listed
    exact more (List.cons.inj (listed.trans pieces)).2.symm

/-- Whether the nodes of a template are a single assignment. -/
def isAssignment : List Node → Bool
  | [.statement _ (.assignment _ _) _] => true
  | _ => false

theorem exists_of_isAssignment {nodes : List Node} (single : isAssignment nodes = true) :
    ∃ tag target value position, nodes = [.statement tag (.assignment target value) position] := by
  unfold isAssignment at single
  split at single
  · exact ⟨_, _, _, _, rfl⟩
  · cases single

/-- A dictionary in a dictionary can be written where a blank keeps their braces apart, and only
there; it can be assigned to a name in both cases. -/
theorem tags_agree_iff_dictionary :
    let load := ofSource .default Registries.standardStatements 0 .empty "page"
    (∃ lineage tag target value position,
      load (assignmentTag "\x7b'a':\x7b\x7d\x7d") = .ok lineage ∧
        lineage.layer.nodes = [.statement tag (.assignment target value) position] ∧
          ¬ TagsAgree load "\x7b'a':\x7b\x7d\x7d" value) ∧
      ∃ lineage tag target value position,
        load (assignmentTag "\x7b'a':\x7b\x7d \x7d") = .ok lineage ∧
          lineage.layer.nodes = [.statement tag (.assignment target value) position] ∧
            TagsAgree load "\x7b'a':\x7b\x7d \x7d" value := by
  intro load
  have decided (source : String) (meet : Bool)
      (assigned : (load (assignmentTag source)).toOption.any
        (fun lineage => isAssignment lineage.layer.nodes) = true)
      (braces : (Token.tokenize .default (assignmentTag source)).toOption.map bracesMeet =
        some meet) :
      ∃ lineage tag target value position, load (assignmentTag source) = .ok lineage ∧
        lineage.layer.nodes = [.statement tag (.assignment target value) position] ∧
          (TagsAgree load source value ↔ meet = false) := by
    cases loaded : load (assignmentTag source) with
    | error error =>
        rw [loaded] at assigned
        cases assigned
    | ok lineage =>
        rw [loaded] at assigned
        obtain ⟨tag, target, value, position, single⟩ := exists_of_isAssignment assigned
        cases tokenized : Token.tokenize .default (assignmentTag source) with
        | error error =>
            rw [tokenized] at braces
            cases braces
        | ok tokens =>
            rw [tokenized] at braces
            obtain rfl : bracesMeet tokens = meet := Option.some.inj braces
            exact ⟨lineage, tag, target, value, position, rfl, single,
              tags_agree_iff tokenized loaded single⟩
  obtain ⟨lineage, tag, target, value, position, loaded, single, meets⟩ :=
    decided "\x7b'a':\x7b\x7d\x7d" true (by decide +kernel) (by decide +kernel)
  obtain ⟨other, otherTag, otherTarget, otherValue, otherPosition, otherLoaded, otherSingle,
      agree⟩ :=
    decided "\x7b'a':\x7b\x7d \x7d" false (by decide +kernel) (by decide +kernel)
  exact ⟨⟨lineage, tag, target, value, position, loaded, single, meets.not.2 (by decide)⟩,
    other, otherTag, otherTarget, otherValue, otherPosition, otherLoaded, otherSingle, agree.2 rfl⟩

end Lineage

end TemplateEngine

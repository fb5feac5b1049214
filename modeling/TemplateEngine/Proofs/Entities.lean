import TemplateEngine.Proofs.Forwarding.Blocks
import TemplateEngine.Proofs.Indexing
import TemplateEngine.Proofs.Joining

/-!
# Entities

The escaped form of a text has an entity for each character of markup.  Replacing the entities by
what they stand for, once and from left to right, gives back the text, whatever entities there
were in it before; no other ampersands are left and no delimiters.  Escaping goes character by
character, and what is escaped is marked as safe.  So under autoescaping a string is written in the
same way when it is printed as it is, when it is escaped first, once or twice, and when its
characters are printed one after the other.
-/

namespace TemplateEngine

/-! ## Texts -/

namespace Text

/-- The entities, with the characters of markup that they stand for. -/
def entities : List (List Char × Char) :=
  [(['&', 'a', 'm', 'p', ';'], '&'), (['&', 'l', 't', ';'], '<'), (['&', 'g', 't', ';'], '>'),
    (['&', 'q', 'u', 'o', 't', ';'], '"'), (['&', '#', '3', '9', ';'], '\'')]

/-- Replace entities by what they stand for, from left to right.  The count of characters still to
skip belongs to an entity already replaced. -/
def resolveFrom : Nat → List Char → List Char
  | _, [] => []
  | skipped + 1, _ :: rest => resolveFrom skipped rest
  | 0, character :: rest =>
      match entities.find? fun entry => entry.1.isPrefixOf (character :: rest) with
      | some (entity, meant) => meant :: resolveFrom (entity.length - 1) rest
      | none => character :: resolveFrom 0 rest

/-- A text with each entity replaced by the character that it stands for, in one pass. -/
def resolveEntities (text : String) : String :=
  String.ofList (resolveFrom 0 text.toList)

/-- A character stands for itself, or it is what an entity stands for. -/
theorem escapeCharacter_eq_or (character : Char) :
    character ≠ '&' ∧ escapeCharacter character = [character] ∨
      (escapeCharacter character, character) ∈ entities := by
  rcases escapeCharacter_cases character with ⟨bare, same⟩ | ⟨markup, _⟩
  · refine .inl ⟨?_, same⟩
    rintro rfl
    exact absurd bare (by decide)
  · simp only [isMarkup, Bool.or_eq_true, decide_eq_true_eq] at markup
    obtain (((rfl | rfl) | rfl) | rfl) | rfl := markup <;> exact .inr (by decide)

/-- Other characters begin no entity. -/
theorem resolveFrom_cons_of_ne {character : Char} (other : character ≠ '&') (rest : List Char) :
    resolveFrom 0 (character :: rest) = character :: resolveFrom 0 rest := by
  have none : entities.find? (fun entry => entry.1.isPrefixOf (character :: rest)) = none := by
    simp [entities, List.isPrefixOf, Ne.symm other]
  rw [resolveFrom, none]

/-- What a character is escaped to is replaced by the character. -/
theorem resolveFrom_escapeCharacter (character : Char) (rest : List Char) :
    resolveFrom 0 (escapeCharacter character ++ rest) = character :: resolveFrom 0 rest := by
  rcases escapeCharacter_eq_or character with ⟨other, same⟩ | listed
  · rw [same]
    exact resolveFrom_cons_of_ne other rest
  · have entry : ∀ entry ∈ entities,
        resolveFrom 0 (entry.1 ++ rest) = entry.2 :: resolveFrom 0 rest := by
      simp only [entities, List.forall_mem_cons]
      exact ⟨rfl, rfl, rfl, rfl, rfl, List.forall_mem_nil _⟩
    exact entry _ listed

/-- Escaping is undone by replacing the entities. -/
theorem resolveEntities_escapeMarkup (text : String) :
    resolveEntities (escapeMarkup text) = text := by
  have resolved : ∀ characters : List Char,
      resolveFrom 0 (characters.flatMap escapeCharacter) = characters := by
    intro characters
    induction characters with
    | nil => rfl
    | cons character rest inductionHypothesis =>
        rw [List.flatMap_cons, resolveFrom_escapeCharacter, inductionHypothesis]
  rw [resolveEntities, toList_escapeMarkup, resolved, String.ofList_toList]

/-- Whether every ampersand among some characters begins an entity. -/
def Resolvable (characters : List Char) : Prop :=
  ∀ rest, '&' :: rest <:+ characters → ∃ entry ∈ entities, entry.1 <+: '&' :: rest

theorem resolvable_cons_of_ne {character : Char} {characters : List Char}
    (other : character ≠ '&') (resolvable : Resolvable characters) :
    Resolvable (character :: characters) := by
  intro rest suffix
  rcases List.suffix_cons_iff.1 suffix with same | suffix
  · exact absurd (List.cons.inj same).1.symm other
  · exact resolvable rest suffix

/-- Only the first character of an entity is an ampersand. -/
theorem Resolvable.escapeCharacter_append {characters : List Char}
    (resolvable : Resolvable characters) (character : Char) :
    Resolvable (escapeCharacter character ++ characters) := by
  rcases escapeCharacter_eq_or character with ⟨other, same⟩ | listed
  · rw [same]
    exact resolvable_cons_of_ne other resolvable
  · have shape : ∀ entry ∈ entities, ∃ name, entry.1 = '&' :: name ∧ '&' ∉ name := by
      simp only [entities, List.forall_mem_cons]
      exact ⟨⟨_, rfl, by decide⟩, ⟨_, rfl, by decide⟩, ⟨_, rfl, by decide⟩, ⟨_, rfl, by decide⟩,
        ⟨_, rfl, by decide⟩, List.forall_mem_nil _⟩
    obtain ⟨name, begins, bare⟩ := shape _ listed
    have later : Resolvable (name ++ characters) := by
      clear begins
      induction name with
      | nil => exact resolvable
      | cons first name inductionHypothesis =>
          rw [List.mem_cons, not_or] at bare
          exact resolvable_cons_of_ne (Ne.symm bare.1) (inductionHypothesis bare.2)
    dsimp only at begins
    intro rest suffix
    rw [begins, List.cons_append] at suffix
    rcases List.suffix_cons_iff.1 suffix with same | suffix
    · refine ⟨_, listed, ?_⟩
      rw [begins, same, ← List.cons_append]
      exact List.prefix_append _ _
    · exact later rest suffix

/-- Every ampersand of an escaped text begins an entity. -/
theorem resolvable_escapeMarkup (text : String) : Resolvable (escapeMarkup text).toList := by
  rw [toList_escapeMarkup]
  induction text.toList with
  | nil => exact fun rest suffix => nomatch List.suffix_nil.1 suffix
  | cons character rest inductionHypothesis =>
      exact inductionHypothesis.escapeCharacter_append character

theorem escapeMarkup_append (first second : String) :
    escapeMarkup (first ++ second) = escapeMarkup first ++ escapeMarkup second := by
  rw [← String.toList_inj]
  simp

/-- A text is escaped character by character. -/
theorem join_map_escapeMarkup (characters : List Char) :
    String.join (characters.map fun character => escapeMarkup (String.ofList [character])) =
      escapeMarkup (String.ofList characters) := by
  induction characters with
  | nil => rfl
  | cons character rest inductionHypothesis =>
      rw [List.map_cons, String.join_cons, inductionHypothesis, ← escapeMarkup_append,
        ← String.ofList_append]
      rfl

end Text

/-! ## Printed strings -/

/-- An expression with the filter that escapes its value. -/
def Expression.escaped (expression : Expression) (position : Position) : Expression :=
  .filter expression "e" ⟨[], []⟩ position

/-- The tag that prints the value of an expression. -/
def Node.print (expression : Expression) (position : Position) : Node :=
  .output ⟨expression, none, none, position⟩

/-- The loop that prints the characters of a string one after the other. -/
def Looping.spelling (target : String) (expression : Expression) (endTag : Option String)
    (read written position : Position) : Looping :=
  ⟨[target], expression, none, ⟨[.print (.name target read) written], endTag, position⟩, none⟩

open Interpreter (writtenText effects bounded renderNode renderNodes)

namespace Place

variable (place : Place) (natives : Natives) (bound depth : Nat)

/-- Whether nodes that are rendered at a place write a text. -/
def Prints (nodes : List Node) (text : String) : Prop :=
  (renderNodes (effects natives (bounded natives bound)) depth place.environment nodes).Writes
    place.state text

variable {place natives bound depth} {expression : Expression} {value : Value}
variable {content target : String} {after : RunState}

/-- An escaped expression has what the filter makes of the value as its value. -/
theorem evaluate_escaped
    (evaluated : place.evaluate natives bound depth expression = some (.ok value, after))
    (registered : place.environment.registries.filters.get? "e" = some .escape)
    (position : Position) :
    place.evaluate natives bound depth (expression.escaped position) =
      some ((Filter.escapeText value).checked, after) :=
  evaluate_filter evaluated rfl rfl registered position

/-- A tag without a condition writes the value of its expression. -/
theorem renderNodes_print
    (evaluated : place.evaluate natives bound depth expression = some (.ok value, after))
    (takes : after.sink.takes (writtenText place.environment.config.autoescape value) = true)
    (position : Position) :
    renderNodes (effects natives (bounded natives bound)) depth place.environment
        [.print expression position] place.state =
      some (.ok (), ⟨after.store,
        after.sink.add (writtenText place.environment.config.autoescape value)⟩) := by
  rw [Interpreter.renderNodes_singleton]
  refine (Interpreter.renderOutput_apply position evaluated).trans ?_
  change (if after.sink.takes _ then _ else _) = _
  rw [if_pos takes]

theorem prints_print
    (evaluated : place.evaluate natives bound depth expression = some (.ok value, after))
    (takes : place.state.sink.takes (writtenText place.environment.config.autoescape value) = true)
    (position : Position) :
    place.Prints natives bound depth [.print expression position]
      (writtenText place.environment.config.autoescape value) := by
  have sink := sink_of_evaluate evaluated
  rw [← sink] at takes
  refine ⟨_, renderNodes_print evaluated takes position, ?_⟩
  rw [Sink.text_add, sink]

/-- Iterations that print what they visit write the characters of a string in turn. -/
theorem visit_spells (other : target ≠ "loop") (environment : Environment) (length : Nat)
    (read written : Position) (characters : List Char) (index : Nat) (state : RunState)
    (unlimited : state.sink.room = none) :
    ∃ after : RunState,
      Loop.visit environment [target] length
          (fun inside => renderNodes (effects natives (bounded natives bound)) depth inside
            [.print (.name target read) written]) index
          (characters.map fun character => .plain (String.ofList [character])) state =
        some (.ok (), after) ∧
      after.sink.text = state.sink.text ++ String.join (characters.map fun character =>
        writtenText environment.config.autoescape (.plain (String.ofList [character]))) := by
  induction characters generalizing index state with
  | nil => exact ⟨state, rfl, by simp⟩
  | cons character rest inductionHypothesis =>
      let item : Value := .plain (String.ofList [character])
      let start := Loop.start environment state [(target, item)] index length
      have sink : start.state.sink = state.sink := rfl
      have has : start.Has natives bound depth (.name target read) item :=
        Loop.start_has other (by simp) rfl read
      have printed := renderNodes_print has (by simp [Sink.takes, sink, unlimited]) written
      obtain ⟨after, visited, texts⟩ := inductionHypothesis (index + 1)
        ⟨start.state.store, start.state.sink.add (writtenText _ item)⟩
        (by simp [Sink.add, sink, unlimited])
      refine ⟨after, ?_, ?_⟩
      · rw [List.map_cons, Loop.visit_cons, Run.bind_apply, Loop.begin_of_bindings rfl]
        dsimp only
        rw [Run.bind_apply, show renderNodes _ depth _ _ _ = _ from printed]
        exact visited
      · rw [texts, Sink.text_add, List.map_cons, String.join_cons, String.append_assoc]
        rfl

/-- A loop that prints the characters of a string writes them to a sink without a limit. -/
theorem render_spelling (other : target ≠ "loop") (unlimited : place.state.sink.room = none)
    (evaluated : place.evaluate natives bound depth expression = some (.ok (.plain content), after))
    (tag : String) (endTag : Option String) (read written position : Position) :
    ∃ final : RunState,
      place.render natives bound depth tag
          (Looping.spelling target expression endTag read written position).statement =
        some (.ok (), final) ∧
      final.sink.text = place.state.sink.text ++ String.join (content.toList.map fun character =>
        writtenText place.environment.config.autoescape (.plain (String.ofList [character]))) := by
  have lists : place.Lists natives bound depth
      (Looping.spelling target expression endTag read written position)
      (content.toList.map fun character => .plain (String.ofList [character])) after :=
    lists_of_unfiltered rfl evaluated rfl
  have sink := sink_of_evaluate evaluated
  rw [lists.render, ← sink]
  unfold Interpreter.renderItems
  split
  · rename_i empty
    have nothing : content.toList = [] := by simpa using empty
    exact ⟨_, rfl, by simp [nothing]⟩
  · exact visit_spells other place.environment _ read written content.toList 0 after
      (sink ▸ unlimited)

/-- With autoescaping such a loop writes the escaped form of the string, to every sink with room
for it. -/
theorem prints_spelling (other : target ≠ "loop")
    (autoescape : place.environment.config.autoescape = true)
    (evaluated : place.evaluate natives bound depth expression = some (.ok (.plain content), after))
    (takes : place.state.sink.takes (Text.escapeMarkup content) = true)
    (tag : String) (endTag : Option String) (read written position start : Position) :
    place.Prints natives bound depth
      [.statement tag (Looping.spelling target expression endTag read written position).statement
        start] (Text.escapeMarkup content) := by
  have escaped : String.join (content.toList.map fun character =>
      writtenText place.environment.config.autoescape (.plain (String.ofList [character]))) =
        Text.escapeMarkup content := by
    rw [autoescape]
    exact (Text.join_map_escapeMarkup content.toList).trans
      (congrArg Text.escapeMarkup String.ofList_toList)
  -- The single writes fit, because they do so in all.
  have truncates : (renderNodes (effects natives (bounded natives bound)) depth place.environment
      [.statement tag (Looping.spelling target expression endTag read written position).statement
        start]).Truncates :=
    Interpreter.renderNodes_truncates (Interpreter.effects_truncates
      (Interpreter.bounded_truncates natives bound) natives depth) place.environment _
  have free : (Place.mk place.environment ⟨place.state.store, Sink.unlimited⟩).evaluate natives
      bound depth expression = some (.ok (.plain content), ⟨after.store, Sink.unlimited⟩) :=
    evaluate_withSink evaluated Sink.unlimited
  obtain ⟨final, rendered, texts⟩ :=
    render_spelling other rfl free tag endTag read written position
  rw [escaped] at texts
  have ran : renderNodes (effects natives (bounded natives bound)) depth place.environment
      [.statement tag (Looping.spelling target expression endTag read written position).statement
        start] ⟨place.state.store, Sink.unlimited⟩ = some (.ok (), final) := by
    rw [Interpreter.renderNodes_singleton]
    change Run.mapError _ (Interpreter.renderStatement _ _ _ _ _) _ = _
    rw [Run.mapError_apply]
    exact congrArg _ rendered
  obtain ⟨taken, again, held⟩ := truncates.ran_of_ran ran texts takes
  exact ⟨_, again, held⟩

/-- Escaping is faithful.  Replacing the five entities in an escaped text, in one pass from left
to right, gives back the text.  No delimiter is left in it, every ampersand begins an entity, and
one text after the other is escaped as each of them is.  Where strings are escaped when they are
written, a string that is not marked as safe is written in the same way when it is printed, when
it is printed escaped, when it is printed escaped twice, and when a loop prints its characters. -/
theorem escaping_faithful (content : String) :
    Text.resolveEntities (Text.escapeMarkup content) = content ∧
    Text.Clean (Text.escapeMarkup content) ∧
    Text.Resolvable (Text.escapeMarkup content).toList ∧
    (∀ other, Text.escapeMarkup (content ++ other) =
      Text.escapeMarkup content ++ Text.escapeMarkup other) ∧
    ∀ {place : Place} {natives bound depth expression after},
      place.environment.config.autoescape = true →
      place.environment.registries.filters.get? "e" = some .escape →
      place.evaluate natives bound depth expression = some (.ok (.plain content), after) →
      place.state.sink.takes (Text.escapeMarkup content) = true →
      ∀ once twice read written body start : Position,
        place.Prints natives bound depth [.print expression start] (Text.escapeMarkup content) ∧
        place.Prints natives bound depth [.print (expression.escaped once) start]
          (Text.escapeMarkup content) ∧
        place.Prints natives bound depth [.print ((expression.escaped once).escaped twice) start]
          (Text.escapeMarkup content) ∧
        ∀ target endTag, target ≠ "loop" →
          place.Prints natives bound depth
            [.statement "for"
              (Looping.spelling target expression endTag read written body).statement start]
            (Text.escapeMarkup content) := by
  refine ⟨Text.resolveEntities_escapeMarkup content, Text.clean_escapeMarkup content,
    Text.resolvable_escapeMarkup content, Text.escapeMarkup_append content, ?_⟩
  intro place natives bound depth expression after autoescape registered evaluated takes
    once twice read written body start
  have escapedOnce : place.evaluate natives bound depth (expression.escaped once) =
      some (.ok (.safe (Text.escapeMarkup content)), after) :=
    evaluate_escaped evaluated registered once
  have escapedTwice : place.evaluate natives bound depth
      ((expression.escaped once).escaped twice) =
        some (.ok (.safe (Text.escapeMarkup content)), after) :=
    evaluate_escaped escapedOnce registered twice
  have plain : writtenText place.environment.config.autoescape (.plain content) =
      Text.escapeMarkup content := by
    rw [autoescape]
    rfl
  have safe : writtenText place.environment.config.autoescape
      (.safe (Text.escapeMarkup content)) = Text.escapeMarkup content := by
    rw [autoescape]
    rfl
  refine ⟨?_, ?_, ?_, ?_⟩
  · exact plain ▸ prints_print evaluated (plain.symm ▸ takes) start
  · exact safe ▸ prints_print escapedOnce (safe.symm ▸ takes) start
  · exact safe ▸ prints_print escapedTwice (safe.symm ▸ takes) start
  · intro target endTag other
    exact prints_spelling other autoescape evaluated takes "for" endTag read written body start

/-- An entity that stands in a string is escaped like everything else, and found again. -/
theorem escaping_faithful_entity :
    let content := "a&lt;<"
    let escaped := "a&amp;lt;&lt;"
    Text.resolveEntities escaped = content ∧
    desk.Prints .standard 1 0 [.print (quotation content) .start] escaped ∧
    desk.Prints .standard 1 0 [.print ((quotation content).escaped .start) .start] escaped ∧
    desk.Prints .standard 1 0
      [.print (((quotation content).escaped .start).escaped .start) .start] escaped ∧
    desk.Prints .standard 1 0
      [.statement "for"
        (Looping.spelling "c" (quotation content) none .start .start .start).statement .start]
      escaped := by
  intro content escaped
  have text : Text.escapeMarkup content = escaped := by decide
  have evaluated : desk.evaluate .standard 1 0 (quotation content) =
      some (.ok (.plain content), desk.state) :=
    rfl
  obtain ⟨resolved, _, _, _, prints⟩ := escaping_faithful content
  obtain ⟨plain, once, twice, spelled⟩ := @prints desk .standard 1 0 _ _ rfl rfl evaluated rfl
    .start .start .start .start .start .start
  rw [text] at resolved plain once twice spelled
  exact ⟨resolved, plain, once, twice, spelled "c" none (by decide)⟩

end Place

end TemplateEngine

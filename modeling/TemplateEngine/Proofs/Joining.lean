import TemplateEngine.Proofs.Clean
import TemplateEngine.Proofs.Iterating

/-!
# Joined lists

An output tag for a joined list is compared with output tags for the items and, in between, for
what separates them.  With autoescaping, a list with an unsafe string is joined from escaped
strings and then written as it is, and a list without one is joined first and then escaped.  This
says exactly when the two write the same: in the first case the separator is not escaped, and in
the second case what is safe is.
-/

namespace TemplateEngine

namespace Text

/-! ## Texts that escaping does not change -/

/-- A text without characters that markup gives a meaning to. -/
def Bare (text : String) : Prop :=
  ∀ character ∈ text.toList, isMarkup character = false

instance (text : String) : Decidable (Bare text) :=
  List.decidableBAll (fun character => isMarkup character = false) text.toList

/-- Numbers are not written with such characters. -/
theorem Numeric.bare {text : String} (numeric : Numeric text) : Bare text := by
  intro character member
  have apart : ∀ other, isNumeral other = false → character ≠ other := fun _ =>
    numeric.ne member
  simp [isMarkup, apart '&' (by decide), apart '<' (by decide), apart '>' (by decide),
    apart '"' (by decide), apart '\'' (by decide)]

/-- A character stands for itself, or for several. -/
theorem escapeCharacter_cases (character : Char) :
    isMarkup character = false ∧ escapeCharacter character = [character] ∨
      isMarkup character = true ∧ 1 < (escapeCharacter character).length := by
  cases markup : isMarkup character with
  | false =>
      simp only [isMarkup, Bool.or_eq_false_iff, decide_eq_false_iff_not] at markup
      obtain ⟨⟨⟨⟨ampersand, less⟩, greater⟩, double⟩, single⟩ := markup
      refine .inl ⟨rfl, ?_⟩
      simp only [escapeCharacter, ampersand, less, greater, double, single, if_false]
  | true =>
      simp only [isMarkup, Bool.or_eq_true, decide_eq_true_eq] at markup
      obtain (((rfl | rfl) | rfl) | rfl) | rfl := markup <;> exact .inr ⟨rfl, by decide⟩

theorem length_le_escaped (characters : List Char) :
    characters.length ≤ (characters.flatMap escapeCharacter).length := by
  induction characters with
  | nil => exact Nat.le_refl 0
  | cons character rest inductionHypothesis =>
      rw [List.flatMap_cons, List.length_append, List.length_cons]
      rcases escapeCharacter_cases character with ⟨_, same⟩ | ⟨_, longer⟩
      · rw [same, List.length_singleton]
        omega
      · omega

theorem length_le_escapeMarkup (text : String) :
    text.toList.length ≤ (escapeMarkup text).toList.length := by
  rw [toList_escapeMarkup]
  exact length_le_escaped text.toList

theorem flatMap_escapeCharacter_eq_self_iff (characters : List Char) :
    characters.flatMap escapeCharacter = characters ↔
      ∀ character ∈ characters, isMarkup character = false := by
  induction characters with
  | nil => simp
  | cons character rest inductionHypothesis =>
      rw [List.flatMap_cons, List.forall_mem_cons]
      rcases escapeCharacter_cases character with ⟨bare, same⟩ | ⟨markup, longer⟩
      · rw [same, List.singleton_append, List.cons_inj_right, inductionHypothesis]
        exact ⟨fun others => ⟨bare, others⟩, And.right⟩
      · refine iff_of_false (fun same => ?_) fun both => ?_
        · have lengths := congrArg List.length same
          have least := length_le_escaped rest
          rw [List.length_append, List.length_cons] at lengths
          omega
        · rw [markup] at both
          exact Bool.noConfusion both.1

/-- Escaping changes exactly the texts that are not bare. -/
theorem escapeMarkup_eq_self_iff {text : String} : escapeMarkup text = text ↔ Bare text := by
  rw [← String.toList_inj, toList_escapeMarkup]
  exact flatMap_escapeCharacter_eq_self_iff text.toList

/-! ## Texts that are joined -/

theorem flatMap_escapeCharacter_intercalate (separator : List Char) (parts : List (List Char)) :
    (separator.intercalate parts).flatMap escapeCharacter =
      (separator.flatMap escapeCharacter).intercalate
        (parts.map fun part => part.flatMap escapeCharacter) := by
  induction parts with
  | nil => rfl
  | cons part rest inductionHypothesis =>
      cases rest with
      | nil => simp [List.intercalate_singleton]
      | cons next rest =>
          rw [List.intercalate_cons_cons, List.flatMap_append, List.flatMap_append,
            inductionHypothesis]
          simp only [List.map_cons, List.intercalate_cons_cons]

/-- What is joined is escaped in all its parts. -/
theorem escapeMarkup_intercalate (separator : String) (parts : List String) :
    escapeMarkup (separator.intercalate parts) =
      (escapeMarkup separator).intercalate (parts.map escapeMarkup) := by
  rw [← String.toList_inj, toList_escapeMarkup, String.toList_intercalate,
    String.toList_intercalate, flatMap_escapeCharacter_intercalate, toList_escapeMarkup,
    List.map_map, List.map_map]
  congr 2
  funext part
  exact (toList_escapeMarkup part).symm

section

variable {α : Type} {separator other : List α} {parts others : List (List α)}

theorem length_intercalate_le (separators : other.length ≤ separator.length)
    (shorter : List.Forall₂ (fun part other => other.length ≤ part.length) parts others) :
    (other.intercalate others).length ≤ (separator.intercalate parts).length := by
  induction shorter with
  | nil => exact Nat.le_refl _
  | @cons part second parts others first rest inductionHypothesis =>
      cases rest with
      | nil => simpa using first
      | cons next rest =>
          simp only [List.intercalate_cons_cons, List.length_append] at inductionHypothesis ⊢
          omega

/-- Two texts, one of them joined from parts that are not shorter, are equal only if all parts
are. -/
theorem intercalate_eq_iff (separators : other.length ≤ separator.length)
    (shorter : List.Forall₂ (fun part other => other.length ≤ part.length) parts others) :
    separator.intercalate parts = other.intercalate others ↔
      parts = others ∧ (1 < parts.length → separator = other) := by
  induction shorter with
  | nil => simp
  | @cons part second parts others first rest inductionHypothesis =>
      have remaining := length_intercalate_le separators rest
      cases rest with
      | nil => simp
      | @cons next third parts others _ _ =>
          rw [List.intercalate_cons_cons, List.intercalate_cons_cons]
          constructor
          · intro same
            have lengths := congrArg List.length same
            simp only [List.length_append] at lengths remaining
            obtain ⟨same, rests⟩ := List.append_inj same (by simp only [List.length_append]; omega)
            obtain ⟨rfl, rfl⟩ := List.append_inj same (by omega)
            exact ⟨congrArg (part :: ·) (inductionHypothesis.1 rests).1, fun _ => rfl⟩
          · rintro ⟨same, separators⟩
            obtain ⟨rfl, rest⟩ := List.cons_eq_cons.1 same
            obtain rfl := separators (by simp)
            rw [inductionHypothesis.2 ⟨rest, fun _ => rfl⟩]

end

end Text

namespace Value

/-- Whether a value is absent, true or false, a number or a string. -/
def isScalar : Value → Bool
  | .nil => true
  | .bool _ => true
  | .number _ => true
  | .string _ _ => true
  | _ => false

variable {value : Value}

/-- Only what strings say can have a meaning in markup. -/
theorem bare_display (scalar : value.isScalar = true) (other : value.isString = false) :
    Text.Bare value.display := by
  cases value with
  | nil => decide
  | bool value => cases value <;> decide
  | number number => exact (Number.numeric_text number).bare
  | string content mark => cases other
  | _ => cases scalar

end Value

namespace Filter

open Interpreter (writtenText)

variable {items : List Value} {separator : Value}

/-- What is written for a list that is joined. -/
def writtenJoined (autoescape : Bool) (items : List Value) (separator : Value) : String :=
  writtenText autoescape (joinItems autoescape (.list items) ⟨[separator], []⟩)

/-- What is written for the items one by one, and for the separator between them. -/
def writtenApart (autoescape : Bool) (items : List Value) (separator : Value) : String :=
  (writtenText autoescape separator).intercalate (items.map (writtenText autoescape))

/-- Whether a list is joined to what is written for its items one by one.  Without autoescaping it
always is.  Otherwise, if some string in it is unsafe, an unsafe separator must not need to be
escaped; and if none is, nothing safe must be changed by escaping it. -/
def JoinsApart (autoescape : Bool) (items : List Value) (separator : Value) : Prop :=
  autoescape = true →
    (items.any Value.isUnsafeString = true → 1 < items.length → separator.isSafe = false →
      Text.Bare separator.display) ∧
    (items.any Value.isUnsafeString = false →
      (∀ item ∈ items, item.isSafe = true → Text.Bare item.display) ∧
      (1 < items.length → separator.isSafe = true → Text.Bare separator.display))

/-- The filter writes an item as an output tag does. -/
theorem joinItems_list (autoescape : Bool) (items : List Value) (separator : Value) :
    joinItems autoescape (.list items) ⟨[separator], []⟩ =
      .string (separator.display.intercalate (items.map (writtenText autoescape)))
        (autoescape && items.any Value.isUnsafeString) := rfl

/-- If some string is unsafe, what is joined is not escaped any more. -/
theorem writtenJoined_of_any (someUnsafe : items.any Value.isUnsafeString = true) :
    writtenJoined true items separator =
      separator.display.intercalate (items.map (writtenText true)) := by
  rw [writtenJoined, joinItems_list, someUnsafe]
  rfl

/-- If no string is unsafe, what is joined is escaped as a whole. -/
theorem writtenJoined_of_none (noneUnsafe : items.any Value.isUnsafeString = false) :
    writtenJoined true items separator =
      (Text.escapeMarkup separator.display).intercalate
        (items.map fun item => Text.escapeMarkup item.display) := by
  have displayed : items.map (writtenText true) = items.map Value.display := by
    refine List.map_congr_left fun item member => ?_
    rw [List.any_eq_false] at noneUnsafe
    rw [writtenText, Bool.true_and, if_neg (noneUnsafe item member)]
  rw [writtenJoined, joinItems_list, noneUnsafe, displayed]
  change Text.escapeMarkup (separator.display.intercalate (items.map Value.display)) = _
  rw [Text.escapeMarkup_intercalate, List.map_map]
  rfl

/-- What is joined is written as it is without autoescaping. -/
theorem writtenJoined_of_off : writtenJoined false items separator =
    writtenApart false items separator := rfl

/-- Escaping more of what is joined makes no difference exactly if it changes nothing. -/
theorem intercalate_escaped_eq_iff {first second : String} {change : Value → String}
    (separators : second.toList.length ≤ first.toList.length)
    (shorter : ∀ item ∈ items,
      (writtenText true item).toList.length ≤ (change item).toList.length) :
    first.intercalate (items.map change) = second.intercalate (items.map (writtenText true)) ↔
      (∀ item ∈ items, change item = writtenText true item) ∧
        (1 < items.length → first = second) := by
  rw [← String.toList_inj, String.toList_intercalate, String.toList_intercalate, List.map_map,
    List.map_map, Text.intercalate_eq_iff separators, List.length_map, List.map_inj_left,
    String.toList_inj]
  · simp only [Function.comp, String.toList_inj]
  · rw [List.forall₂_map_left_iff, List.forall₂_map_right_iff, List.forall₂_same]
    exact shorter

/-- A value is written escaped, unless it is safe and escaping changes it. -/
theorem escapeMarkup_eq_written_iff {value : Value} (scalar : value.isScalar = true) :
    Text.escapeMarkup value.display = writtenText true value ↔
      (value.isSafe = true → Text.Bare value.display) := by
  cases text : value.isString with
  | false =>
      have bare := value.bare_display scalar text
      refine iff_of_true ?_ fun _ => bare
      rw [Text.escapeMarkup_eq_self_iff.2 bare]
      cases value with
      | string content mark => cases text
      | _ => rfl
  | true =>
      cases value with
      | string content mark =>
          cases mark with
          | true =>
              change Text.escapeMarkup content = content ↔ (true = true → Text.Bare content)
              rw [forall_prop_of_true rfl, Text.escapeMarkup_eq_self_iff]
          | false => exact iff_of_true rfl nofun
      | _ => cases text

/-- A string is written as it is, unless it is unsafe and escaping changes it. -/
theorem written_eq_display_iff {value : Value} (text : value.isString = true) :
    writtenText true value = value.display ↔
      (value.isSafe = false → Text.Bare value.display) := by
  cases value with
  | string content mark =>
      cases mark with
      | true => exact iff_of_true rfl nofun
      | false =>
          change Text.escapeMarkup content = content ↔ (false = false → Text.Bare content)
          rw [forall_prop_of_true rfl, Text.escapeMarkup_eq_self_iff]
  | _ => cases text

theorem length_written_le (value : Value) :
    value.display.toList.length ≤ (writtenText true value).toList.length ∧
      (writtenText true value).toList.length ≤ (Text.escapeMarkup value.display).toList.length := by
  unfold writtenText
  split
  · exact ⟨Text.length_le_escapeMarkup _, Nat.le_refl _⟩
  · exact ⟨Nat.le_refl _, Text.length_le_escapeMarkup _⟩

/-- A joined list is written as its items are, exactly in these cases. -/
theorem writtenJoined_eq_iff (autoescape : Bool) (scalars : ∀ item ∈ items, item.isScalar = true)
    (text : separator.isString = true) :
    writtenJoined autoescape items separator = writtenApart autoescape items separator ↔
      JoinsApart autoescape items separator := by
  cases autoescape with
  | false => exact iff_of_true writtenJoined_of_off nofun
  | true =>
      unfold JoinsApart
      rw [forall_prop_of_true rfl, writtenApart]
      cases someUnsafe : items.any Value.isUnsafeString with
      | true =>
          rw [writtenJoined_of_any someUnsafe, eq_comm,
            intercalate_escaped_eq_iff (length_written_le separator).1 fun _ _ => Nat.le_refl _,
            written_eq_display_iff text]
          simp
      | false =>
          have scalar : separator.isScalar = true := by
            cases separator with
            | string content mark => rfl
            | _ => cases text
          rw [writtenJoined_of_none someUnsafe,
            intercalate_escaped_eq_iff (length_written_le separator).2 fun item _ =>
              (length_written_le item).2,
            escapeMarkup_eq_written_iff scalar,
            forall₂_congr fun item member => escapeMarkup_eq_written_iff (scalars item member)]
          simp

end Filter

namespace Place

open Interpreter (writtenText)

variable (place : Place) (natives : Natives) (bound depth : Nat)

/-- Whether a node is an output tag, without a condition, for an expression with a value. -/
def Outputs (node : Node) (value : Value) : Prop :=
  ∃ expression position, node = .output ⟨expression, none, none, position⟩ ∧
    place.Has natives bound depth expression value

variable {place natives bound depth} {expression : Expression} {value : Value}

/-- An expression is evaluated in the same way whatever has been written. -/
theorem evaluate_withSink {result : Except EvalError Value} {after : RunState}
    (evaluated : place.evaluate natives bound depth expression = some (result, after))
    (sink : Sink) :
    (Place.mk place.environment ⟨place.state.store, sink⟩).evaluate natives bound depth
      expression = some (result, ⟨after.store, sink⟩) := by
  have quiet := Expression.evaluate_quiet (Interpreter.effects_truncates
    (Interpreter.bounded_truncates natives bound) natives depth) place.environment expression
  obtain ⟨ended, ran, same⟩ := Option.map_eq_some_iff.1
    ((quiet place.state.store place.state.sink).symm.trans evaluated)
  cases same
  unfold evaluate
  rw [quiet, ran]
  rfl

/-- An expression has its value whatever has been written. -/
theorem Has.withSink (has : place.Has natives bound depth expression value) (sink : Sink) :
    (Place.mk place.environment ⟨place.state.store, sink⟩).Has natives bound depth expression
      value :=
  evaluate_withSink has sink

/-- Output tags in a row write what each of them writes. -/
theorem renderNodes_outputs {nodes : List Node} {values : List Value}
    (outputs : List.Forall₂ (place.Outputs natives bound depth) nodes values) (sink : Sink)
    (unlimited : sink.room = none) :
    ∃ after : Sink, after.text =
        sink.text ++ String.join (values.map (writtenText place.environment.config.autoescape)) ∧
      Interpreter.renderNodes (Interpreter.effects natives (Interpreter.bounded natives bound))
        depth place.environment nodes ⟨place.state.store, sink⟩ =
          some (.ok (), ⟨place.state.store, after⟩) := by
  induction outputs generalizing sink with
  | nil => exact ⟨sink, by simp, rfl⟩
  | @cons node value nodes values output _ inductionHypothesis =>
      obtain ⟨expression, position, rfl, has⟩ := output
      let text := writtenText place.environment.config.autoescape value
      have written : Interpreter.renderNode (Interpreter.effects natives
          (Interpreter.bounded natives bound)) depth place.environment
            (.output ⟨expression, none, none, position⟩) ⟨place.state.store, sink⟩ =
          some (.ok (), ⟨place.state.store, sink.add text⟩) := by
        refine (Interpreter.renderOutput_apply position (has.withSink sink)).trans ?_
        change (if sink.takes text then _ else _) = _
        rw [if_pos (by simp [Sink.takes, unlimited])]
      obtain ⟨after, texts, rendered⟩ := inductionHypothesis (sink.add text)
        (by simp [Sink.add, unlimited])
      refine ⟨after, ?_, ?_⟩
      · rw [texts, Sink.text_add, List.map_cons, String.join_cons, String.append_assoc]
      · change (Interpreter.renderNode _ depth place.environment _ >>= fun _ =>
          Interpreter.renderNodes _ depth place.environment nodes) _ = _
        rw [Run.bind_apply, written]
        exact rendered

/-- What output tags write for items and a separator between them. -/
theorem join_intersperse (separator : Value) (items : List Value) (write : Value → String) :
    String.join ((items.intersperse separator).map write) =
      (write separator).intercalate (items.map write) := by
  induction items with
  | nil => rfl
  | cons item rest inductionHypothesis =>
      cases rest with
      | nil => simp
      | cons next rest =>
          rw [List.intersperse_cons_cons, List.map_cons, List.map_cons, String.join_cons,
            String.join_cons, inductionHypothesis]
          simp only [List.map_cons, String.intercalate_cons_cons, String.append_assoc]

variable {list between : Expression} {items : List Value} {separator : Value}

/-- A joined list has what the filter makes of it as its value. -/
theorem Has.join (listed : place.Has natives bound depth list (.list items))
    (separated : place.Has natives bound depth between separator)
    (registered : place.environment.registries.filters.get? "join" = some .join)
    (position : Position) :
    place.Has natives bound depth (.filter list "join" ⟨[between], []⟩ position)
      (Filter.joinItems place.environment.config.autoescape (.list items) ⟨[separator], []⟩) := by
  have supplied : Expression.evaluateArguments (Interpreter.effects natives
      (Interpreter.bounded natives bound)) depth place.environment ⟨[between], []⟩ place.state =
        some (.ok ⟨[separator], []⟩, place.state) := by
    unfold Has evaluate at separated
    rw [Expression.evaluateArguments, Expression.evaluateItems, Run.bind_apply, Run.bind_apply,
      separated]
    rfl
  unfold Has
  rw [evaluate_filter listed supplied rfl registered position]
  rfl

/-- Take an output tag for a list of scalars that is joined with a string, and a row of output
tags for the items and, in between, the string.  Both succeed.  Without autoescaping they always
write the same text.  With it they do so exactly if, in a list with an unsafe string, the
separator does not need the escaping that it does not get, and if, in a list without one, what is
safe is not changed by the escaping that it does get. -/
theorem joined_writes_apart_iff (unlimited : place.state.sink.room = none)
    (registered : place.environment.registries.filters.get? "join" = some .join)
    (listed : place.Has natives bound depth list (.list items))
    (separated : place.Has natives bound depth between separator)
    (scalars : ∀ item ∈ items, item.isScalar = true) (text : separator.isString = true)
    {apart : List Node} (outputs : List.Forall₂ (place.Outputs natives bound depth) apart
      (items.intersperse separator)) (read written : Position) :
    ∃ joined pieces,
      (Interpreter.renderNodes (Interpreter.effects natives (Interpreter.bounded natives bound))
        depth place.environment
          [.output ⟨.filter list "join" ⟨[between], []⟩ read, none, none, written⟩]).Writes
            place.state joined ∧
      (Interpreter.renderNodes (Interpreter.effects natives (Interpreter.bounded natives bound))
        depth place.environment apart).Writes place.state pieces ∧
      (joined = pieces ↔
        Filter.JoinsApart place.environment.config.autoescape items separator) := by
  have whole := listed.join separated registered read
  obtain ⟨after, joined, rendered⟩ := renderNodes_outputs
    (.cons ⟨_, written, rfl, whole⟩ .nil) place.state.sink unlimited
  obtain ⟨final, pieces, renderedApart⟩ := renderNodes_outputs outputs place.state.sink unlimited
  refine ⟨_, _, ⟨_, rendered, joined⟩, ⟨_, renderedApart, pieces⟩, ?_⟩
  rw [join_intersperse, List.map_cons, List.map_nil, String.join_cons, String.join_nil,
    String.append_empty]
  exact Filter.writtenJoined_eq_iff _ scalars text

/-- A place with autoescaping where nothing is bound. -/
def desk : Place where
  environment := Interpreter.solitary
  state := ⟨(Store.empty.scopeOf []).2, Sink.unlimited⟩

/-- A string literal. -/
def quotation (content : String) : Expression :=
  .literal (.string content) .start

/-- A delimiter that separates two letters is escaped where it is written by itself, but not where
the letters are joined with it. -/
theorem joined_writes_apart_iff_delimiter :
    (Interpreter.renderNodes (Interpreter.effects .standard (Interpreter.bounded .standard 1)) 0
      desk.environment
        [.output ⟨.filter (.list [quotation "a", quotation "b"] .start) "join"
          ⟨[quotation "<"], []⟩ .start, none, none, .start⟩]).Writes desk.state "a<b" ∧
    (Interpreter.renderNodes (Interpreter.effects .standard (Interpreter.bounded .standard 1)) 0
      desk.environment
        (["a", "<", "b"].map fun content =>
          .output ⟨quotation content, none, none, .start⟩)).Writes desk.state "a&lt;b" ∧
    ¬Filter.JoinsApart true [.plain "a", .plain "b"] (.plain "<") := by
  have outputs : List.Forall₂ (desk.Outputs .standard 1 0)
      (["a", "<", "b"].map fun content => .output ⟨quotation content, none, none, .start⟩)
      ([.plain "a", .plain "b"].intersperse (.plain "<")) :=
    .cons ⟨_, _, rfl, rfl⟩ (.cons ⟨_, _, rfl, rfl⟩ (.cons ⟨_, _, rfl, rfl⟩ .nil))
  obtain ⟨joined, pieces, whole, apart, same⟩ := joined_writes_apart_iff rfl rfl
    (show desk.Has .standard 1 0 (.list [quotation "a", quotation "b"] .start)
      (.list [.plain "a", .plain "b"]) from rfl)
    (show desk.Has .standard 1 0 (quotation "<") (.plain "<") from rfl)
    (by decide) rfl outputs .start .start
  have joinedText : joined = "a<b" := whole.unique ⟨_, rfl, rfl⟩
  have piecesText : pieces = "a&lt;b" := apart.unique ⟨_, rfl, rfl⟩
  subst joinedText
  subst piecesText
  exact ⟨whole, apart, fun joins => absurd (same.2 joins) (by decide)⟩

end Place

end TemplateEngine

import TemplateEngine.Proofs.Completing.Steps

/-!
# Completing expressions

At every precedence level, what is read can be read again, and what is in front of an error can
be completed.  Only the step behind a dot reports an error late: it takes the token that should
select an attribute, whatever it is.
-/

namespace TemplateEngine

open Expression TagReader

/-! ## Tests -/

section Tests

variable {inner : TagReader Expression} {room limit : Nat} {target : Expression}
  {signs following : List Sign}

/-- The reader of a test behind the words that announce it. -/
def testNamed (inner : TagReader Expression) (limit : Nat) (target : Expression)
    (position : Position) (negated : Bool) : TagReader Expression :=
  TagReader.name "a test name" >>= fun test => optionalArguments inner limit >>= fun arguments =>
    pure (.test target test.text arguments negated position)

/-- What is read as a test behind the words that announce it. -/
def readsTestNamed (target : Expression) (negated : Bool) : Reading Expression :=
  fun signs following result => ∀ bound read position, signs.length ≤ bound → target.Like read →
    Takes (testNamed (expressionWithin bound) bound read position negated) signs following
      result.Like

/-- What is read as a test. -/
def readsTest (target : Expression) : Reading Expression :=
  fun signs following result => ∀ bound read position, signs.length ≤ bound → target.Like read →
    Takes (testOf (expressionWithin bound) bound read position) signs following result.Like

theorem readsTestNamed_name {arguments : CallArguments Expression} {negated : Bool}
    (text : String) (position : Position) (reading : readsOptional signs following arguments) :
    readsTestNamed target negated (.name text :: signs) following
      (.test target text arguments negated position) := by
  intro bound read place short like
  apply (takes_name "a test name" text).bind
  rintro token rfl
  apply (reading bound short).finish
  intro readArguments same
  exact takes_pure (like.test same)

theorem readsTest_not {result : Expression}
    (reading : readsTestNamed target true signs following result) :
    readsTest target (.name "not" :: signs) following result := by
  intro bound read position short like
  apply (takes_accepts "not").bind
  rintro _ rfl
  exact reading bound read position (Nat.le_of_succ_le short) like

theorem readsTest_plain {result : Expression}
    (stops : Stops [.name "not"] (signs ++ following))
    (reading : readsTestNamed target false signs following result) :
    readsTest target signs following result := by
  intro bound read position short like
  apply (takes_accepts_none stops).skip
  rintro _ rfl
  exact reading bound read position short like

theorem readsOptional_ends (ends : Ends following) :
    readsOptional [] following CallArguments.none :=
  readsOptional_none (ends.stops (by decide))

variable (explains : Explains room (.phrase OpensNamed) readsEnclosed inner)

include explains

theorem explains_testNamed (limit : Nat) (target : Expression) (position : Position)
    (negated : Bool) :
    Explains room (.phrase OpensNamed) (readsTestNamed target negated)
      (testNamed inner limit target position negated) := by
  intro tokens start finish short
  apply explained_name
  · exact fun text => Manner.phrase_proceeds (Sign.name_ne_dot text)
  · exact fun _ => ⟨[], rfl, ends_nil⟩
  · rintro token rest rfl _
    rw [List.length_cons] at short
    exact (explains_optionalArguments explains limit rest start finish (by omega)).map
      (fun _ _ _ => True.intro) (fun _ _ _ => True.intro)
      (readsTestNamed_name token.text position)
  · exact fun following ends => ⟨_, readsTestNamed_name "x" default (readsOptional_ends ends)⟩

theorem explains_testOf (limit : Nat) (target : Expression) (position : Position) :
    Explains room .any (readsTest target) (testOf inner limit target position) := by
  intro tokens start finish short
  rw [testOf, run_bind, accepts, map_eq_pure_bind, run_bind]
  rcases picks_name? ["not"] tokens start finish with
    ⟨token, rest, rfl, member, ran⟩ | ⟨stops, ran⟩
  · rw [ran]
    rw [List.length_cons] at short
    have named :=
      explains_testNamed explains limit target position true rest start finish (by omega)
    exact (named.weaken readsTest_not).cons (List.mem_singleton.1 member)
      (Manner.any_proceeds (by decide))
  · rw [ran]
    have named := explains_testNamed explains limit target position false tokens start finish short
    exact (named.apart stops (fun _ => OpensNamed.name) (by decide) readsTest_plain).weaken id

/-- The step of a test. -/
def testStep (inner : TagReader Expression) (limit : Nat) (left : Expression) :
    TagReader (Option Expression) := do
  match ← name? ["is"] with
  | some token => return some (← testOf inner limit left token.position)
  | none => return none

omit explains in
theorem readsStep_test {result : Expression} (reading : readsTest target signs following result) :
    readsStep (fun bound => testStep (expressionWithin bound) bound) target (.name "is" :: signs)
      following (some result) := by
  refine ⟨fun same => (nomatch same), fun bound read short like => ?_⟩
  apply (takes_name? (List.mem_singleton_self "is")).bind
  rintro _ ⟨token, rfl, _⟩
  apply (reading bound read token.position (Nat.le_of_succ_le short) like).finish
  intro test same
  exact takes_pure (congrArg some same)

theorem explains_testStep (limit : Nat) (target : Expression) :
    Explains (room + 1) .step
      (readsStep (fun bound => testStep (expressionWithin bound) bound) target)
      (testStep inner limit target) := by
  intro tokens start finish short
  rw [testStep, run_bind]
  rcases picks_name? ["is"] tokens start finish with
    ⟨token, rest, rfl, member, ran⟩ | ⟨stops, ran⟩
  · rw [ran]
    have test := explains_testOf explains limit target token.position rest start finish
      (Nat.lt_of_succ_lt_succ short)
    have extended : Explained .found (fun signs => readsStep
        (fun bound => testStep (expressionWithin bound) bound) target (.name "is" :: signs))
        rest start finish ((testOf inner limit target token.position >>= fun test =>
          pure (some test)).run.run ⟨rest, start, finish⟩) :=
      test.map (fun _ _ _ none => nomatch none) (fun _ _ _ => True.intro) readsStep_test
    exact extended.cons (List.mem_singleton.1 member)
      (Manner.step_proceeds (by decide) (by decide))
  · rw [ran]
    refine explained_pure ⟨fun _ => rfl, fun some => (some rfl).elim⟩ fun following resumes => ?_
    refine ⟨fun _ => rfl, fun bound read _ _ => ?_⟩
    apply (takes_name?_none (resumes.stops (by decide) stops)).finish
    rintro _ rfl
    exact takes_pure rfl

end Tests

/-! ## Comparisons -/

section Comparisons

variable {inner operand : TagReader Expression} {operands : Nat → TagReader Expression}
  {room : Nat}

/-- A comparison with a symbol, a membership, or a test. -/
theorem compareStep_eq (inner operand : TagReader Expression) (limit : Nat) (left : Expression) :
    compareStep inner operand limit left =
      otherwise (binaryStep (symbolOperator? ["==", "!=", "<", "<=", ">", ">="]) operand left)
        (otherwise (binaryStep (namedOperator? "in" .isIn) operand left)
          (otherwise (binaryStep notIn? operand left) (testStep inner limit left))) :=
  rfl

theorem explains_compareStep (explains : Explains room (.phrase OpensNamed) readsEnclosed inner)
    (comparable : Explains (room + 1) (.phrase OpensNamed) (readsLevel operands) operand)
    (limit : Nat) (left : Expression) :
    Explains (room + 1) .step
      (readsStep (fun bound => compareStep (expressionWithin bound) (operands bound) bound) left)
      (compareStep inner operand limit left) := by
  simp only [compareStep_eq]
  refine explains_otherwise (explains_binaryStep ?_ comparable left) (explains_otherwise
    (explains_binaryStep ?_ comparable left) (explains_otherwise
      (explains_binaryStep recognizes_notIn? comparable left)
      (explains_testStep explains limit left)))
  · exact recognizes_symbolOperator? (by decide) (by decide)
  · exact recognizes_namedOperator? (by decide) .isIn

end Comparisons

/-! ## Attributes, items, calls and filters -/

section Postfix

variable {inner : TagReader Expression} {room : Nat} {target : Expression}
  {signs following : List Sign}

/-- What a step behind an operand is in a family of readers. -/
abbrev readsPostfix (target : Expression) : Reading (Option Expression) :=
  readsStep (fun bound => postfixStep (expressionWithin bound) bound) target

theorem readsPostfix_none (stops : Stops postfixOperators following) :
    readsPostfix target [] following none := by
  refine ⟨fun _ => rfl, fun bound read _ _ => ?_⟩
  apply (takes_postfixStep_none stops read).weaken
  rintro _ rfl
  rfl

/-- An attribute has a name or a number. -/
theorem readsPostfix_member (selected : Sign)
    (kind : selected.kind = .name ∨ selected.kind = .integer) (position : Position) :
    readsPostfix target [.dot, selected] following
      (some (.member target selected.text position)) := by
  refine ⟨fun same => (nomatch same), fun bound read _ like => ?_⟩
  have isOperator : "." ∈ [".", "[", "(", "|"] := by decide
  apply (takes_operator? isOperator).bind
  rintro _ ⟨⟨_, _, place, trim⟩, rfl, same⟩
  cases same
  apply (takes_next? selected).finish
  rintro _ ⟨token, rfl, rfl⟩
  have known : token.kind = .name ∨ token.kind = .integer := kind
  have selects : (token.kind == .name || token.kind == .integer) = true := by simpa using known
  simp only [selects, if_true]
  exact takes_pure (congrArg some like.member)

theorem readsPostfix_item {index : Expression} (position : Position)
    (reading : readsClosed "]" signs following index) :
    readsPostfix target (.operator "[" :: signs) following
      (some (.item target index position)) := by
  refine ⟨fun same => (nomatch same), fun bound read short like => ?_⟩
  have isOperator : "[" ∈ [".", "[", "(", "|"] := by decide
  apply (takes_operator? isOperator).bind
  rintro _ ⟨⟨_, _, place, trim⟩, rfl, same⟩
  cases same
  change Leads (expressionWithin bound >>= fun index => operator "]" >>= fun _ =>
    pure (some (Expression.item read index place))) _ _ _ _
  rw [closedBy_bind]
  apply (reading bound short).finish
  intro readIndex indexLike
  exact takes_pure (congrArg some (like.item indexLike))

theorem readsPostfix_call {arguments : CallArguments Expression} (position : Position)
    (reading : readsCall signs following arguments) :
    readsPostfix target (.operator "(" :: signs) following
      (some (.call target arguments position)) := by
  refine ⟨fun same => (nomatch same), fun bound read short like => ?_⟩
  have isOperator : "(" ∈ [".", "[", "(", "|"] := by decide
  apply (takes_operator? isOperator).bind
  rintro _ ⟨⟨_, _, place, trim⟩, rfl, same⟩
  cases same
  apply (reading bound short).finish
  intro readArguments argumentsLike
  exact takes_pure (congrArg some (like.call argumentsLike))

theorem readsPostfix_filter {arguments : CallArguments Expression} (text : String)
    (position : Position) (reading : readsOptional signs following arguments) :
    readsPostfix target (.operator "|" :: .name text :: signs) following
      (some (.filter target text arguments position)) := by
  refine ⟨fun same => (nomatch same), fun bound read short like => ?_⟩
  have isOperator : "|" ∈ [".", "[", "(", "|"] := by decide
  apply (takes_operator? isOperator).bind
  rintro _ ⟨⟨_, _, place, trim⟩, rfl, same⟩
  cases same
  apply (takes_name "a filter name" text).bind
  rintro token rfl
  apply (reading bound (Nat.lt_of_succ_lt short)).finish
  intro readArguments argumentsLike
  exact takes_pure (congrArg some (like.filter argumentsLike))

/-- Behind a dot stands what selects an attribute.  If something else does, the error is behind
that. -/
theorem explained_member {rest : List Token} {start finish : Position} {dot : Token}
    (isDot : dot.sign = .dot) (target : Expression) (position : Position) :
    Explained .step (readsPostfix target) (dot :: rest) start finish
      ((next? >>= fun
        | some selected =>
            if selected.kind == .name || selected.kind == .integer then
              pure (some (.member target selected.text position))
            else fail "Expected an attribute name after '.'"
        | none => fail "Expected an attribute name after '.'").run.run ⟨rest, start, finish⟩) := by
  have begun : [dot].map Token.sign ≠ [] ∧ [dot].map Token.sign ≠ [.name "not"] := by
    rw [List.map_singleton, isDot]
    exact ⟨List.cons_ne_nil _ _, mt List.singleton_inj.1 (Sign.name_ne_dot _).symm⟩
  have endsInDot : EndsInDot [dot] := ⟨[], dot, rfl, isDot⟩
  have completes (following : List Sign) :
      readsPostfix target ([dot].map Token.sign ++ [.name "x"]) following
        (some (.member target "x" position)) := by
    rw [List.map_singleton, isDot]
    exact readsPostfix_member (.name "x") (.inl rfl) position
  rw [run_bind]
  cases rest with
  | nil =>
      exact .failed rfl (.late endsInDot (fun token head => nomatch head) rfl) begun
        (stops_cons (by decide)) fun following _ => ⟨_, completes following⟩
  | cons selected rest =>
      have ran : next?.run.run ⟨selected :: rest, start, finish⟩ =
          (.ok (some selected), ⟨rest, start, finish⟩) := rfl
      rw [ran]
      by_cases selects : selected.kind = .name ∨ selected.kind = .integer
      · have isSelected : (selected.kind == .name || selected.kind == .integer) = true := by
          simpa using selects
        simp only [isSelected, if_true]
        refine .took rfl (dotted_member selects) ⟨fun same => (nomatch same), fun _ => by simp⟩
          fun following _ => ?_
        rw [List.map_cons, List.map_singleton, isDot]
        exact readsPostfix_member selected.sign selects position
      · have notSelected : (selected.kind == .name || selected.kind == .integer) = false := by
          simpa using selects
        simp only [notSelected]
        refine .failed rfl (.late endsInDot ?_ rfl) begun (stops_cons (by decide))
          fun following _ => ⟨_, completes following⟩
        rintro _ ⟨⟩
        exact not_or.1 selects

theorem explains_postfixStep (explains : Explains room (.phrase OpensNamed) readsEnclosed inner)
    (limit : Nat) (target : Expression) :
    Explains (room + 1) .step (readsPostfix target) (postfixStep inner limit target) := by
  intro tokens start finish short
  rw [postfixStep, run_bind]
  rcases picks_operator? [".", "[", "(", "|"] tokens start finish with
    ⟨⟨kind, text, position, trim⟩, rest, rfl, member, ran⟩ | ⟨stops, ran⟩
  · rw [ran]
    have fewer : rest.length < room := Nat.lt_of_succ_lt_succ short
    obtain ⟨_, among, sign⟩ := List.mem_map.1 member
    cases sign
    simp only [List.mem_cons, List.not_mem_nil, or_false] at among
    rcases among with rfl | rfl | rfl | rfl
    · exact explained_member rfl target position
    · have extended : Explained .found (fun signs => readsPostfix target (.operator "[" :: signs))
          rest start finish ((closedBy inner "]" >>= fun index =>
            pure (some (.item target index position))).run.run ⟨rest, start, finish⟩) :=
        (explains_closedBy "]" (by decide) explains rest start finish fewer).map
          (fun _ _ _ none => nomatch none) (fun _ _ _ => True.intro) (readsPostfix_item position)
      rw [← closedBy_bind] at extended
      exact extended.cons rfl (Manner.step_proceeds (by decide) (by decide))
    · have extended : Explained .found (fun signs => readsPostfix target (.operator "(" :: signs))
          rest start finish ((callArguments inner limit >>= fun arguments =>
            pure (some (.call target arguments position))).run.run ⟨rest, start, finish⟩) :=
        (explains_callArguments explains limit rest start finish fewer).map
          (fun _ _ _ none => nomatch none) (fun _ _ _ => True.intro) (readsPostfix_call position)
      exact extended.cons rfl (Manner.step_proceeds (by decide) (by decide))
    · have extended : Explained .found (fun signs => readsPostfix target (.operator "|" :: signs))
          rest start finish ((TagReader.name "a filter name" >>= fun filter =>
            optionalArguments inner limit >>= fun arguments =>
              pure (some (.filter target filter.text arguments position))).run.run
                ⟨rest, start, finish⟩) := by
        apply explained_name
        · exact fun text => Manner.found_proceeds (Sign.name_ne_dot text)
        · exact True.intro
        · rintro token rest rfl _
          exact (explains_optionalArguments explains limit rest start finish
            (Nat.lt_of_succ_lt fewer)).map (fun _ _ _ none => nomatch none)
              (fun _ _ _ => True.intro) (readsPostfix_filter token.text position)
        · exact fun following ends =>
            ⟨_, readsPostfix_filter "x" position (readsOptional_ends ends)⟩
      exact extended.cons rfl (Manner.step_proceeds (by decide) (by decide))
  · rw [ran]
    exact explained_pure ⟨fun _ => rfl, fun some => (some rfl).elim⟩ fun following resumes =>
      readsPostfix_none (resumes.stops (by decide) stops)

end Postfix

/-! ## Primary expressions -/

section Primary

variable {inner : TagReader Expression} {room : Nat} {signs following : List Sign}

/-- What is read as an operand without what follows it. -/
abbrev readsPrimary : Reading Expression :=
  readsLevel fun bound => primary (expressionWithin bound) bound

theorem unplaced_nameExpression (text : String) (position place : Position) :
    (nameExpression text position).unplaced = (nameExpression text place).unplaced := by
  unfold nameExpression
  split <;> rfl

theorem readsPrimary_name (text : String) (position : Position) :
    readsPrimary [.name text] following (nameExpression text position) := by
  intro bound _
  apply (takes_next? (.name text)).finish
  rintro _ ⟨⟨_, _, place, trim⟩, rfl, same⟩
  cases same
  exact takes_pure (unplaced_nameExpression _ place position)

theorem readsPrimary_string (text : String) (position : Position) :
    readsPrimary [⟨.string, text⟩] following (.literal (.string text) position) := by
  intro bound _
  apply (takes_next? ⟨.string, text⟩).finish
  rintro _ ⟨⟨_, _, place, trim⟩, rfl, same⟩
  cases same
  exact takes_pure rfl

theorem readsPrimary_float (text : String) (position : Position) :
    readsPrimary [⟨.float, text⟩] following (.literal (.float (floatOf text)) position) := by
  intro bound _
  apply (takes_next? ⟨.float, text⟩).finish
  rintro _ ⟨⟨_, _, place, trim⟩, rfl, same⟩
  cases same
  exact takes_pure rfl

theorem readsPrimary_integer {text : String} {value : Int} (known : integerOf? text = some value)
    (position : Position) :
    readsPrimary [⟨.integer, text⟩] following (.literal (.integer value) position) := by
  intro bound _
  apply (takes_next? ⟨.integer, text⟩).finish
  rintro _ ⟨⟨_, _, place, trim⟩, rfl, same⟩
  cases same
  simp only [known]
  exact takes_pure rfl

theorem readsPrimary_parentheses {value : Expression}
    (reading : readsClosed ")" signs following value) :
    readsPrimary (.operator "(" :: signs) following value := by
  intro bound short
  apply (takes_next? (.operator "(")).bind
  rintro _ ⟨⟨_, _, place, trim⟩, rfl, same⟩
  cases same
  exact reading bound short

theorem readsPrimary_list {items : List Expression} (position : Position)
    (reading : readsItems expressionWithin unplaced "]" signs following items) :
    readsPrimary (.operator "[" :: signs) following (.list items position) := by
  intro bound short
  apply (takes_next? (.operator "[")).bind
  rintro _ ⟨⟨_, _, place, trim⟩, rfl, same⟩
  cases same
  apply (reading bound short).finish
  intro read like
  apply takes_pure
  rw [Like, unplaced, unplaced, unplacedItems_eq_map, unplacedItems_eq_map, like]

theorem readsPrimary_dict {entries : List (Expression × Expression)} (position : Position)
    (reading : readsItems (fun bound => entry (expressionWithin bound))
      (Prod.map unplaced unplaced) "\x7d" signs following entries) :
    readsPrimary (.operator "\x7b" :: signs) following (.dict entries position) := by
  intro bound short
  apply (takes_next? (.operator "\x7b")).bind
  rintro _ ⟨⟨_, _, place, trim⟩, rfl, same⟩
  cases same
  apply (reading bound short).finish
  intro read like
  apply takes_pure
  rw [Like, unplaced, unplaced, unplacedEntries_eq_map, unplacedEntries_eq_map, like]

theorem explains_primary (explains : Explains room (.phrase OpensNamed) readsEnclosed inner)
    (limit : Nat) :
    Explains (room + 1) (.phrase OpensNamed) readsPrimary (primary inner limit) := by
  intro tokens start finish short
  have opening : (Manner.phrase OpensNamed : Manner Expression).begun [] [.name "x"] :=
    fun _ => ⟨[], rfl, ends_nil⟩
  have filled (following : List Sign) (_ : Ends following) :
      ∃ value, readsPrimary [.name "x"] following value := ⟨_, readsPrimary_name "x" default⟩
  rw [primary, run_bind]
  cases tokens with
  | nil => exact explained_error [.name "x"] rfl opening (stops_cons (by decide)) filled
  | cons token rest =>
      have fewer : rest.length < room := Nat.lt_of_succ_lt_succ short
      have ran : next?.run.run ⟨token :: rest, start, finish⟩ =
          (.ok (some token), ⟨rest, start, finish⟩) := rfl
      rw [ran]
      dsimp only
      split
      case h_1 none => cases none
      case h_2 text position trim found =>
        cases found
        exact (explained_pure True.intro fun _ _ => readsPrimary_name text position).cons rfl
          (Manner.phrase_proceeds fun same => nomatch same)
      case h_3 text position trim found =>
        cases found
        exact (explained_pure True.intro fun _ _ => readsPrimary_string text position).cons rfl
          (Manner.phrase_proceeds fun same => nomatch same)
      case h_4 text position trim found =>
        cases found
        split
        · rename_i value known
          exact (explained_pure True.intro fun _ _ => readsPrimary_integer known position).cons rfl
            (Manner.phrase_proceeds fun same => nomatch same)
        · exact explained_error [.name "x"] rfl opening (stops_cons (by decide)) filled
      case h_5 text position trim found =>
        cases found
        exact (explained_pure True.intro fun _ _ => readsPrimary_float text position).cons rfl
          (Manner.phrase_proceeds fun same => nomatch same)
      case h_6 position trim found =>
        cases found
        have closing := explains_closedBy ")" (by decide) explains rest start finish fewer
        exact (closing.weaken readsPrimary_parentheses).cons rfl
          (Manner.phrase_proceeds (by decide))
      case h_7 position trim found =>
        cases found
        have items := explains_items "]" (by decide) (by decide) explains limit rest start finish
          fewer
        exact (items.map (fun _ _ _ => True.intro) (fun _ _ _ => True.intro)
          (readsPrimary_list position)).cons rfl (Manner.phrase_proceeds (by decide))
      case h_8 position trim found =>
        cases found
        have entries :=
          explains_items "\x7d" (by decide) (by decide) (explains_entry explains) limit
          rest start finish fewer
        exact (entries.map (fun _ _ _ => True.intro) (fun _ _ _ => True.intro)
          (readsPrimary_dict position)).cons rfl (Manner.phrase_proceeds (by decide))
      case h_9 other _ _ _ _ _ _ _ found =>
        cases found
        exact explained_error [.name "x"] rfl opening (stops_cons (by decide)) filled

end Primary

/-! ## Operators in front of an operand -/

section Prefixed

variable {operands : Nat → TagReader Expression} {operand : TagReader Expression}
  {word? : TagReader (Option Token)} {sign : Sign} {operator : UnaryOperator} {room : Nat}
  {signs following : List Sign} {expression : Expression}

/-- An operand behind any count of one word. -/
def prefixed (word? : TagReader (Option Token)) (operator : UnaryOperator)
    (operand : TagReader Expression) : Nat → TagReader Expression
  | 0 => operand
  | bound + 1 => do
      match ← word? with
      | some token =>
          return .unary operator (← prefixed word? operator operand bound) token.position
      | none => operand

theorem negated_eq (operand : TagReader Expression) (bound : Nat) :
    negated operand bound = prefixed (operator? ["-"]) .negate operand bound := by
  induction bound with
  | zero => rfl
  | succ bound inductionHypothesis =>
      rw [negated, inductionHypothesis]
      rfl

theorem complemented_eq (operand : TagReader Expression) (bound : Nat) :
    complemented operand bound = prefixed (name? ["not"]) .not operand bound := by
  induction bound with
  | zero => rfl
  | succ bound inductionHypothesis =>
      rw [complemented, inductionHypothesis]
      rfl

/-- What is read behind some of the words. -/
def readsPrefixed (word? : TagReader (Option Token)) (operator : UnaryOperator)
    (operands : Nat → TagReader Expression) : Reading Expression :=
  fun signs following expression => ∀ left bound, signs.length ≤ left → signs.length ≤ bound →
    Takes (prefixed word? operator (operands bound) left) signs following expression.Like

theorem readsPrefixed_operand (picks : Picks word? [sign])
    (stops : Stops [sign] (signs ++ following))
    (reading : readsLevel operands signs following expression) :
    readsPrefixed word? operator operands signs following expression := by
  intro left bound _ short
  cases left with
  | zero => exact reading bound short
  | succ left =>
      have absent : Takes word? [] (signs ++ following) (· = none) := picks.takes_none stops
      apply absent.skip
      rintro _ rfl
      exact reading bound short

theorem readsPrefixed_cons (picks : Picks word? [sign]) (position : Position)
    (reading : readsPrefixed word? operator operands signs following expression) :
    readsPrefixed word? operator operands (sign :: signs) following
      (.unary operator expression position) := by
  intro left bound enough short
  cases left with
  | zero => cases enough
  | succ left =>
      apply picks.takes.bind
      rintro _ ⟨token, rfl⟩
      apply (reading left bound (Nat.le_of_succ_le_succ enough) (Nat.le_of_succ_le short)).finish
      intro read like
      exact takes_pure like.unary

theorem explains_prefixed (picks : Picks word? [sign]) (notDot : sign ≠ .dot)
    (notName : .name "x" ≠ sign) (operator : UnaryOperator)
    (explains : Explains room (.phrase OpensNamed) (readsLevel operands) operand) (left : Nat)
    (fewer : room ≤ left + 1) :
    Explains room (.phrase OpensNamed) (readsPrefixed word? operator operands)
      (prefixed word? operator operand left) := by
  induction left generalizing room with
  | zero =>
      intro tokens start finish short
      obtain rfl : tokens = [] := List.length_eq_zero_iff.1 (by omega)
      have stops : Stops [sign] (([] : List Token).map Token.sign) := fun sign head => nomatch head
      exact (explains [] start finish short).apart stops (fun _ => OpensNamed.name)
        (mt List.mem_singleton.1 notName) (readsPrefixed_operand picks)
  | succ left inductionHypothesis =>
      intro tokens start finish short
      rw [prefixed, run_bind]
      rcases picks tokens start finish with ⟨token, rest, rfl, member, ran⟩ | ⟨stops, ran⟩
      · rw [ran]
        rw [List.length_cons] at short
        have inside : Explains (rest.length + 1) (.phrase OpensNamed)
            (readsPrefixed word? operator operands) (prefixed word? operator operand left) :=
          inductionHypothesis (explains.mono (by omega)) (by omega)
        have behind : Explained .any (fun signs => readsPrefixed word? operator operands
            (sign :: signs)) rest start finish ((prefixed word? operator operand left >>=
              fun read => pure (.unary operator read token.position)).run.run
                ⟨rest, start, finish⟩) :=
          (inside rest start finish (Nat.lt_succ_self _)).map (fun _ _ _ => True.intro)
            (fun _ _ _ => True.intro) (readsPrefixed_cons picks token.position)
        exact behind.cons (List.mem_singleton.1 member) (Manner.phrase_proceeds notDot)
      · rw [ran]
        exact (explains tokens start finish short).apart stops (fun _ => OpensNamed.name)
          (mt List.mem_singleton.1 notName) (readsPrefixed_operand picks)

end Prefixed

/-! ## The levels -/

section Levels

variable {operands : Nat → TagReader Expression} {limit : Nat}

/-- The readers of a level are explained, up to the tokens that they allow for. -/
def LevelExplains (limit : Nat) (operands : Nat → TagReader Expression) : Prop :=
  Explains (limit + 1) (.phrase OpensNamed) (readsLevel operands) (operands limit)

theorem explains_symbolLevel {symbols : List String} (notDot : "." ∉ symbols)
    (apart : ∀ sign ∈ closers, sign ∉ symbols.map .operator)
    (explains : LevelExplains limit operands) :
    LevelExplains limit fun bound => symbolLevel symbols (operands bound) bound :=
  explains_chain explains
    (explains_binaryStep (recognizes_symbolOperator? notDot apart) explains)

theorem explains_nameLevel {name : String} (notNot : name ≠ "not") (operator : BinaryOperator)
    (explains : LevelExplains limit operands) :
    LevelExplains limit fun bound => nameLevel name operator (operands bound) bound :=
  explains_chain explains
    (explains_binaryStep (recognizes_namedOperator? notNot operator) explains)

theorem explains_prefixedLevel {word? : TagReader (Option Token)} {sign : Sign}
    (picks : Picks word? [sign]) (notDot : sign ≠ .dot) (notName : .name "x" ≠ sign)
    (operator : UnaryOperator) (explains : LevelExplains limit operands) :
    LevelExplains limit fun bound => prefixed word? operator (operands bound) bound := by
  intro tokens start finish short
  have explained :=
    explains_prefixed picks notDot notName operator explains limit (Nat.le_refl _) tokens start
      finish short
  exact explained.imp fun reading bound enough => reading bound bound enough enough

variable (explains : Explains limit (.phrase OpensNamed) readsEnclosed (expressionWithin limit))

include explains

theorem explains_unaryLevel :
    LevelExplains limit fun bound => unaryLevel (expressionWithin bound) bound := by
  have operand : LevelExplains limit fun bound => postfixed (expressionWithin bound) bound :=
    explains_chain (explains_primary explains limit) (explains_postfixStep explains limit)
  simp only [unaryLevel, negated_eq]
  exact explains_prefixedLevel (picks_operator? ["-"]) (by decide) (by decide) .negate operand

theorem explains_concatenationLevel :
    LevelExplains limit fun bound => concatenationLevel (expressionWithin bound) bound := by
  have multiplicative :
      LevelExplains limit fun bound => multiplicativeLevel (expressionWithin bound) bound :=
    explains_symbolLevel (by decide) (by decide) (explains_unaryLevel explains)
  have additive : LevelExplains limit fun bound => additiveLevel (expressionWithin bound) bound :=
    explains_symbolLevel (by decide) (by decide) multiplicative
  exact explains_symbolLevel (by decide) (by decide) additive

/-- Each level is explained by the one below it. -/
theorem explains_levels :
    LevelExplains limit fun bound => levels (expressionWithin bound) bound := by
  have operand := explains_concatenationLevel explains
  have compared : LevelExplains limit fun bound => comparisonLevel (expressionWithin bound) bound :=
    explains_chain operand (explains_compareStep explains operand limit)
  have complement :
      LevelExplains limit fun bound => complementLevel (expressionWithin bound) bound := by
    simp only [complementLevel, complemented_eq]
    exact explains_prefixedLevel (picks_name? ["not"]) (by decide) (by decide) .not compared
  have conjunction :
      LevelExplains limit fun bound => conjunctionLevel (expressionWithin bound) bound :=
    explains_nameLevel (by decide) .and complement
  exact explains_nameLevel (by decide) .or conjunction

end Levels

/-- Expressions are explained, however deep they nest. -/
theorem explains_expressionWithin (bound : Nat) :
    Explains bound (.phrase OpensNamed) readsEnclosed (expressionWithin bound) := by
  induction bound with
  | zero => exact fun tokens _ _ short => (nomatch short)
  | succ bound inductionHypothesis =>
      intro tokens start finish short
      have explained := explains_levels inductionHypothesis tokens start finish short
      refine explained.imp fun {signs following value} reading room enough => ?_
      cases room with
      | zero => cases enough
      | succ room => exact reading room (Nat.le_of_lt_succ enough)

end TemplateEngine

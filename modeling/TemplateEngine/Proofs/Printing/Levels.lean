import TemplateEngine.Proofs.Printing.Operands

/-!
# Reading operators

Every level reads what the next one does, unless an operator of its own follows; then it reads an
operation.  A binary operation stands in parentheses, so behind its operands nothing follows but
its operator or the end.  Tests and the word `not` stand without parentheses, at the levels
between the comparisons and the conjunctions.
-/

namespace TemplateEngine

open Expression

namespace TagReader

variable {inner operand : TagReader Expression} {limit : Nat} {signs following : List Sign}

/-! ## Minus signs -/

/-- An operand behind minus signs is read together with them. -/
theorem takes_negated (reads : Reads inner limit) (expression : Expression)
    (signed : expression.isSigned = true) (back : expression.readsBack = true)
    (short : expression.signs.length ≤ limit) (stops : Stops postfixOperators following)
    (bound : Nat) (enough : expression.signs.length ≤ bound) :
    Takes (negated (postfixed inner limit) bound) expression.signs following expression.Like := by
  have positive := length_signs_pos expression back
  cases bound with
  | zero => omega
  | succ bound =>
      rw [negated]
      by_cases operand : expression.isOperand = true
      · rcases exists_signs_cons expression back with ⟨sign, rest, spelled, opening⟩
        have apart : Stops (["-"].map .operator) (expression.signs ++ following) := by
          rw [spelled]
          apply stops_cons
          intro member
          exact opening.notDash operand (List.mem_singleton.1 member)
        apply (takes_operator?_none apart).skip
        rintro _ rfl
        exact takes_postfixed reads operand back short stops
      · match expression with
        | .unary .negate inside position =>
            rw [readsBack, Bool.and_eq_true] at back
            rw [Expression.signs, List.length_cons] at short enough
            have dash : "-" ∈ ["-"] := by decide
            apply (takes_operator? dash).bind
            rintro _ ⟨token, rfl, _⟩
            have more := takes_negated reads inside back.1 back.2 (by omega) stops bound (by omega)
            apply more.finish
            intro read like
            exact takes_pure like.unary

/-! ## Binary operators -/

/-- A reader of an operator finds a certain one. -/
def Finds (operator : BinaryOperator) (found : Option (BinaryOperator × Position)) : Prop :=
  ∃ position, found = some (operator, position)

section Binary

variable {operator? : TagReader (Option (BinaryOperator × Position))} {operator : BinaryOperator}
  {left right read : Expression} {position : Position} {others : List Sign}

theorem takes_binaryStep (finds : Takes operator? signs (others ++ following) (Finds operator))
    (operands : Takes operand others following right.Like) (like : left.Like read) :
    Takes (binaryStep operator? operand read) (signs ++ others) following
      (Extends (.binary operator left right position)) := by
  apply finds.bind
  rintro _ ⟨place, rfl⟩
  apply operands.finish
  intro readRight rightLike
  exact takes_pure ⟨_, rfl, like.binary rightLike⟩

theorem takes_binaryStep_none (absent : Takes operator? [] following (· = none)) :
    Takes (binaryStep operator? operand read) [] following (· = none) := by
  apply absent.finish
  rintro _ rfl
  exact takes_pure rfl

theorem takes_symbolOperator?_text {symbols : List String} {text : String}
    (member : text ∈ symbols) :
    Takes (symbolOperator? symbols) [.operator text] following (Finds (binaryOperatorOf text)) := by
  apply (takes_operator? member).finish
  rintro _ ⟨⟨kind, text, place, trim⟩, rfl, same⟩
  cases same
  exact takes_pure ⟨place, rfl⟩

theorem takes_symbolOperator? {symbols : List String} (member : operator.symbol ∈ symbols)
    (written : binaryOperatorOf operator.symbol = operator) :
    Takes (symbolOperator? symbols) [.operator operator.symbol] following (Finds operator) := by
  have takes : Takes (symbolOperator? symbols) [.operator operator.symbol] following
      (Finds (binaryOperatorOf operator.symbol)) := takes_symbolOperator?_text member
  rwa [written] at takes

theorem takes_symbolOperator?_none {symbols : List String}
    (stops : Stops (symbols.map .operator) following) :
    Takes (symbolOperator? symbols) [] following (· = none) := by
  apply (takes_operator?_none stops).finish
  rintro _ rfl
  exact takes_pure rfl

theorem takes_namedOperator? (name : String) :
    Takes (namedOperator? name operator) [.name name] following (Finds operator) := by
  apply (takes_name? (List.mem_singleton_self name)).finish
  rintro _ ⟨token, rfl, _⟩
  exact takes_pure ⟨_, rfl⟩

theorem takes_namedOperator?_none {name : String} (stops : Stops [.name name] following) :
    Takes (namedOperator? name operator) [] following (· = none) := by
  have none : Takes (name? [name]) [] following (· = none) := takes_name?_none stops
  apply none.finish
  rintro _ rfl
  exact takes_pure rfl

/-- The membership operator of two words is the current token and the next one. -/
theorem isNotIn_iff (cursor : Cursor) :
    (cursor.current?.any (·.isName "not") && (cursor.peek? 1).any (·.isName "in")) = true ↔
      ∃ rest, cursor.remaining.map Token.sign = .name "not" :: .name "in" :: rest := by
  rw [Cursor.current?, Cursor.peek?]
  rcases cursor.remaining with _ | ⟨first, _ | ⟨second, more⟩⟩
  · simp
  · simp
  · simp [Token.isName, Token.sign, Sign.name, and_assoc]

theorem takes_notIn? :
    Takes notIn? [.name "not", .name "in"] following (Finds .notIn) := by
  intro cursor tokens rest remaining spelled followed
  have isNotIn := (isNotIn_iff cursor).2
    ⟨following, by rw [remaining, List.map_append, spelled, followed]; rfl⟩
  refine ⟨some (.notIn, cursor.position), ⟨_, rfl⟩, ?_⟩
  have twice : cursor.advance.advance = { cursor with remaining := rest } := by
    have two : tokens.length = 2 := by
      have lengths := congrArg List.length spelled
      rwa [List.length_map] at lengths
    simp [Cursor.advance, remaining, List.drop_left' two]
  rw [notIn?, run_bind]
  change (if _ then _ else _ : TagReader _).run.run cursor = _
  rw [if_pos isNotIn, twice]
  rfl

theorem takes_notIn?_none_of_ne
    (apart : ∀ more, following ≠ .name "not" :: .name "in" :: more) :
    Takes notIn? [] following (· = none) := by
  intro cursor tokens rest remaining spelled followed
  have notNotIn := mt (isNotIn_iff cursor).1 (by
    rintro ⟨more, isNotIn⟩
    rw [remaining, List.map_append, spelled, followed] at isNotIn
    exact apart more isNotIn)
  cases List.map_eq_nil_iff.1 spelled
  refine ⟨none, rfl, ?_⟩
  rw [notIn?, run_bind]
  change (if _ then _ else _ : TagReader _).run.run cursor = _
  rw [List.nil_append] at remaining
  rw [if_neg notNotIn, ← remaining]

theorem takes_notIn?_none (stops : Stops [.name "not"] following) :
    Takes notIn? [] following (· = none) := by
  apply takes_notIn?_none_of_ne
  rintro more rfl
  exact stops _ rfl (List.mem_singleton_self _)

/-- An operand that no operator follows. -/
theorem takes_chain {step : Expression → TagReader (Option Expression)}
    {wanted : Expression → Prop} (takes : Takes operand signs following wanted)
    (last : ∀ read, Takes (step read) [] following (· = none)) (bound : Nat) :
    Takes (operand >>= extend step bound) signs following wanted :=
  takes_of_leads_extend (takes.leads _) last

/-- Two operands with an operator between them. -/
theorem takes_chain_binary {step : Expression → TagReader (Option Expression)} {bound : Nat}
    (some : 0 < bound)
    (takes : Takes operand left.signs (operator.signs ++ right.signs ++ following) left.Like)
    (grows : ∀ read, left.Like read → Takes (step read) (operator.signs ++ right.signs) following
      (Extends (.binary operator left right position)))
    (last : ∀ read, Takes (step read) [] following (· = none)) :
    Takes (operand >>= extend step bound) (left.signs ++ operator.signs ++ right.signs) following
      (Expression.binary operator left right position).Like := by
  rw [List.append_assoc]
  cases bound with
  | zero => cases some
  | succ bound =>
      have leads := (takes.leads (extend step (bound + 1))).trans
        fun read like => leads_extend (grows read like)
      exact takes_of_leads_extend leads last

end Binary

/-! ## Comparisons and tests -/

/-- The tokens that begin a comparison, a membership or a test behind an operand. -/
def comparisonTokens : List Sign :=
  ["==", "!=", "<", "<=", ">", ">="].map .operator ++ ["in", "not", "is"].map .name

section Comparison

variable {left right read : Expression} {operator : BinaryOperator} {position : Position}

theorem takes_compareStep_none (stops : Stops comparisonTokens following) (read : Expression) :
    Takes (compareStep inner operand limit read) [] following (· = none) := by
  rw [compareStep]
  apply (takes_binaryStep_none (takes_symbolOperator?_none (stops.mono (by decide)))).skip
  rintro _ rfl
  apply (takes_binaryStep_none (takes_namedOperator?_none (stops.mono (by decide)))).skip
  rintro _ rfl
  apply (takes_binaryStep_none (takes_notIn?_none (stops.mono (by decide)))).skip
  rintro _ rfl
  apply (takes_name?_none (stops.mono (by decide))).finish
  rintro _ rfl
  exact takes_pure rfl

/-- A comparison with a symbol. -/
theorem takes_compareStep_symbol (member : operator.symbol ∈ ["==", "!=", "<", "<=", ">", ">="])
    (written : binaryOperatorOf operator.symbol = operator)
    (operands : Takes operand right.signs following right.Like) (like : left.Like read) :
    Takes (compareStep inner operand limit read) (.operator operator.symbol :: right.signs)
      following (Extends (.binary operator left right position)) := by
  rw [compareStep]
  apply (takes_binaryStep (takes_symbolOperator? member written) operands like).finish
  rintro _ ⟨next, rfl, nextLike⟩
  exact takes_pure ⟨next, rfl, nextLike⟩

theorem takes_compareStep_isIn (operands : Takes operand right.signs following right.Like)
    (like : left.Like read) :
    Takes (compareStep inner operand limit read) (.name "in" :: right.signs)
      following (Extends (.binary .isIn left right position)) := by
  rw [compareStep]
  apply (takes_binaryStep_none (takes_symbolOperator?_none (stops_cons (by decide)))).skip
  rintro _ rfl
  apply (takes_binaryStep (takes_namedOperator? "in") operands like).finish
  rintro _ ⟨next, rfl, nextLike⟩
  exact takes_pure ⟨next, rfl, nextLike⟩

theorem takes_compareStep_notIn (operands : Takes operand right.signs following right.Like)
    (like : left.Like read) :
    Takes (compareStep inner operand limit read) (.name "not" :: .name "in" :: right.signs)
      following (Extends (.binary .notIn left right position)) := by
  rw [compareStep]
  apply (takes_binaryStep_none (takes_symbolOperator?_none (stops_cons (by decide)))).skip
  rintro _ rfl
  apply (takes_binaryStep_none (takes_namedOperator?_none (stops_cons (by decide)))).skip
  rintro _ rfl
  apply (takes_binaryStep takes_notIn? operands like).finish
  rintro _ ⟨next, rfl, nextLike⟩
  exact takes_pure ⟨next, rfl, nextLike⟩

/-- The tokens of a test behind the word that announces it. -/
def testSigns (testName : String) (arguments : CallArguments Expression) (negated : Bool) :
    List Sign :=
  (if negated then [.name "not"] else []) ++ .name testName ::
    if arguments.isEmpty then [] else argumentsSigns arguments

theorem takes_testOf {testName : String} {arguments : CallArguments Expression} {negated : Bool}
    (reads : Reads inner limit) (identifier : isIdentifier testName = true)
    (back : argumentsReadBack arguments = true)
    (short : (if arguments.isEmpty then [] else argumentsSigns arguments).length < limit)
    (bare : arguments.isEmpty = true → Stops [.operator "("] following) (like : left.Like read)
    (place : Position) :
    Takes (testOf inner limit read place) (testSigns testName arguments negated) following
      (Expression.test left testName arguments negated position).Like := by
  have named : Leads (name "a test name" >>= fun test => optionalArguments inner limit >>=
      fun arguments => pure (.test read test.text arguments negated place))
      (.name testName :: if arguments.isEmpty then [] else argumentsSigns arguments) following pure
      (Expression.test left testName arguments negated position).Like := by
    apply (takes_name "a test name" testName).bind
    rintro token rfl
    apply (takes_optionalArguments reads back short bare).finish
    intro readArguments argumentsLike
    exact takes_pure (like.test argumentsLike)
  rw [testOf, testSigns]
  cases negated with
  | true =>
      apply (takes_accepts "not").bind
      rintro _ rfl
      exact named
  | false =>
      have notNot : Sign.name testName ∉ [Sign.name "not"] := by
        intro member
        have same : testName = "not" := congrArg Sign.text (List.mem_singleton.1 member)
        exact ne_of_isIdentifier identifier (by decide) same
      apply (takes_accepts_none (stops_cons notNot)).skip
      rintro _ rfl
      exact named

theorem takes_compareStep_test {testName : String} {arguments : CallArguments Expression}
    {negated : Bool} (reads : Reads inner limit) (identifier : isIdentifier testName = true)
    (back : argumentsReadBack arguments = true)
    (short : (if arguments.isEmpty then [] else argumentsSigns arguments).length < limit)
    (bare : arguments.isEmpty = true → Stops [.operator "("] following) (like : left.Like read) :
    Takes (compareStep inner operand limit read)
      (.name "is" :: testSigns testName arguments negated) following
      (Extends (.test left testName arguments negated position)) := by
  rw [compareStep]
  apply (takes_binaryStep_none (takes_symbolOperator?_none (stops_cons (by decide)))).skip
  rintro _ rfl
  apply (takes_binaryStep_none (takes_namedOperator?_none (stops_cons (by decide)))).skip
  rintro _ rfl
  apply (takes_binaryStep_none (takes_notIn?_none (stops_cons (by decide)))).skip
  rintro _ rfl
  apply (takes_name? (List.mem_singleton_self "is")).bind
  rintro _ ⟨token, rfl, _⟩
  apply (takes_testOf reads identifier back short bare like token.position).finish
  intro next nextLike
  exact takes_pure ⟨next, rfl, nextLike⟩

end Comparison

/-! ## The levels -/

section Levels

/-- Minus signs and what they are in front of. -/
def unaryLevel (inner : TagReader Expression) (limit : Nat) : TagReader Expression :=
  negated (postfixed inner limit) limit

def multiplicativeLevel (inner : TagReader Expression) (limit : Nat) : TagReader Expression :=
  symbolLevel ["*", "/", "//", "%"] (unaryLevel inner limit) limit

def additiveLevel (inner : TagReader Expression) (limit : Nat) : TagReader Expression :=
  symbolLevel ["+", "-"] (multiplicativeLevel inner limit) limit

def concatenationLevel (inner : TagReader Expression) (limit : Nat) : TagReader Expression :=
  symbolLevel ["~"] (additiveLevel inner limit) limit

def comparisonLevel (inner : TagReader Expression) (limit : Nat) : TagReader Expression :=
  comparison inner (concatenationLevel inner limit) limit

def complementLevel (inner : TagReader Expression) (limit : Nat) : TagReader Expression :=
  complemented (comparisonLevel inner limit) limit

def conjunctionLevel (inner : TagReader Expression) (limit : Nat) : TagReader Expression :=
  nameLevel "and" .and (complementLevel inner limit) limit

/-- The loosest of the levels is that of disjunctions. -/
theorem levels_eq (inner : TagReader Expression) (limit : Nat) :
    levels inner limit = nameLevel "or" .or (conjunctionLevel inner limit) limit :=
  rfl

/-! ### Levels of an operator -/

variable {wanted : Expression → Prop} {left right : Expression} {operator : BinaryOperator}
  {position : Position} {bound : Nat}

theorem takes_symbolLevel {symbols : List String} (takes : Takes operand signs following wanted)
    (stops : Stops (symbols.map .operator) following) :
    Takes (symbolLevel symbols operand bound) signs following wanted :=
  takes_chain takes (fun _ => takes_binaryStep_none (takes_symbolOperator?_none stops)) bound

theorem takes_symbolLevel_binary {symbols : List String} (some : 0 < bound)
    (member : operator.symbol ∈ symbols) (written : binaryOperatorOf operator.symbol = operator)
    (spelled : operator.signs = [.operator operator.symbol])
    (takes : Takes operand left.signs (operator.signs ++ right.signs ++ following) left.Like)
    (operands : Takes operand right.signs following right.Like)
    (stops : Stops (symbols.map .operator) following) :
    Takes (symbolLevel symbols operand bound) (left.signs ++ operator.signs ++ right.signs)
      following (Expression.binary operator left right position).Like := by
  apply takes_chain_binary some takes
  · intro read like
    rw [spelled]
    exact takes_binaryStep (takes_symbolOperator? member written) operands like
  · exact fun _ => takes_binaryStep_none (takes_symbolOperator?_none stops)

theorem takes_nameLevel {name : String} (takes : Takes operand signs following wanted)
    (stops : Stops [.name name] following) :
    Takes (nameLevel name operator operand bound) signs following wanted :=
  takes_chain takes (fun _ => takes_binaryStep_none (takes_namedOperator?_none stops)) bound

theorem takes_nameLevel_binary {name : String} (some : 0 < bound)
    (spelled : operator.signs = [.name name])
    (takes : Takes operand left.signs (operator.signs ++ right.signs ++ following) left.Like)
    (operands : Takes operand right.signs following right.Like)
    (stops : Stops [.name name] following) :
    Takes (nameLevel name operator operand bound) (left.signs ++ operator.signs ++ right.signs)
      following (Expression.binary operator left right position).Like := by
  apply takes_chain_binary some takes
  · intro read like
    rw [spelled]
    exact takes_binaryStep (takes_namedOperator? name) operands like
  · exact fun _ => takes_binaryStep_none (takes_namedOperator?_none stops)

theorem takes_comparison (takes : Takes operand signs following wanted)
    (stops : Stops comparisonTokens following) :
    Takes (comparison inner operand bound) signs following wanted :=
  takes_chain takes (takes_compareStep_none stops) bound

theorem takes_comparison_binary (some : 0 < bound)
    (takes : Takes operand left.signs (operator.signs ++ right.signs ++ following) left.Like)
    (grows : ∀ read, left.Like read →
      Takes (compareStep inner operand bound read) (operator.signs ++ right.signs) following
        (Extends (.binary operator left right position)))
    (stops : Stops comparisonTokens following) :
    Takes (comparison inner operand bound) (left.signs ++ operator.signs ++ right.signs)
      following (Expression.binary operator left right position).Like :=
  takes_chain_binary some takes grows (takes_compareStep_none stops)

/-- What does not begin with `not` is read by the level above its complements. -/
theorem takes_complemented_of_stops (takes : Takes operand signs following wanted)
    (notNot : Stops [.name "not"] (signs ++ following)) :
    Takes (complemented operand bound) signs following wanted := by
  cases bound with
  | zero => exact takes
  | succ bound =>
      have absent : Takes (name? ["not"]) [] (signs ++ following) (· = none) :=
        takes_name?_none notNot
      apply absent.skip
      rintro _ rfl
      exact takes

/-- Expressions that can be tested do not begin with `not`. -/
theorem stops_not_of_isTestable {expression : Expression} (testable : expression.isTestable = true)
    (back : expression.readsBack = true) (rest : List Sign) :
    Stops [.name "not"] (expression.signs ++ rest) := by
  rcases exists_signs_cons expression back with ⟨sign, more, spelled, opening⟩
  rw [spelled]
  apply stops_cons
  intro member
  exact opening.notNot testable (List.mem_singleton.1 member)

/-! ### Operands of operators -/

/-- The tokens that the multiplicative level or a tighter one takes behind an operand. -/
def multiplicativeTokens : List Sign :=
  postfixOperators ++ ["*", "/", "//", "%"].map .operator

/-- The tokens that the additive level or a tighter one takes behind an operand. -/
def additiveTokens : List Sign :=
  multiplicativeTokens ++ ["+", "-"].map .operator

/-- The tokens that the level of concatenations or a tighter one takes behind an operand. -/
def concatenationTokens : List Sign :=
  additiveTokens ++ ["~"].map .operator

/-- The tokens that the level of conjunctions or a tighter one takes behind an operand. -/
def conjunctionTokens : List Sign :=
  concatenationTokens ++ comparisonTokens ++ [.name "and"]

/-- An expression of at most some tokens that stands beside an operator. -/
structure Fits (expression : Expression) (limit : Nat) : Prop where
  signed : expression.isSigned = true
  back : expression.readsBack = true
  short : expression.signs.length ≤ limit

namespace Fits

variable {expression : Expression} (fits : Fits expression limit) (reads : Reads inner limit)

include fits reads

theorem unary (stops : Stops postfixOperators following) :
    Takes (unaryLevel inner limit) expression.signs following expression.Like :=
  takes_negated reads expression fits.signed fits.back fits.short stops limit fits.short

theorem multiplicative (stops : Stops multiplicativeTokens following) :
    Takes (multiplicativeLevel inner limit) expression.signs following expression.Like :=
  takes_symbolLevel (fits.unary reads (stops.mono (by decide))) (stops.mono (by decide))

theorem additive (stops : Stops additiveTokens following) :
    Takes (additiveLevel inner limit) expression.signs following expression.Like :=
  takes_symbolLevel (fits.multiplicative reads (stops.mono (by decide))) (stops.mono (by decide))

theorem concatenation (stops : Stops concatenationTokens following) :
    Takes (concatenationLevel inner limit) expression.signs following expression.Like :=
  takes_symbolLevel (fits.additive reads (stops.mono (by decide))) (stops.mono (by decide))

theorem complement (stops : Stops (concatenationTokens ++ comparisonTokens) following) :
    Takes (complementLevel inner limit) expression.signs following expression.Like := by
  have compared : Takes (comparisonLevel inner limit) expression.signs following expression.Like :=
    takes_comparison (fits.concatenation reads (stops.mono (by decide))) (stops.mono (by decide))
  exact takes_complemented_of_stops compared
    (stops_not_of_isTestable (isTestable_of_isSigned fits.signed) fits.back following)

theorem conjunction (stops : Stops conjunctionTokens following) :
    Takes (conjunctionLevel inner limit) expression.signs following expression.Like :=
  takes_nameLevel (fits.complement reads (stops.mono (by decide))) (stops.mono (by decide))

end Fits

/-! ### Up to the loosest level -/

/-- What a level read before the end is read by all looser ones. -/
theorem takes_levels_of_conjunction
    (takes : Takes (conjunctionLevel inner limit) signs following wanted) (ends : Ends following) :
    Takes (levels inner limit) signs following wanted := by
  rw [levels_eq]
  exact takes_nameLevel takes (ends.stops (by decide))

theorem takes_levels_of_complement
    (takes : Takes (complementLevel inner limit) signs following wanted) (ends : Ends following) :
    Takes (levels inner limit) signs following wanted :=
  takes_levels_of_conjunction (takes_nameLevel takes (ends.stops (by decide))) ends

theorem takes_levels_of_comparison
    (takes : Takes (comparisonLevel inner limit) signs following wanted) (ends : Ends following)
    (notNot : Stops [.name "not"] (signs ++ following)) :
    Takes (levels inner limit) signs following wanted :=
  takes_levels_of_complement (takes_complemented_of_stops takes notNot) ends

theorem takes_levels_of_concatenation
    (takes : Takes (concatenationLevel inner limit) signs following wanted)
    (ends : Ends following) (notNot : Stops [.name "not"] (signs ++ following)) :
    Takes (levels inner limit) signs following wanted :=
  takes_levels_of_comparison (takes_comparison takes (ends.stops (by decide))) ends notNot

theorem takes_levels_of_additive
    (takes : Takes (additiveLevel inner limit) signs following wanted) (ends : Ends following)
    (notNot : Stops [.name "not"] (signs ++ following)) :
    Takes (levels inner limit) signs following wanted :=
  takes_levels_of_concatenation (takes_symbolLevel takes (ends.stops (by decide))) ends notNot

theorem takes_levels_of_multiplicative
    (takes : Takes (multiplicativeLevel inner limit) signs following wanted)
    (ends : Ends following) (notNot : Stops [.name "not"] (signs ++ following)) :
    Takes (levels inner limit) signs following wanted :=
  takes_levels_of_additive (takes_symbolLevel takes (ends.stops (by decide))) ends notNot

/-- A binary operation is read at the level of its operator. -/
theorem takes_levels_binary (reads : Reads inner limit) (leftFits : Fits left limit)
    (rightFits : Fits right limit) (ends : Ends following) :
    Takes (levels inner limit) (left.signs ++ operator.signs ++ right.signs) following
      (Expression.binary operator left right position).Like := by
  have some : 0 < limit :=
    Nat.lt_of_lt_of_le (length_signs_pos left leftFits.back) leftFits.short
  have notNot : Stops [.name "not"] (left.signs ++ operator.signs ++ right.signs ++ following) := by
    rw [List.append_assoc, List.append_assoc]
    exact stops_not_of_isTestable (isTestable_of_isSigned leftFits.signed) leftFits.back _
  cases operator with
  | or =>
      rw [levels_eq]
      exact takes_nameLevel_binary some rfl (leftFits.conjunction reads (stops_cons (by decide)))
        (rightFits.conjunction reads (ends.stops (by decide))) (ends.stops (by decide))
  | and =>
      apply takes_levels_of_conjunction _ ends
      exact takes_nameLevel_binary some rfl (leftFits.complement reads (stops_cons (by decide)))
        (rightFits.complement reads (ends.stops (by decide))) (ends.stops (by decide))
  | isIn =>
      apply takes_levels_of_comparison _ ends notNot
      have operands := rightFits.concatenation reads (ends.stops (by decide))
      exact takes_comparison_binary some (leftFits.concatenation reads (stops_cons (by decide)))
        (fun _ like => takes_compareStep_isIn operands like) (ends.stops (by decide))
  | notIn =>
      apply takes_levels_of_comparison _ ends notNot
      have operands := rightFits.concatenation reads (ends.stops (by decide))
      exact takes_comparison_binary some (leftFits.concatenation reads (stops_cons (by decide)))
        (fun _ like => takes_compareStep_notIn operands like) (ends.stops (by decide))
  | concat =>
      apply takes_levels_of_concatenation _ ends notNot
      exact takes_symbolLevel_binary some (by decide) rfl rfl
        (leftFits.additive reads (stops_cons (by decide)))
        (rightFits.additive reads (ends.stops (by decide))) (ends.stops (by decide))
  | add | subtract =>
      apply takes_levels_of_additive _ ends notNot
      exact takes_symbolLevel_binary some (by decide) rfl rfl
        (leftFits.multiplicative reads (stops_cons (by decide)))
        (rightFits.multiplicative reads (ends.stops (by decide))) (ends.stops (by decide))
  | multiply | divide | floorDivide | modulo =>
      apply takes_levels_of_multiplicative _ ends notNot
      exact takes_symbolLevel_binary some (by decide) rfl rfl
        (leftFits.unary reads (stops_cons (by decide)))
        (rightFits.unary reads (ends.stops (by decide))) (ends.stops (by decide))
  | equal | notEqual | less | lessEqual | greater | greaterEqual =>
      apply takes_levels_of_comparison _ ends notNot
      have operands := rightFits.concatenation reads (ends.stops (by decide))
      exact takes_comparison_binary some (leftFits.concatenation reads (stops_cons (by decide)))
        (fun _ like => takes_compareStep_symbol (by decide) rfl operands like)
        (ends.stops (by decide))

/-! ### Tests and complements -/

/-- Tests are read one after another, and every one uses up tokens. -/
theorem leads_comparison (reads : Reads inner limit) (expression : Expression)
    (testable : expression.isTestable = true) (back : expression.readsBack = true)
    (short : expression.signs.length ≤ limit) (following : List Sign)
    (stops : Stops concatenationTokens following) :
    ∃ left, limit ≤ left + expression.signs.length ∧
      Leads (comparisonLevel inner limit) expression.signs following
        (extend (compareStep inner (concatenationLevel inner limit) limit) left)
        expression.Like := by
  by_cases signed : expression.isSigned = true
  · have fits : Fits expression limit := ⟨signed, back, short⟩
    exact ⟨limit, Nat.le_add_right _ _, (fits.concatenation reads stops).leads _⟩
  · match expression with
    | .test target testName arguments negated position =>
        simp only [readsBack, Bool.and_eq_true] at back
        have spelled : (Expression.test target testName arguments negated position).signs =
            target.signs ++ .name "is" :: testSigns testName arguments negated := by
          rw [Expression.signs, testSigns, List.append_assoc]
          rfl
        have parts := short
        rw [spelled, List.length_append, List.length_cons, testSigns, List.length_append,
          List.length_cons] at parts
        rcases leads_comparison reads target back.1.1.1 back.1.1.2 (by omega)
          (.name "is" :: testSigns testName arguments negated ++ following)
          (stops_cons (by decide)) with ⟨left, enough, leads⟩
        exact leads_step enough leads spelled (List.cons_ne_nil _ _) short fun _ =>
          takes_compareStep_test reads back.1.2 back.2 (by omega)
            fun _ => stops.mono (by decide)

/-- An expression behind the word `not` is read together with it. -/
theorem takes_complemented (reads : Reads inner limit) (expression : Expression)
    (back : expression.readsBack = true) (short : expression.signs.length ≤ limit)
    (ends : Ends following) (bound : Nat) (enough : expression.signs.length ≤ bound) :
    Takes (complemented (comparisonLevel inner limit) bound) expression.signs following
      expression.Like := by
  have positive := length_signs_pos expression back
  by_cases testable : expression.isTestable = true
  · rcases leads_comparison reads expression testable back short following
      (ends.stops (by decide)) with ⟨left, _, leads⟩
    apply takes_complemented_of_stops _ (stops_not_of_isTestable testable back following)
    exact takes_of_leads_extend leads (takes_compareStep_none (ends.stops (by decide)))
  · match expression, bound with
    | .unary .not inside position, bound + 1 =>
        rw [readsBack] at back
        rw [Expression.signs, List.length_cons] at short enough
        rw [complemented]
        apply (takes_name? (List.mem_singleton_self "not")).bind
        rintro _ ⟨token, rfl, _⟩
        apply (takes_complemented reads inside back (by omega) ends bound (by omega)).finish
        intro read like
        exact takes_pure like.unary

/-- All levels together read the expressions with one more token than those that they
enclose. -/
theorem reads_levels (reads : Reads inner limit) : Reads (levels inner limit) (limit + 1) where
  whole expression back short following ends := by
    have within := Nat.le_of_lt_succ short
    exact takes_levels_of_complement
      (takes_complemented reads expression back within ends limit within) ends
  body operator left right position back short following ends := by
    simp only [readsBack, Bool.and_eq_true] at back
    rw [List.length_append, List.length_append] at short
    exact takes_levels_binary reads ⟨back.1.1.1, back.1.1.2, by omega⟩ ⟨back.1.2, back.2, by omega⟩
      ends

end Levels

/-! ## Expressions -/

theorem reads_expressionWithin (bound : Nat) : Reads (expressionWithin bound) bound := by
  induction bound with
  | zero =>
      constructor
      · intro expression back short
        cases short
      · intro operator left right position back short
        cases short
  | succ bound inductionHypothesis => exact reads_levels inductionHypothesis

/-- What is read as an expression that nests deep enough is read as a whole one. -/
theorem takes_wholeExpression_of_within {signs : List Sign} {wanted : Expression → Prop}
    (takes : ∀ bound, signs.length < bound → Takes (expressionWithin bound) signs [] wanted) :
    Takes wholeExpression signs [] wanted := by
  have whole : Takes TagReader.expression signs [] wanted := by
    intro cursor tokens rest remaining spelled followed
    have long : signs.length = cursor.remaining.length := by
      rw [remaining, List.map_eq_nil_iff.1 followed, List.append_nil, ← spelled, List.length_map]
    rcases takes (cursor.remaining.length + 1) (by omega) cursor tokens rest remaining spelled
      followed with ⟨read, holds, ran⟩
    refine ⟨read, holds, Eq.trans ?_ ran⟩
    rw [TagReader.expression, run_bind]
    rfl
  apply whole.finish
  intro read holds
  apply takes_finish.finish
  intro _ _
  exact takes_pure holds

/-- The tokens of a printed expression are read as an expression like it. -/
theorem takes_wholeExpression {expression : Expression} (back : expression.readsBack = true) :
    Takes wholeExpression expression.signs [] expression.Like :=
  takes_wholeExpression_of_within fun bound short =>
    (reads_expressionWithin bound).whole expression back short [] ends_nil

end TagReader

end TemplateEngine

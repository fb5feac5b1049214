import TemplateEngine.Proofs.Printing.Brackets

/-!
# Reading operands

Operands are delimited expressions with any count of attributes, items, calls and filters.  The
latter are read one after another, innermost first, and each takes one of the steps that are
allowed.
-/

namespace TemplateEngine

open Expression

/-! ## Literals and names -/

/-- The value of the decimal digits of a number is the number. -/
theorem Number.digitsValue_repr (value : Nat) : Number.digitsValue value.repr.toList = value := by
  have digits : Number.digitsValue (Nat.toDigits 10 value) =
      Nat.ofDigitChars 10 (Nat.toDigits 10 value) 0 := by
    simp only [Number.digitsValue, Nat.ofDigitChars, Nat.mul_comm]
  rw [Nat.repr, String.toList_ofList, digits]
  exact Nat.ofDigitChars_toDigits (by decide) (by decide)

namespace TagReader

variable {inner : TagReader Expression} {limit : Nat} {signs following : List Sign}

theorem integerOf?_toString {value : Int} (natural : 0 ≤ value)
    (least : value ≤ Number.greatestInteger) : integerOf? (toString value) = some value := by
  obtain ⟨value, rfl⟩ := Int.eq_ofNat_of_zero_le natural
  have digits : Number.digitsValue (toString (value : Int)).toList = value :=
    Number.digitsValue_repr value
  rw [integerOf?, digits]
  exact if_pos least

/-- A name that stands for nothing else is a variable. -/
theorem nameExpression_of_isIdentifier {text : String} (identifier : isIdentifier text = true)
    (position : Position) : nameExpression text position = .name text position := by
  rw [nameExpression]
  all_goals exact ne_of_isIdentifier identifier (by decide)

theorem takes_primary_name {identifier : String} {position : Position}
    (back : isIdentifier identifier = true) :
    Takes (primary inner limit) (Expression.name identifier position).signs following
      (Expression.name identifier position).Like := by
  apply (takes_next? _).finish
  rintro _ ⟨⟨kind, text, position, trim⟩, rfl, same⟩
  cases same
  apply takes_pure
  rw [nameExpression_of_isIdentifier back]
  rfl

theorem takes_primary_literal {value : Literal} {position : Position}
    (back : value.readsBack = true) :
    Takes (primary inner limit) (Expression.literal value position).signs following
      (Expression.literal value position).Like := by
  apply (takes_next? _).finish
  rintro _ ⟨⟨kind, text, position, trim⟩, rfl, same⟩
  cases value with
  | none =>
      cases same
      exact takes_pure rfl
  | bool value =>
      cases value <;>
      · cases same
        exact takes_pure rfl
  | float value => cases back
  | string value =>
      cases same
      exact takes_pure rfl
  | integer value =>
      obtain rfl : kind = .integer := congrArg Sign.kind same
      obtain rfl : text = toString value := congrArg Sign.text same
      rw [Literal.readsBack, Bool.and_eq_true, decide_eq_true_iff, decide_eq_true_iff] at back
      simp only [integerOf?_toString back.1 back.2]
      exact takes_pure rfl

theorem takes_primary_list {items : List Expression} {position : Position}
    (reads : Reads inner limit) (back : (Expression.list items position).readsBack = true)
    (short : (Expression.list items position).signs.length ≤ limit) :
    Takes (primary inner limit) (Expression.list items position).signs following
      (Expression.list items position).Like := by
  rw [Expression.signs, List.cons_append]
  rw [Expression.signs, List.length_append, List.length_cons] at short
  apply (takes_next? _).bind
  rintro _ ⟨⟨kind, text, place, trim⟩, rfl, same⟩
  cases same
  apply (takes_list reads back (Nat.lt_of_succ_le (Nat.le_of_succ_le short))).finish
  intro read like
  exact takes_pure (congrArg (Expression.list · default) like)

theorem takes_primary_dict {entries : List (Expression × Expression)} {position : Position}
    (reads : Reads inner limit) (back : (Expression.dict entries position).readsBack = true)
    (short : (Expression.dict entries position).signs.length ≤ limit) :
    Takes (primary inner limit) (Expression.dict entries position).signs following
      (Expression.dict entries position).Like := by
  rw [readsBack, Bool.and_eq_true] at back
  rw [Expression.signs, List.cons_append]
  rw [Expression.signs, List.length_append, List.length_cons] at short
  apply (takes_next? _).bind
  rintro _ ⟨⟨kind, text, place, trim⟩, rfl, same⟩
  cases same
  apply (takes_dict reads back.1 (Nat.lt_of_succ_le (Nat.le_of_succ_le short))).finish
  intro read like
  exact takes_pure (congrArg (Expression.dict · default) like)

/-- A binary operation is read as what is in parentheses. -/
theorem takes_primary_binary {operator : BinaryOperator} {left right : Expression}
    {position : Position} (reads : Reads inner limit)
    (back : (Expression.binary operator left right position).readsBack = true)
    (short : (Expression.binary operator left right position).signs.length ≤ limit) :
    Takes (primary inner limit) (Expression.binary operator left right position).signs following
      (Expression.binary operator left right position).Like := by
  have whole : (Expression.binary operator left right position).signs =
      .operator "(" :: (left.signs ++ operator.signs ++ right.signs ++ [.operator ")"]) := by
    rw [Expression.signs]
    rfl
  rw [whole] at short ⊢
  rw [List.length_cons, List.length_append] at short
  apply (takes_next? _).bind
  rintro _ ⟨⟨kind, text, place, trim⟩, rfl, same⟩
  cases same
  apply (reads.body operator left right position back (by omega) _
    (ends_cons (by decide) _)).bind
  intro read like
  apply (takes_operator ")").finish
  intro _ _
  exact takes_pure like

/-! ## Attributes, items, calls and filters -/

/-- One more step, after which an expression is extended further. -/
theorem leads_extend {step : Expression → TagReader (Option Expression)} {target : Expression}
    {wanted : Expression → Prop} {bound : Nat}
    (takes : Takes (step target) signs following fun extended =>
      ∃ next, extended = some next ∧ wanted next) :
    Leads (extend step (bound + 1) target) signs following (extend step bound) wanted := by
  intro cursor tokens rest remaining spelled followed
  rcases takes cursor tokens rest remaining spelled followed with ⟨_, ⟨next, rfl, holds⟩, ran⟩
  refine ⟨next, holds, ?_⟩
  rw [extend, run_bind, ran]
  rfl

/-- No more steps. -/
theorem takes_extend {step : Expression → TagReader (Option Expression)} {target : Expression}
    (takes : Takes (step target) [] following (· = none)) (bound : Nat) :
    Takes (extend step bound target) [] following (· = target) := by
  cases bound with
  | zero => exact takes_pure rfl
  | succ bound =>
      apply takes.finish
      rintro _ rfl
      exact takes_pure rfl

/-- The tokens that continue an operand. -/
def postfixOperators : List Sign :=
  [".", "[", "(", "|"].map .operator

theorem takes_postfixStep_none (stops : Stops postfixOperators following) (target : Expression) :
    Takes (postfixStep inner limit target) [] following (· = none) := by
  apply (takes_operator?_none stops).finish
  rintro _ rfl
  exact takes_pure rfl

/-- What a step extends an expression to is like a certain one. -/
def Extends (expression : Expression) (extended : Option Expression) : Prop :=
  ∃ next, extended = some next ∧ expression.Like next

theorem takes_member {target read : Expression} {memberName : String} {position : Position}
    (like : target.Like read) :
    Takes (postfixStep inner limit read) [.operator ".", .name memberName] following
      (Extends (.member target memberName position)) := by
  have some : "." ∈ [".", "[", "(", "|"] := by decide
  apply (takes_operator? some).bind
  rintro _ ⟨⟨kind, text, place, trim⟩, rfl, same⟩
  cases same
  apply (takes_next? _).finish
  rintro _ ⟨⟨kind, text, nextPlace, nextTrim⟩, rfl, same⟩
  cases same
  exact takes_pure ⟨_, rfl, like.member⟩

theorem takes_item {target index read : Expression} {position : Position}
    (reads : Reads inner limit) (back : index.readsBack = true)
    (short : index.signs.length < limit) (like : target.Like read) :
    Takes (postfixStep inner limit read) (.operator "[" :: index.signs ++ [.operator "]"])
      following (Extends (.item target index position)) := by
  have some : "[" ∈ [".", "[", "(", "|"] := by decide
  rw [List.cons_append]
  apply (takes_operator? some).bind
  rintro _ ⟨⟨kind, text, place, trim⟩, rfl, same⟩
  cases same
  apply (reads.whole index back short _ (ends_cons (by decide) _)).bind
  intro readIndex indexLike
  apply (takes_operator "]").finish
  intro _ _
  exact takes_pure ⟨_, rfl, like.item indexLike⟩

theorem takes_call {callee read : Expression} {arguments : CallArguments Expression}
    {position : Position} (reads : Reads inner limit) (back : argumentsReadBack arguments = true)
    (short : (argumentsSigns arguments).length < limit) (like : callee.Like read) :
    Takes (postfixStep inner limit read) (argumentsSigns arguments) following
      (Extends (.call callee arguments position)) := by
  have some : "(" ∈ [".", "[", "(", "|"] := by decide
  rcases arguments with ⟨positional, keyword⟩
  apply (takes_operator? some).bind
  rintro _ ⟨⟨kind, text, place, trim⟩, rfl, same⟩
  cases same
  apply (takes_callArguments reads back short).finish
  intro readArguments argumentsLike
  exact takes_pure ⟨_, rfl, like.call argumentsLike⟩

theorem takes_filter {target read : Expression} {filterName : String}
    {arguments : CallArguments Expression} {position : Position} (reads : Reads inner limit)
    (back : argumentsReadBack arguments = true)
    (short : (if arguments.isEmpty then [] else argumentsSigns arguments).length < limit)
    (bare : arguments.isEmpty = true → Stops [.operator "("] following) (like : target.Like read) :
    Takes (postfixStep inner limit read)
      (.operator "|" :: .name filterName ::
        if arguments.isEmpty then [] else argumentsSigns arguments)
      following (Extends (.filter target filterName arguments position)) := by
  have some : "|" ∈ [".", "[", "(", "|"] := by decide
  apply (takes_operator? some).bind
  rintro _ ⟨⟨kind, text, place, trim⟩, rfl, same⟩
  cases same
  apply (takes_name "a filter name" filterName).bind
  rintro token rfl
  apply (takes_optionalArguments reads back short bare).finish
  intro readArguments argumentsLike
  exact takes_pure ⟨_, rfl, like.filter argumentsLike⟩

/-- A primary expression, after which it is extended. -/
theorem leads_primary {expression : Expression}
    (takes : Takes (primary inner limit) expression.signs following expression.Like) :
    ∃ left, limit ≤ left + expression.signs.length ∧
      Leads (postfixed inner limit) expression.signs following
        (extend (postfixStep inner limit) left) expression.Like :=
  ⟨limit, Nat.le_add_right _ _, takes.leads _⟩

/-- One more step behind an expression.  Steps remain, because every step uses up tokens. -/
theorem leads_step {reader : TagReader Expression}
    {step : Expression → TagReader (Option Expression)} {target expression : Expression}
    {left : Nat} (enough : limit ≤ left + target.signs.length)
    (leads : Leads reader target.signs (signs ++ following) (extend step left) target.Like)
    (spelled : expression.signs = target.signs ++ signs) (some : signs ≠ [])
    (short : expression.signs.length ≤ limit)
    (takes : ∀ read, target.Like read → Takes (step read) signs following (Extends expression)) :
    ∃ left, limit ≤ left + expression.signs.length ∧
      Leads reader expression.signs following (extend step left) expression.Like := by
  have positive := List.length_pos_iff.2 some
  rw [spelled, List.length_append] at short ⊢
  cases left with
  | zero => omega
  | succ left =>
      exact ⟨left, by omega, leads.trans fun read like => leads_extend (takes read like)⟩

/-- An operand is read step by step. -/
theorem leads_postfixed (reads : Reads inner limit) (expression : Expression)
    (operand : expression.isOperand = true) (back : expression.readsBack = true)
    (short : expression.signs.length ≤ limit) (following : List Sign)
    (bare : expression.isBareFilter = true → Stops [.operator "("] following) :
    ∃ left, limit ≤ left + expression.signs.length ∧
      Leads (postfixed inner limit) expression.signs following
        (extend (postfixStep inner limit) left) expression.Like := by
  match expression with
  | .literal value _ => exact leads_primary (takes_primary_literal back)
  | .name identifier _ => exact leads_primary (takes_primary_name back)
  | .list items _ => exact leads_primary (takes_primary_list reads back short)
  | .dict entries _ => exact leads_primary (takes_primary_dict reads back short)
  | .binary operator left right _ => exact leads_primary (takes_primary_binary reads back short)
  | .member target memberName _ =>
      simp only [readsBack, Bool.and_eq_true] at back
      have parts := short
      rw [Expression.signs, List.length_append] at parts
      rcases leads_postfixed reads target back.1.1 back.1.2 (by omega)
        ([.operator ".", .name memberName] ++ following) fun _ => stops_cons (by decide) with
        ⟨left, enough, leads⟩
      exact leads_step enough leads rfl (List.cons_ne_nil _ _) short fun _ => takes_member
  | .item target index _ =>
      simp only [readsBack, Bool.and_eq_true] at back
      have parts := short
      rw [Expression.signs, List.append_assoc, List.length_append, List.length_append,
        List.length_cons] at parts
      rcases leads_postfixed reads target back.1.1 back.1.2 (by omega)
        (.operator "[" :: index.signs ++ [.operator "]"] ++ following)
        fun _ => stops_cons (by decide) with ⟨left, enough, leads⟩
      exact leads_step enough leads (by rw [Expression.signs, List.append_assoc])
        (List.cons_ne_nil _ _) short fun _ => takes_item reads back.2 (by omega)
  | .call callee ⟨positional, keyword⟩ _ =>
      simp only [readsBack, Bool.and_eq_true, Bool.not_eq_true', Bool.eq_false_iff] at back
      have some := length_signs_pos callee back.1.2
      have parts := short
      rw [Expression.signs, List.length_append] at parts
      rcases leads_postfixed reads callee back.1.1.1 back.1.2 (by omega)
        (argumentsSigns ⟨positional, keyword⟩ ++ following)
        fun bare => absurd bare back.1.1.2 with ⟨left, enough, leads⟩
      exact leads_step enough leads rfl (List.cons_ne_nil _ _) short
        fun _ => takes_call reads back.2 (by omega)
  | .filter target filterName arguments _ =>
      simp only [readsBack, Bool.and_eq_true] at back
      have parts := short
      rw [Expression.signs, List.length_append, List.length_cons, List.length_cons] at parts
      rcases leads_postfixed reads target back.1.1.1 back.1.1.2 (by omega)
        ((.operator "|" :: .name filterName ::
          if arguments.isEmpty then [] else argumentsSigns arguments) ++ following)
        fun _ => stops_cons (by decide) with ⟨left, enough, leads⟩
      exact leads_step enough leads rfl (List.cons_ne_nil _ _) short
        fun _ => takes_filter reads back.2 (by omega) bare
  | .test target testName arguments negated _ => cases operand
  | .unary _ _ _ => cases operand

/-- What may be extended further is read when nothing follows that extends it. -/
theorem takes_of_leads_extend {reader : TagReader Expression}
    {step : Expression → TagReader (Option Expression)} {left : Nat} {wanted : Expression → Prop}
    (leads : Leads reader signs following (extend step left) wanted)
    (last : ∀ read, Takes (step read) [] following (· = none)) :
    Takes reader signs following wanted := by
  have ended : Leads reader (signs ++ []) following pure wanted :=
    Leads.trans leads fun read holds => (takes_extend (last read) left).weaken (by
      rintro _ rfl
      exact holds)
  rwa [List.append_nil] at ended

/-- An operand is read when nothing follows that continues it. -/
theorem takes_postfixed (reads : Reads inner limit) {expression : Expression}
    (operand : expression.isOperand = true) (back : expression.readsBack = true)
    (short : expression.signs.length ≤ limit) (stops : Stops postfixOperators following) :
    Takes (postfixed inner limit) expression.signs following expression.Like := by
  rcases leads_postfixed reads expression operand back short following
    fun _ => stops.mono (by decide) with ⟨left, _, leads⟩
  exact takes_of_leads_extend leads (takes_postfixStep_none stops)

end TagReader

end TemplateEngine

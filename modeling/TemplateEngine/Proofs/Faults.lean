import TemplateEngine.Node.Header

/-!
# Faults inside tags

Some faults are about the tokens between tags: that none is left, that a tag has no end, or
that a token can begin nothing.  What reads the tokens of one tag never fails with them,
wherever it stands and whatever it reads.
-/

namespace TemplateEngine

/-- The faults of tokens outside tags that no source has, because its tokens follow the
grammar. -/
def SyntaxFault.IsStray : SyntaxFault → Prop
  | .endOfTemplate => True
  | .endInsideTag => True
  | .unexpectedToken _ => True
  | _ => False

namespace TagReader

variable {α β : Type}

/-- A reader that is followed by another one. -/
theorem run_bind (reader : TagReader α) (continuation : α → TagReader β) (cursor : Cursor) :
    (reader >>= continuation).run.run cursor =
      match reader.run.run cursor with
      | (.ok value, after) => (continuation value).run.run after
      | (.error error, after) => (.error error, after) := by
  simp only [ExceptT.run_bind, StateT.run_bind]
  rcases reader.run.run cursor with ⟨_ | _, _⟩ <;> rfl

/-- A reader whose errors are about the tag that it reads. -/
def Orderly (reader : TagReader α) : Prop :=
  ∀ cursor error, (reader.run.run cursor).1 = .error error → ¬ error.fault.IsStray

theorem Orderly.bind {reader : TagReader α} {continuation : α → TagReader β}
    (first : reader.Orderly) (second : ∀ value, (continuation value).Orderly) :
    (reader >>= continuation).Orderly := by
  intro cursor error failed
  rw [run_bind] at failed
  rcases ran : reader.run.run cursor with ⟨_ | value, after⟩
  · rw [ran] at failed
    cases failed
    exact first cursor error (by rw [ran])
  · rw [ran] at failed
    exact second value after error failed

theorem orderly_pure (value : α) : (pure value : TagReader α).Orderly := by
  intro cursor error failed
  cases failed

theorem orderly_get : (get : TagReader Cursor).Orderly := by
  intro cursor error failed
  cases failed

theorem orderly_set (cursor : Cursor) : (set cursor : TagReader PUnit).Orderly := by
  intro cursor error failed
  cases failed

theorem orderly_throw {error : SyntaxError} (proper : ¬ error.fault.IsStray) :
    (throw error : TagReader α).Orderly := by
  intro cursor failure failed
  cases failed
  exact proper

theorem Orderly.map {reader : TagReader α} (change : α → β) (orderly : reader.Orderly) :
    (change <$> reader).Orderly := by
  rw [map_eq_pure_bind]
  exact orderly.bind fun _ => orderly_pure _

theorem Orderly.ite {condition : Prop} [Decidable condition] {first second : TagReader α}
    (holds : first.Orderly) (fails : second.Orderly) :
    (if condition then first else second).Orderly := by
  split
  · exact holds
  · exact fails

/-! ### Single tokens -/

theorem orderly_fail (requirement : String) : (fail requirement : TagReader α).Orderly :=
  orderly_get.bind fun _ => orderly_throw id

theorem orderly_takeIf? (condition : Token → Bool) : (takeIf? condition).Orderly := by
  refine orderly_get.bind fun cursor => ?_
  split
  · exact .ite ((orderly_set _).bind fun _ => orderly_pure _) (orderly_pure _)
  · exact orderly_pure _

theorem orderly_next? : next?.Orderly :=
  orderly_takeIf? _

theorem orderly_name? (names : List String) : (name? names).Orderly :=
  orderly_takeIf? _

theorem orderly_operator? (operators : List String) : (operator? operators).Orderly :=
  orderly_takeIf? _

theorem orderly_accepts (name : String) : (accepts name).Orderly :=
  (orderly_name? [name]).map _

theorem orderly_acceptsOperator (operator : String) : (acceptsOperator operator).Orderly :=
  (orderly_operator? [operator]).map _

theorem orderly_name (what : String) : (name what).Orderly := by
  refine (orderly_takeIf? _).bind fun token => ?_
  split
  · exact orderly_pure _
  · exact orderly_fail _

theorem orderly_operator (symbol : String) : (operator symbol).Orderly := by
  refine (orderly_operator? [symbol]).bind fun token => ?_
  split
  · exact orderly_pure _
  · exact orderly_fail _

theorem orderly_finish : finish.Orderly := by
  refine orderly_get.bind fun cursor => ?_
  split
  · exact orderly_throw id
  · exact orderly_pure _

/-! ### Expressions -/

section Levels

variable {inner operand : TagReader Expression} {bound : Nat}

theorem orderly_extend {step : Expression → TagReader (Option Expression)}
    (orderly : ∀ expression, (step expression).Orderly) (bound : Nat) (expression : Expression) :
    (extend step bound expression).Orderly := by
  induction bound generalizing expression with
  | zero => exact orderly_pure _
  | succ bound inductionHypothesis =>
      refine (orderly expression).bind fun extended => ?_
      split
      · exact inductionHypothesis _
      · exact orderly_pure _

theorem orderly_binaryStep {operator? : TagReader (Option (BinaryOperator × Position))}
    (orderly : operator?.Orderly) (operands : operand.Orderly) (left : Expression) :
    (binaryStep operator? operand left).Orderly := by
  refine orderly.bind fun operator => ?_
  split
  · exact operands.bind fun _ => orderly_pure _
  · exact orderly_pure _

theorem orderly_namedOperator? (name : String) (operator : BinaryOperator) :
    (namedOperator? name operator).Orderly :=
  (orderly_name? [name]).bind fun _ => orderly_pure _

theorem orderly_symbolOperator? (symbols : List String) : (symbolOperator? symbols).Orderly :=
  (orderly_operator? symbols).bind fun _ => orderly_pure _

theorem orderly_argument (inside : inner.Orderly) (gathered : CallArguments Expression) :
    (argument inner gathered).Orderly := by
  refine orderly_get.bind fun cursor => .ite ?_ (.ite (orderly_fail _) ?_)
  · exact (orderly_name _).bind fun _ => (orderly_operator _).bind fun _ =>
      inside.bind fun _ => orderly_pure _
  · exact inside.bind fun _ => orderly_pure _

theorem orderly_argumentsFrom (inside : inner.Orderly) (bound : Nat)
    (gathered : CallArguments Expression) : (argumentsFrom inner bound gathered).Orderly := by
  induction bound generalizing gathered with
  | zero => exact orderly_fail _
  | succ bound inductionHypothesis =>
      refine (orderly_argument inside gathered).bind fun gathered => ?_
      refine (orderly_acceptsOperator ")").bind fun closed => .ite (orderly_pure _) ?_
      exact (orderly_operator ",").bind fun _ => inductionHypothesis gathered

theorem orderly_callArguments (inside : inner.Orderly) (bound : Nat) :
    (callArguments inner bound).Orderly :=
  (orderly_acceptsOperator ")").bind fun _ =>
    .ite (orderly_pure _) (orderly_argumentsFrom inside bound _)

theorem orderly_optionalArguments (inside : inner.Orderly) (bound : Nat) :
    (optionalArguments inner bound).Orderly :=
  (orderly_acceptsOperator "(").bind fun _ =>
    .ite (orderly_callArguments inside bound) (orderly_pure _)

theorem orderly_itemsFrom {item : TagReader α} (items : item.Orderly) (closer : String)
    (bound : Nat) (gathered : List α) : (itemsFrom item closer bound gathered).Orderly := by
  induction bound generalizing gathered with
  | zero => exact orderly_fail _
  | succ bound inductionHypothesis =>
      refine (orderly_acceptsOperator closer).bind fun closed => .ite (orderly_pure _) ?_
      have next : (item >>= fun next =>
          itemsFrom item closer bound (gathered ++ [next])).Orderly :=
        items.bind fun _ => inductionHypothesis _
      exact .ite ((orderly_operator ",").bind fun _ => next) next

theorem orderly_entry (inside : inner.Orderly) : (entry inner).Orderly :=
  inside.bind fun _ => (orderly_operator ":").bind fun _ => inside.bind fun _ => orderly_pure _

theorem orderly_primary (inside : inner.Orderly) (bound : Nat) : (primary inner bound).Orderly := by
  refine orderly_next?.bind fun token => ?_
  split
  · exact orderly_fail _
  · exact orderly_pure _
  · exact orderly_pure _
  · split
    · exact orderly_pure _
    · exact orderly_throw id
  · exact orderly_pure _
  · exact inside.bind fun _ => (orderly_operator ")").bind fun _ => orderly_pure _
  · exact (orderly_itemsFrom inside "]" bound []).bind fun _ => orderly_pure _
  · exact (orderly_itemsFrom (orderly_entry inside) "\x7d" bound []).bind fun _ => orderly_pure _
  · exact orderly_throw id

theorem orderly_postfixStep (inside : inner.Orderly) (bound : Nat) (target : Expression) :
    (postfixStep inner bound target).Orderly := by
  refine (orderly_operator? _).bind fun token => ?_
  split
  · exact orderly_pure _
  split
  · refine orderly_next?.bind fun selected => ?_
    split
    · exact .ite (orderly_pure _) (orderly_fail _)
    · exact orderly_fail _
  · exact inside.bind fun _ => (orderly_operator "]").bind fun _ => orderly_pure _
  · exact (orderly_callArguments inside bound).bind fun _ => orderly_pure _
  · exact (orderly_name _).bind fun _ =>
      (orderly_optionalArguments inside bound).bind fun _ => orderly_pure _

theorem orderly_postfixed (inside : inner.Orderly) (bound : Nat) :
    (postfixed inner bound).Orderly :=
  (orderly_primary inside bound).bind fun first =>
    orderly_extend (orderly_postfixStep inside bound) bound first

theorem orderly_negated (operands : operand.Orderly) (bound : Nat) :
    (negated operand bound).Orderly := by
  induction bound with
  | zero => exact operands
  | succ bound inductionHypothesis =>
      refine (orderly_operator? _).bind fun sign => ?_
      split
      · exact inductionHypothesis.bind fun _ => orderly_pure _
      · exact operands

theorem orderly_symbolLevel (symbols : List String) (operands : operand.Orderly) (bound : Nat) :
    (symbolLevel symbols operand bound).Orderly :=
  operands.bind fun first => orderly_extend
    (orderly_binaryStep (orderly_symbolOperator? symbols) operands) bound first

theorem orderly_notIn? : notIn?.Orderly :=
  orderly_get.bind fun _ => .ite ((orderly_set _).bind fun _ => orderly_pure _) (orderly_pure _)

theorem orderly_testOf (inside : inner.Orderly) (bound : Nat) (target : Expression)
    (position : Position) : (testOf inner bound target position).Orderly :=
  (orderly_accepts "not").bind fun _ => (orderly_name _).bind fun _ =>
    (orderly_optionalArguments inside bound).bind fun _ => orderly_pure _

theorem orderly_compareStep (inside : inner.Orderly) (operands : operand.Orderly) (bound : Nat)
    (left : Expression) : (compareStep inner operand bound left).Orderly := by
  refine (orderly_binaryStep (orderly_symbolOperator? _) operands left).bind fun compared => ?_
  split
  · exact orderly_pure _
  refine (orderly_binaryStep (orderly_namedOperator? _ _) operands left).bind fun compared => ?_
  split
  · exact orderly_pure _
  refine (orderly_binaryStep orderly_notIn? operands left).bind fun compared => ?_
  split
  · exact orderly_pure _
  refine (orderly_name? _).bind fun token => ?_
  split
  · exact (orderly_testOf inside bound left _).bind fun _ => orderly_pure _
  · exact orderly_pure _

theorem orderly_comparison (inside : inner.Orderly) (operands : operand.Orderly) (bound : Nat) :
    (comparison inner operand bound).Orderly :=
  operands.bind fun first => orderly_extend (orderly_compareStep inside operands bound) bound first

theorem orderly_complemented (operands : operand.Orderly) (bound : Nat) :
    (complemented operand bound).Orderly := by
  induction bound with
  | zero => exact operands
  | succ bound inductionHypothesis =>
      refine (orderly_name? _).bind fun word => ?_
      split
      · exact inductionHypothesis.bind fun _ => orderly_pure _
      · exact operands

theorem orderly_nameLevel (name : String) (operator : BinaryOperator)
    (operands : operand.Orderly) (bound : Nat) :
    (nameLevel name operator operand bound).Orderly :=
  operands.bind fun first => orderly_extend
    (orderly_binaryStep (orderly_namedOperator? name operator) operands) bound first

theorem orderly_levels (inside : inner.Orderly) (bound : Nat) : (levels inner bound).Orderly := by
  have unary := orderly_negated (orderly_postfixed inside bound) bound
  have multiplicative := orderly_symbolLevel ["*", "/", "//", "%"] unary bound
  have additive := orderly_symbolLevel ["+", "-"] multiplicative bound
  have concatenation := orderly_symbolLevel ["~"] additive bound
  have compared := orderly_comparison inside concatenation bound
  have conjunction := orderly_nameLevel "and" .and (orderly_complemented compared bound) bound
  exact orderly_nameLevel "or" .or conjunction bound

end Levels

theorem orderly_expressionWithin (bound : Nat) : (expressionWithin bound).Orderly := by
  induction bound with
  | zero => exact orderly_fail _
  | succ bound inductionHypothesis => exact orderly_levels inductionHypothesis bound

theorem orderly_expression : expression.Orderly :=
  orderly_get.bind fun _ => orderly_expressionWithin _

/-! ### Headers -/

theorem orderly_output (position : Position) : (output position).Orderly := by
  refine orderly_expression.bind fun written => (orderly_accepts "if").bind fun conditional => ?_
  refine .ite (orderly_expression.bind fun condition => ?_)
    (orderly_finish.bind fun _ => orderly_pure _)
  refine (orderly_accepts "else").bind fun alternative => .ite ?_ ?_
  · exact orderly_expression.bind fun _ => orderly_finish.bind fun _ => orderly_pure _
  · exact orderly_finish.bind fun _ => orderly_pure _

theorem orderly_wholeExpression : wholeExpression.Orderly :=
  orderly_expression.bind fun _ => orderly_finish.bind fun _ => orderly_pure _

theorem orderly_moreNames (what : String) (bound : Nat) : (moreNames what bound).Orderly := by
  induction bound with
  | zero => exact orderly_pure _
  | succ bound inductionHypothesis =>
      refine (orderly_acceptsOperator ",").bind fun more => .ite ?_ (orderly_pure _)
      exact (orderly_name what).bind fun _ => inductionHypothesis.bind fun _ => orderly_pure _

theorem orderly_names (what : String) : (names what).Orderly :=
  (orderly_name what).bind fun _ => orderly_get.bind fun _ =>
    (orderly_moreNames what _).bind fun _ => orderly_pure _

theorem orderly_loopHeader : loopHeader.Orderly := by
  refine (orderly_names _).bind fun targets => (orderly_accepts "in").bind fun found => ?_
  refine .ite (orderly_expression.bind fun iterable => ?_) (orderly_fail _)
  refine (orderly_accepts "if").bind fun filtered => ?_
  refine .ite ?_ ?_
  · exact (orderly_expression.map some).bind fun _ => orderly_finish.bind fun _ => orderly_pure _
  · exact (orderly_pure _).bind fun _ => orderly_finish.bind fun _ => orderly_pure _

theorem orderly_assignmentHeader : assignmentHeader.Orderly := by
  refine (orderly_name _).bind fun target => (orderly_acceptsOperator "=").bind fun valued => ?_
  refine .ite ?_ ?_
  · exact orderly_wholeExpression.bind fun _ => orderly_pure _
  · exact orderly_finish.bind fun _ => orderly_pure _

theorem orderly_blockHeader : blockHeader.Orderly :=
  (orderly_name _).bind fun _ => orderly_finish.bind fun _ => orderly_pure _

theorem orderly_closingName (expected : String) (fault : String → SyntaxFault)
    (proper : ∀ name, ¬ (fault name).IsStray) : (closingName expected fault).Orderly := by
  refine (orderly_takeIf? _).bind fun token => ?_
  split
  · exact .ite orderly_finish (orderly_throw (proper _))
  · exact orderly_finish

theorem orderly_parentHeader : parentHeader.Orderly := by
  refine orderly_expression.bind fun parent => ?_
  split
  · exact orderly_finish.bind fun _ => orderly_pure _
  · exact orderly_throw id

theorem orderly_parameter (definition : String) (before : List (String × Option Expression)) :
    (parameter definition before).Orderly := by
  refine (orderly_name _).bind fun token => .ite (orderly_throw id) ?_
  refine (orderly_acceptsOperator "=").bind fun defaulted => .ite ?_ (orderly_pure _)
  exact orderly_expression.bind fun _ => orderly_pure _

theorem orderly_parametersFrom (definition : String) (bound : Nat)
    (gathered : List (String × Option Expression)) :
    (parametersFrom definition bound gathered).Orderly := by
  induction bound generalizing gathered with
  | zero => exact orderly_fail _
  | succ bound inductionHypothesis =>
      refine (orderly_acceptsOperator ")").bind fun closed => .ite (orderly_pure _) ?_
      have next : (parameter definition gathered >>= fun next =>
          parametersFrom definition bound (gathered ++ [next])).Orderly :=
        (orderly_parameter definition gathered).bind fun _ => inductionHypothesis _
      exact .ite ((orderly_operator ",").bind fun _ => next) next

theorem orderly_definitionHeader : definitionHeader.Orderly :=
  (orderly_name _).bind fun _ => (orderly_operator _).bind fun _ => orderly_get.bind fun _ =>
    (orderly_parametersFrom _ _ _).bind fun _ => orderly_finish.bind fun _ => orderly_pure _

theorem orderly_contextModifier : contextModifier.Orderly := by
  refine orderly_get.bind fun cursor => ?_
  split
  · exact .ite ((orderly_set _).bind fun _ => orderly_pure _) (orderly_pure _)
  · exact orderly_pure _

theorem orderly_notEmpty (requirement : String) : (notEmpty requirement).Orderly :=
  orderly_get.bind fun _ => .ite (orderly_fail _) (orderly_pure _)

theorem orderly_importModuleHeader : importModuleHeader.Orderly := by
  refine (orderly_notEmpty _).bind fun _ => orderly_expression.bind fun filename => ?_
  refine (orderly_accepts "as").bind fun named => .ite ?_ (orderly_fail _)
  exact (orderly_name _).bind fun _ => orderly_contextModifier.bind fun _ =>
    orderly_finish.bind fun _ => orderly_pure _

theorem orderly_importedName : importedName.Orderly := by
  refine (orderly_name _).bind fun token => (orderly_accepts "as").bind fun renamed => ?_
  exact .ite ((orderly_name _).bind fun _ => orderly_pure _) (orderly_pure _)

theorem orderly_importedNames (bound : Nat) (gathered : List (String × String)) :
    (importedNames bound gathered).Orderly := by
  induction bound generalizing gathered with
  | zero => exact orderly_pure _
  | succ bound inductionHypothesis =>
      refine orderly_get.bind fun cursor => .ite (orderly_pure _) ?_
      refine orderly_importedName.bind fun imported => ?_
      refine orderly_contextModifier.bind fun context => ?_
      refine orderly_get.bind fun cursor => .ite (orderly_pure _) ?_
      exact (orderly_operator ",").bind fun _ => inductionHypothesis _

theorem orderly_importNamesHeader : importNamesHeader.Orderly := by
  refine (orderly_notEmpty _).bind fun _ => orderly_expression.bind fun filename => ?_
  refine (orderly_accepts "import").bind fun named => .ite ?_ (orderly_fail _)
  refine orderly_get.bind fun cursor => (orderly_importedNames _ _).bind fun imported => ?_
  exact orderly_finish.bind fun _ => .ite (orderly_fail _) (orderly_pure _)

theorem orderly_inclusionHeader : inclusionHeader.Orderly := by
  refine (orderly_notEmpty _).bind fun _ => orderly_expression.bind fun filename => ?_
  refine (orderly_accepts "ignore").bind fun ignores => ?_
  have rest : (contextModifier >>= fun withContext => finish >>= fun _ =>
      (pure (.inclusion filename ignores (withContext.getD true)) :
        TagReader (Statement Node))).Orderly :=
    orderly_contextModifier.bind fun _ => orderly_finish.bind fun _ => orderly_pure _
  refine .ite ((orderly_accepts "missing").bind fun missing => .ite ?_ rest) rest
  exact (orderly_fail _).bind fun _ => rest

theorem orderly_boxHeader : boxHeader.Orderly :=
  orderly_get.bind fun _ => .ite (orderly_pure _) (orderly_wholeExpression.map some)

/-! ### Results -/

/-- A reader whose results, if it gives any, are as wanted. -/
def Gives (wanted : α → Prop) (reader : TagReader α) : Prop :=
  ∀ cursor value, (reader.run.run cursor).1 = .ok value → wanted value

variable {wanted : α → Prop}

theorem gives_pure {value : α} (holds : wanted value) : Gives wanted (pure value) := by
  intro cursor other given
  cases given
  exact holds

theorem gives_fail (requirement : String) : Gives wanted (fail requirement) := by
  intro cursor value given
  cases given

/-- The last of several readers gives the result. -/
theorem gives_bind {reader : TagReader β} {continuation : β → TagReader α}
    (last : ∀ value, Gives wanted (continuation value)) :
    Gives wanted (reader >>= continuation) := by
  intro cursor value given
  rw [run_bind] at given
  rcases ran : reader.run.run cursor with ⟨_ | before, after⟩
  · rw [ran] at given
    cases given
  · rw [ran] at given
    exact last before after value given

theorem gives_ite {condition : Prop} [Decidable condition] {first second : TagReader α}
    (holds : Gives wanted first) (fails : Gives wanted second) :
    Gives wanted (if condition then first else second) := by
  split
  · exact holds
  · exact fails

theorem gives_importModuleHeader {wanted : Statement Node → Prop}
    (imports : ∀ filename target withContext,
      wanted (.importModule filename target withContext)) :
    Gives wanted importModuleHeader := by
  refine gives_bind fun _ => gives_bind fun filename => gives_bind fun named => ?_
  refine gives_ite (gives_bind fun token => gives_bind fun withContext => ?_) (gives_fail _)
  exact gives_bind fun _ => gives_pure (imports _ _ _)

theorem gives_importNamesHeader {wanted : Statement Node → Prop}
    (imports : ∀ filename names withContext, wanted (.importNames filename names withContext)) :
    Gives wanted importNamesHeader := by
  refine gives_bind fun _ => gives_bind fun filename => gives_bind fun named => ?_
  refine gives_ite (gives_bind fun cursor => gives_bind fun imported => ?_) (gives_fail _)
  exact gives_bind fun _ => gives_ite (gives_fail _) (gives_pure (imports _ _ _))

theorem gives_inclusionHeader {wanted : Statement Node → Prop}
    (includes : ∀ filename ignoreMissing withContext,
      wanted (.inclusion filename ignoreMissing withContext)) :
    Gives wanted inclusionHeader := by
  refine gives_bind fun _ => gives_bind fun filename => gives_bind fun ignores => ?_
  have rest : Gives wanted (contextModifier >>= fun withContext => finish >>= fun _ =>
      pure (.inclusion filename ignores (withContext.getD true))) :=
    gives_bind fun _ => gives_bind fun _ => gives_pure (includes _ _ _)
  exact gives_ite (gives_bind fun _ => gives_ite (gives_bind fun _ => rest) rest) rest

end TagReader

end TemplateEngine

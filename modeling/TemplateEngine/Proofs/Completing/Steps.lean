import TemplateEngine.Proofs.Completing.Brackets

/-!
# Completing operands and the steps behind them

A precedence level is told by its operand and by the step that extends it.  A step that fails has
begun, and a step that succeeds takes tokens, so that the steps end when the tokens do.  What they
take can be read again and what is in front of an error can be completed, if that holds of every
single step.
-/

namespace TemplateEngine

open Expression TagReader

/-! ## Steps and extensions -/

/-- What is read by a level. -/
def readsLevel (readers : Nat → TagReader Expression) : Reading Expression :=
  fun signs following expression => ∀ bound, signs.length ≤ bound →
    Takes (readers bound) signs following expression.Like

/-- What is read by one step behind an expression.  Nothing is taken unless it is extended. -/
def readsStep (steps : Nat → Expression → TagReader (Option Expression)) (target : Expression) :
    Reading (Option Expression) :=
  fun signs following extended => (extended = none → signs = []) ∧
    ∀ bound read, signs.length ≤ bound → target.Like read →
      Takes (steps bound read) signs following fun next =>
        next.map unplaced = extended.map unplaced

/-- What is read by all steps behind an expression. -/
def readsExtension (steps : Nat → Expression → TagReader (Option Expression))
    (target : Expression) : Reading Expression :=
  fun signs following expression => ∀ left bound read, signs.length ≤ left →
    signs.length ≤ bound → target.Like read →
      Takes (extend (steps bound) left read) signs following expression.Like

section Steps

variable {steps : Nat → Expression → TagReader (Option Expression)} {target extended : Expression}
  {operands : Nat → TagReader Expression} {operand : TagReader Expression} {room limit : Nat}
  {front back following : List Sign} {expression : Expression}

theorem readsExtension_none (stopped : readsStep steps target [] following none) :
    readsExtension steps target [] following target := by
  intro left bound read _ enough like
  have stops := (stopped.2 bound read enough like).weaken fun _ same =>
    Option.map_eq_none_iff.1 same
  apply (takes_extend stops left).weaken
  rintro _ rfl
  exact like

theorem readsExtension_some (proper : front ≠ [])
    (first : readsStep steps target front (back ++ following) (.some extended))
    (more : readsExtension steps extended back following expression) :
    readsExtension steps target (front ++ back) following expression := by
  intro left bound read enough short like
  have positive := List.length_pos_iff.2 proper
  rw [List.length_append] at enough short
  cases left with
  | zero => omega
  | succ left =>
      apply (first.2 bound read (by omega) like).bind
      intro extended same
      obtain ⟨further, rfl, nextLike⟩ := Option.map_eq_some_iff.1 same
      exact more left bound further (by omega) (by omega) nextLike

theorem readsLevel_chain (first : readsLevel operands front (back ++ following) target)
    (more : readsExtension steps target back following expression) :
    readsLevel (fun bound => operands bound >>= extend (steps bound) bound) (front ++ back)
      following expression := by
  intro bound enough
  rw [List.length_append] at enough
  apply (first bound (by omega)).bind
  intro read like
  exact more bound bound read (by omega) (by omega) like

/-- A step takes nothing in front of the end. -/
theorem TagReader.Explains.ends {step : TagReader (Option Expression)}
    (explains : Explains (room + 1) .step (readsStep steps target) step) (ends : Ends following) :
    readsStep steps target [] following none := by
  have explained := explains [] default default (Nat.succ_pos room)
  generalize step.run.run ⟨[], default, default⟩ = outcome at explained
  cases explained with
  | @took taken rest extended split dotted kept again =>
      obtain ⟨rfl, rfl⟩ := List.append_eq_nil_iff.1 split.symm
      cases extended with
      | none => exact again following (.inl ends)
      | some next => exact ((kept.2 (fun same => nomatch same)).1 rfl).elim
  | failed split blames begun =>
      obtain ⟨rfl, rfl⟩ := List.append_eq_nil_iff.1 split.symm
      exact (begun.1 rfl).elim

theorem explains_extend (bound : Nat)
    (explains : ∀ target, Explains (limit + 1) .step (readsStep steps target) (steps bound target))
    (left : Nat) (target : Expression) (enough : room ≤ left + 1) (fewer : room ≤ limit + 1) :
    Explains room .tail (readsExtension steps target) (extend (steps bound) left target) := by
  induction left generalizing target room with
  | zero =>
      intro tokens start finish short
      obtain rfl : tokens = [] := List.length_eq_zero_iff.1 (by omega)
      refine explained_pure (List.cons_ne_nil _ _).symm fun following resumes => ?_
      rcases resumes with ends | ⟨sign, more, others, none, _⟩
      · exact readsExtension_none ((explains target).ends ends)
      · cases none
  | succ left inductionHypothesis =>
      intro tokens start finish short
      have explained := explains target tokens start finish (by omega)
      rw [extend, run_bind]
      generalize (steps bound target).run.run ⟨tokens, start, finish⟩ = outcome at explained ⊢
      cases explained with
      | @took taken rest extended split dotted kept again =>
          subst split
          cases extended with
          | none =>
              obtain rfl := List.map_eq_nil_iff.1 (kept.1 rfl)
              exact explained_pure (List.cons_ne_nil _ _).symm fun following resumes =>
                readsExtension_none (again following resumes)
          | some next =>
              obtain ⟨proper, notNot⟩ := kept.2 (Option.some_ne_none next)
              have shorter : rest.length + 1 < room := by
                have count := List.length_pos_iff.2 (mt List.map_eq_nil_iff.2 proper)
                rw [List.length_append] at short
                omega
              have begun := append_ne_of_begun proper notNot
              have more : Explains (rest.length + 1) .tail (readsExtension steps next)
                  (extend (steps bound) left next) :=
                inductionHypothesis next (by omega) (by omega)
              refine (more rest start finish (Nat.lt_succ_self _)).after dotted again
                Manner.tail_trails (fun signs _ _ => (begun signs).2) ?_
                (readsExtension_some proper)
              exact fun signs more _ => ⟨(begun signs).2, fun none => ((begun signs).1 none).elim⟩
      | @failed before rest more error after split blames begun unnamed completes =>
          refine .failed split blames ⟨begun.2, fun none => (begun.1 none).elim⟩ unnamed
            fun following ends => ?_
          obtain ⟨extended, reading⟩ := completes following ends
          cases extended with
          | none => exact (begun.1 (List.append_eq_nil_iff.1 (reading.1 rfl)).1).elim
          | some next =>
              have proper : before.map Token.sign ++ more ≠ [] :=
                fun none => begun.1 (List.append_eq_nil_iff.1 none).1
              have stopped := readsExtension_none ((explains next).ends ends)
              have whole := readsExtension_some proper reading stopped
              rw [List.append_nil] at whole
              exact ⟨next, whole⟩

/-- An operand and the steps behind it. -/
theorem explains_chain
    (first : Explains (limit + 1) (.phrase OpensNamed) (readsLevel operands) operand)
    (explains : ∀ target,
      Explains (limit + 1) .step (readsStep steps target) (steps limit target)) :
    Explains (limit + 1) (.phrase OpensNamed)
      (readsLevel fun bound => operands bound >>= extend (steps bound) bound)
      (operand >>= extend (steps limit) limit) := by
  intro tokens start finish short
  refine (first tokens start finish short).bind (fun target =>
    explains_extend limit explains limit target (Nat.le_of_lt short) (Nat.le_of_lt short)) ends_nil
      ?_ ?_ readsLevel_chain
  · exact fun target following ends => ⟨target, readsExtension_none ((explains target).ends ends)⟩
  · exact fun opens => opens.append ends_nil

/-! ### One step or another -/

/-- A step, or another one where it finds nothing. -/
def otherwise (first second : TagReader (Option Expression)) : TagReader (Option Expression) := do
  match ← first with
  | some extended => return some extended
  | none => second

variable {second : Nat → Expression → TagReader (Option Expression)}
  {step other : TagReader (Option Expression)}

theorem readsStep_first (first : readsStep steps target front following (.some extended)) :
    readsStep (fun bound read => otherwise (steps bound read) (second bound read)) target front
      following (.some extended) := by
  refine ⟨fun same => (nomatch same), fun bound read enough like => ?_⟩
  apply (first.2 bound read enough like).finish
  intro found same
  obtain ⟨next, rfl, _⟩ := Option.map_eq_some_iff.1 same
  exact takes_pure same

theorem readsStep_second {result : Option Expression}
    (first : readsStep steps target [] (front ++ following) none)
    (more : readsStep second target front following result) :
    readsStep (fun bound read => otherwise (steps bound read) (second bound read)) target front
      following result := by
  refine ⟨more.1, fun bound read enough like => ?_⟩
  have stops := (first.2 bound read (Nat.zero_le _) like).weaken fun _ same =>
    Option.map_eq_none_iff.1 same
  apply stops.skip
  rintro _ rfl
  exact more.2 bound read enough like

theorem explains_otherwise (explains : Explains room .step (readsStep steps target) step)
    (others : Explains room .step (readsStep second target) other) :
    Explains room .step
      (readsStep (fun bound read => otherwise (steps bound read) (second bound read)) target)
      (otherwise step other) := by
  intro tokens start finish short
  have explained := explains tokens start finish short
  rw [otherwise, run_bind]
  generalize step.run.run ⟨tokens, start, finish⟩ = outcome at explained ⊢
  cases explained with
  | @took taken rest found split dotted kept again =>
      cases found with
      | none =>
          obtain rfl := List.map_eq_nil_iff.1 (kept.1 rfl)
          obtain rfl : tokens = rest := split
          exact (others tokens start finish short).after dotted_nil again Manner.step_trails
            (fun _ _ kept => kept) (fun _ _ begun => begun) readsStep_second
      | some next =>
          exact .took split dotted kept fun following resumes =>
            readsStep_first (again following resumes)
  | failed split blames begun unnamed completes =>
      refine .failed split blames begun unnamed fun following ends => ?_
      obtain ⟨found, reading⟩ := completes following ends
      cases found with
      | none => exact (begun.1 (List.append_eq_nil_iff.1 (reading.1 rfl)).1).elim
      | some next => exact ⟨some next, readsStep_first reading⟩

/-! ### Binary operators -/

/-- A reader of an operator takes certain tokens for it, or none. -/
def Recognizes (operator? : TagReader (Option (BinaryOperator × Position))) : Prop :=
  ∀ tokens start finish,
    (∃ taken rest operator position, tokens = taken ++ rest ∧ taken ≠ [] ∧ Dotted taken ∧
      taken.map Token.sign ≠ [.name "not"] ∧
      (∀ following, Takes operator? (taken.map Token.sign) following (Finds operator)) ∧
      operator?.run.run ⟨tokens, start, finish⟩ =
        (.ok (some (operator, position)), ⟨rest, start, finish⟩)) ∨
    ((∀ following, Resumes (tokens.map Token.sign) following →
        Takes operator? [] following (· = none)) ∧
      operator?.run.run ⟨tokens, start, finish⟩ = (.ok none, ⟨tokens, start, finish⟩))

theorem recognizes_symbolOperator? {symbols : List String} (notDot : "." ∉ symbols)
    (apart : ∀ sign ∈ closers, sign ∉ symbols.map .operator) :
    Recognizes (symbolOperator? symbols) := by
  intro tokens start finish
  rw [symbolOperator?, run_bind]
  rcases picks_operator? symbols tokens start finish with
    ⟨token, rest, rfl, member, ran⟩ | ⟨stops, ran⟩
  · obtain ⟨text, among, sign⟩ := List.mem_map.1 member
    have notDot : token.sign ≠ .dot := by
      rw [← sign]
      rintro same
      obtain rfl : text = "." := congrArg Sign.text same
      exact notDot among
    refine .inl ⟨[token], rest, binaryOperatorOf token.text, token.position, rfl,
      List.cons_ne_nil _ _, dotted_singleton notDot, ?_, ?_, by rw [ran]; rfl⟩
    · intro same
      rw [List.map_singleton, ← sign] at same
      cases same
    · intro following
      obtain rfl : token.text = text := (congrArg Sign.text sign).symm
      rw [List.map_singleton, ← sign]
      exact takes_symbolOperator?_text among
  · exact .inr ⟨fun following resumes => takes_symbolOperator?_none (resumes.stops apart stops),
      by rw [ran]; rfl⟩

theorem recognizes_namedOperator? {name : String} (notNot : name ≠ "not")
    (operator : BinaryOperator) : Recognizes (namedOperator? name operator) := by
  intro tokens start finish
  rw [namedOperator?, run_bind]
  rcases picks_name? [name] tokens start finish with
    ⟨token, rest, rfl, member, ran⟩ | ⟨stops, ran⟩
  · have sign : token.sign = .name name := List.mem_singleton.1 member
    refine .inl ⟨[token], rest, operator, token.position, rfl, List.cons_ne_nil _ _,
      dotted_singleton (sign ▸ Sign.name_ne_dot name), ?_, ?_, by rw [ran]; rfl⟩
    · rw [List.map_singleton, sign]
      exact fun same => notNot (congrArg Sign.text (List.singleton_inj.1 same))
    · intro following
      rw [List.map_singleton, sign]
      exact takes_namedOperator? name
  · refine .inr ⟨fun following resumes => ?_, by rw [ran]; rfl⟩
    apply takes_namedOperator?_none
    apply resumes.stops _ stops
    intro sign closes member
    have operators : ∀ sign ∈ closers, sign.kind = .operator := by decide
    cases (operators sign closes).symm.trans (congrArg Sign.kind (List.mem_singleton.1 member))

theorem recognizes_notIn? : Recognizes notIn? := by
  intro tokens start finish
  by_cases isNotIn : ∃ rest, tokens.map Token.sign = .name "not" :: .name "in" :: rest
  · obtain ⟨others, spelled⟩ := isNotIn
    obtain ⟨first, tokens, rfl, firstSign, spelled⟩ := List.map_eq_cons_iff.1 spelled
    obtain ⟨second, tokens, rfl, secondSign, spelled⟩ := List.map_eq_cons_iff.1 spelled
    have signs : [first, second].map Token.sign = [.name "not", .name "in"] := by
      simp [firstSign, secondSign]
    have dotted : Dotted ([first] ++ [second]) :=
      .append (dotted_singleton (firstSign ▸ Sign.name_ne_dot "not"))
        (dotted_singleton (secondSign ▸ Sign.name_ne_dot "in"))
    obtain ⟨_, ⟨position, rfl⟩, ran⟩ :=
      takes_notIn? ⟨first :: second :: tokens, start, finish⟩ [first, second] tokens rfl signs rfl
    refine .inl ⟨[first, second], tokens, .notIn, position, rfl, List.cons_ne_nil _ _, dotted, ?_,
      ?_, ran⟩
    · rw [signs]
      decide
    · intro following
      rw [signs]
      exact takes_notIn?
  · have stopped (following : List Sign) (resumes : Resumes (tokens.map Token.sign) following) :
        Takes notIn? [] following (· = none) := by
      apply takes_notIn?_none_of_ne
      exact resumes.notIn fun more same => isNotIn ⟨more, same⟩
    have none : Takes notIn? [] (tokens.map Token.sign) (· = none) :=
      takes_notIn?_none_of_ne fun more same => isNotIn ⟨more, same⟩
    obtain ⟨_, rfl, ran⟩ := none ⟨tokens, start, finish⟩ [] tokens rfl rfl rfl
    exact .inr ⟨stopped, ran⟩

theorem readsStep_binary {operator? : TagReader (Option (BinaryOperator × Position))}
    {operator : BinaryOperator} {left right : Expression} {position : Position}
    (finds : ∀ following, Takes operator? front following (Finds operator))
    (reading : readsLevel operands back following right) :
    readsStep (fun bound => binaryStep operator? (operands bound)) left (front ++ back) following
      (.some (.binary operator left right position)) := by
  refine ⟨fun same => (nomatch same), fun bound read enough like => ?_⟩
  rw [List.length_append] at enough
  have takes : Takes (binaryStep operator? (operands bound) read) (front ++ back) following
      (Extends (.binary operator left right position)) :=
    takes_binaryStep (finds _) (reading bound (by omega)) like
  apply takes.weaken
  rintro _ ⟨next, rfl, same⟩
  exact congrArg some same

theorem explains_binaryStep {operator? : TagReader (Option (BinaryOperator × Position))}
    (recognizes : Recognizes operator?)
    (explains : Explains room (.phrase OpensNamed) (readsLevel operands) operand)
    (left : Expression) :
    Explains room .step (readsStep (fun bound => binaryStep operator? (operands bound)) left)
      (binaryStep operator? operand left) := by
  intro tokens start finish short
  rw [binaryStep, run_bind]
  rcases recognizes tokens start finish with
    ⟨taken, rest, operator, position, rfl, proper, dotted, notNot, finds, ran⟩ | ⟨stops, ran⟩
  · rw [ran]
    rw [List.length_append] at short
    have begun := append_ne_of_begun (mt List.map_eq_nil_iff.1 proper) notNot
    have extended : Explained .found (fun signs => readsStep
        (fun bound => binaryStep operator? (operands bound)) left (taken.map Token.sign ++ signs))
        rest start finish ((operand >>= fun right =>
          pure (some (Expression.binary operator left right position))).run.run
            ⟨rest, start, finish⟩) :=
      (explains rest start finish (by omega)).map (fun _ _ _ none => nomatch none)
        (fun _ _ _ => True.intro) (readsStep_binary finds)
    refine extended.behind taken dotted ?_ ?_ id
    · exact fun signs extended some => ⟨fun none => (some none).elim, fun _ => begun signs⟩
    · exact fun signs _ _ => begun signs
  · rw [ran]
    refine explained_pure ⟨fun _ => rfl, fun some => (some rfl).elim⟩ fun following resumes => ?_
    refine ⟨fun _ => rfl, fun bound read _ _ => ?_⟩
    apply (takes_binaryStep_none (stops following resumes)).weaken
    rintro _ rfl
    rfl

end Steps

end TemplateEngine

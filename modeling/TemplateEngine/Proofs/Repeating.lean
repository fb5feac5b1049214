import TemplateEngine.Proofs.Joining
import TemplateEngine.Proofs.Whole

/-!
# Repeated strings

A string times a whole number that is not negative is that many copies of it in a row, as long as
they are not too many bytes.  The limit on the bytes is applied to the count of copies as well,
which makes no difference unless there is nothing to copy: the empty string cannot be repeated
more often than a string may have bytes.
-/

namespace TemplateEngine

namespace Text

theorem repeated_eq_join (text : String) (count : Nat) :
    repeated text count = String.join (List.replicate count text) := by
  induction count with
  | zero => rfl
  | succ count inductionHypothesis =>
      have once : repeated text (count + 1) = repeated text count ++ text := rfl
      rw [once, inductionHypothesis, List.replicate_succ', String.join_append]
      simp

end Text

namespace Value

/-- Whether the copies of a text are not too many bytes in all. -/
def Repeatable (content : String) (times : Int) : Prop :=
  0 ≤ times ∧ times.toNat * content.utf8ByteSize ≤ 2 ^ 24

instance (content : String) (times : Int) : Decidable (Repeatable content times) :=
  inferInstanceAs (Decidable (_ ∧ _))

/-- Whether an outcome is the copies of a text in a row, or an error if they are too many bytes or
their count is negative. -/
def RepeatsTo (content : String) (times : Int) (outcome : Except EvalError Value) : Prop :=
  if Repeatable content times then
    outcome = .ok (.plain (String.join (List.replicate times.toNat content)))
  else ∃ error, outcome = .error error

variable {content : String} {times : Int}

/-- As many copies as fit are made of a text that is not empty, and as many as there may be bytes
of the empty one. -/
theorem repetition_ofInt (small : times.natAbs < 2 ^ 53) :
    repetition content (Number.ofInt times) =
      if Repeatable content times ∧ times ≤ 2 ^ 24 then
        .ok (.plain (String.join (List.replicate times.toNat content)))
      else if times < 0 then .error (.cannotRepeat (Number.ofInt times))
      else .error .repeatTooLarge := by
  have limit : maxRepetition = 2 ^ 24 := rfl
  unfold repetition
  rw [Number.integer?_ofInt small]
  dsimp only
  rw [Text.repeated_eq_join, limit, Nat.mul_comm]
  by_cases negative : times < 0
  · rw [if_pos negative, if_neg, if_pos negative]
    exact fun fits => absurd fits.1.1 (Int.not_le.2 negative)
  · rw [if_neg negative, if_neg negative]
    have counted : times.toNat ≤ 2 ^ 24 ↔ times ≤ 2 ^ 24 := by omega
    refine if_congr ?_ rfl rfl
    rw [Repeatable, counted]
    constructor
    · rintro ⟨few, fits⟩
      exact ⟨⟨Int.not_lt.1 negative, fits⟩, few⟩
    · rintro ⟨⟨_, fits⟩, few⟩
      exact ⟨few, fits⟩

/-- Copies that fit are more than there may be bytes only if they are empty. -/
theorem Repeatable.le_or_empty (fits : Repeatable content times) :
    times ≤ 2 ^ 24 ∨ content = "" := by
  rcases Nat.eq_zero_or_pos content.utf8ByteSize with empty | longer
  · exact .inr (String.utf8ByteSize_eq_zero_iff.1 empty)
  · have counted : times.toNat ≤ times.toNat * content.utf8ByteSize :=
      Nat.le_mul_of_pos_right _ longer
    have limited := fits.2
    exact .inl (by omega)

theorem repeatable_empty (nonnegative : 0 ≤ times) : Repeatable "" times :=
  ⟨nonnegative, by simp⟩

/-- The only exception is the empty string, which is not repeated more often than a string may
have bytes. -/
theorem repeatsTo_repetition_iff (small : times.natAbs < 2 ^ 53) :
    RepeatsTo content times (repetition content (Number.ofInt times)) ↔
      (content = "" → times ≤ 2 ^ 24) := by
  rw [repetition_ofInt small]
  unfold RepeatsTo
  by_cases fits : Repeatable content times
  · rw [if_pos fits]
    by_cases few : times ≤ 2 ^ 24
    · rw [if_pos ⟨fits, few⟩]
      exact iff_of_true rfl fun _ => few
    · have empty : content = "" := fits.le_or_empty.resolve_left few
      have nonnegative : ¬times < 0 := Int.not_lt.2 fits.1
      rw [if_neg fun both => few both.2, if_neg nonnegative]
      exact iff_of_false nofun fun limited => few (limited empty)
  · rw [if_neg fits, if_neg fun both => fits both.1]
    refine iff_of_true ?_ fun empty => ?_
    · split
      · exact ⟨_, rfl⟩
      · exact ⟨_, rfl⟩
    · subst empty
      have negative : ¬0 ≤ times := fun nonnegative => fits (repeatable_empty nonnegative)
      omega

end Value

namespace Place

variable {place : Place} {natives : Natives} {bound depth : Nat} {left right : Expression}
variable {content : String} {mark : Bool} {times : Int} {between after : RunState}

/-- The operands of a product are evaluated in turn. -/
theorem evaluate_product {first second : Value}
    (evaluated : place.evaluate natives bound depth left = some (.ok first, between))
    (multiplied : (Place.mk place.environment between).evaluate natives bound depth right =
      some (.ok second, after)) (position : Position) :
    place.evaluate natives bound depth (.binary .multiply left right position) =
      some (first.product second, after) := by
  unfold evaluate at evaluated multiplied ⊢
  rw [Expression.evaluate, Run.bind_apply, evaluated]
  · dsimp only
    rw [Run.bind_apply, multiplied]
    rfl
  · exact nofun
  · exact nofun

/-- A string times a whole number below `2 ^ 53` is the string of so many copies, not marked as
safe, if the number is not negative and the copies have at most `2 ^ 24` bytes, and an error of the
evaluation otherwise.  This is so if and only if the string is not empty or the number is at most
`2 ^ 24` itself. -/
theorem repeats_exactly_iff
    (evaluated : place.evaluate natives bound depth left =
      some (.ok (.string content mark), between))
    (counted : (Place.mk place.environment between).evaluate natives bound depth right =
      some (.ok (.ofInt times), after))
    (small : times.natAbs < 2 ^ 53) (position : Position) :
    ∃ outcome,
      place.evaluate natives bound depth (.binary .multiply left right position) =
          some (outcome, after) ∧
        (Value.RepeatsTo content times outcome ↔ (content = "" → times ≤ 2 ^ 24)) :=
  ⟨_, evaluate_product evaluated counted position, Value.repeatsTo_repetition_iff small⟩

/-- As many copies of a letter with two bytes as fit are made, but not one copy more of the empty
string than there may be bytes. -/
theorem repeats_exactly_iff_accent :
    (∃ outcome,
      desk.evaluate .standard 1 0 (.binary .multiply (quotation "é")
          (.literal (.integer (2 ^ 23)) .start) .start) = some (outcome, desk.state) ∧
        Value.RepeatsTo "é" (2 ^ 23) outcome) ∧
    ∃ outcome,
      desk.evaluate .standard 1 0 (.binary .multiply (quotation "")
          (.literal (.integer (2 ^ 24 + 1)) .start) .start) = some (outcome, desk.state) ∧
        ¬Value.RepeatsTo "" (2 ^ 24 + 1) outcome := by
  have quoted : ∀ content, desk.evaluate .standard 1 0 (quotation content) =
      some (.ok (.string content false), desk.state) :=
    fun _ => rfl
  have counted : ∀ times, desk.evaluate .standard 1 0 (.literal (.integer times) .start) =
      some (.ok (.ofInt times), desk.state) :=
    fun _ => rfl
  obtain ⟨copies, repeated, agrees⟩ :=
    repeats_exactly_iff (quoted "é") (counted (2 ^ 23)) (by decide) .start
  obtain ⟨refused, repeatedEmpty, differs⟩ :=
    repeats_exactly_iff (quoted "") (counted (2 ^ 24 + 1)) (by decide) .start
  exact ⟨⟨copies, repeated, agrees.2 (by decide)⟩, refused, repeatedEmpty,
    fun repeats => absurd (differs.1 repeats rfl) (by decide)⟩

end Place

end TemplateEngine

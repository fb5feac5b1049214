/-!
# Shortest decimals

The shortest decimal of a binary number is the one with the fewest digits among
those that round to it.  All decisions are made in exact natural-number
arithmetic: the number is a fraction, the numbers that round to it form an
interval around it, and for each digit count the two neighbours of the number on
the decimal grid are tried.  Where the number lies halfway between its neighbours,
the written form that the decimal is for says which of them it takes.
-/

namespace TemplateEngine.Number

/-- A decimal number, `digits · 10 ^ exponent`. -/
structure Decimal where
  digits : Nat
  exponent : Int
deriving DecidableEq

namespace Decimal

/-- Drop trailing zero digits, at most the given count of them. -/
def dropZeros : Nat → Decimal → Decimal
  | 0, decimal => decimal
  | count + 1, decimal =>
      if decimal.digits ≠ 0 ∧ decimal.digits % 10 = 0 then
        dropZeros count ⟨decimal.digits / 10, decimal.exponent + 1⟩
      else decimal

end Decimal

/-- Which of two equally near decimals stands for a number. -/
inductive Tie where
  /-- The one further from zero. -/
  | away
  /-- The one whose last digit is even. -/
  | even
deriving DecidableEq

/-- Whether the upper one of two equally near decimals is taken, when the lower one
has the given digits. -/
def Tie.takesUpper (tie : Tie) (lower : Nat) : Bool :=
  match tie with
  | .away => true
  | .even => lower % 2 == 1

/-- The count of decimal digits of a natural number; zero has one. -/
def digitCount (value : Nat) : Nat :=
  (Nat.toDigits 10 value).length

/-- A positive binary number `mantissa · 2 ^ exponent`, as a fraction, with the
bounds of the interval of reals that round to it.  All four share a denominator
once the number itself is scaled by four. -/
structure Rounding where
  /-- Four times the number, over `denominator`. -/
  value : Nat
  lower : Nat
  upper : Nat
  denominator : Nat
  /-- Whether the bounds themselves round to the number. -/
  inclusive : Bool

namespace Rounding

/-- The interval around a number with a significand of 53 bits.  At a power of two
the numbers below lie twice as dense, unless the exponent is already the least. -/
def ofParts (mantissa : Nat) (exponent : Int) : Rounding :=
  let scale := Nat.pow 2 exponent.toNat
  let below := if mantissa = Nat.pow 2 52 ∧ exponent ≠ -1074 then 1 else 2
  { value := 4 * mantissa * scale
    lower := (4 * mantissa - below) * scale
    upper := (4 * mantissa + 2) * scale
    denominator := 4 * Nat.pow 2 (-exponent).toNat
    inclusive := mantissa % 2 == 0 }

/-- The least exponent `e` such that the number is below `10 ^ e`. -/
def magnitude (rounding : Rounding) : Int :=
  let whole := rounding.value / rounding.denominator
  if whole ≠ 0 then digitCount whole
  else 1 - digitCount ((rounding.denominator - 1) / rounding.value)

/-- Whether the decimal `digits · 10 ^ exponent` rounds to the number. -/
def accepts (rounding : Rounding) (decimal : Decimal) : Bool :=
  let candidate := decimal.digits * Nat.pow 10 decimal.exponent.toNat * rounding.denominator
  let unit := Nat.pow 10 (-decimal.exponent).toNat
  if rounding.inclusive then
    rounding.lower * unit ≤ candidate && candidate ≤ rounding.upper * unit
  else
    rounding.lower * unit < candidate && candidate < rounding.upper * unit

/-- The decimal of the given exponent just below the number and the one above,
the nearer first.  Of two equally near ones the tie rule puts one first. -/
def neighbours (rounding : Rounding) (tie : Tie) (exponent : Int) : List Decimal :=
  let numerator := rounding.value * Nat.pow 10 (-exponent).toNat
  let denominator := rounding.denominator * Nat.pow 10 exponent.toNat
  let down := numerator / denominator
  let remainder := numerator % denominator
  let upperFirst :=
    if 2 * remainder = denominator then tie.takesUpper down
    else decide (denominator < 2 * remainder)
  if upperFirst then [⟨down + 1, exponent⟩, ⟨down, exponent⟩]
  else [⟨down, exponent⟩, ⟨down + 1, exponent⟩]

/-- Halfway between its neighbours a number prefers the even one under the tie rule
for it. -/
theorem head_neighbours_even (rounding : Rounding) (exponent : Int)
    (halfway :
      2 * (rounding.value * Nat.pow 10 (-exponent).toNat %
        (rounding.denominator * Nat.pow 10 exponent.toNat)) =
          rounding.denominator * Nat.pow 10 exponent.toNat) :
    ∃ nearest, (rounding.neighbours .even exponent).head? = some nearest ∧
      nearest.digits % 2 = 0 := by
  unfold neighbours
  simp only [halfway, if_true, Tie.takesUpper]
  split
  · rename_i lowerOdd
    refine ⟨_, rfl, ?_⟩
    have odd := eq_of_beq lowerOdd
    simp only
    omega
  · rename_i lowerEven
    refine ⟨_, rfl, ?_⟩
    have notOdd := ne_of_beq_false (Bool.eq_false_iff.mpr lowerEven)
    simp only
    omega

/-- Halfway between its neighbours a number prefers the upper one under the rule that
ties go away from zero. -/
theorem head_neighbours_away (rounding : Rounding) (exponent : Int)
    (halfway :
      2 * (rounding.value * Nat.pow 10 (-exponent).toNat %
        (rounding.denominator * Nat.pow 10 exponent.toNat)) =
          rounding.denominator * Nat.pow 10 exponent.toNat) :
    (rounding.neighbours .away exponent).head? =
      some ⟨rounding.value * Nat.pow 10 (-exponent).toNat /
        (rounding.denominator * Nat.pow 10 exponent.toNat) + 1, exponent⟩ := by
  simp only [neighbours, halfway, if_true, Tie.takesUpper, List.head?_cons]

/-- The decimal with the fewest digits that rounds to the number, and of those the
nearest.  Seventeen digits always suffice. -/
def shortest (rounding : Rounding) (tie : Tie) : Decimal :=
  let magnitude := rounding.magnitude
  let found := (List.range 17).findSome? fun (count : Nat) =>
    (rounding.neighbours tie (magnitude - (count + 1))).find? rounding.accepts
  (found.getD ⟨0, 0⟩).dropZeros 17

end Rounding

/-- The shortest decimal that rounds to `mantissa · 2 ^ exponent`. -/
def shortest (tie : Tie) (mantissa : Nat) (exponent : Int) : Decimal :=
  (Rounding.ofParts mantissa exponent).shortest tie

end TemplateEngine.Number

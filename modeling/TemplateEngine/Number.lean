/-!
# Numbers

The numbers of the template language are binary64 floating-point numbers.  Their
arithmetic is that of `Float`; this module adds what the language asks of their
exact value: whether they are whole, the whole number they are, and the greatest
whole number below them.
-/

namespace TemplateEngine.Number

open Float.Model (UnpackedFloat)

/-- The number nearest to an integer, ties to the even significand. -/
def ofInt (value : Int) : Float :=
  .ofModel (.ofInt value)

/-- The number nearest to a natural number. -/
def ofNat (value : Nat) : Float :=
  ofInt value

/-- The integer that a whole finite number is. -/
def integer? (number : Float) : Option Int :=
  match number.toModel.unpack with
  | .zero _ => some 0
  | .finite sign mantissa exponent _ =>
      if 0 ≤ exponent then
        some (sign.apply (mantissa * Nat.pow 2 exponent.toNat))
      else if mantissa % Nat.pow 2 (-exponent).toNat = 0 then
        some (sign.apply (mantissa / Nat.pow 2 (-exponent).toNat))
      else none
  | .infinity _ => none
  | .notANumber => none

/-- The greatest whole number that is not above a number.  Infinities, zeros and
the undefined number are their own floor. -/
def floor (number : Float) : Float :=
  match number.toModel.unpack with
  | .finite sign mantissa exponent _ =>
      if 0 ≤ exponent then number
      else ofInt ((sign.apply mantissa).fdiv (Int.pow 2 (-exponent).toNat))
  | _ => number

/-- The order of two numbers, absent when one of them is undefined. -/
def compare? (left right : Float) : Option Ordering :=
  if left < right then some .lt
  else if left == right then some .eq
  else if right < left then some .gt
  else none

/-- The least integer of 64 bits. -/
def leastInteger : Int := -Int.pow 2 63

/-- The greatest integer of 64 bits. -/
def greatestInteger : Int := Int.pow 2 63 - 1

/-- The whole number as an integer of 64 bits, clamped to their range. -/
def clampedInteger? (number : Float) : Option Int :=
  (integer? number).map fun value => max leastInteger (min greatestInteger value)

end TemplateEngine.Number

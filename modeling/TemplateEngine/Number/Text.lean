import TemplateEngine.Number
import TemplateEngine.Number.Shortest

/-!
# Written numbers

Three written forms of a number use the shortest decimal that reads back.  The
*plain* form is always positional, and rounds away from zero where two shortest
decimals are equally near.  The *template* form is what an output tag writes: whole
numbers below `10 ^ 16` appear as integers, all others plainly.  The *data* form is
the one of a data file: it always shows that the number is not an integer, uses an
exponent with its sign for very large and very small numbers, and of two equally
near decimals takes the one with the even last digit.
-/

namespace TemplateEngine.Number

/-- A text of the given count of zeros. -/
def zeros (count : Nat) : String :=
  String.ofList (List.replicate count '0')

/-- The digits of a decimal with its point at the right place. -/
def Decimal.positional (decimal : Decimal) : String :=
  let digits := Nat.toDigits 10 decimal.digits
  if 0 ≤ decimal.exponent then
    String.ofList digits ++ zeros decimal.exponent.toNat
  else
    let places := (-decimal.exponent).toNat
    if places < digits.length then
      String.ofList (digits.take (digits.length - places)) ++ "." ++
        String.ofList (digits.drop (digits.length - places))
    else "0." ++ zeros (places - digits.length) ++ String.ofList digits

/-- The digits of a decimal in the data form: positional from `10 ^ -5` up to
`10 ^ 16`, and outside with an exponent that has its sign in front. -/
def Decimal.scientific (decimal : Decimal) : String :=
  let digits := Nat.toDigits 10 decimal.digits
  let point := decimal.exponent + digits.length
  if 0 ≤ decimal.exponent ∧ point ≤ 16 then decimal.positional ++ ".0"
  else if -5 < point ∧ point ≤ 16 then decimal.positional
  else
    let mark := if 0 < point then "e+" else "e-"
    let exponent := mark ++ toString (point - 1).natAbs
    match digits with
    | [] => exponent
    | [digit] => String.ofList [digit] ++ exponent
    | first :: rest => String.ofList (first :: '.' :: rest) ++ exponent

/-- The mark of a negative number. -/
def signText : Float.Model.UnpackedFloat.Sign → String
  | .positive => ""
  | .negative => "-"

/-- The plain form: positional, with the fewest digits that read back. -/
def plain (number : Float) : String :=
  match number.toModel.unpack with
  | .notANumber => "NaN"
  | .infinity sign => signText sign ++ "inf"
  | .zero sign => signText sign ++ "0"
  | .finite sign mantissa exponent _ =>
      signText sign ++ (shortest .away mantissa exponent).positional

/-- The data form; a number that is not finite has none and is written `null`. -/
def dataText (number : Float) : String :=
  match number.toModel.unpack with
  | .notANumber => "null"
  | .infinity _ => "null"
  | .zero sign => signText sign ++ "0.0"
  | .finite sign mantissa exponent _ =>
      signText sign ++ (shortest .even mantissa exponent).scientific

/-- The bound below which whole numbers are written as integers. -/
def integerTextBound : Int := Int.pow 10 16

/-- The template form: a whole number below the bound is written as an integer,
so that zero has no sign, and every other number plainly. -/
def text (number : Float) : String :=
  match integer? number with
  | some value =>
      if value.natAbs < integerTextBound then toString value else plain number
  | none => plain number

/-- The value of a run of decimal digits. -/
def digitsValue (digits : List Char) : Nat :=
  digits.foldl (fun value digit => value * 10 + (digit.toNat - '0'.toNat)) 0

/-- The power of ten from which on every positive whole number is infinite.  Divided by
as high a power, a number below one is zero. -/
def utmostPower : Int := 400

/-- The number nearest to a decimal given by the digits before and after its
point and a power of ten.  Powers beyond the utmost one make no difference. -/
def ofDigits (whole fraction : List Char) (power : Int) : Float :=
  let digits := whole ++ fraction
  let least := -(utmostPower + digits.length)
  let exponent := max least (min utmostPower (power - fraction.length))
  let significand := digitsValue digits
  if 0 ≤ exponent then Float.ofScientific significand false exponent.toNat
  else Float.ofScientific significand true (-exponent).toNat

/-- Split a text into its leading sign, if any, and the rest. -/
def splitSign : List Char → Bool × List Char
  | '-' :: rest => (true, rest)
  | '+' :: rest => (false, rest)
  | rest => (false, rest)

/-- Read the exponent part of a decimal, which may be absent. -/
def readPower : List Char → Option Int
  | [] => some 0
  | mark :: rest =>
      if mark = 'e' ∨ mark = 'E' then
        let (negative, digits) := splitSign rest
        if digits.isEmpty || !digits.all Char.isDigit then none
        else
          let value : Int := digitsValue digits
          some (if negative then -value else value)
      else none

/-- Read an unsigned decimal with optional fraction and exponent. -/
def readUnsigned (characters : List Char) : Option Float :=
  let whole := characters.takeWhile Char.isDigit
  let afterWhole := characters.dropWhile Char.isDigit
  let fraction := match afterWhole with
    | '.' :: rest => rest.takeWhile Char.isDigit
    | _ => []
  let afterFraction := match afterWhole with
    | '.' :: rest => rest.dropWhile Char.isDigit
    | rest => rest
  if whole.isEmpty && fraction.isEmpty then none
  else (readPower afterFraction).map (ofDigits whole fraction)

/-- Read a number: a decimal, an infinity or the undefined number, each with an
optional sign. -/
def ofText? (text : String) : Option Float :=
  let (negative, characters) := splitSign text.toList
  let magnitude :=
    match String.ofList (characters.map Char.toLower) with
    | "inf" => some (1.0 / 0.0)
    | "infinity" => some (1.0 / 0.0)
    | "nan" => some (0.0 / 0.0)
    | _ => readUnsigned characters
  magnitude.map fun number => if negative then -number else number

end TemplateEngine.Number

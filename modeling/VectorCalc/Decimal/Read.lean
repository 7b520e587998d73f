import VectorCalc.Decimal.Binary64
import VectorCalc.Text.Numeral

/-!
Reading decimal numerals. A numeral denotes an exact number and is read as the double
nearest to it, however many digits it has.
-/
namespace VectorCalc.Decimal

set_option autoImplicit false

/-- The double nearest to `digits * 10 ^ exponent` (`of_scaled_nearest`). Numbers far outside the
range of doubles are settled by their number of digits. -/
def ofScaled (negative : Bool) (digits : Nat) (exponent : Int) : Float :=
  let size := Int.ofNat (Text.naturalText digits).length + exponent
  if digits = 0 ∨ size < -400 then nearest negative 0 1
  else if 400 < size then nearest negative (twoTo 2000) 1
  else nearest negative (digits * tenTo exponent.toNat) (tenTo (-exponent).toNat)

/-- The double nearest to the number written as `whole`, a point and `fraction`, by
`of_digits_nearest`. -/
def ofDigits (whole fraction : List Char) : Float :=
  ofScaled false (Text.digitsValue (Text.digitsValue 0 whole) fraction)
    (-(Int.ofNat fraction.length))

def exponent? (text : List Char) : Option Int :=
  let (negative, digits) := Text.splitSign text
  if digits.isEmpty || !digits.all Char.isDigit then none
  else
    let magnitude := Int.ofNat (Text.digitsValue 0 digits)
    some (if negative then -magnitude else magnitude)

def unsigned? (negative : Bool) (text : List Char) : Option Float :=
  let whole := text.takeWhile Char.isDigit
  let afterWhole := text.dropWhile Char.isDigit
  let (fraction, afterFraction) :=
    match afterWhole with
    | '.' :: rest => (rest.takeWhile Char.isDigit, rest.dropWhile Char.isDigit)
    | rest => ([], rest)
  if whole.isEmpty && fraction.isEmpty then none
  else
    let digits := Text.digitsValue (Text.digitsValue 0 whole) fraction
    let places := Int.ofNat fraction.length
    match afterFraction with
    | [] => some (ofScaled negative digits (-places))
    | mark :: rest =>
        if mark == 'e' || mark == 'E' then
          (exponent? rest).map fun exponent => ofScaled negative digits (exponent - places)
        else none

def plain? (text : List Char) : Option Float :=
  let (negative, rest) := Text.splitSign text
  let name := String.ofList (rest.map Char.toLower)
  if name == "inf" || name == "infinity" then
    some (if negative then -positiveInfinity else positiveInfinity)
  else if name == "nan" then some notANumber
  else unsigned? negative rest

def read? (text : String) : Option Float :=
  (Text.withoutUnderscores? false (Text.bareNumeral text)).bind plain?

end VectorCalc.Decimal

/-!
Doubles as exact numbers. A finite double is a sign, a whole mantissa and a power of
two; a quotient of naturals goes to the nearest double, a tie to the even mantissa, and
a quotient beyond the range to infinity. Remainders are computed exactly on this form.
-/
namespace VectorCalc.Decimal

set_option autoImplicit false

abbrev twoTo (exponent : Nat) : Nat := Nat.pow 2 exponent

abbrev tenTo (exponent : Nat) : Nat := Nat.pow 10 exponent

/-- The number `mantissa * 2 ^ exponent`, with the sign kept apart so that zero has one. -/
structure Binary64 where
  negative : Bool
  mantissa : Nat
  exponent : Int
  deriving Repr, DecidableEq

def notANumber : Float := Float.ofBits 0x7FF8000000000000

def positiveInfinity : Float := Float.ofBits 0x7FF0000000000000

/-- Neither infinities nor not-a-number have such a form. -/
def Binary64.ofFloat? (number : Float) : Option Binary64 :=
  let bits := number.toBits.toNat
  let field := bits / twoTo 52 % twoTo 11
  let fraction := bits % twoTo 52
  let negative := decide (twoTo 63 ≤ bits)
  if field = 0x7FF then none
  else if field = 0 then some ⟨negative, fraction, -1074⟩
  else some ⟨negative, twoTo 52 + fraction, Int.ofNat field - 1075⟩

def isNegative (number : Float) : Bool :=
  decide (twoTo 63 ≤ number.toBits.toNat)

def roundedQuotient (numerator denominator : Nat) : Nat :=
  let quotient := numerator / denominator
  let double := 2 * (numerator % denominator)
  if double < denominator then quotient
  else if double = denominator then quotient + quotient % 2
  else quotient + 1

/-- The power of two of the last bit that a double near the quotient can hold. -/
def lastBitExponent (numerator denominator : Nat) : Int :=
  let guess : Int := Int.ofNat numerator.log2 - Int.ofNat denominator.log2 - 53
  let scaled :=
    if guess < 0 then numerator * twoTo (-guess).toNat / denominator
    else numerator / (denominator * twoTo guess.toNat)
  max (if scaled < twoTo 53 then guess else guess + 1) (-1074)

/-- The bits of the nearest double that is not negative (`magnitude_bits_nearest`). A mantissa
rounded up to the next power of two carries into the exponent field by itself. -/
def magnitudeBits (numerator denominator : Nat) : Nat :=
  if numerator = 0 then 0
  else
    let exponent := lastBitExponent numerator denominator
    let mantissa :=
      if exponent < 0 then roundedQuotient (numerator * twoTo (-exponent).toNat) denominator
      else roundedQuotient numerator (denominator * twoTo exponent.toNat)
    min ((exponent + 1074).toNat * twoTo 52 + mantissa) 0x7FF0000000000000

/-- The double nearest to a quotient with a given sign, by `magnitude_bits_nearest`. -/
def nearest (negative : Bool) (numerator denominator : Nat) : Float :=
  let bits := magnitudeBits numerator denominator
  Float.ofBits (UInt64.ofNat (if negative then twoTo 63 + bits else bits))

def Binary64.toFloat (number : Binary64) : Float :=
  if number.exponent < 0 then
    nearest number.negative number.mantissa (twoTo (-number.exponent).toNat)
  else nearest number.negative (number.mantissa * twoTo number.exponent.toNat) 1

def ofInteger (value : Int) : Float :=
  nearest (decide (value < 0)) value.natAbs 1

def ofInteger? (value : Int) : Option Float :=
  let number := ofInteger value
  if number.isInf then none else some number

def truncatedRemainder (dividend divisor : Float) : Float :=
  match Binary64.ofFloat? dividend, Binary64.ofFloat? divisor with
  | some left, some right =>
      if right.mantissa = 0 then notANumber
      else
        let exponent := min left.exponent right.exponent
        let leftUnits := left.mantissa * twoTo (left.exponent - exponent).toNat
        let rightUnits := right.mantissa * twoTo (right.exponent - exponent).toNat
        Binary64.toFloat ⟨left.negative, leftUnits % rightUnits, exponent⟩
  | some _, none => if divisor.isNaN then notANumber else dividend
  | none, _ => notANumber

/-- The remainder that goes with rounding the quotient down: it has the sign of the divisor,
also when it is zero. -/
def flooredRemainder (dividend divisor : Float) : Float :=
  let remainder := truncatedRemainder dividend divisor
  if remainder == 0 then (if isNegative divisor then -0.0 else 0.0)
  else if (divisor < 0) != (remainder < 0) then remainder + divisor
  else remainder

end VectorCalc.Decimal

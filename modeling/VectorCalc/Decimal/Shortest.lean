import VectorCalc.Decimal.Binary64
import VectorCalc.Text.Digit

/-!
The shortest decimal text of a double. Of all decimals that read back as the double,
take those with the fewest digits, and of these the nearest; an exact tie goes to the
even last digit. The double is compared with its neighbours on a decimal grid in exact
arithmetic, so no digit depends on rounding.
-/
namespace VectorCalc.Decimal

set_option autoImplicit false

/-- The number `digits * 10 ^ exponent`. -/
structure Scaled where
  digits : Nat
  exponent : Int
  deriving Repr, DecidableEq

/-- The reals that round to a double, as quarters of its last bit: `low / 4` and `high / 4`
times a power of two, both ends included when the mantissa is even. -/
structure Neighbourhood where
  low : Nat
  middle : Nat
  high : Nat
  exponent : Int
  closed : Bool

/-- Below a power of two the neighbour is half as far away, except among the smallest doubles. -/
def neighbourhood (number : Binary64) : Neighbourhood :=
  let middle := 4 * number.mantissa
  let narrow := number.mantissa = twoTo 52 ∧ -1074 < number.exponent
  ⟨if narrow then middle - 1 else middle - 2, middle, middle + 2, number.exponent - 2,
    number.mantissa % 2 == 0⟩

/-- Two naturals whose quotient is `10 ^ exponent / 2 ^ shift`. -/
def powerRatio (exponent shift : Int) : Nat × Nat :=
  (tenTo exponent.toNat * twoTo (-shift).toNat, tenTo (-exponent).toNat * twoTo shift.toNat)

def Neighbourhood.holds (around : Neighbourhood) (count : Nat) (exponent : Int) : Bool :=
  let (upper, lower) := powerRatio exponent around.exponent
  let point := count * upper
  if around.closed then around.low * lower ≤ point && point ≤ around.high * lower
  else around.low * lower < point && point < around.high * lower

/-- The better of the two grid points next to the double, if one of them reads back. -/
def Neighbourhood.gridPoint? (around : Neighbourhood) (exponent : Int) : Option Nat :=
  let (upper, lower) := powerRatio exponent around.exponent
  let target := around.middle * lower
  let below := target / upper
  let above := below + 1
  match around.holds below exponent, around.holds above exponent with
  | true, true =>
      let left := target - below * upper
      let right := above * upper - target
      if left < right || (left == right && below % 2 == 0) then some below else some above
  | true, false => some below
  | false, true => some above
  | false, false => none

/-- The power of ten that just exceeds the double, found from its size in bits and corrected
upwards. -/
def decimalPoint (around : Neighbourhood) : Int :=
  let bits : Int := Int.ofNat around.middle.log2 + around.exponent
  let guess := bits * 30103 / 100000
  let reaches (exponent : Int) : Bool :=
    let (upper, lower) := powerRatio exponent around.exponent
    upper ≤ around.middle * lower
  if reaches (guess + 1) then guess + 2 else if reaches guess then guess + 1 else guess

/-- Tries ever finer grids, coarsest first; seventeen digits always suffice. -/
def firstGridPoint (around : Neighbourhood) (exponent : Int) : Nat → Scaled
  | 0 => ⟨(around.gridPoint? exponent).getD 0, exponent⟩
  | finer + 1 =>
      match around.gridPoint? exponent with
      | some count => ⟨count, exponent⟩
      | none => firstGridPoint around (exponent - 1) finer

def dropTrailingZeros (number : Scaled) : Nat → Scaled
  | 0 => number
  | more + 1 =>
      if number.digits % 10 = 0 ∧ number.digits ≠ 0 then
        dropTrailingZeros ⟨number.digits / 10, number.exponent + 1⟩ more
      else number

def shortest (number : Binary64) : Scaled :=
  if number.mantissa = 0 then ⟨0, 0⟩
  else
    let around := neighbourhood number
    dropTrailingZeros (firstGridPoint around (decimalPoint around - 1) 17) 20

/-- Exponents from -4 to 15 are written positionally, with at least one digit on each side of
the point; any other exponent has a sign and at least two digits. -/
def Scaled.text (number : Scaled) : String :=
  let digits := Text.naturalText number.digits
  let point : Int := Int.ofNat digits.length + number.exponent
  if number.digits = 0 then "0.0"
  else if -4 < point ∧ point ≤ 16 then
    if point ≤ 0 then
      "0." ++ String.ofList (List.replicate (-point).toNat '0' ++ digits)
    else
      let whole := digits.take point.toNat
      let fraction := digits.drop point.toNat
      let padded := whole ++ List.replicate (point.toNat - whole.length) '0'
      String.ofList padded ++ "." ++ (if fraction.isEmpty then "0" else String.ofList fraction)
  else
    let power := point - 1
    let powerDigits := Text.naturalText power.natAbs
    let mantissa :=
      match digits with
      | first :: second :: others => first :: '.' :: second :: others
      | short => short
    String.ofList mantissa ++ (if power < 0 then "e-" else "e+")
      ++ String.ofList (List.replicate (2 - powerDigits.length) '0' ++ powerDigits)

def floatText (missing : String) (number : Float) : String :=
  match Binary64.ofFloat? number with
  | some exact =>
      if exact.negative then "-" ++ (shortest exact).text else (shortest exact).text
  | none =>
      if number.isNaN then missing
      else if isNegative number then "-inf"
      else "inf"

end VectorCalc.Decimal

import VectorCalc.Breakdown
import VectorCalc.Decimal.Read

/-!
Numerals written out as text. An integer has a bounded number of digits, zeros in front
included; a double is the nearest to what its numeral denotes, however long it is.
-/
namespace VectorCalc.Numeral

set_option autoImplicit false

/-- Reads an optional sign and digits that may be grouped by underscores. The number of digits is
looked at before what follows them. -/
def integer (text : String) : Except Breakdown Int :=
  let (negative, rest) := Text.splitSign (Text.bareNumeral text)
  let grouped := rest.takeWhile fun character => character.isDigit || character == '_'
  match Text.withoutUnderscores? false grouped with
  | none => .error (.notAnInteger text)
  | some digits =>
      if digitLimit < digits.length then .error (.literalTooLong digits.length)
      else if digits.isEmpty || grouped.length < rest.length then .error (.notAnInteger text)
      else
        let magnitude := Int.ofNat (Text.digitsValue 0 digits)
        .ok (if negative then -magnitude else magnitude)

def double (text : String) : Except Breakdown Float :=
  match Decimal.read? text with
  | some number => .ok number
  | none => .error (.notADouble text)

end VectorCalc.Numeral

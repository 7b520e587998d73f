import VectorCalc.Text.Blank
import VectorCalc.Text.Digit

/-!
The plain form of numerals. A numeral may be written with the digits of any script, with
blanks around it and with single underscores between its digits; the plain form has ASCII
digits only and neither blanks nor underscores.
-/
namespace VectorCalc.Text

set_option autoImplicit false

/-- The four separators among the control characters do not surround a numeral. -/
def surroundsNumeral (character : Char) : Bool :=
  isBlank character && !(28 ≤ character.toNat && character.toNat ≤ 31)

def plainDigit (character : Char) : Char :=
  match decimalDigit? character with
  | some value => Char.ofNat (48 + value)
  | none => character

def bareNumeral (text : String) : List Char :=
  let rest := text.toList.dropWhile surroundsNumeral
  (rest.reverse.dropWhile surroundsNumeral).reverse.map plainDigit

/-- Drops underscores, each of which has to stand between two digits; `afterDigit` says whether
the character before the text is one. -/
def withoutUnderscores? (afterDigit : Bool) : List Char → Option (List Char)
  | [] => some []
  | '_' :: digit :: rest =>
      if afterDigit && digit.isDigit then
        (withoutUnderscores? true rest).map fun plain => digit :: plain
      else none
  | character :: rest =>
      if character == '_' then none
      else (withoutUnderscores? character.isDigit rest).map fun plain => character :: plain

def splitSign : List Char → Bool × List Char
  | '-' :: rest => (true, rest)
  | '+' :: rest => (false, rest)
  | rest => (false, rest)

end VectorCalc.Text

import VectorCalc.Excess
import VectorCalc.Mismatch

/-!
Ways in which a run ends without a value and without a diagnostic of the language. None
of them names a place in the source.
-/
namespace VectorCalc

set_option autoImplicit false

inductive Breakdown where
  /-- A table has no entry for this key. -/
  | missingKey (key : Payload)
  /-- A tree node that takes two parts has fewer. -/
  | tooFewParts (count : Nat)
  /-- A tree node that takes two parts has more. -/
  | tooManyParts
  /-- A tree node that takes an operand has none. -/
  | noOperand
  /-- Content of the wrong type. -/
  | mismatch (cause : Mismatch)
  /-- A text that should be an integer is none. -/
  | notAnInteger (text : String)
  /-- A text that should be a double is none. -/
  | notADouble (text : String)
  /-- An integer literal has more digits than can be converted. -/
  | literalTooLong (digits : Nat)
  /-- A number is too large for its place. -/
  | excess (cause : Excess)
  /-- Not-a-number is no integer, whichever way it is cut. -/
  | notWhole
  /-- A template ends within a slot. -/
  | incompleteSlot
  /-- The width of a slot has too many digits. -/
  | widthTooLong
  /-- The precision of a slot has too many digits. -/
  | precisionTooLong
  /-- A letter that closes no slot, and where it stands in the template. -/
  | unknownConversion (letter : Char) (index : Nat)
  /-- A text is too long to be held. -/
  | noRoom
  /-- A character was asked for past the end of the source. -/
  | exhausted (index line : Nat)
  /-- Function calls are nested deeper than the evaluation allows. -/
  | tooDeep
  /-- The reading of a token list did not end within its bound. -/
  | unfinished
  /-- A file name holds a null character. -/
  | nullInName
  /-- A diagnostic of no particular kind has no wording. -/
  | unworded
  deriving Repr

/-- Integer literals with more digits than this are not converted. -/
def digitLimit : Nat := 4300

/-- A text that is no integer is shown by this many characters of its quoted form. -/
def quoteLimit : Nat := 200

def roomLimit : Nat := 17179869184

def shownLetter (letter : Char) : Char :=
  if 31 ≤ letter.toNat ∧ letter.toNat ≤ 126 then letter else '?'

def Breakdown.message : Breakdown → String
  | .missingKey key => key.quoted
  | .tooFewParts count =>
      "not enough values to unpack (expected 2, got " ++ Text.integerText count ++ ")"
  | .tooManyParts => "too many values to unpack (expected 2)"
  | .noOperand => "list index out of range"
  | .mismatch cause => cause.message
  | .notAnInteger text =>
      "invalid literal for int() with base 10: "
        ++ String.ofList ((Text.quotedCharacters text.toList).take quoteLimit)
  | .notADouble text => "could not convert string to float: " ++ Text.quoted text
  | .literalTooLong digits =>
      "Exceeds the limit (" ++ Text.integerText digitLimit
        ++ " digits) for integer string conversion: value has " ++ Text.integerText digits
        ++ " digits; use sys.set_int_max_str_digits() to increase the limit"
  | .excess cause => cause.message
  | .notWhole => "cannot convert float NaN to integer"
  | .incompleteSlot => "incomplete format"
  | .widthTooLong => "width too big"
  | .precisionTooLong => "precision too big"
  | .unknownConversion letter index =>
      "unsupported format character '" ++ String.ofList [shownLetter letter] ++ "' (0x"
        ++ String.ofList (Nat.toDigits 16 letter.toNat) ++ ") at index "
        ++ Text.integerText index
  | .noRoom => ""
  | .exhausted index line =>
      "CharacterStreamError: Attempted to read past end of source at index=<"
        ++ Text.integerText index ++ ">, line=<" ++ Text.integerText line ++ ">"
  | .tooDeep => "maximum recursion depth exceeded"
  | .unfinished => "reading did not finish"
  | .nullInName => "embedded null byte"
  | .unworded => ""

end VectorCalc

import VectorCalc.Text.Printable

/-!
Quoted text, as it stands in log lines and in messages about files and arguments. The
mark is an apostrophe unless the text holds an apostrophe and no double quote. The mark
and the backslash are escaped by a backslash, line feed, carriage return and tab have
letters of their own, and any other character that cannot be shown is written by its
code in two, four or eight hexadecimal digits.
-/
namespace VectorCalc.Text

set_option autoImplicit false

def quoteMark (text : List Char) : Char :=
  if text.contains '\'' && !text.contains '"' then '"' else '\''

def hexadecimal (width value : Nat) : List Char :=
  let digits := Nat.toDigits 16 value
  List.replicate (width - digits.length) '0' ++ digits

def escapeCode (code : Nat) : List Char :=
  if code ≤ 0xFF then '\\' :: 'x' :: hexadecimal 2 code
  else if code ≤ 0xFFFF then '\\' :: 'u' :: hexadecimal 4 code
  else '\\' :: 'U' :: hexadecimal 8 code

def escapeCharacter (mark character : Char) : List Char :=
  if character == mark || character == '\\' then ['\\', character]
  else if character == '\n' then ['\\', 'n']
  else if character == '\r' then ['\\', 'r']
  else if character == '\t' then ['\\', 't']
  else if isPrintable character then [character]
  else escapeCode character.toNat

def quotedCharacters (text : List Char) : List Char :=
  let mark := quoteMark text
  mark :: (text.flatMap (escapeCharacter mark) ++ [mark])

def quoted (text : String) : String :=
  String.ofList (quotedCharacters text.toList)

end VectorCalc.Text

/-!
Blank characters in the wide sense of a text console: besides the space and the
control characters that move the cursor, every separator that Unicode marks as
white. Trimming a line removes such characters from both ends and nothing else.
-/
namespace VectorCalc.Text

set_option autoImplicit false

def isBlank (character : Char) : Bool :=
  let code := character.toNat
  (9 ≤ code && code ≤ 13) || (28 ≤ code && code ≤ 32) || code == 0x85 || code == 0xA0
    || code == 0x1680 || (0x2000 ≤ code && code ≤ 0x200A) || code == 0x2028 || code == 0x2029
    || code == 0x202F || code == 0x205F || code == 0x3000

def trimLeft (text : List Char) : List Char :=
  text.dropWhile isBlank

def trim (text : List Char) : List Char :=
  (trimLeft (trimLeft text).reverse).reverse

end VectorCalc.Text

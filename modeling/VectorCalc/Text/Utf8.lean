import VectorCalc.Text.Digit
import VectorCalc.Text.Quoted

/-!
Decoding UTF-8. A broken sequence is reported with the bytes that start it and are valid
so far; a byte that cannot follow them goes before the lack of further bytes.
-/
namespace VectorCalc.Text

set_option autoImplicit false

inductive Utf8Reason where
  | invalidStart
  | invalidContinuation
  | unexpectedEnd
  deriving Repr, DecidableEq

/-- The broken sequence covers `length` bytes from `position`, and starts with `lead`. -/
structure Utf8Fault where
  position : Nat
  length : Nat
  lead : Nat
  reason : Utf8Reason
  deriving Repr, DecidableEq

def Utf8Reason.text : Utf8Reason → String
  | .invalidStart => "invalid start byte"
  | .invalidContinuation => "invalid continuation byte"
  | .unexpectedEnd => "unexpected end of data"

def Utf8Fault.message (fault : Utf8Fault) : String :=
  let place :=
    if fault.length ≤ 1 then
      "byte 0x" ++ String.ofList (hexadecimal 2 fault.lead) ++ " in position "
        ++ integerText fault.position
    else
      "bytes in position " ++ integerText fault.position ++ "-"
        ++ integerText (fault.position + fault.length - 1)
  "'utf-8' codec can't decode " ++ place ++ ": " ++ fault.reason.text

/-- How many bytes follow a first byte, the bits it contributes, and the least and the greatest
byte that may come second. -/
structure Utf8Lead where
  following : Nat
  bits : Nat
  low : Nat
  high : Nat

def utf8Lead? (byte : Nat) : Option Utf8Lead :=
  if byte < 0x80 then some ⟨0, byte, 0x80, 0xBF⟩
  else if byte < 0xC2 then none
  else if byte < 0xE0 then some ⟨1, byte - 0xC0, 0x80, 0xBF⟩
  else if byte = 0xE0 then some ⟨2, 0, 0xA0, 0xBF⟩
  else if byte = 0xED then some ⟨2, 0xD, 0x80, 0x9F⟩
  else if byte < 0xF0 then some ⟨2, byte - 0xE0, 0x80, 0xBF⟩
  else if byte = 0xF0 then some ⟨3, 0, 0x90, 0xBF⟩
  else if byte < 0xF4 then some ⟨3, byte - 0xF0, 0x80, 0xBF⟩
  else if byte = 0xF4 then some ⟨3, 4, 0x80, 0x8F⟩
  else none

/-- Where decoding stands: between characters, or inside one with `following` bytes to come. -/
inductive Utf8State where
  | between
  | inside (start length lead following bits low high : Nat)

/-- Decodes from a position; the characters decoded so far are kept latest first. -/
def decodeFrom : Nat → Utf8State → List Char → List Nat → Except Utf8Fault (List Char)
  | _, .between, decoded, [] => .ok decoded.reverse
  | _, .inside start length lead _ _ _ _, _, [] =>
      .error ⟨start, length, lead, .unexpectedEnd⟩
  | position, .between, decoded, byte :: bytes =>
      match utf8Lead? byte with
      | none => .error ⟨position, 1, byte, .invalidStart⟩
      | some ⟨0, bits, _, _⟩ =>
          decodeFrom (position + 1) .between (Char.ofNat bits :: decoded) bytes
      | some ⟨following, bits, low, high⟩ =>
          decodeFrom (position + 1) (.inside position 1 byte following bits low high) decoded bytes
  | position, .inside start length lead following bits low high, decoded, byte :: bytes =>
      if low ≤ byte ∧ byte ≤ high then
        let total := bits * 64 + (byte - 0x80)
        if following ≤ 1 then
          decodeFrom (position + 1) .between (Char.ofNat total :: decoded) bytes
        else
          decodeFrom (position + 1)
            (.inside start (length + 1) lead (following - 1) total 0x80 0xBF) decoded bytes
      else .error ⟨start, length, lead, .invalidContinuation⟩

def decodeUtf8 (bytes : List UInt8) : Except Utf8Fault (List Char) :=
  decodeFrom 0 .between [] (bytes.map UInt8.toNat)

/-- Every end of line, whether marked by a carriage return, a line feed or both, becomes one
line feed. -/
def uniformLines : List Char → List Char
  | [] => []
  | '\r' :: '\n' :: text => '\n' :: uniformLines text
  | '\r' :: text => '\n' :: uniformLines text
  | character :: text => character :: uniformLines text

end VectorCalc.Text

import VectorCalc.Breakdown
import VectorCalc.Word

/-!
Templates: texts with a slot that content is put into. A percent sign opens a slot; flags,
a width, a precision and a size mark may follow, and a letter that says how the content is
shown closes it. Two percent signs stand for one. An asterisk takes the content for a width
or a precision. There is one content, and it has to be used exactly once.

The text that comes out is of no use to any operator, so filling only decides whether there
is one. A template is read by one step for each character.
-/
namespace VectorCalc.Template

set_option autoImplicit false

inductive Conversion where
  | text
  /-- The digits of a number cut to an integer. -/
  | whole
  /-- The digits of an integer to a base that is a power of two. -/
  | binary
  | decimal
  | character
  deriving Repr, DecidableEq

def Conversion.ofLetter? (letter : Char) : Option Conversion :=
  if letter ∈ ['s', 'r', 'a'] then some .text
  else if letter ∈ ['d', 'i', 'u'] then some .whole
  else if letter ∈ ['o', 'x', 'X'] then some .binary
  else if letter ∈ ['e', 'E', 'f', 'F', 'g', 'G'] then some .decimal
  else if letter = 'c' then some .character
  else none

/-- The width and the precision of a slot, zero where none is given. -/
structure Slot where
  width : Nat := 0
  precision : Nat := 0
  deriving Repr, DecidableEq

def precisionLimit : Nat := 2147483647

/-- An integer is written with three digits fewer at most. -/
def writtenDigits (slot : Slot) : Except Breakdown Unit :=
  if precisionLimit - 3 < slot.precision then .error (.excess .digits) else .ok ()

def Conversion.admits (conversion : Conversion) (letter : Char) (slot : Slot) (content : Payload) :
    Except Breakdown Unit :=
  match conversion, content with
  | .text, _ => .ok ()
  | .whole, .int _ => writtenDigits slot
  | .whole, .float number =>
      if number.isNaN then .error .notWhole
      else if number.isInf then .error (.excess .infinity)
      else writtenDigits slot
  | .whole, _ => .error (.mismatch (.slotNumber letter content))
  | .binary, .int _ => writtenDigits slot
  | .binary, _ => .error (.mismatch (.slotInteger letter content))
  | .decimal, .int value =>
      if (Decimal.ofInteger? value).isNone then .error (.excess .double) else .ok ()
  | .decimal, .float _ => .ok ()
  | .decimal, _ => .error (.mismatch (.notReal content))
  | .character, .int code =>
      if 0 ≤ code ∧ code < 0x110000 then .ok () else .error (.excess .character)
  | .character, .text value =>
      if value.length = 1 then .ok () else .error (.mismatch .slotCharacter)
  | .character, _ => .error (.mismatch .slotCharacter)

/-- How far a slot has been read: its opening sign, its flags, the digits of its width, all of its
width, the point before its precision, the digits of that, all of it, and the size mark. -/
inductive Mode where
  | outside
  | opened
  | flags
  | width
  | sized
  | point
  | precision
  | measured
  | marked
  deriving Repr, DecidableEq

/-- What has been read of a template: the slot at hand, whether the content has been used, and the
index of the next character. -/
structure Progress where
  mode : Mode := .outside
  slot : Slot := {}
  used : Bool := false
  index : Nat := 0
  deriving Repr, DecidableEq

def appendDigit? (limit value : Nat) (digit : Char) : Option Nat :=
  let longer := value * 10 + (digit.toNat - 48)
  if limit < longer then none else some longer

namespace Progress

def useContent (progress : Progress) : Except Breakdown Progress :=
  if progress.used then .error (.mismatch .usedUp) else .ok { progress with used := true }

/-- Takes the content for the width. Nothing is left to be shown after that, so what it says does
not matter. -/
def useAsWidth (content : Payload) (progress : Progress) : Except Breakdown Progress := do
  let after ← progress.useContent
  match content with
  | .int value =>
      if Word.wrap value = value then .ok { after with mode := .sized }
      else .error (.excess .width)
  | _ => .error (.mismatch .slotSize)

def useAsPrecision (content : Payload) (progress : Progress) : Except Breakdown Progress := do
  let after ← progress.useContent
  match content with
  | .int value =>
      if -Int.ofNat precisionLimit - 1 ≤ value ∧ value ≤ Int.ofNat precisionLimit then
        .ok { after with mode := .measured }
      else .error (.excess .precision)
  | _ => .error (.mismatch .slotSize)

def widthDigit (digit : Char) (progress : Progress) : Except Breakdown Progress :=
  match appendDigit? Word.largest progress.slot.width digit with
  | some width => .ok { progress with mode := .width, slot := { progress.slot with width } }
  | none => .error .widthTooLong

def precisionDigit (digit : Char) (progress : Progress) : Except Breakdown Progress :=
  match appendDigit? precisionLimit progress.slot.precision digit with
  | some precision =>
      .ok { progress with mode := .precision, slot := { progress.slot with precision } }
  | none => .error .precisionTooLong

/-- The letter that closes a slot. The content is used before the letter is looked at. -/
def close (content : Payload) (letter : Char) (progress : Progress) :
    Except Breakdown Progress := do
  let after ← progress.useContent
  match Conversion.ofLetter? letter with
  | none => .error (.unknownConversion letter progress.index)
  | some conversion =>
      let _ ← conversion.admits letter progress.slot content
      if roomLimit < progress.slot.width then .error .noRoom
      else .ok { after with mode := .outside, slot := {} }

def afterPrecision (content : Payload) (character : Char) (progress : Progress) :
    Except Breakdown Progress :=
  if character ∈ ['h', 'l', 'L'] then .ok { progress with mode := .marked }
  else progress.close content character

def afterWidth (content : Payload) (character : Char) (progress : Progress) :
    Except Breakdown Progress :=
  if character = '.' then .ok { progress with mode := .point }
  else progress.afterPrecision content character

def afterFlags (content : Payload) (character : Char) (progress : Progress) :
    Except Breakdown Progress :=
  if character ∈ ['-', '+', ' ', '#', '0'] then .ok { progress with mode := .flags }
  else if character = '*' then progress.useAsWidth content
  else if character.isDigit then progress.widthDigit character
  else progress.afterWidth content character

/-- Reads one character. A part of a slot that is not there leaves the character to the next. -/
def read (content : Payload) (progress : Progress) (character : Char) :
    Except Breakdown Progress :=
  match progress.mode with
  | .outside => .ok (if character = '%' then { progress with mode := .opened } else progress)
  | .opened =>
      if character = '%' then .ok { progress with mode := .outside }
      else if character = '(' then .error (.mismatch .slotName)
      else progress.afterFlags content character
  | .flags => progress.afterFlags content character
  | .width =>
      if character.isDigit then progress.widthDigit character
      else progress.afterWidth content character
  | .sized => progress.afterWidth content character
  | .point =>
      if character = '*' then progress.useAsPrecision content
      else if character.isDigit then progress.precisionDigit character
      else progress.afterPrecision content character
  | .precision =>
      if character.isDigit then progress.precisionDigit character
      else progress.afterPrecision content character
  | .measured => progress.afterPrecision content character
  | .marked => progress.close content character

def step (content : Payload) (progress : Progress) (character : Char) :
    Except Breakdown Progress := do
  let after ← progress.read content character
  return { after with index := progress.index + 1 }

/-- The end of a template must not cut a slot short or leave the content unused. -/
def finish (progress : Progress) : Except Breakdown Unit :=
  if progress.mode ≠ .outside then .error .incompleteSlot
  else if progress.used then .ok ()
  else .error (.mismatch .notFilled)

end Progress

def fill (template : String) (content : Payload) : Except Breakdown Unit := do
  let progress ← template.toList.foldlM (Progress.step content) {}
  progress.finish

end VectorCalc.Template

import VectorCalc.Breakdown
import VectorCalc.Span

/-!
Source text under reading. A place counts the characters, the UTF-8 bytes and the lines
before it and the characters since the last line feed; it depends on the text before it
only, character by character. A source is a text divided at a place.
-/
namespace VectorCalc

set_option autoImplicit false

structure Place where
  index : Nat := 0
  offset : Nat := 0
  line : Nat := 0
  column : Nat := 0
  deriving Repr, DecidableEq

namespace Place

def step (place : Place) (character : Char) : Place :=
  if character = '\n' then
    ⟨place.index + 1, place.offset + character.utf8Size, place.line + 1, 0⟩
  else
    ⟨place.index + 1, place.offset + character.utf8Size, place.line, place.column + 1⟩

def along (place : Place) (text : List Char) : Place :=
  text.foldl step place

def spanTo (first last : Place) : Span :=
  ⟨first.offset, last.offset, first.line, last.line, first.column, last.column⟩

end Place

/-- The characters before the place are kept latest first. -/
structure Source where
  consumed : List Char := []
  rest : List Char
  place : Place := {}
  deriving Repr, DecidableEq

namespace Source

def ofText (text : String) : Source :=
  { rest := text.toList }

def next (source : Source) : Except Breakdown (Char × Source) :=
  match source.rest with
  | [] => .error (.exhausted source.place.index source.place.line)
  | character :: others =>
      .ok (character, ⟨character :: source.consumed, others, source.place.step character⟩)

def advance (source : Source) : Nat → Source
  | 0 => source
  | count + 1 =>
      match source.rest with
      | [] => source
      | character :: others =>
          advance ⟨character :: source.consumed, others, source.place.step character⟩ count

/-- The character a number of places ahead; a negative number looks back. -/
def peek? (source : Source) (ahead : Int) : Option Char :=
  match ahead with
  | .ofNat count => source.rest[count]?
  | .negSucc count => source.consumed[count]?

def atEnd (source : Source) : Bool :=
  source.rest.isEmpty

end Source

end VectorCalc

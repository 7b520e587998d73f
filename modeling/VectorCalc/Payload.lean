import VectorCalc.Decimal.Shortest
import VectorCalc.Text.Quoted

/-!
What a token or a tree node carries besides its kind: nothing, a piece of text, or the
number that a literal denotes. A tree made by hand may carry not-a-number where a name
belongs; such names are told apart by a mark, since they equal nothing else.
-/
namespace VectorCalc

set_option autoImplicit false

inductive Payload where
  | none
  | text (value : String)
  | int (value : Int)
  | float (value : Float)
  | notANumber (mark : List Nat)
  deriving Repr, Inhabited

namespace Payload

/-- How an integer stands to a double, without rounding either. Not-a-number stands in no order
to anything. -/
def orderExact? (value : Int) (number : Float) : Option Ordering :=
  match Decimal.Binary64.ofFloat? number with
  | some exact =>
      let magnitude := Int.ofNat (exact.mantissa * Decimal.twoTo exact.exponent.toNat)
      let scale := Int.ofNat (Decimal.twoTo (-exact.exponent).toNat)
      some (compare (value * scale) (if exact.negative then -magnitude else magnitude))
  | Option.none =>
      if number.isNaN then Option.none
      else some (if Decimal.isNegative number then .gt else .lt)

def denotes (number : Float) (value : Int) : Bool :=
  orderExact? value number == some .eq

def orderFloats? (left right : Float) : Option Ordering :=
  if left < right then some .lt
  else if left == right then some .eq
  else if right < left then some .gt
  else Option.none

def order? : Payload → Payload → Option Ordering
  | .int left, .int right => some (compare left right)
  | .int value, .float number => orderExact? value number
  | .float number, .int value => (orderExact? value number).map Ordering.swap
  | .float left, .float right => orderFloats? left right
  | .text left, .text right => some (compare left right)
  | _, _ => Option.none

def isNumber : Payload → Bool
  | .int _ => true
  | .float _ => true
  | .notANumber _ => true
  | _ => false

def isText : Payload → Bool
  | .text _ => true
  | _ => false

def typeName : Payload → String
  | .none => "NoneType"
  | .text _ => "str"
  | .int _ => "int"
  | .float _ => "float"
  | .notANumber _ => "float"

/-- Numbers are compared by what they denote, so an integer can equal a double, and
not-a-number equals nothing. -/
def same : Payload → Payload → Bool
  | .none, .none => true
  | .text left, .text right => left == right
  | .int left, .int right => left == right
  | .float left, .float right => left == right
  | .int value, .float number => denotes number value
  | .float number, .int value => denotes number value
  | _, _ => false

/-- Two names are one when they are equal, and not-a-number also when it bears the same mark. -/
def sameName : Payload → Payload → Bool
  | .notANumber left, .notANumber right => left == right
  | left, right => left.same right

def unmarked : Payload → Payload
  | .notANumber _ => .float Decimal.notANumber
  | content => content

def plain : Payload → String
  | .none => "None"
  | .text value => value
  | .int value => Text.integerText value
  | .float value => Decimal.floatText "nan" value
  | .notANumber _ => "nan"

def quoted : Payload → String
  | .text value => Text.quoted value
  | other => other.plain

end Payload

end VectorCalc

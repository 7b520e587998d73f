import VectorCalc.Operator.Number
import VectorCalc.Template

/-!
Operators on values that go for numbers by their type and not by their content. Two
contents that go for integers are combined as they are, and what comes out still goes for
an integer; in all other cases both contents are taken for doubles. What has no rule is a
breakdown and not a matter of the operands' types.
-/
namespace VectorCalc

set_option autoImplicit false

/-- A double brought into the range of 64-bit integers, as far as doubles can tell. -/
def Word.wrapFloat (number : Float) : Float :=
  let bound := Decimal.ofInteger (Int.ofNat (modulus / 2))
  if -bound ≤ number && number < bound then number
  else Decimal.flooredRemainder (number + bound) (Decimal.ofInteger (Int.ofNat modulus)) - bound

def Mismatch.outOfRange (content : Payload) : Mismatch :=
  .unordered "<=" (.int 0) content

namespace Arithmetic

/-- Whether a text can be repeated so often; a count below one leaves nothing of it. -/
def repetition (value : String) (count : Int) : Except Breakdown Unit :=
  let length := Int.ofNat value.length * count
  if Word.wrap count ≠ count then .error (.excess .count)
  else if Int.ofNat Word.largest < length then .error (.excess .repetition)
  else if Int.ofNat roomLimit < length then .error .noRoom
  else .ok ()

/-- A text that can be made has no place among the integers. -/
def madeText (text : Payload) : Except Breakdown Unit → Breakdown
  | .ok _ => .mismatch (.outOfRange text)
  | .error breakdown => breakdown

/-- Why two contents, not both of them numbers, cannot be combined to an integer. Texts can be
joined, repeated and filled, but what comes out is a text. -/
def breakdown (operation : Arithmetic) (left right : Payload) : Breakdown :=
  match operation, left, right with
  | .add, .text _, .text _ => madeText left (.ok ())
  | .add, .text _, _ => .mismatch (.notJoined right)
  | .multiply, .text value, .int count => madeText left (repetition value count)
  | .multiply, .int count, .text value => madeText right (repetition value count)
  | .multiply, .text _, _ => .mismatch (.notRepeated right)
  | .multiply, _, .text _ => .mismatch (.notRepeated left)
  | .modulo, .text template, _ => madeText left (Template.fill template right)
  | _, _, _ => .mismatch (.operands operation.symbol left right)

/-- The result goes for an integer although it may be a double. -/
def relabelled : Except Rejection Value → Except Rejection Value
  | .ok (.float number) => .ok (.literal .int (.float (Word.wrapFloat number)))
  | result => result

def combine (operation : Arithmetic) (left right : Payload) : Except Rejection Value :=
  match left, right with
  | .int leftNumber, .int rightNumber => operation.onIntegers leftNumber rightNumber
  | _, _ =>
      if operation = .modulo ∧ right.same (.int 0) then .error .moduloByZero
      else if left.isNumber && right.isNumber then relabelled (operation.onDoubles left right)
      else .error (.broken (operation.breakdown left right))

/-- An exponent from zero on asks for integers on both sides. -/
def wholePower (base exponent : Payload) : Except Rejection Value :=
  match base, exponent with
  | .int baseNumber, .int exponentNumber => .ok (.int (Word.power baseNumber exponentNumber.toNat))
  | .text _, .int _ => .error (.ofMismatch (.notPowerBase base))
  | .none, .int _ => .error (.ofMismatch (.notPowerBase base))
  | _, _ => .error (.ofMismatch .notWholePower)

def onContents (operation : Arithmetic) (left right : Payload) : Except Rejection Value :=
  match operation with
  | .divide => operation.onDoubles left right
  | .power =>
      if !right.isNumber then .error (.ofMismatch (.unordered ">=" right (.int 0)))
      else if right.order? (.int 0) = some .gt ∨ right.order? (.int 0) = some .eq then
        wholePower left right
      else operation.onDoubles left right
  | _ => operation.combine left right

def onNumbers (operation : Arithmetic) (left right : Value) : Except Rejection Value :=
  match left.number?, right.number? with
  | some (.int, leftContent), some (.int, rightContent) =>
      operation.onContents leftContent rightContent
  | some (_, leftContent), some (_, rightContent) => operation.onDoubles leftContent rightContent
  | _, _ => .error (.operands operation.kind)

end Arithmetic

namespace Comparison

def allows (relation : Comparison) (order : Option Ordering) : Bool :=
  match relation, order with
  | .equal, some .eq => true
  | .notEqual, some .eq => false
  | .notEqual, _ => true
  | .less, some .lt => true
  | .greater, some .gt => true
  | .lessEqual, some .lt => true
  | .lessEqual, some .eq => true
  | .greaterEqual, some .gt => true
  | .greaterEqual, some .eq => true
  | _, _ => false

/-- Any two contents are equal or different, but only numbers among themselves and texts among
themselves have an order. -/
def onContents (relation : Comparison) (left right : Payload) : Except Rejection Bool :=
  match relation with
  | .equal => .ok (left.same right)
  | .notEqual => .ok (!left.same right)
  | _ =>
      if (left.isNumber && right.isNumber) || (left.isText && right.isText) then
        .ok (relation.allows (left.order? right))
      else .error (.ofMismatch (.unordered relation.symbol left right))

def onDoubles (relation : Comparison) (left right : Payload) : Except Rejection Bool :=
  match left.toDouble with
  | .error rejection => .error rejection
  | .ok leftNumber =>
      match right.toDouble with
      | .error rejection => .error rejection
      | .ok rightNumber => .ok (relation.onFloats leftNumber rightNumber)

def onNumbers (relation : Comparison) (left right : Value) : Except Rejection Bool :=
  match left.number?, right.number? with
  | some (.int, leftContent), some (.int, rightContent) =>
      relation.onContents leftContent rightContent
  | some (_, leftContent), some (_, rightContent) => relation.onDoubles leftContent rightContent
  | _, _ => .error (.operands relation.kind)

end Comparison

def Payload.negate : NumberType → Payload → Except Rejection Value
  | .int, .int value => .ok (.int (Word.wrap (-value)))
  | .int, .float value => .ok (.literal .int (.float (Word.wrapFloat (-value))))
  | .float, .int value => .ok (.literal .float (.int (-value)))
  | .float, .float value => .ok (.float (-value))
  | _, content => .error (.ofMismatch (.notNegated content))

/-- Only an integer is a position, though other content may be too large or too small for one. -/
def Payload.position (content : Payload) (count : Nat) : Except Rejection Nat :=
  match content with
  | .int value =>
      if 0 ≤ value ∧ value < Int.ofNat count then .ok value.toNat else .error (.operands .index)
  | .float value =>
      if 0 ≤ value && value < Decimal.ofInteger (Int.ofNat count) then
        .error (.ofMismatch (.notPosition content))
      else .error (.operands .index)
  | _ => .error (.ofMismatch (.outOfRange content))

end VectorCalc

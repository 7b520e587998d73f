import VectorCalc.Operator
import VectorCalc.Word

/-!
Operators on two integers and on two doubles. Integers give an integer that wraps, except
that division always gives a double and so does an integer raised to a negative power.
Integers are compared exactly.
-/
namespace VectorCalc

set_option autoImplicit false

/-- Division by a zero gives an infinity whose sign is the product of both signs, or
not-a-number when there is nothing to divide. -/
def divideFloats (dividend divisor : Float) : Float :=
  if divisor == 0 then
    if dividend == 0 || dividend.isNaN then Decimal.notANumber
    else if Decimal.isNegative dividend == Decimal.isNegative divisor then
      Decimal.positiveInfinity
    else -Decimal.positiveInfinity
  else dividend / divisor

namespace Arithmetic

def onFloats (operation : Arithmetic) (left right : Float) : Except Rejection Value :=
  match operation with
  | .add => .ok (.float (left + right))
  | .subtract => .ok (.float (left - right))
  | .multiply => .ok (.float (left * right))
  | .divide => .ok (.float (divideFloats left right))
  | .modulo =>
      if right == 0 then .error .moduloByZero
      else .ok (.float (Decimal.flooredRemainder left right))
  | .power => .ok (.float (Float.pow left right))

def onDoubles (operation : Arithmetic) (left right : Payload) : Except Rejection Value :=
  match left.toDouble with
  | .error rejection => .error rejection
  | .ok leftNumber =>
      match right.toDouble with
      | .error rejection => .error rejection
      | .ok rightNumber => operation.onFloats leftNumber rightNumber

def onIntegers (operation : Arithmetic) (left right : Int) : Except Rejection Value :=
  match operation with
  | .add => .ok (.int (Word.wrap (left + right)))
  | .subtract => .ok (.int (Word.wrap (left - right)))
  | .multiply => .ok (.int (Word.wrap (left * right)))
  | .divide => operation.onDoubles (.int left) (.int right)
  | .modulo =>
      if right = 0 then .error .moduloByZero else .ok (.int (Word.wrap (left.fmod right)))
  | .power =>
      if right < 0 then operation.onDoubles (.int left) (.int right)
      else .ok (.int (Word.power left right.toNat))

end Arithmetic

namespace Comparison

def onIntegers (relation : Comparison) (left right : Int) : Bool :=
  match relation with
  | .equal => left == right
  | .notEqual => left != right
  | .less => decide (left < right)
  | .greater => decide (left > right)
  | .lessEqual => decide (left ≤ right)
  | .greaterEqual => decide (left ≥ right)

def onFloats (relation : Comparison) (left right : Float) : Bool :=
  match relation with
  | .equal => left == right
  | .notEqual => left != right
  | .less => decide (left < right)
  | .greater => decide (left > right)
  | .lessEqual => decide (left ≤ right)
  | .greaterEqual => decide (left ≥ right)

end Comparison

end VectorCalc

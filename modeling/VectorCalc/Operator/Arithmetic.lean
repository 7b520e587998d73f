import VectorCalc.Operator.Content

/-!
Arithmetic on values. Two integers are combined as integers; a double on either side makes
the other side a double. A vector meets a number item by item and a vector pairwise
up to the shorter length; a number on the left of a vector is rejected.
-/
namespace VectorCalc

set_option autoImplicit false

namespace Arithmetic

/-- Infinity divided by itself stays infinity when both sides are written as doubles. -/
def isInfinityQuotient (operation : Arithmetic) (left right : Float) : Bool :=
  operation == .divide && left == Decimal.positiveInfinity && right == Decimal.positiveInfinity

def onScalars (operation : Arithmetic) (left right : Value) : Except Rejection Value :=
  match left, right with
  | .int left, .int right => operation.onIntegers left right
  | .float left, .float right =>
      if operation.isInfinityQuotient left right then .ok (.float Decimal.positiveInfinity)
      else operation.onFloats left right
  | left, right => operation.onNumbers left right

mutual

def apply (operation : Arithmetic) : Value → Value → Except Rejection Value
  | .vector items, .vector others =>
      match applyPairwise operation items others with
      | .ok results => .ok (.vector results)
      | .error rejection => .error rejection
  | .vector items, right =>
      if right.isScalar then
        match applyEach operation items right with
        | .ok results => .ok (.vector results)
        | .error rejection => .error rejection
      else .error (.operands operation.kind)
  | left, right => operation.onScalars left right

def applyEach (operation : Arithmetic) : List Value → Value → Except Rejection (List Value)
  | [], _ => .ok []
  | item :: items, right =>
      match apply operation item right with
      | .error rejection => .error rejection
      | .ok first =>
          match applyEach operation items right with
          | .error rejection => .error rejection
          | .ok rest => .ok (first :: rest)

def applyPairwise (operation : Arithmetic) :
    List Value → List Value → Except Rejection (List Value)
  | item :: items, other :: others =>
      match apply operation item other with
      | .error rejection => .error rejection
      | .ok first =>
          match applyPairwise operation items others with
          | .error rejection => .error rejection
          | .ok rest => .ok (first :: rest)
  | _, _ => .ok []

end

end Arithmetic

end VectorCalc

import VectorCalc.Operator.Content

/-!
Comparison of values. Two integers are compared exactly, any other two numbers as doubles.
Vectors are compared pairwise up to the shorter length, stopping at the first pair that
decides; tests for being equal or different look at the lengths first.
-/
namespace VectorCalc

set_option autoImplicit false

namespace Comparison

def onScalars (relation : Comparison) (left right : Value) : Except Rejection Bool :=
  match left, right with
  | .int left, .int right => .ok (relation.onIntegers left right)
  | .float left, .float right => .ok (relation.onFloats left right)
  | left, right => relation.onNumbers left right

/-- The relation that pairs of items are tested for: vectors differ when their items are not
all equal. -/
def onItems : Comparison → Comparison
  | .notEqual => .equal
  | relation => relation

/-- Vectors of different lengths are settled without a look at their items when they are tested
for being equal or different. -/
def settledByLength (relation : Comparison) (left right : List Value) : Bool :=
  (relation == .equal || relation == .notEqual) && left.length != right.length

mutual

def test (relation : Comparison) : Value → Value → Except Rejection Bool
  | .vector items, .vector others =>
      if relation.settledByLength items others then .ok (relation == .notEqual)
      else
        match testAll relation.onItems items others with
        | .error rejection => .error rejection
        | .ok holds => .ok (if relation = .notEqual then !holds else holds)
  | left, right => relation.onScalars left right

def testAll (relation : Comparison) : List Value → List Value → Except Rejection Bool
  | item :: items, other :: others =>
      match test relation item other with
      | .error rejection => .error rejection
      | .ok true => testAll relation items others
      | .ok false => .ok false
  | _, _ => .ok true

end

end Comparison

end VectorCalc

/-!
Sets of code points, written as closed ranges in ascending order.
-/
namespace VectorCalc.Text

set_option autoImplicit false

abbrev CodeRanges := List (Nat × Nat)

def CodeRanges.covers (ranges : CodeRanges) (character : Char) : Bool :=
  ranges.any fun range => range.1 ≤ character.toNat && character.toNat ≤ range.2

end VectorCalc.Text

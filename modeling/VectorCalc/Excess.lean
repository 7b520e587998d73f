/-!
Numbers that are too large for the place they are put in.
-/
namespace VectorCalc

set_option autoImplicit false

inductive Excess where
  /-- An integer beyond the range of doubles. -/
  | double
  /-- An infinity where an integer is needed. -/
  | infinity
  /-- A count beyond the range of indexes. -/
  | count
  /-- A repeated text that would be longer than any index. -/
  | repetition
  /-- The width of a slot, given as content. -/
  | width
  /-- The precision of a slot, given as content. -/
  | precision
  /-- The number of digits that an integer should be written with. -/
  | digits
  /-- A character code. -/
  | character
  deriving Repr, DecidableEq

def Excess.message : Excess → String
  | .double => "int too large to convert to float"
  | .infinity => "cannot convert float infinity to integer"
  | .count => "cannot fit 'int' into an index-sized integer"
  | .repetition => "repeated string is too long"
  | .width => "Python int too large to convert to C ssize_t"
  | .precision => "Python int too large to convert to C int"
  | .digits => "precision too large"
  | .character => "%c arg not in range(0x110000)"

end VectorCalc

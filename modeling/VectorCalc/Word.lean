/-!
Integers of 64 bits. Every result is brought back into the signed range by taking away
a multiple of `2 ^ 64`.
-/
namespace VectorCalc.Word

set_option autoImplicit false

/-- This is `2 ^ 64`. -/
def modulus : Nat := 18446744073709551616

/-- This is `2 ^ 63 - 1`. -/
def largest : Nat := 9223372036854775807

/-- The number from `-2 ^ 63` up to `2 ^ 63 - 1` that differs from `value` by a multiple of
the modulus. -/
def wrap (value : Int) : Int :=
  value.bmod modulus

def powerModulo (base : Int) (exponent : Nat) : Int :=
  if exponent = 0 then 1
  else
    let half := powerModulo (base * base % modulus) (exponent / 2)
    if exponent % 2 = 0 then half else base * half % modulus
termination_by exponent

def power (base : Int) (exponent : Nat) : Int :=
  wrap (powerModulo base exponent)

end VectorCalc.Word

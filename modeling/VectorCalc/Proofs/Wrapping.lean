import Mathlib.Data.Int.ModEq
import VectorCalc.Proofs.Preservation

/-!
Integer arithmetic that wraps. Bringing a number into the signed range changes it by a multiple of
`2 ^ 64`, and sums, differences, products and powers respect that congruence. So it makes no
difference whether every step of a computation is brought into the range or its exact result is,
once, at the end. Repeated squaring modulo `2 ^ 64` is one more such computation.
-/
namespace VectorCalc

set_option autoImplicit false

namespace Word

theorem wrap_congruent (value : Int) : wrap value ≡ value [ZMOD modulus] :=
  Int.bmod_emod

theorem wrap_of_congruent {value other : Int} (same : value ≡ other [ZMOD modulus]) :
    wrap value = wrap other := by
  have reduced (number : Int) : wrap (number % modulus) = wrap number :=
    Int.emod_bmod number modulus
  rw [← reduced value, ← reduced other, same]

theorem wrap_of_fits {value : Int} (fits : Fits value) : wrap value = value := by
  obtain ⟨lower, upper⟩ := fits
  refine Int.bmod_eq_of_le ?_ ?_
  · unfold modulus
    omega
  · unfold modulus
    omega

/-- The wrapped value is the only number of the signed range that is congruent to the value. -/
theorem eq_wrap_iff (value result : Int) :
    result = wrap value ↔ Fits result ∧ result ≡ value [ZMOD 2 ^ 64] := by
  have size : ((modulus : Nat) : Int) = 2 ^ 64 := by decide
  rw [← size]
  constructor
  · rintro rfl
    exact ⟨wrap_fits value, wrap_congruent value⟩
  · rintro ⟨fits, same⟩
    rw [← wrap_of_fits fits]
    exact wrap_of_congruent same

/-- Squaring repeatedly modulo `2 ^ 64` keeps the residue of the power. -/
theorem power_modulo_congruent (base : Int) (exponent : Nat) :
    powerModulo base exponent ≡ base ^ exponent [ZMOD modulus] := by
  induction exponent using Nat.strong_induction_on generalizing base with
  | _ exponent induction =>
      rw [powerModulo]
      by_cases none : exponent = 0
      · rw [if_pos none, none, pow_zero]
      · rw [if_neg none]
        have squared : powerModulo (base * base % modulus) (exponent / 2) ≡
            base ^ (exponent / 2 + exponent / 2) [ZMOD modulus] := by
          have half := induction (exponent / 2) (by omega) (base * base % modulus)
          have reduced := (Int.mod_modEq (base * base) modulus).pow (exponent / 2)
          rw [mul_pow, ← pow_add] at reduced
          exact half.trans reduced
        dsimp only
        split_ifs with even
        · have double : exponent / 2 + exponent / 2 = exponent := by omega
          rwa [double] at squared
        · have double : exponent / 2 + exponent / 2 + 1 = exponent := by omega
          have odd := squared.mul_left base
          rw [← pow_succ', double] at odd
          exact (Int.mod_modEq _ _).trans odd

theorem power_eq_wrap (base : Int) (exponent : Nat) :
    power base exponent = wrap (base ^ exponent) :=
  wrap_of_congruent (power_modulo_congruent base exponent)

end Word

/-- The exact value of a tree of integer literals, minus signs, sums, differences, products and
powers with a literal for exponent. -/
inductive Node.Denotes : Node → Int → Prop where
  | literal {value : Nat} {span : Span} (small : value ≤ Word.largest) :
      Denotes (.mk .int (.int value) [] span) value
  | negate {operand : Node} {value : Int} {span : Span} (inner : Denotes operand value) :
      Denotes (.mk .unary (.text TokenKind.subtract.code) [operand] span) (-value)
  | add {left right : Node} {first second : Int} {span : Span} (before : Denotes left first)
      (after : Denotes right second) :
      Denotes (.mk .binary (.text TokenKind.add.code) [left, right] span) (first + second)
  | subtract {left right : Node} {first second : Int} {span : Span} (before : Denotes left first)
      (after : Denotes right second) :
      Denotes (.mk .binary (.text TokenKind.subtract.code) [left, right] span) (first - second)
  | multiply {left right : Node} {first second : Int} {span : Span} (before : Denotes left first)
      (after : Denotes right second) :
      Denotes (.mk .binary (.text TokenKind.multiply.code) [left, right] span) (first * second)
  | power {base : Node} {value : Int} {exponent : Nat} {span place : Span}
      (inner : Denotes base value) (small : exponent ≤ Word.largest) :
      Denotes (.mk .binary (.text TokenKind.power.code)
        [base, .mk .int (.int exponent) [] place] span) (value ^ exponent)

theorem Action.give_and_then {α β : Type} (value : α) (next : α → Action β) :
    (Action.give value).andThen next = next value := rfl

namespace Evaluation

/-- Both operands give integers, and the operator combines them. -/
theorem operation_gives {body : Node → Action Value} {left right : Node} {first second result : Int}
    (operation : Arithmetic) (span : Span)
    (before : evaluateWith body left left.span = .give (.int first))
    (after : evaluateWith body right right.span = .give (.int second))
    (combined : operation.onIntegers first second = .ok (.int result)) (place : Span) :
    evaluateWith body (.mk .binary (.text operation.kind.code) [left, right] span) place =
      .give (.int result) := by
  simp only [evaluateWith, Evaluator.plain_visiting, Evaluator.plain_and_then,
    Evaluator.plain_perform, before, after, Action.give_and_then]
  have operator : (Node.operatorOf? (.text operation.kind.code)).bind BinaryOperator.ofKind? =
      some (.arithmetic operation) := binary_operator_of_code (.arithmetic operation)
  have applied : (BinaryOperator.arithmetic operation).apply (.int first) (.int second) =
      .ok (.int result) := by
    rw [BinaryOperator.apply, Arithmetic.apply]
    · exact combined
    · simp
    · simp
  unfold binary
  rw [operator]
  dsimp only
  rw [applied]

/-- One case for each kind of node: what the operator makes of wrapped operands is congruent to what
it makes of the exact ones. -/
theorem exact_tree_gives (body : Node → Action Value) {node : Node} {value : Int}
    (exact : node.Denotes value) (place : Span) :
    evaluateWith body node place = .give (.int (Word.wrap value)) := by
  induction exact generalizing place with
  | @literal value span small =>
      have fits : Word.Fits value := by
        unfold Word.largest at small
        exact ⟨by omega, by omega⟩
      rw [evaluateWith, Word.wrap_of_fits fits]
      rfl
  | @negate operand value span _ induction =>
      simp only [evaluateWith, Evaluator.plain_visiting, Evaluator.plain_and_then,
        Evaluator.plain_perform, induction, Action.give_and_then]
      have negated := (Word.wrap_congruent value).neg
      have result : (Value.int (Word.wrap value)).negate = .ok (.int (Word.wrap (-value))) := by
        rw [Value.negate, Word.wrap_of_congruent negated]
      have minus : Node.operatorOf? (.text TokenKind.subtract.code) = some .subtract := rfl
      unfold unary
      rw [if_pos minus, result]
  | @add left right first second span _ _ before after =>
      have sum := (Word.wrap_congruent first).add (Word.wrap_congruent second)
      exact operation_gives .add span (before _) (after _)
        (by rw [Arithmetic.onIntegers, Word.wrap_of_congruent sum]) place
  | @subtract left right first second span _ _ before after =>
      have difference := (Word.wrap_congruent first).sub (Word.wrap_congruent second)
      exact operation_gives .subtract span (before _) (after _)
        (by rw [Arithmetic.onIntegers, Word.wrap_of_congruent difference]) place
  | @multiply left right first second span _ _ before after =>
      have product := (Word.wrap_congruent first).mul (Word.wrap_congruent second)
      exact operation_gives .multiply span (before _) (after _)
        (by rw [Arithmetic.onIntegers, Word.wrap_of_congruent product]) place
  | @power base value exponent span literal _ small induction =>
      have raised : Arithmetic.power.onIntegers (Word.wrap value) exponent =
          .ok (.int (Word.wrap (value ^ exponent))) := by
        have power := (Word.wrap_congruent value).pow exponent
        rw [Arithmetic.onIntegers, if_neg (by omega), Int.toNat_natCast, Word.power_eq_wrap,
          Word.wrap_of_congruent power]
      have read : evaluateWith body (.mk .int (.int exponent) [] literal) literal =
          .give (.int exponent) := by
        rw [evaluateWith]
        rfl
      exact operation_gives .power span (induction _) read raised place

theorem exact_tree_evaluates (depth : Nat) {node : Node} {value : Int}
    (exact : node.Denotes value) (place : Span) :
    evaluate depth node place = .give (.int (Word.wrap value)) := by
  cases depth <;> exact exact_tree_gives _ exact place

/-- A tree of integers evaluates to its exact value, wrapped once, and binds nothing. The wrapped
value is the only number of 64 bits congruent to the exact one, and the power that is computed
modulo `2 ^ 64` is the exact power, wrapped. -/
theorem evaluate_wraps_exact_value (depth : Nat) (node : Node) (value : Int) (span : Span)
    (bindings : Bindings) (exact : node.Denotes value) :
    evaluate depth node span bindings = ⟨.ok (.int (Word.wrap value)), bindings, []⟩ ∧
      (∀ result, result = Word.wrap value ↔ Word.Fits result ∧ result ≡ value [ZMOD 2 ^ 64]) ∧
      ∀ (base : Int) (exponent : Nat),
        Word.power base exponent = Word.wrap (base ^ exponent) := by
  refine ⟨?_, Word.eq_wrap_iff value, Word.power_eq_wrap⟩
  rw [exact_tree_evaluates depth exact]
  rfl

/-- The tree of `-(2 ^ 63) - 9223372036854775807 * 3`. -/
def overflowingTree : Node :=
  let literal (value : Nat) : Node := .mk .int (.int value) [] {}
  .mk .binary (.text TokenKind.subtract.code)
    [.mk .unary (.text TokenKind.subtract.code)
      [.mk .binary (.text TokenKind.power.code) [literal 2, literal 63] {}] {},
    .mk .binary (.text TokenKind.multiply.code)
      [literal 9223372036854775807, literal 3] {}] {}

theorem overflowing_tree_wraps :
    overflowingTree.Denotes (-2 ^ 63 - 9223372036854775807 * 3) ∧
      evaluate 0 overflowingTree {} .empty =
        ⟨.ok (.int (Word.wrap (-2 ^ 63 - 9223372036854775807 * 3))), .empty, []⟩ := by
  have exact : overflowingTree.Denotes (-2 ^ 63 - 9223372036854775807 * 3) :=
    .subtract (.negate (.power (.literal (by decide)) (by decide)))
      (.multiply (.literal (by decide)) (.literal (by decide)))
  exact ⟨exact, (evaluate_wraps_exact_value 0 overflowingTree _ {} .empty exact).1⟩

end Evaluation

end VectorCalc

import Mathlib.Tactic.SplitIfs
import VectorCalc.Operator.Apply
import VectorCalc.Proofs.Doubles
import VectorCalc.Proofs.Tokens

/-!
Values that come out of evaluation and what operators make of them. Integers stay within 64 bits,
vectors hold numbers only, and a function has a name for its parameter. On such values an operator
gives such a value or rejects its operands; it never breaks down. The trees that bodies of
functions may be are left open here.
-/
namespace VectorCalc

set_option autoImplicit false

namespace Word

/-- The range from `-2 ^ 63` up to `2 ^ 63 - 1`. -/
def Fits (value : Int) : Prop :=
  -9223372036854775808 ≤ value ∧ value ≤ 9223372036854775807

theorem wrap_fits (value : Int) : Fits (wrap value) := by
  have positive : 0 < modulus := by decide
  have lower : -((modulus : Int) / 2) ≤ value.bmod modulus := Int.le_bmod positive
  have upper : value.bmod modulus < ((modulus : Int) + 1) / 2 := Int.bmod_lt positive
  unfold Fits wrap
  unfold modulus at lower upper ⊢
  omega

end Word

namespace Value

inductive IsNumber : Value → Prop where
  | int {value : Int} (fits : Word.Fits value) : IsNumber (.int value)
  | float {value : Float} : IsNumber (.float value)

/-- A number, a vector of numbers, or a function whose body satisfies `origin`. -/
inductive Formed (origin : Node → Prop) : Value → Prop where
  | number {value : Value} (plain : value.IsNumber) : Formed origin value
  | vector {items : List Value} (plain : ∀ item ∈ items, item.IsNumber) :
      Formed origin (.vector items)
  | function {name : String} {body : Node} (named : IsName name) (read : origin body) :
      Formed origin (.function (.text name) body)

theorem formed_of_wider {narrow wide : Node → Prop} {value : Value} (formed : value.Formed narrow)
    (wider : ∀ node, narrow node → wide node) : value.Formed wide := by
  cases formed with
  | number plain => exact .number plain
  | vector plain => exact .vector plain
  | function named read => exact .function named (wider _ read)

theorem of_bool_is_number (holds : Bool) : (ofBool holds).IsNumber := by
  cases holds <;> exact .int ⟨by decide, by decide⟩

/-- Numbers can be items of vectors, and nothing else that is formed can. -/
theorem scalar_is_number {origin : Node → Prop} {value : Value} (formed : value.Formed origin)
    (scalar : value.isScalar = true) : value.IsNumber := by
  cases formed with
  | number plain => exact plain
  | vector _ => cases scalar
  | function _ _ => cases scalar

end Value

inductive Yields {α : Type} (property : α → Prop) : Except Rejection α → Prop where
  | value {result : α} (holds : property result) : Yields property (.ok result)
  | operands {kind : TokenKind} : Yields property (.error (.operands kind))
  | zero : Yields property (.error .moduloByZero)

def AllNumbers (results : List Value) : Prop :=
  ∀ item ∈ results, item.IsNumber

theorem first_and_rest_yield {first : Except Rejection Value}
    {rest : Except Rejection (List Value)} :
    Yields Value.IsNumber first → Yields AllNumbers rest → Yields AllNumbers
      (match first with
      | .error rejection => .error rejection
      | .ok item =>
          match rest with
          | .error rejection => .error rejection
          | .ok items => .ok (item :: items)) := by
  intro firstYields restYields
  cases firstYields with
  | operands => exact .operands
  | zero => exact .zero
  | value firstHolds =>
      cases restYields with
      | operands => exact .operands
      | zero => exact .zero
      | value restHold => exact .value (List.forall_mem_cons.mpr ⟨firstHolds, restHold⟩)

theorem vector_yields {origin : Node → Prop} {results : Except Rejection (List Value)} :
    Yields AllNumbers results → Yields (Value.Formed origin)
      (match results with
      | .ok items => .ok (.vector items)
      | .error rejection => .error rejection) := by
  intro yields
  cases yields with
  | operands => exact .operands
  | zero => exact .zero
  | value hold => exact .value (.vector hold)

theorem formed_number_yields {origin : Node → Prop} {result : Except Rejection Value}
    (yields : Yields Value.IsNumber result) : Yields (Value.Formed origin) result := by
  cases yields with
  | operands => exact .operands
  | zero => exact .zero
  | value holds => exact .value (.number holds)

theorem integer_to_double {value : Int} (fits : Word.Fits value) :
    (Payload.int value).toDouble = .ok (Decimal.ofInteger value) := by
  obtain ⟨lower, upper⟩ := fits
  have found := Decimal.of_integer_is_some value (by omega)
  simp [Payload.toDouble, found]

theorem float_to_double (number : Float) : (Payload.float number).toDouble = .ok number := rfl

def Value.isZero : Value → Bool
  | .int value => value == 0
  | .float value => value == 0
  | _ => false

/-- A number, unless the result is undefined for want of a divisor. -/
inductive Computes (undefined : Prop) : Except Rejection Value → Prop where
  | value {result : Value} (defined : ¬undefined) (plain : result.IsNumber) :
      Computes undefined (.ok result)
  | zero (none : undefined) : Computes undefined (.error .moduloByZero)

theorem computes_congr {undefined other : Prop} {result : Except Rejection Value}
    (same : undefined ↔ other) (computes : Computes undefined result) : Computes other result := by
  cases computes with
  | value defined plain => exact .value (mt same.mpr defined) plain
  | zero none => exact .zero (same.mp none)

namespace Arithmetic

theorem on_floats_compute (operation : Arithmetic) (left right : Float) :
    Computes (operation = .modulo ∧ (right == 0) = true) (operation.onFloats left right) := by
  cases operation with
  | modulo =>
      unfold onFloats
      dsimp only
      split_ifs with zero
      · exact .zero ⟨rfl, zero⟩
      · exact .value (by simp [zero]) .float
  | _ => exact .value (by simp) .float

theorem on_doubles_compute (operation : Arithmetic) {left right : Payload} {first second : Float}
    (leftDouble : left.toDouble = .ok first) (rightDouble : right.toDouble = .ok second) :
    Computes (operation = .modulo ∧ (second == 0) = true) (operation.onDoubles left right) := by
  unfold onDoubles
  rw [leftDouble, rightDouble]
  exact on_floats_compute operation first second

theorem on_integers_compute (operation : Arithmetic) {left right : Int} (leftFits : Word.Fits left)
    (rightFits : Word.Fits right) :
    Computes (operation = .modulo ∧ right = 0) (operation.onIntegers left right) := by
  have doubles := on_doubles_compute operation (integer_to_double leftFits)
    (integer_to_double rightFits)
  unfold onIntegers
  cases operation with
  | divide => exact computes_congr (by simp) doubles
  | modulo =>
      dsimp only
      split_ifs with zero
      · exact .zero ⟨rfl, zero⟩
      · exact .value (by simp [zero]) (.int (Word.wrap_fits _))
  | power =>
      dsimp only
      split_ifs
      · exact computes_congr (by simp) doubles
      · exact .value (by simp) (.int (Word.wrap_fits _))
  | _ => exact .value (by simp) (.int (Word.wrap_fits _))

/-- Two numbers give a number, except that nothing is left after a division by zero. -/
theorem on_scalars_compute (operation : Arithmetic) {left right : Value}
    (leftPlain : left.IsNumber) (rightPlain : right.IsNumber) :
    Computes (operation = .modulo ∧ right.isZero = true) (operation.onScalars left right) := by
  cases leftPlain with
  | @int first leftFits =>
      cases rightPlain with
      | @int second rightFits =>
          exact computes_congr (by simp [Value.isZero])
            (on_integers_compute operation leftFits rightFits)
      | @float second =>
          exact on_doubles_compute operation (integer_to_double leftFits) (float_to_double second)
  | @float first =>
      cases rightPlain with
      | @int second rightFits =>
          obtain ⟨lower, upper⟩ := rightFits
          have zero := Decimal.of_integer_eq_zero_iff second (by omega)
          have doubles := on_doubles_compute operation (float_to_double first)
            (integer_to_double ⟨lower, upper⟩)
          exact computes_congr (by simp [zero, Value.isZero]) doubles
      | @float second =>
          unfold onScalars
          dsimp only
          split_ifs with infinite
          · refine .value ?_ .float
            rintro ⟨modulo, _⟩
            subst modulo
            simp [isInfinityQuotient] at infinite
          · exact on_floats_compute operation first second

theorem on_scalars_yields (operation : Arithmetic) {left right : Value}
    (leftPlain : left.IsNumber) (rightPlain : right.IsNumber) :
    Yields Value.IsNumber (operation.onScalars left right) := by
  have computes := on_scalars_compute operation leftPlain rightPlain
  generalize operation.onScalars left right = result at computes ⊢
  cases computes with
  | value _ plain => exact .value plain
  | zero _ => exact .zero

theorem apply_numbers (operation : Arithmetic) {left : Value} (right : Value)
    (plain : left.IsNumber) : operation.apply left right = operation.onScalars left right := by
  cases plain <;> simp only [apply]

theorem apply_each_yields (operation : Arithmetic) (items : List Value) {right : Value}
    (plain : AllNumbers items) (rightPlain : right.IsNumber) :
    Yields AllNumbers (operation.applyEach items right) := by
  induction items with
  | nil =>
      rw [applyEach]
      exact .value (by simp [AllNumbers])
  | cons item items induction =>
      obtain ⟨itemPlain, others⟩ := List.forall_mem_cons.mp plain
      have first := on_scalars_yields operation itemPlain rightPlain
      have rest := induction others
      rw [applyEach, apply_numbers operation right itemPlain]
      exact first_and_rest_yield first rest

theorem apply_pairwise_yields (operation : Arithmetic) (items others : List Value)
    (plain : AllNumbers items) (otherPlain : AllNumbers others) :
    Yields AllNumbers (operation.applyPairwise items others) := by
  induction items generalizing others with
  | nil =>
      simp only [applyPairwise]
      exact .value (by simp [AllNumbers])
  | cons item items induction =>
      cases others with
      | nil =>
          simp only [applyPairwise]
          exact .value (by simp [AllNumbers])
      | cons other others =>
          obtain ⟨itemPlain, itemsPlain⟩ := List.forall_mem_cons.mp plain
          obtain ⟨firstPlain, othersPlain⟩ := List.forall_mem_cons.mp otherPlain
          have first := on_scalars_yields operation itemPlain firstPlain
          have rest := induction others itemsPlain othersPlain
          rw [applyPairwise, apply_numbers operation other itemPlain]
          exact first_and_rest_yield first rest

theorem apply_yields {origin : Node → Prop} (operation : Arithmetic) {left right : Value}
    (leftFormed : left.Formed origin) (rightFormed : right.Formed origin) :
    Yields (Value.Formed origin) (operation.apply left right) := by
  cases leftFormed with
  | number leftPlain =>
      rw [apply_numbers operation right leftPlain]
      cases rightFormed with
      | number rightPlain =>
          exact formed_number_yields (on_scalars_yields operation leftPlain rightPlain)
      | vector _ => cases leftPlain <;> exact .operands
      | function _ _ => cases leftPlain <;> exact .operands
  | vector plain =>
      cases rightFormed with
      | number rightPlain =>
          have each := apply_each_yields operation _ plain rightPlain
          have scalar : right.isScalar = true := by cases rightPlain <;> rfl
          rw [apply, if_pos scalar]
          · exact vector_yields each
          · intro items same
            subst same
            cases rightPlain
      | vector otherPlain =>
          rw [apply]
          exact vector_yields (apply_pairwise_yields operation _ _ plain otherPlain)
      | function _ _ =>
          rw [apply]
          · exact .operands
          · simp
  | function _ _ =>
      rw [apply]
      · cases rightFormed with
        | number rightPlain => cases rightPlain <;> exact .operands
        | vector _ => exact .operands
        | function _ _ => exact .operands
      · simp
      · simp

end Arithmetic

namespace Comparison

theorem on_doubles_decides (relation : Comparison) {left right : Payload} {first second : Float}
    (leftDouble : left.toDouble = .ok first) (rightDouble : right.toDouble = .ok second) :
    relation.onDoubles left right = .ok (relation.onFloats first second) := by
  unfold onDoubles
  rw [leftDouble, rightDouble]

theorem on_scalars_decides (relation : Comparison) {left right : Value}
    (leftPlain : left.IsNumber) (rightPlain : right.IsNumber) :
    ∃ holds, relation.onScalars left right = .ok holds := by
  cases leftPlain with
  | int leftFits =>
      cases rightPlain with
      | int _ => exact ⟨_, rfl⟩
      | @float number =>
          exact ⟨_, on_doubles_decides relation (integer_to_double leftFits)
            (float_to_double number)⟩
  | @float number =>
      cases rightPlain with
      | int rightFits =>
          exact ⟨_, on_doubles_decides relation (float_to_double number)
            (integer_to_double rightFits)⟩
      | float => exact ⟨_, rfl⟩

theorem test_all_decides (relation : Comparison) (items others : List Value)
    (plain : AllNumbers items) (otherPlain : AllNumbers others) :
    ∃ holds, relation.testAll items others = .ok holds := by
  induction items generalizing others with
  | nil => exact ⟨true, by simp only [testAll]⟩
  | cons item items induction =>
      cases others with
      | nil => exact ⟨true, by simp only [testAll]⟩
      | cons other others =>
          obtain ⟨itemPlain, itemsPlain⟩ := List.forall_mem_cons.mp plain
          obtain ⟨firstPlain, othersPlain⟩ := List.forall_mem_cons.mp otherPlain
          obtain ⟨first, decided⟩ := on_scalars_decides relation itemPlain firstPlain
          obtain ⟨rest, restDecided⟩ := induction others itemsPlain othersPlain
          have pair : relation.test item other = .ok first := by
            rw [← decided]
            cases itemPlain <;> simp only [test]
          rw [testAll, pair]
          cases first with
          | true => exact ⟨rest, restDecided⟩
          | false => exact ⟨false, rfl⟩

theorem test_yields {origin : Node → Prop} (relation : Comparison) {left right : Value}
    (leftFormed : left.Formed origin) (rightFormed : right.Formed origin) :
    Yields (fun _ => True) (relation.test left right) := by
  cases leftFormed with
  | number leftPlain =>
      have scalars : relation.test left right = relation.onScalars left right := by
        cases leftPlain <;> simp only [test]
      rw [scalars]
      cases rightFormed with
      | number rightPlain =>
          obtain ⟨holds, decided⟩ := on_scalars_decides relation leftPlain rightPlain
          rw [decided]
          exact .value trivial
      | vector _ => cases leftPlain <;> exact .operands
      | function _ _ => cases leftPlain <;> exact .operands
  | vector plain =>
      cases rightFormed with
      | number rightPlain => cases rightPlain <;> simp only [test] <;> exact .operands
      | vector otherPlain =>
          obtain ⟨holds, decided⟩ := test_all_decides relation.onItems _ _ plain otherPlain
          rw [test, decided]
          split_ifs <;> exact .value trivial
      | function _ _ =>
          simp only [test]
          exact .operands
  | function _ _ =>
      simp only [test]
      cases rightFormed with
      | number rightPlain => cases rightPlain <;> exact .operands
      | vector _ => exact .operands
      | function _ _ => exact .operands

end Comparison

theorem item_yields {origin : Node → Prop} {vector position : Value}
    (vectorFormed : vector.Formed origin) (positionFormed : position.Formed origin) :
    Yields Value.IsNumber (vector.item position) := by
  cases vectorFormed with
  | number plain => cases plain <;> exact .operands
  | function _ _ => exact .operands
  | @vector items plain =>
      cases positionFormed with
      | vector _ => exact .operands
      | function _ _ => exact .operands
      | number positionPlain =>
          cases positionPlain with
          | float => exact .operands
          | @int index _ =>
              simp only [Value.item, Value.number?, Payload.position]
              split_ifs with inside
              · dsimp only
                cases found : items[index.toNat]? with
                | none => exact .operands
                | some item => exact .value (plain item (List.mem_of_getElem? found))
              · exact .operands

/-- What a binary operator makes of formed values is formed. -/
theorem binary_yields {origin : Node → Prop} (operator : BinaryOperator) {left right : Value}
    (leftFormed : left.Formed origin) (rightFormed : right.Formed origin) :
    Yields (Value.Formed origin) (operator.apply left right) := by
  cases operator with
  | arithmetic operation => exact Arithmetic.apply_yields operation leftFormed rightFormed
  | comparison relation =>
      have decides := Comparison.test_yields relation leftFormed rightFormed
      unfold BinaryOperator.apply
      dsimp only
      generalize relation.test left right = result at decides ⊢
      cases decides with
      | operands => exact .operands
      | zero => exact .zero
      | value _ => exact .value (.number (Value.of_bool_is_number _))
  | index => exact formed_number_yields (item_yields leftFormed rightFormed)
  | sameType => exact .value (.number (Value.of_bool_is_number _))

theorem negate_number {value : Value} (plain : value.IsNumber) :
    ∃ result, value.negate = .ok result ∧ result.IsNumber := by
  cases plain with
  | int _ => exact ⟨_, by rw [Value.negate], .int (Word.wrap_fits _)⟩
  | float => exact ⟨_, by rw [Value.negate], .float⟩

theorem negate_all_yields (items : List Value) (plain : AllNumbers items) :
    Yields AllNumbers (Value.negateAll items) := by
  induction items with
  | nil =>
      rw [Value.negateAll]
      exact .value plain
  | cons item items induction =>
      obtain ⟨itemPlain, itemsPlain⟩ := List.forall_mem_cons.mp plain
      obtain ⟨result, negated, resultPlain⟩ := negate_number itemPlain
      have first : Yields Value.IsNumber item.negate := by
        rw [negated]
        exact .value resultPlain
      rw [Value.negateAll]
      exact first_and_rest_yield first (induction itemsPlain)

theorem negate_yields {origin : Node → Prop} {value : Value} (formed : value.Formed origin) :
    Yields (Value.Formed origin) value.negate := by
  cases formed with
  | number plain =>
      obtain ⟨result, negated, resultPlain⟩ := negate_number plain
      rw [negated]
      exact .value (.number resultPlain)
  | vector plain =>
      rw [Value.negate]
      exact vector_yields (negate_all_yields _ plain)
  | function _ _ =>
      rw [Value.negate]
      exact .operands

end VectorCalc

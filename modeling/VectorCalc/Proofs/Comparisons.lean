import VectorCalc.Proofs.Pointwise

/-!
Comparison of nested vectors. A test for being different is answered by testing the items for
being equal, and a test for order stops at the shorter vector without a look at the lengths. All
the same, tests for being equal and for being different give opposite answers, and exchanging the
operands exchanges less and greater: the first pair that decides, or that cannot be compared,
stands in the same place on both sides. On integers and vectors of them being equal means being the
same value. Nothing is assumed about doubles; their equality is symmetric because exchanging two of
them reverses their order.
-/
namespace VectorCalc

set_option autoImplicit false

namespace Decimal

open Float.Model

theorem compare_swap (first second : UnpackedFloat) :
    second.compare first = (first.compare second).map Ordering.swap := by
  cases first with
  | notANumber => cases second <;> rfl
  | infinity sign =>
      cases second with
      | infinity other => cases sign <;> cases other <;> rfl
      | _ => cases sign <;> rfl
  | zero sign =>
      cases second with
      | infinity other => cases other <;> rfl
      | finite other _ _ _ => cases other <;> rfl
      | _ => rfl
  | finite sign mantissa exponent _ =>
      cases second with
      | infinity other => cases sign <;> cases other <;> rfl
      | finite other otherMantissa otherExponent _ =>
          have magnitudes : (compare otherExponent exponent).then
              (compare otherMantissa mantissa) =
              ((compare exponent otherExponent).then (compare mantissa otherMantissa)).swap := by
            rw [Ordering.swap_then, Int.compare_swap, Nat.compare_swap]
          cases sign with
          | negative =>
              cases other with
              | negative => exact congrArg (fun order : Ordering => some order.swap) magnitudes
              | positive => rfl
          | positive =>
              cases other with
              | negative => rfl
              | positive => exact congrArg some magnitudes
      | _ => cases sign <;> rfl

theorem equal_comm (first second : Float) : (second == first) = (first == second) := by
  change (second.toModel.unpack.compare first.toModel.unpack == some .eq) =
    (first.toModel.unpack.compare second.toModel.unpack == some .eq)
  rw [compare_swap]
  cases first.toModel.unpack.compare second.toModel.unpack with
  | none => rfl
  | some order => cases order <;> rfl

end Decimal

namespace Comparison

def converse : Comparison → Comparison
  | .equal => .equal
  | .notEqual => .notEqual
  | .less => .greater
  | .greater => .less
  | .lessEqual => .greaterEqual
  | .greaterEqual => .lessEqual

theorem on_integers_converse (relation : Comparison) (left right : Int) :
    relation.converse.onIntegers right left = relation.onIntegers left right := by
  cases relation with
  | equal => exact Bool.beq_comm
  | notEqual => exact congrArg not Bool.beq_comm
  | _ => rfl

theorem on_floats_converse (relation : Comparison) (left right : Float) :
    relation.converse.onFloats right left = relation.onFloats left right := by
  cases relation with
  | equal => exact Decimal.equal_comm left right
  | notEqual => exact congrArg not (Decimal.equal_comm left right)
  | _ => rfl

theorem on_items_converse (relation : Comparison) :
    relation.converse.onItems = relation.onItems.converse := by
  cases relation <;> rfl

theorem converse_not_equal_iff (relation : Comparison) :
    relation.converse = .notEqual ↔ relation = .notEqual := by
  cases relation <;> simp [converse]

theorem settled_converse (relation : Comparison) (items others : List Value) :
    relation.converse.settledByLength others items = relation.settledByLength items others := by
  unfold settledByLength
  rw [bne_comm]
  cases relation <;> rfl

/-- Two tests that go together: answers that are related, or operands that both reject. -/
inductive Counterparts (related : Bool → Bool) :
    Except Rejection Bool → Except Rejection Bool → Prop where
  | answers (holds : Bool) : Counterparts related (.ok holds) (.ok (related holds))
  | rejections {kind other : TokenKind} :
      Counterparts related (.error (.operands kind)) (.error (.operands other))

theorem on_numbers_cases {left right : Value} (leftPlain : left.IsNumber)
    (rightPlain : right.IsNumber) :
    (∃ first second : Int, ∀ relation : Comparison,
      relation.onScalars left right = .ok (relation.onIntegers first second) ∧
      relation.onScalars right left = .ok (relation.onIntegers second first)) ∨
    ∃ first second : Float, ∀ relation : Comparison,
      relation.onScalars left right = .ok (relation.onFloats first second) ∧
      relation.onScalars right left = .ok (relation.onFloats second first) := by
  cases leftPlain with
  | @int first firstFits =>
      have double := integer_to_double firstFits
      cases rightPlain with
      | @int second _ => exact .inl ⟨first, second, fun _ => ⟨rfl, rfl⟩⟩
      | @float second =>
          refine .inr ⟨Decimal.ofInteger first, second, fun relation => ⟨?_, ?_⟩⟩
          · exact on_doubles_decides relation double (float_to_double second)
          · exact on_doubles_decides relation (float_to_double second) double
  | @float first =>
      cases rightPlain with
      | @int second secondFits =>
          have double := integer_to_double secondFits
          refine .inr ⟨first, Decimal.ofInteger second, fun relation => ⟨?_, ?_⟩⟩
          · exact on_doubles_decides relation (float_to_double first) double
          · exact on_doubles_decides relation double (float_to_double first)
      | @float second => exact .inr ⟨first, second, fun _ => ⟨rfl, rfl⟩⟩

theorem on_scalars_rejects (relation : Comparison) {left right : Value} (leftProper : left.Proper)
    (rightProper : right.Proper) (unfit : ¬(left.isScalar = true ∧ right.isScalar = true)) :
    relation.onScalars left right = .error (.operands relation.kind) := by
  cases leftProper with
  | vector _ => rfl
  | function => rfl
  | number leftPlain =>
      cases rightProper with
      | vector _ => cases leftPlain <;> rfl
      | function => cases leftPlain <;> rfl
      | number rightPlain =>
          exact absurd ⟨Value.number_is_scalar leftPlain, Value.number_is_scalar rightPlain⟩ unfit

theorem on_scalars_converse (relation : Comparison) {left right : Value}
    (leftProper : left.Proper) (rightProper : right.Proper) :
    Counterparts id (relation.onScalars left right) (relation.converse.onScalars right left) := by
  by_cases numbers : left.isScalar = true ∧ right.isScalar = true
  · rcases on_numbers_cases (Value.proper_scalar leftProper numbers.1)
      (Value.proper_scalar rightProper numbers.2) with
      ⟨first, second, compared⟩ | ⟨first, second, compared⟩
    · rw [(compared relation).1, (compared relation.converse).2, on_integers_converse]
      exact .answers _
    · rw [(compared relation).1, (compared relation.converse).2, on_floats_converse]
      exact .answers _
  · rw [on_scalars_rejects relation leftProper rightProper numbers,
      on_scalars_rejects relation.converse rightProper leftProper (mt And.symm numbers)]
    exact .rejections

theorem on_scalars_opposite {left right : Value} (leftProper : left.Proper)
    (rightProper : right.Proper) :
    Counterparts not (onScalars .equal left right) (onScalars .notEqual left right) := by
  by_cases numbers : left.isScalar = true ∧ right.isScalar = true
  · rcases on_numbers_cases (Value.proper_scalar leftProper numbers.1)
      (Value.proper_scalar rightProper numbers.2) with
      ⟨first, second, compared⟩ | ⟨first, second, compared⟩
    · rw [(compared .equal).1, (compared .notEqual).1]
      exact .answers (onIntegers .equal first second)
    · rw [(compared .equal).1, (compared .notEqual).1]
      exact .answers (onFloats .equal first second)
  · rw [on_scalars_rejects .equal leftProper rightProper numbers,
      on_scalars_rejects .notEqual leftProper rightProper numbers]
    exact .rejections

theorem test_single (relation : Comparison) {left right : Value}
    (single : left.isVector = false ∨ right.isVector = false) :
    relation.test left right = relation.onScalars left right := by
  cases left with
  | vector items =>
      cases right with
      | vector others => simp [Value.isVector] at single
      | _ => simp only [test]
  | _ => simp only [test]

/-- Pairs are tested in the same order on both sides, up to the first that decides. -/
theorem test_all_converse (relation : Comparison) (items others : List Value)
    (each : ∀ item ∈ items, ∀ other ∈ others,
      Counterparts id (relation.test item other) (relation.converse.test other item)) :
    Counterparts id (relation.testAll items others) (relation.converse.testAll others items) := by
  induction items generalizing others with
  | nil =>
      have ended : relation.converse.testAll others [] = .ok true := by
        cases others <;> simp only [testAll]
      rw [ended]
      simp only [testAll]
      exact .answers true
  | cons item items induction =>
      cases others with
      | nil =>
          simp only [testAll]
          exact .answers true
      | cons other others =>
          have first := each item (by simp) other (by simp)
          have rest := induction others fun later member another present =>
            each later (by simp [member]) another (by simp [present])
          rw [testAll, testAll]
          generalize relation.test item other = here at first ⊢
          generalize relation.converse.test other item = there at first ⊢
          cases first with
          | rejections => exact .rejections
          | answers holds =>
              -- The pair decides on both sides or on neither.
              cases holds with
              | true => exact rest
              | false => exact .answers false

theorem vectors_or_single (left right : Value) :
    (∃ items others, left = .vector items ∧ right = .vector others) ∨
      left.isVector = false ∨ right.isVector = false := by
  cases left with
  | vector items =>
      cases right with
      | vector others => exact .inl ⟨items, others, rfl, rfl⟩
      | _ => exact .inr (.inr rfl)
  | _ => exact .inr (.inl rfl)

theorem single_converse (relation : Comparison) {left right : Value}
    (single : left.isVector = false ∨ right.isVector = false) (leftProper : left.Proper)
    (rightProper : right.Proper) :
    Counterparts id (relation.test left right) (relation.converse.test right left) := by
  rw [test_single relation single, test_single relation.converse single.symm]
  exact on_scalars_converse relation leftProper rightProper

/-- The induction goes over the items of the left side. The relation is open in it, since vectors
that are tested for being different have their items tested for being equal. -/
theorem test_converse (relation : Comparison) {left right : Value} (leftProper : left.Proper)
    (rightProper : right.Proper) :
    Counterparts id (relation.test left right) (relation.converse.test right left) := by
  induction leftProper generalizing relation right with
  | number plain =>
      exact single_converse relation (.inl (Value.number_is_no_vector plain)) (.number plain)
        rightProper
  | function => exact single_converse relation (.inl rfl) .function rightProper
  | @vector items inner induction =>
      rcases vectors_or_single (.vector items) right with ⟨_, others, _, rfl⟩ | single
      · have pairs := test_all_converse relation.onItems items others
          fun item member other present => induction item member _
            (Value.vector_is_proper_iff.mp rightProper other present)
        rw [test, test, settled_converse, on_items_converse]
        by_cases settled : relation.settledByLength items others = true
        · rw [if_pos settled, if_pos settled]
          cases relation <;> exact .answers _
        · rw [if_neg settled, if_neg settled]
          simp only [converse_not_equal_iff]
          generalize relation.onItems.testAll items others = here at pairs ⊢
          generalize relation.onItems.converse.testAll others items = there at pairs ⊢
          cases pairs with
          | rejections => exact .rejections
          | answers holds => exact .answers _
      · exact single_converse relation single (.vector inner) rightProper

/-- Vectors that are tested for being equal and for being different have their items tested alike,
so no induction is needed here. -/
theorem test_opposite {left right : Value} (leftProper : left.Proper)
    (rightProper : right.Proper) :
    Counterparts not (test .equal left right) (test .notEqual left right) := by
  rcases vectors_or_single left right with ⟨items, others, rfl, rfl⟩ | single
  · have pairs := test_all_converse .equal items others fun item member other present =>
      test_converse .equal (Value.vector_is_proper_iff.mp leftProper item member)
        (Value.vector_is_proper_iff.mp rightProper other present)
    have sameLengths : settledByLength .notEqual items others =
        settledByLength .equal items others := rfl
    have sameItems : onItems .notEqual = onItems .equal := rfl
    rw [test, test, sameLengths, sameItems]
    by_cases settled : settledByLength .equal items others = true
    · rw [if_pos settled, if_pos settled]
      exact .answers false
    · rw [if_neg settled, if_neg settled]
      change Counterparts id (testAll (onItems .equal) items others) _ at pairs
      generalize testAll (onItems .equal) items others = here at pairs ⊢
      generalize testAll (converse .equal) others items = there at pairs
      cases pairs with
      | rejections => exact .rejections
      | answers holds => exact .answers holds
  · rw [test_single .equal single, test_single .notEqual single]
    exact on_scalars_opposite leftProper rightProper

theorem comparison_apply (relation : Comparison) (left right : Value) :
    (BinaryOperator.comparison relation).apply left right =
      (relation.test left right).map Value.ofBool := by
  rw [BinaryOperator.apply]
  cases relation.test left right <;> rfl

theorem apply_binary_eq (relation : Comparison) (left right : Value) :
    applyBinary relation.kind left right = (relation.test left right).map Value.ofBool := by
  have applied : applyBinary relation.kind left right =
      (BinaryOperator.comparison relation).apply left right := by
    cases relation <;> rfl
  rw [applied, comparison_apply]

/-- Two comparisons that are settled together: both give one or zero, the second one as computed
from the first, or both reject their operands. -/
inductive SettledTogether (second : Int → Int) :
    Except Rejection Value → Except Rejection Value → Prop where
  | answers {answer : Int} (bit : answer = 0 ∨ answer = 1) :
      SettledTogether second (.ok (.int answer)) (.ok (.int (second answer)))
  | rejections {kind other : TokenKind} :
      SettledTogether second (.error (.operands kind)) (.error (.operands other))

theorem settled_alike {first other : Except Rejection Bool} (tests : Counterparts id first other) :
    SettledTogether id (first.map Value.ofBool) (other.map Value.ofBool) := by
  cases tests with
  | rejections => exact .rejections
  | answers holds => cases holds <;> exact .answers (by simp)

theorem settled_oppositely {first other : Except Rejection Bool}
    (tests : Counterparts not first other) :
    SettledTogether (1 - ·) (first.map Value.ofBool) (other.map Value.ofBool) := by
  cases tests with
  | rejections => exact .rejections
  | answers holds =>
      cases holds with
      | true => exact .answers (.inr rfl)
      | false => exact .answers (.inl rfl)

/-- Being different is the opposite of being equal, being equal does not depend on the order of the
operands, and less and greater, with or without being equal, are each other's converse. Where one
test rejects its operands, so does its counterpart. All integers in the operands have 64 bits, as
those of all values of the language. -/
theorem comparisons_are_dual (left right : Value) (leftProper : left.Proper)
    (rightProper : right.Proper) :
    SettledTogether (1 - ·) (applyBinary .equal left right) (applyBinary .notEqual left right) ∧
      SettledTogether id (applyBinary .equal left right) (applyBinary .equal right left) ∧
      SettledTogether id (applyBinary .less left right) (applyBinary .greater right left) ∧
      SettledTogether id (applyBinary .lessEqual left right)
        (applyBinary .greaterEqual right left) := by
  have answered (relation : Comparison) :
      SettledTogether id (applyBinary relation.kind left right)
        (applyBinary relation.converse.kind right left) := by
    rw [apply_binary_eq, apply_binary_eq]
    exact settled_alike (test_converse relation leftProper rightProper)
  have opposite : SettledTogether (1 - ·) (applyBinary (kind .equal) left right)
      (applyBinary (kind .notEqual) left right) := by
    rw [apply_binary_eq, apply_binary_eq]
    exact settled_oppositely (test_opposite leftProper rightProper)
  exact ⟨opposite, answered .equal, answered .less, answered .lessEqual⟩

/-- Vectors that hold not-a-number, a vector and a function: the test for being equal ends at
not-a-number, before it comes to the vector that meets an integer. -/
theorem mixed_vectors_are_dual :
    ∃ left right : Value,
      left = .vector [.int 1, .float Decimal.notANumber, .vector [.int 2],
        .function (.text "x") (.leaf .pi .none {})] ∧ left.Proper ∧
      right = .vector [.int 1, .float Decimal.notANumber, .int 2, .int 3] ∧ right.Proper ∧
      SettledTogether (1 - ·) (applyBinary .equal left right)
        (applyBinary .notEqual left right) ∧
      SettledTogether id (applyBinary .less left right) (applyBinary .greater right left) := by
  have leftProper : (Value.vector [.int 1, .float Decimal.notANumber, .vector [.int 2],
      .function (.text "x") (.leaf .pi .none {})]).Proper := by
    simp [Word.Fits, Value.Proper.function, Value.Proper.number Value.IsNumber.float]
  have rightProper : (Value.vector [.int 1, .float Decimal.notANumber, .int 2, .int 3]).Proper := by
    simp [Word.Fits, Value.Proper.number Value.IsNumber.float]
  obtain ⟨opposite, _, ordered, _⟩ := comparisons_are_dual _ _ leftProper rightProper
  exact ⟨_, _, rfl, leftProper, rfl, rightProper, opposite, ordered⟩

end Comparison

namespace Value

/-- An integer, or a vector of such values to any depth. -/
inductive Integral : Value → Prop where
  | int (value : Int) : Integral (.int value)
  | vector {items : List Value} (inner : ∀ item ∈ items, Integral item) :
      Integral (.vector items)

theorem same_lists_iff {items : List Value}
    (each : ∀ item ∈ items, ∀ other : Value, other.Integral →
      (item.same other = true ↔ item = other))
    (others : List Value) (otherInner : ∀ other ∈ others, other.Integral) :
    sameLists items others = true ↔ items = others := by
  induction items generalizing others with
  | nil => cases others <;> simp [sameLists]
  | cons item items induction =>
      cases others with
      | nil => simp [sameLists]
      | cons other others =>
          obtain ⟨firstInner, restInner⟩ := List.forall_mem_cons.mp otherInner
          obtain ⟨first, rest⟩ := List.forall_mem_cons.mp each
          rw [sameLists, Bool.and_eq_true, first other firstInner, induction rest others restInner,
            List.cons.injEq]

theorem same_iff_eq {left right : Value} (leftIntegral : left.Integral)
    (rightIntegral : right.Integral) : left.same right = true ↔ left = right := by
  induction leftIntegral generalizing right with
  | int value =>
      cases rightIntegral with
      | int other => simp [same]
      | vector _ => simp [same, sameNumbers, number?]
  | @vector items inner induction =>
      cases rightIntegral with
      | int other => simp [same, sameNumbers, number?]
      | @vector others otherInner =>
          rw [same, vector.injEq]
          exact same_lists_iff (fun item member _ => induction item member) others otherInner

end Value

namespace Comparison

/-- What the test for being equal says of two values: that they are one, or that they are not, or
that they cannot be compared, which they cannot unless they differ. -/
inductive Tells {α : Type} (left right : α) : Except Rejection Bool → Prop where
  | one (same : left = right) : Tells left right (.ok true)
  | two (different : left ≠ right) : Tells left right (.ok false)
  | neither (different : left ≠ right) : Tells left right (.error (.operands .equal))

theorem test_all_tells {items : List Value}
    (each : ∀ item ∈ items, ∀ other : Value, other.Integral →
      Tells item other (test .equal item other))
    (others : List Value) (otherInner : ∀ other ∈ others, other.Integral)
    (sized : items.length = others.length) :
    Tells items others (testAll .equal items others) := by
  induction items generalizing others with
  | nil =>
      have none := List.eq_nil_of_length_eq_zero sized.symm
      subst none
      simp only [testAll]
      exact .one rfl
  | cons item items induction =>
      cases others with
      | nil => cases sized
      | cons other others =>
          obtain ⟨firstInner, restInner⟩ := List.forall_mem_cons.mp otherInner
          obtain ⟨first, rest⟩ := List.forall_mem_cons.mp each
          have here := first other firstInner
          have later := induction rest others restInner (Nat.succ.inj sized)
          rw [testAll]
          generalize test .equal item other = answer at here ⊢
          cases here with
          | neither different => exact .neither (by simp [different])
          | two different => exact .two (by simp [different])
          | one same =>
              subst same
              dsimp only
              generalize testAll .equal items others = remaining at later ⊢
              cases later with
              | neither different => exact .neither (by simp [different])
              | two different => exact .two (by simp [different])
              | one equal => exact .one (by rw [equal])

theorem test_tells {left right : Value} (leftIntegral : left.Integral)
    (rightIntegral : right.Integral) : Tells left right (test .equal left right) := by
  induction leftIntegral generalizing right with
  | int value =>
      cases rightIntegral with
      | int other =>
          simp only [test, onScalars, onIntegers]
          by_cases same : value = other
          · rw [beq_iff_eq.mpr same]
            exact .one (by rw [same])
          · rw [beq_eq_false_iff_ne.mpr same]
            exact .two (by simp [same])
      | vector _ =>
          simp only [test]
          exact .neither (by simp)
  | @vector items inner induction =>
      cases rightIntegral with
      | int other =>
          simp only [test]
          exact .neither (by simp)
      | @vector others otherInner =>
          rw [test]
          by_cases settled : settledByLength .equal items others = true
          · rw [if_pos settled]
            refine .two ?_
            rintro ⟨⟩
            simp [settledByLength] at settled
          · rw [if_neg settled]
            have sized : items.length = others.length := by
              simpa [settledByLength] using settled
            have told : Tells items others (testAll (onItems .equal) items others) :=
              test_all_tells (fun item member _ => induction item member) others otherInner sized
            generalize testAll (onItems .equal) items others = answer at told ⊢
            cases told with
            | neither different => exact .neither (by simp [different])
            | two different => exact .two (by simp [different])
            | one same => exact .one (by rw [same])

/-- On integers and vectors of integers to any depth, the test for being equal gives one exactly for
values that are alike, which are those that are the same value. Of values that differ it says so or
rejects them. -/
theorem equality_is_structural (left right : Value) (leftIntegral : left.Integral)
    (rightIntegral : right.Integral) :
    (applyBinary .equal left right = .ok (.int 1) ↔ left.same right = true) ∧
      (left.same right = true ↔ left = right) ∧
      (left.same right = false → applyBinary .equal left right = .ok (.int 0) ∨
        applyBinary .equal left right = .error (.operands .equal)) := by
  have alike := Value.same_iff_eq leftIntegral rightIntegral
  have told := test_tells leftIntegral rightIntegral
  have applied : applyBinary .equal left right = (test .equal left right).map Value.ofBool :=
    apply_binary_eq .equal left right
  rw [applied, ← Bool.not_eq_true, alike]
  refine ⟨?_, Iff.rfl, ?_⟩
  · generalize test .equal left right = answer at told ⊢
    cases told with
    | one same => simp [same, Except.map, Value.ofBool]
    | two different => simp [different, Except.map, Value.ofBool]
    | neither different => simp [different, Except.map]
  · intro differ
    generalize test .equal left right = answer at told ⊢
    cases told with
    | one same => exact absurd same differ
    | two different => exact .inl rfl
    | neither different => exact .inr rfl

/-- Of `[1 [2 3]]` and `[1 2]`, the first is equal to itself. The two differ, although neither their
lengths nor their first items say so. -/
theorem nested_vector_differs :
    ∃ left right : Value, left = .vector [.int 1, .vector [.int 2, .int 3]] ∧ left.Integral ∧
      right = .vector [.int 1, .int 2] ∧ right.Integral ∧
      applyBinary .equal left left = .ok (.int 1) ∧ left.same right = false ∧
      (applyBinary .equal left right = .ok (.int 0) ∨
        applyBinary .equal left right = .error (.operands .equal)) := by
  have leftIntegral : (Value.vector [.int 1, .vector [.int 2, .int 3]]).Integral := by
    refine .vector (List.forall_mem_cons.mpr ⟨.int 1, List.forall_mem_singleton.mpr ?_⟩)
    exact .vector (List.forall_mem_cons.mpr ⟨.int 2, List.forall_mem_singleton.mpr (.int 3)⟩)
  have rightIntegral : (Value.vector [.int 1, .int 2]).Integral :=
    .vector (List.forall_mem_cons.mpr ⟨.int 1, List.forall_mem_singleton.mpr (.int 2)⟩)
  obtain ⟨itself, alike, _⟩ := equality_is_structural _ _ leftIntegral leftIntegral
  obtain ⟨_, _, differs⟩ := equality_is_structural _ _ leftIntegral rightIntegral
  exact ⟨_, _, rfl, leftIntegral, rfl, rightIntegral, itself.mpr (alike.mpr rfl), rfl, differs rfl⟩

end Comparison

end VectorCalc

import VectorCalc.Evaluation

/-!
What an operator breaks down with. Operands may hold anything a tree made by hand can hold, texts
and templates included, and no assumption is made about them here. Whatever they hold, an operator
that breaks down does so over their content, and never for the shape of a tree or for the number of
calls it is inside of.
-/
namespace VectorCalc

set_option autoImplicit false

/-- A breakdown that lies in the content of an operand. -/
def Breakdown.OfContent : Breakdown → Prop
  | .mismatch _ => True
  | .notADouble _ => True
  | .excess _ => True
  | .notWhole => True
  | .incompleteSlot => True
  | .widthTooLong => True
  | .precisionTooLong => True
  | .unknownConversion _ _ => True
  | .noRoom => True
  | _ => False

/-- A rejection that is about the operands: their types, a divisor of zero, or their content. -/
def Rejection.OfOperands : Rejection → Prop
  | .broken breakdown => breakdown.OfContent
  | _ => True

/-- If there is no result, the reason has the property. -/
def FailsOnly {ε α : Type} (property : ε → Prop) : Except ε α → Prop
  | .ok _ => True
  | .error reason => property reason

theorem FailsOnly.reason {ε α : Type} {property : ε → Prop} {result : Except ε α} {reason : ε}
    (fails : FailsOnly property result) (failed : result = .error reason) : property reason := by
  rw [failed] at fails
  exact fails

theorem fails_only_bind {ε α β : Type} {property : ε → Prop} {first : Except ε α}
    {next : α → Except ε β} (before : FailsOnly property first)
    (after : ∀ value, FailsOnly property (next value)) : FailsOnly property (first >>= next) := by
  cases first with
  | error reason => exact before
  | ok value => exact after value

namespace Template

theorem written_digits_fails (slot : Slot) :
    FailsOnly Breakdown.OfContent (writtenDigits slot) := by
  unfold writtenDigits
  split <;> trivial

theorem admits_fails (conversion : Conversion) (letter : Char) (slot : Slot) (content : Payload) :
    FailsOnly Breakdown.OfContent (conversion.admits letter slot content) := by
  have digits := written_digits_fails slot
  unfold Conversion.admits
  split
  · trivial
  · exact digits
  · split
    · trivial
    · split
      · trivial
      · exact digits
  · trivial
  · exact digits
  · trivial
  · split <;> trivial
  · trivial
  · trivial
  · split <;> trivial
  · split <;> trivial
  · trivial

namespace Progress

variable (content : Payload) (character : Char) (progress : Progress)

theorem use_content_fails : FailsOnly Breakdown.OfContent progress.useContent := by
  unfold useContent
  split <;> trivial

theorem use_as_width_fails : FailsOnly Breakdown.OfContent (progress.useAsWidth content) := by
  apply fails_only_bind progress.use_content_fails
  intro after
  split
  · split <;> trivial
  · trivial

theorem use_as_precision_fails :
    FailsOnly Breakdown.OfContent (progress.useAsPrecision content) := by
  apply fails_only_bind progress.use_content_fails
  intro after
  split
  · split <;> trivial
  · trivial

theorem width_digit_fails : FailsOnly Breakdown.OfContent (progress.widthDigit character) := by
  unfold widthDigit
  split <;> trivial

theorem precision_digit_fails :
    FailsOnly Breakdown.OfContent (progress.precisionDigit character) := by
  unfold precisionDigit
  split <;> trivial

theorem close_fails : FailsOnly Breakdown.OfContent (progress.close content character) := by
  apply fails_only_bind progress.use_content_fails
  intro after
  split
  · trivial
  · next conversion _ =>
      apply fails_only_bind (admits_fails conversion character progress.slot content)
      intro _
      split <;> trivial

theorem after_precision_fails :
    FailsOnly Breakdown.OfContent (progress.afterPrecision content character) := by
  unfold afterPrecision
  split
  · trivial
  · exact close_fails content character progress

theorem after_width_fails :
    FailsOnly Breakdown.OfContent (progress.afterWidth content character) := by
  unfold afterWidth
  split
  · trivial
  · exact after_precision_fails content character progress

theorem after_flags_fails :
    FailsOnly Breakdown.OfContent (progress.afterFlags content character) := by
  unfold afterFlags
  split
  · trivial
  · split
    · exact use_as_width_fails content progress
    · split
      · exact width_digit_fails character progress
      · exact after_width_fails content character progress

theorem read_fails : FailsOnly Breakdown.OfContent (progress.read content character) := by
  unfold read
  split
  · trivial
  · split
    · trivial
    · split
      · trivial
      · exact after_flags_fails content character progress
  · exact after_flags_fails content character progress
  · split
    · exact width_digit_fails character progress
    · exact after_width_fails content character progress
  · exact after_width_fails content character progress
  · split
    · exact use_as_precision_fails content progress
    · split
      · exact precision_digit_fails character progress
      · exact after_precision_fails content character progress
  · split
    · exact precision_digit_fails character progress
    · exact after_precision_fails content character progress
  · exact after_precision_fails content character progress
  · exact close_fails content character progress

theorem steps_fail (characters : List Char) :
    FailsOnly Breakdown.OfContent (characters.foldlM (Progress.step content) progress) := by
  induction characters generalizing progress with
  | nil => trivial
  | cons character others induction =>
      rw [List.foldlM_cons]
      apply fails_only_bind ?_ induction
      apply fails_only_bind (read_fails content character progress)
      intro after
      trivial

theorem finish_fails : FailsOnly Breakdown.OfContent progress.finish := by
  unfold finish
  split
  · trivial
  · split <;> trivial

end Progress

theorem fill_fails (template : String) (content : Payload) :
    FailsOnly Breakdown.OfContent (fill template content) := by
  apply fails_only_bind (Progress.steps_fail content {} template.toList)
  intro progress
  exact progress.finish_fails

end Template

theorem Payload.to_double_fails (content : Payload) :
    FailsOnly Rejection.OfOperands content.toDouble := by
  unfold Payload.toDouble
  split
  · split <;> trivial
  · trivial
  · trivial
  · unfold Numeral.double
    split <;> trivial
  · trivial

namespace Arithmetic

variable (operation : Arithmetic)

theorem on_floats_fails (left right : Float) :
    FailsOnly Rejection.OfOperands (operation.onFloats left right) := by
  unfold onFloats
  split
  · trivial
  · trivial
  · trivial
  · trivial
  · split <;> trivial
  · trivial

theorem on_doubles_fails (left right : Payload) :
    FailsOnly Rejection.OfOperands (operation.onDoubles left right) := by
  unfold onDoubles
  split
  · next failed => exact left.to_double_fails.reason failed
  · split
    · next failed => exact right.to_double_fails.reason failed
    · exact operation.on_floats_fails _ _

theorem on_integers_fails (left right : Int) :
    FailsOnly Rejection.OfOperands (operation.onIntegers left right) := by
  unfold onIntegers
  split
  · trivial
  · trivial
  · trivial
  · exact on_doubles_fails _ _ _
  · split <;> trivial
  · split
    · exact on_doubles_fails _ _ _
    · trivial

theorem repetition_fails (value : String) (count : Int) :
    FailsOnly Breakdown.OfContent (repetition value count) := by
  unfold repetition
  dsimp only
  split
  · trivial
  · split
    · trivial
    · split <;> trivial

theorem made_text_of_content (text : Payload) {made : Except Breakdown Unit}
    (fails : FailsOnly Breakdown.OfContent made) : (madeText text made).OfContent := by
  cases made with
  | error breakdown => exact fails
  | ok _ => trivial

theorem breakdown_of_content (left right : Payload) :
    (operation.breakdown left right).OfContent := by
  unfold breakdown
  split
  · trivial
  · trivial
  · exact made_text_of_content _ (repetition_fails _ _)
  · exact made_text_of_content _ (repetition_fails _ _)
  · trivial
  · trivial
  · exact made_text_of_content _ (Template.fill_fails _ _)
  · trivial

theorem relabelled_fails {result : Except Rejection Value}
    (fails : FailsOnly Rejection.OfOperands result) :
    FailsOnly Rejection.OfOperands (relabelled result) := by
  unfold relabelled
  split
  · trivial
  · exact fails

theorem combine_fails (left right : Payload) :
    FailsOnly Rejection.OfOperands (operation.combine left right) := by
  unfold combine
  split
  · exact operation.on_integers_fails _ _
  · split
    · trivial
    · split
      · exact relabelled_fails (operation.on_doubles_fails left right)
      · exact operation.breakdown_of_content left right

theorem whole_power_fails (base exponent : Payload) :
    FailsOnly Rejection.OfOperands (wholePower base exponent) := by
  unfold wholePower
  split <;> trivial

theorem on_contents_fails (left right : Payload) :
    FailsOnly Rejection.OfOperands (operation.onContents left right) := by
  unfold onContents
  split
  · exact on_doubles_fails _ left right
  · split
    · trivial
    · split
      · exact whole_power_fails left right
      · exact on_doubles_fails _ left right
  · exact operation.combine_fails left right

theorem on_numbers_fails (left right : Value) :
    FailsOnly Rejection.OfOperands (operation.onNumbers left right) := by
  unfold onNumbers
  split
  · exact operation.on_contents_fails _ _
  · exact operation.on_doubles_fails _ _
  · trivial

theorem on_scalars_fails (left right : Value) :
    FailsOnly Rejection.OfOperands (operation.onScalars left right) := by
  unfold onScalars
  split
  · exact operation.on_integers_fails _ _
  · split
    · trivial
    · exact operation.on_floats_fails _ _
  · exact operation.on_numbers_fails _ _

end Arithmetic

/-- A loop over items fails only where it fails at an item. -/
theorem first_and_rest_fail {first : Except Rejection Value}
    {rest : Except Rejection (List Value)} (here : FailsOnly Rejection.OfOperands first)
    (later : FailsOnly Rejection.OfOperands rest) :
    FailsOnly Rejection.OfOperands (match first with
      | .error rejection => .error rejection
      | .ok item =>
          match rest with
          | .error rejection => .error rejection
          | .ok items => .ok (item :: items)) := by
  cases first with
  | error rejection => exact here
  | ok item =>
      cases rest with
      | error rejection => exact later
      | ok items => trivial

theorem vector_fails {results : Except Rejection (List Value)}
    (fails : FailsOnly Rejection.OfOperands results) :
    FailsOnly Rejection.OfOperands (match results with
      | .ok items => .ok (Value.vector items)
      | .error rejection => .error rejection) := by
  cases results with
  | error rejection => exact fails
  | ok items => trivial

mutual

theorem Arithmetic.apply_fails (operation : Arithmetic) (left right : Value) :
    FailsOnly Rejection.OfOperands (operation.apply left right) := by
  have onScalars := operation.on_scalars_fails left right
  cases left with
  | vector items =>
      cases right with
      | vector others =>
          exact vector_fails (Arithmetic.apply_pairwise_fails operation items others)
      | function parameter body => trivial
      | _ => exact vector_fails (Arithmetic.apply_each_fails operation items _)
  | _ => exact onScalars

theorem Arithmetic.apply_each_fails (operation : Arithmetic) (items : List Value) (right : Value) :
    FailsOnly Rejection.OfOperands (operation.applyEach items right) := by
  match items with
  | [] => trivial
  | item :: items =>
      exact first_and_rest_fail (Arithmetic.apply_fails operation item right)
        (Arithmetic.apply_each_fails operation items right)

theorem Arithmetic.apply_pairwise_fails (operation : Arithmetic) (items others : List Value) :
    FailsOnly Rejection.OfOperands (operation.applyPairwise items others) := by
  match items, others with
  | [], _ => trivial
  | _ :: _, [] => trivial
  | item :: items, other :: others =>
      exact first_and_rest_fail (Arithmetic.apply_fails operation item other)
        (Arithmetic.apply_pairwise_fails operation items others)

end

namespace Comparison

variable (relation : Comparison)

theorem on_contents_fails (left right : Payload) :
    FailsOnly Rejection.OfOperands (relation.onContents left right) := by
  unfold onContents
  split
  · trivial
  · trivial
  · split <;> trivial

theorem on_doubles_fails (left right : Payload) :
    FailsOnly Rejection.OfOperands (relation.onDoubles left right) := by
  unfold onDoubles
  split
  · next failed => exact left.to_double_fails.reason failed
  · split
    · next failed => exact right.to_double_fails.reason failed
    · trivial

theorem on_scalars_fails (left right : Value) :
    FailsOnly Rejection.OfOperands (relation.onScalars left right) := by
  unfold onScalars
  split
  · trivial
  · trivial
  · unfold onNumbers
    split
    · exact relation.on_contents_fails _ _
    · exact relation.on_doubles_fails _ _
    · trivial

mutual

theorem test_fails (relation : Comparison) (left right : Value) :
    FailsOnly Rejection.OfOperands (relation.test left right) := by
  have onScalars := relation.on_scalars_fails left right
  cases left with
  | vector items =>
      cases right with
      | vector others =>
          rw [test]
          split
          · trivial
          · split
            · next failed => exact (test_all_fails relation.onItems items others).reason failed
            · trivial
      | _ => exact onScalars
  | _ => exact onScalars

theorem test_all_fails (relation : Comparison) (items others : List Value) :
    FailsOnly Rejection.OfOperands (relation.testAll items others) := by
  match items, others with
  | [], _ => trivial
  | _ :: _, [] => trivial
  | item :: items, other :: others =>
      rw [testAll]
      split
      · next failed => exact (test_fails relation item other).reason failed
      · exact test_all_fails relation items others
      · trivial

end

end Comparison

theorem Value.item_fails (vector position : Value) :
    FailsOnly Rejection.OfOperands (vector.item position) := by
  unfold Value.item
  split
  · next items content _ =>
      have placed : FailsOnly Rejection.OfOperands (content.position items.length) := by
        unfold Payload.position
        split
        · split <;> trivial
        · split <;> trivial
        · trivial
      split
      · next failed => exact placed.reason failed
      · split <;> trivial
  · trivial

theorem BinaryOperator.apply_fails (operator : BinaryOperator) (left right : Value) :
    FailsOnly Rejection.OfOperands (operator.apply left right) := by
  cases operator with
  | arithmetic operation => exact operation.apply_fails left right
  | comparison relation =>
      unfold BinaryOperator.apply
      dsimp only
      split
      · trivial
      · next failed => exact (relation.test_fails left right).reason failed
  | index => exact left.item_fails right
  | sameType => trivial

mutual

theorem Value.negate_fails (value : Value) :
    FailsOnly Rejection.OfOperands value.negate := by
  cases value with
  | vector items => exact vector_fails (Value.negate_all_fails items)
  | mislabelled type content =>
      rw [Value.negate]
      unfold Payload.negate
      split <;> trivial
  | _ => trivial

theorem Value.negate_all_fails (items : List Value) :
    FailsOnly Rejection.OfOperands (Value.negateAll items) := by
  match items with
  | [] => trivial
  | item :: items =>
      exact first_and_rest_fail (Value.negate_fails item) (Value.negate_all_fails items)

end

end VectorCalc

import VectorCalc.Proofs.Numerals
import VectorCalc.Proofs.Session
import VectorCalc.Proofs.Wrapping

/-!
Integers written in decimal and evaluated. The text of an integer is its digits, with a minus sign
in front of them if it is negative. Reading comes to the digits after the sign, and then only the
size of the number matters: up to the largest word the tree is a literal or the opposite of one,
and beyond that the digits are reported. The most negative word is the opposite of a number beyond
the largest one, so it is reported too.
-/
namespace VectorCalc

set_option autoImplicit false

def signTokens (value : Int) : List Token :=
  if value < 0 then [⟨.subtract, .text "-", ⟨0, 1, 0, 0, 0, 1⟩⟩] else []

theorem cut_minus (rest : List Char) :
    Lexeme.cut? ((Lexeme.mk (.symbol .subtract) ['-']).text ++ rest) =
      some ⟨.symbol .subtract, ['-']⟩ := by
  have alone : Lexeme.symbol '-' rest = Lexeme.symbol '-' [] :=
    Lexeme.symbol_without_pair fun _ _ _ => rfl
  change some (Lexeme.symbol '-' rest) = _
  rw [alone]
  rfl

/-- Reading comes to the digits of an integer after its sign. -/
theorem comes_to_integer (value : Int) :
    ComesTo (Text.integerText value) (signTokens value) (signText value)
      (Nat.toDigits 10 value.natAbs) [] := by
  have run := digits_are_run value.natAbs
  rw [integer_text_shape]
  unfold signTokens signText
  split_ifs
  · refine ⟨⟨['-'], [], rfl, by simp, ?_⟩, _, digits_alone run⟩
    rw [List.nil_append, List.append_nil]
    have next := Source.next_token_divided [] [] (by simp) (by simp [isSpace])
      (cut_minus (Nat.toDigits 10 value.natAbs))
    have read : (Source.ofText
        (String.ofList (['-'] ++ Nat.toDigits 10 value.natAbs))).nextToken =
        .ok (⟨.subtract, .text "-", ⟨0, 1, 0, 0, 0, 1⟩⟩,
          Source.divided ['-'] (Nat.toDigits 10 value.natAbs)) := by
      rw [Source.of_text_divided, String.toList_ofList]
      exact next
    exact .token .start read (by simp) (by simp)
  · exact comes_to_digits run

def integerTree (value : Int) : Node :=
  let literal : Node := .leaf .int (.int value.natAbs)
    ((Place.after (signText value)).spanTo
      (Place.after (signText value ++ Nat.toDigits 10 value.natAbs)))
  if value < 0 then .unary .subtract literal (Span.extend ⟨0, 1, 0, 0, 0, 1⟩ literal.span)
  else literal

theorem integer_text_is_read {value : Int} (small : value.natAbs ≤ Word.largest) :
    parseText (Text.integerText value) = .ok (integerTree value) := by
  have short : (Nat.toDigits 10 value.natAbs).length ≤ digitLimit :=
    ((number_sound small).small rfl).1
  have reached := small_number_is_read (comes_to_integer value) short
    (by rwa [Nat.ofDigitChars_ten_toDigits])
  have ended := tokenize_reached reached (Scans.ended (by simp))
  unfold parseText
  rw [ended, Nat.ofDigitChars_ten_toDigits]
  unfold signTokens integerTree signText
  split_ifs <;> rfl

theorem integer_tree_denotes {value : Int} (small : value.natAbs ≤ Word.largest) :
    (integerTree value).Denotes value := by
  unfold integerTree
  dsimp only
  split_ifs with negative
  · have opposite : value = -(value.natAbs : Int) := by omega
    rw [opposite, Int.natAbs_neg, Int.natAbs_natCast]
    exact .negate (.literal small)
  · have same : value = (value.natAbs : Int) := by omega
    rw [same, Int.natAbs_natCast]
    exact .literal small

/-- The text of an integer evaluates to the integer, as long as it has no more than 63 bits without
its sign. Any other integer, unless it has too many digits to be converted, is reported by its
digits, at the place where they stand. Nothing is bound in either case. -/
theorem integer_text_evaluates_to_itself (value : Int) (depth : Nat) (bindings : Bindings) :
    (-2 ^ 63 < value → value ≤ 2 ^ 63 - 1 →
      (runText depth bindings (Text.integerText value)).result = .ok (.int value) ∧
      (runText depth bindings (Text.integerText value)).bindings = bindings) ∧
    (2 ^ 63 - 1 < value.natAbs → (Nat.toDigits 10 value.natAbs).length ≤ 4300 →
      ∃ issue,
        (runText depth bindings (Text.integerText value)).result = .error (.issue issue) ∧
        (runText depth bindings (Text.integerText value)).bindings = bindings ∧
        issue.fault.title = "VectaSyntaxError" ∧
        issue.fault.detail = .ok ("bad character '" ++ Nat.repr value.natAbs ++ "'") ∧
        issue.span.start = (if value < 0 then 1 else 0) ∧
        issue.span.stop = (Text.integerText value).utf8ByteSize ∧
        byteSlice (Text.integerText value) issue.span.start issue.span.stop =
          (Nat.repr value.natAbs).toUTF8) := by
  constructor
  · intro lower upper
    have small : value.natAbs ≤ Word.largest := by
      unfold Word.largest
      omega
    have fits : Word.Fits value := ⟨by omega, by omega⟩
    obtain ⟨result, unchanged⟩ := run_text_read (integer_text_is_read small) depth bindings
    rw [Evaluation.exact_tree_evaluates depth (integer_tree_denotes small),
      Word.wrap_of_fits fits] at result unchanged
    exact ⟨result, unchanged⟩
  · intro large short
    have reported := large_number_is_reported (comes_to_integer value) short (by
      rw [Nat.ofDigitChars_ten_toDigits]
      exact large)
    have unread : parseText (Text.integerText value) = .error (.issue
        (Lexeme.badToken (Nat.toDigits 10 value.natAbs) (Place.after (signText value))
          (Place.after (signText value ++ Nat.toDigits 10 value.natAbs))).badCharacter) := by
      unfold parseText
      rw [reported]
    obtain ⟨result, unchanged⟩ := run_text_unread unread depth bindings
    refine ⟨_, result, unchanged, rfl, rfl, ?_, ?_, ?_⟩
    · change ((Place.after (signText value)).offset : Int) = _
      unfold signText
      split_ifs <;> rfl
    · rw [integer_text_shape]
      rfl
    · have shape : (Text.integerText value).toList =
          signText value ++ Nat.toDigits 10 value.natAbs ++ [] := by
        rw [integer_text_shape, String.toList_ofList, List.append_nil]
      exact slice_of_part shape rfl rfl

/-- The two words at the negative end of the range: one is read, and the other is reported from its
first digit on. -/
theorem lowest_words_are_told_apart :
    (runText 0 .empty (Text.integerText (-9223372036854775807))).result =
      .ok (.int (-9223372036854775807)) ∧
    ∃ issue, (runText 0 .empty (Text.integerText (-9223372036854775808))).result =
        .error (.issue issue) ∧
      issue.fault.detail = .ok "bad character '9223372036854775808'" ∧
      issue.span.start = 1 ∧ issue.span.stop = 20 := by
  obtain ⟨evaluates, _⟩ := integer_text_evaluates_to_itself (-9223372036854775807) 0 .empty
  obtain ⟨_, reports⟩ := integer_text_evaluates_to_itself (-9223372036854775808) 0 .empty
  obtain ⟨issue, result, _, _, detail, start, stop, _⟩ := reports (by decide) (by decide)
  exact ⟨(evaluates (by decide) (by decide)).1, issue, result, detail, start, stop⟩

end VectorCalc

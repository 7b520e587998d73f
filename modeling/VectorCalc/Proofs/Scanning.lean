import VectorCalc.Proofs.Tokens

/-!
Scanning told from the text. A source that is reached by reading is a text divided in two, and its
place is what counting the characters, bytes and lines of the first half gives. A scan takes the
text apart into spaces and lexemes from left to right, with a token for each lexeme; it ends with
the text or at a lexeme that cannot be converted. Nothing is said here about which lexemes there
are, only that one is a part of the text that is cut off at its head.
-/
namespace VectorCalc

set_option autoImplicit false

namespace Place

/-- The place after a text, found by counting. The column counts the characters since the last line
feed. -/
def after (before : List Char) : Place where
  index := before.length
  offset := (String.ofList before).utf8ByteSize
  line := before.count '\n'
  column := (before.reverse.takeWhile (· ≠ '\n')).length

theorem after_step (before : List Char) (character : Char) :
    after (before ++ [character]) = (after before).step character := by
  have bytes : (String.ofList (before ++ [character])).utf8ByteSize =
      (String.ofList before).utf8ByteSize + character.utf8Size := by
    simp
  unfold after step
  rw [bytes]
  by_cases newline : character = '\n'
  · simp [newline]
  · simp [newline]

end Place

namespace Source

def divided (before rest : List Char) : Source :=
  ⟨before.reverse, rest, Place.after before⟩

theorem of_text_divided (text : String) : ofText text = divided [] text.toList := by
  rfl

theorem advance_divided (before taken rest : List Char) :
    (divided before (taken ++ rest)).advance taken.length = divided (before ++ taken) rest := by
  induction taken generalizing before with
  | nil =>
      rw [List.append_nil]
      rfl
  | cons character taken induction =>
      have later := induction (before ++ [character])
      rw [List.append_assoc, List.singleton_append] at later
      rw [← later]
      unfold divided
      rw [Place.after_step, List.reverse_append]
      rfl

theorem skip_spaces_divided (before gap : List Char) {rest : List Char}
    (spaces : ∀ character ∈ gap, isSpace character = true)
    (stops : ∀ character ∈ rest.head?, isSpace character = false) :
    (divided before (gap ++ rest)).skipSpaces = divided (before ++ gap) rest := by
  have taken : (gap ++ rest).takeWhile isSpace = gap := by
    rw [List.takeWhile_append_of_pos spaces]
    cases rest with
    | nil => simp
    | cons character rest => simp [stops character rfl]
  unfold skipSpaces
  change (divided before (gap ++ rest)).advance ((gap ++ rest).takeWhile isSpace).length = _
  rw [taken, advance_divided]

end Source

namespace Lexeme

theorem fraction_after_some {text fraction : List Char}
    (found : fractionAfter? text = some fraction) :
    ∃ digit more, digit.isDigit = true ∧ text = '.' :: digit :: more ∧
      fraction = digit :: more.takeWhile Char.isDigit := by
  unfold fractionAfter? at found
  split at found
  · next digit more =>
      split_ifs at found with isDigit
      cases found
      exact ⟨digit, more, isDigit, rfl, rfl⟩
  · cases found

theorem numeral_prefix (first : Char) (others : List Char) :
    (numeral first others).text <+: first :: others := by
  unfold numeral
  dsimp only
  cases found : fractionAfter? (others.dropWhile Char.isDigit) with
  | none => exact (List.prefix_cons_inj first).mpr (List.takeWhile_prefix _)
  | some fraction =>
      obtain ⟨digit, more, _, shape, same⟩ := fraction_after_some found
      refine ⟨more.dropWhile Char.isDigit, ?_⟩
      calc first :: others.takeWhile Char.isDigit ++ '.' :: fraction ++ more.dropWhile Char.isDigit
          = first :: (others.takeWhile Char.isDigit ++ others.dropWhile Char.isDigit) := by
            rw [shape, same]
            simp
        _ = first :: others := by rw [List.takeWhile_append_dropWhile]

theorem symbol_prefix (first : Char) (others : List Char) :
    (symbol first others).text <+: first :: others := by
  have single : [first] <+: first :: others := ⟨others, rfl⟩
  unfold symbol
  dsimp only
  split
  · next second more =>
      split
      · exact ⟨more, rfl⟩
      · split <;> exact single
  · split <;> exact single

theorem cut_prefix {text : List Char} {lexeme : Lexeme} (cut : cut? text = some lexeme) :
    lexeme.text <+: text := by
  cases text with
  | nil => cases cut
  | cons first others =>
      simp only [cut?] at cut
      split_ifs at cut
      · cases cut
        exact (List.prefix_cons_inj first).mpr (List.takeWhile_prefix _)
      · cases cut
        exact (List.prefix_cons_inj first).mpr (List.takeWhile_prefix _)
      · cases cut
        exact numeral_prefix first others
      · cases cut
        exact symbol_prefix first others

end Lexeme

/-- The scan of `rest` after the text `before`: its steps, and why it is broken off if it is. -/
inductive Scans : List Char → List Char → List (Token × Source) → Option Breakdown → Prop where
  | ended {before gap : List Char} (spaces : ∀ character ∈ gap, isSpace character = true) :
      Scans before gap
        [(⟨.fileEnd, .none, (Place.after (before ++ gap)).spanTo (Place.after (before ++ gap))⟩,
          Source.divided (before ++ gap) [])] none
  | token {before gap rest : List Char} {lexeme : Lexeme} {token : Token}
      {steps : List (Token × Source)} {broken : Option Breakdown}
      (spaces : ∀ character ∈ gap, isSpace character = true)
      (stops : ∀ character ∈ (lexeme.text ++ rest).head?, isSpace character = false)
      (cut : Lexeme.cut? (lexeme.text ++ rest) = some lexeme)
      (made : lexeme.token (Place.after (before ++ gap))
        (Place.after (before ++ gap ++ lexeme.text)) = .ok token)
      (others : Scans (before ++ gap ++ lexeme.text) rest steps broken) :
      Scans before (gap ++ (lexeme.text ++ rest))
        ((token, Source.divided (before ++ gap ++ lexeme.text) rest) :: steps) broken
  | broken {before gap rest : List Char} {lexeme : Lexeme} {breakdown : Breakdown}
      (spaces : ∀ character ∈ gap, isSpace character = true)
      (stops : ∀ character ∈ (lexeme.text ++ rest).head?, isSpace character = false)
      (cut : Lexeme.cut? (lexeme.text ++ rest) = some lexeme)
      (failed : lexeme.token (Place.after (before ++ gap))
        (Place.after (before ++ gap ++ lexeme.text)) = .error breakdown) :
      Scans before (gap ++ (lexeme.text ++ rest)) [] (some breakdown)

namespace Source

theorem next_token_divided (before gap : List Char) {rest : List Char} {lexeme : Lexeme}
    (spaces : ∀ character ∈ gap, isSpace character = true)
    (stops : ∀ character ∈ (lexeme.text ++ rest).head?, isSpace character = false)
    (cut : Lexeme.cut? (lexeme.text ++ rest) = some lexeme) :
    (divided before (gap ++ (lexeme.text ++ rest))).nextToken =
      match lexeme.token (Place.after (before ++ gap))
        (Place.after (before ++ gap ++ lexeme.text)) with
      | .ok token => .ok (token, divided (before ++ gap ++ lexeme.text) rest)
      | .error breakdown => .error breakdown := by
  have ahead : (divided (before ++ gap) (lexeme.text ++ rest)).rest = lexeme.text ++ rest := rfl
  unfold nextToken
  dsimp only
  rw [skip_spaces_divided before gap spaces stops, ahead, cut]
  dsimp only
  rw [advance_divided]
  rfl

theorem next_token_at_end (before gap : List Char)
    (spaces : ∀ character ∈ gap, isSpace character = true) :
    (divided before gap).nextToken =
      .ok (⟨.fileEnd, .none, (Place.after (before ++ gap)).spanTo (Place.after (before ++ gap))⟩,
        divided (before ++ gap) []) := by
  have skipped := skip_spaces_divided before gap spaces
    (by simp : ∀ character ∈ ([] : List Char).head?, isSpace character = false)
  rw [List.append_nil] at skipped
  unfold nextToken
  dsimp only
  rw [skipped]
  rfl

/-- A bound above the length of the text is never the reason to stop. -/
theorem scan_within_divided (bound : Nat) (before rest : List Char)
    (enough : rest.length < bound) :
    Scans before rest (scanWithin bound (divided before rest)).steps
      (scanWithin bound (divided before rest)).broken := by
  induction bound generalizing before rest with
  | zero => omega
  | succ bound induction =>
      have split : rest = rest.takeWhile isSpace ++ rest.dropWhile isSpace :=
        List.takeWhile_append_dropWhile.symm
      have spaces : ∀ character ∈ rest.takeWhile isSpace, isSpace character = true :=
        fun character member => List.all_eq_true.mp List.all_takeWhile character member
      have stops : ∀ character ∈ (rest.dropWhile isSpace).head?, isSpace character = false := by
        intro character member
        have stopped := List.head?_dropWhile_not isSpace rest
        rw [Option.mem_def.mp member] at stopped
        simpa using stopped
      generalize rest.takeWhile isSpace = gap at split spaces
      generalize rest.dropWhile isSpace = solid at split stops
      subst split
      cases cut : Lexeme.cut? solid with
      | none =>
          have empty : solid = [] := by
            cases solid with
            | nil => rfl
            | cons first others =>
                simp only [Lexeme.cut?] at cut
                split_ifs at cut
          subst empty
          rw [List.append_nil]
          unfold scanWithin
          rw [next_token_at_end before gap spaces]
          exact .ended spaces
      | some lexeme =>
          obtain ⟨more, shape⟩ := Lexeme.cut_prefix cut
          subst shape
          have next := next_token_divided before gap spaces stops cut
          have nonempty := List.length_pos_iff.mpr (Lexeme.cut_sound cut).1
          unfold scanWithin
          rw [next]
          cases made : lexeme.token (Place.after (before ++ gap))
              (Place.after (before ++ gap ++ lexeme.text)) with
          | error breakdown => exact .broken spaces stops cut made
          | ok token =>
              have going := (Lexeme.token_sound (Lexeme.cut_sound cut) made).2
              have later := induction (before ++ gap ++ lexeme.text) more (by
                simp only [List.length_append] at enough
                omega)
              dsimp only
              rw [if_neg going]
              exact .token spaces stops cut made later

theorem scan_of_text (text : String) :
    Scans [] text.toList (ofText text).scan.steps (ofText text).scan.broken := by
  rw [of_text_divided]
  exact scan_within_divided _ [] text.toList (Nat.lt_succ_self _)

end Source

end VectorCalc

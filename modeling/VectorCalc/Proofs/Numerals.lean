import VectorCalc.Proofs.Separation
import VectorCalc.Proofs.Spelling

/-!
What becomes of a whole number that reading comes to. Its value decides: it is a token up to the
largest word, and beyond that it is shown as a bad character. But digits are converted before they
are compared, and conversion takes a limited number of them, so a longer run of digits breaks
reading off without a diagnostic. This is the only way in which a text is neither read nor
reported, and the value has no part in it: zeros in front count.

Reading is followed token by token. As long as every token is good, the rest of the text is scanned
as if its tokens came right after those that have been read.
-/
namespace VectorCalc

set_option autoImplicit false

/-- Reading the text has given these tokens, all of them good, and has come to this source. -/
inductive Reached (text : String) : List Token → Source → Prop where
  | start : Reached text [] (Source.ofText text)
  | token {tokens : List Token} {source after : Source} {token : Token}
      (reached : Reached text tokens source) (read : source.nextToken = .ok (token, after))
      (good : token.kind ≠ .bad) (going : token.kind ≠ .fileEnd) :
      Reached text (tokens ++ [token]) after

/-- The digits stand after the text `before`, reading comes to them after the tokens, and they are
taken as a number without a fraction. -/
structure ComesTo (text : String) (tokens : List Token) (before digits rest : List Char) :
    Prop where
  reached : ∃ front gap, before = front ++ gap ∧
    (∀ character ∈ gap, character ∈ [' ', '\t', '\r', '\x0c']) ∧
    Reached text tokens (Source.divided front (gap ++ (digits ++ rest)))
  taken : ∃ payload, LongestMatch (digits ++ rest) digits .int payload

theorem some_scan (before rest : List Char) : ∃ steps broken, Scans before rest steps broken :=
  ⟨_, _, Source.scan_within_divided (rest.length + 1) before rest (Nat.lt_succ_self _)⟩

theorem scan_starts (before rest : List Char) :
    match (Source.divided before rest).nextToken with
    | .error breakdown => Scans before rest [] (some breakdown)
    | .ok (token, after) => token.kind = .fileEnd ∨
        ∃ later more, after = Source.divided later more ∧
          ∀ steps broken, Scans later more steps broken →
            Scans before rest ((token, after) :: steps) broken := by
  obtain ⟨steps, broken, scans⟩ := some_scan before rest
  cases scans with
  | ended spaces =>
      rw [Source.next_token_at_end _ _ spaces]
      exact .inl rfl
  | token spaces stops cut made _ =>
      rw [Source.next_token_divided _ _ spaces stops cut, made]
      exact .inr ⟨_, _, rfl, fun _ _ others => .token spaces stops cut made others⟩
  | broken spaces stops cut failed =>
      rw [Source.next_token_divided _ _ spaces stops cut, failed]
      exact .broken spaces stops cut failed

theorem read_scans {before rest : List Char} {token : Token} {after : Source}
    (read : (Source.divided before rest).nextToken = .ok (token, after))
    (going : token.kind ≠ .fileEnd) :
    ∃ later more, after = Source.divided later more ∧
      ∀ steps broken, Scans later more steps broken →
        Scans before rest ((token, after) :: steps) broken := by
  have starts := scan_starts before rest
  rw [read] at starts
  exact starts.resolve_left going

theorem reached_scans {text : String} {tokens : List Token} {source : Source}
    (reached : Reached text tokens source) :
    ∃ before rest, source = Source.divided before rest ∧
      ∀ steps broken, Scans before rest steps broken →
        ∃ front, front.map Prod.fst = tokens ∧ Scans [] text.toList (front ++ steps) broken := by
  induction reached with
  | start => exact ⟨[], text.toList, rfl, fun _ _ scans => ⟨[], rfl, scans⟩⟩
  | @token tokens source after token _ read _ going induction =>
      -- What follows the new token follows, with it, the tokens before it.
      obtain ⟨before, rest, divided, added⟩ := induction
      rw [divided] at read
      obtain ⟨later, more, place, one⟩ := read_scans read going
      refine ⟨later, more, place, ?_⟩
      intro steps broken scans
      obtain ⟨front, same, whole⟩ := added _ _ (one steps broken scans)
      refine ⟨front ++ [(token, after)], ?_, ?_⟩
      · rw [List.map_append, same]
        rfl
      · rw [List.append_assoc]
        exact whole

theorem reached_good {text : String} {tokens : List Token} {source : Source}
    (reached : Reached text tokens source) :
    tokens.find? (fun token => token.kind = .bad) = none := by
  induction reached with
  | start => rfl
  | token _ _ good _ induction => simp [List.find?_append, induction, good]

theorem tokenize_reached {text : String} {tokens : List Token} {before rest : List Char}
    (reached : Reached text tokens (Source.divided before rest)) {steps : List (Token × Source)}
    {broken : Option Breakdown} (scans : Scans before rest steps broken) :
    tokenize text = gathered (tokens ++ steps.map Prod.fst) broken := by
  obtain ⟨otherBefore, otherRest, same, added⟩ := reached_scans reached
  have first : before = otherBefore := List.reverse_inj.mp (congrArg Source.consumed same)
  have second : rest = otherRest := congrArg Source.rest same
  subst first second
  obtain ⟨front, shape, whole⟩ := added steps broken scans
  rw [tokenize_of_scans whole, List.map_append, shape]

theorem reached_tokens_come_first {text : String} {tokens all : List Token} {source : Source}
    (reached : Reached text tokens source) (read : tokenize text = .ok all) : tokens <+: all := by
  obtain ⟨before, rest, same, _⟩ := reached_scans reached
  obtain ⟨steps, broken, scans⟩ := some_scan before rest
  rw [same] at reached
  rw [tokenize_reached reached scans] at read
  rw [(gathered_ok read).1]
  exact List.prefix_append _ _

theorem cut_of_whole {digits rest : List Char} {payload : Payload}
    (taken : LongestMatch (digits ++ rest) digits .int payload) :
    Lexeme.cut? (digits ++ rest) = some ⟨.whole, digits⟩ := by
  obtain ⟨lexeme, cut⟩ := classified_is_cut taken.classified rest
  rw [cut]
  cases Lexeme.cut_matches cut with
  | token other number _ _ => exact absurd (longest_match_unique other taken).2.1 number
  | whole other => rw [(longest_match_unique other taken).1]
  | stray _ unmatched => exact absurd taken.head (unmatched taken.classified)

theorem integer_token_long {digits : List Char} (first last : Place)
    (long : digitLimit < digits.length) :
    Lexeme.integerToken digits first last = .error (.literalTooLong digits.length) := by
  unfold Lexeme.integerToken
  rw [if_pos long]

section Arrival

variable {text : String} {tokens : List Token} {before digits rest : List Char}

theorem next_at_number (comes : ComesTo text tokens before digits rest) :
    ∃ front ahead, Reached text tokens (Source.divided front ahead) ∧
      (Source.divided front ahead).nextToken =
        match Lexeme.integerToken digits (Place.after before) (Place.after (before ++ digits)) with
        | .ok token => .ok (token, Source.divided (before ++ digits) rest)
        | .error breakdown => .error breakdown := by
  obtain ⟨⟨front, gap, shape, blanks, reached⟩, payload, taken⟩ := comes
  have spaces : ∀ character ∈ gap, isSpace character = true :=
    fun character member => (blank_iff character).mp (blanks character member)
  have cut : Lexeme.cut? ((Lexeme.mk .whole digits).text ++ rest) = some ⟨.whole, digits⟩ :=
    cut_of_whole taken
  have next := Source.next_token_divided front gap spaces
    (classified_starts taken.classified rest) cut
  rw [← shape] at next
  exact ⟨front, gap ++ (digits ++ rest), reached, next⟩

/-- Too many digits break reading off. -/
theorem long_number_breaks (comes : ComesTo text tokens before digits rest)
    (long : digitLimit < digits.length) :
    tokenize text = .error (.broken (.literalTooLong digits.length)) := by
  obtain ⟨front, ahead, reached, next⟩ := next_at_number comes
  have scans := scan_starts front ahead
  rw [next, integer_token_long _ _ long] at scans
  rw [tokenize_reached reached scans, List.map_nil, List.append_nil]
  unfold gathered
  rw [reached_good reached]

/-- A number beyond the largest word is reported, digits and all. -/
theorem large_number_is_reported (comes : ComesTo text tokens before digits rest)
    (short : digits.length ≤ digitLimit) (large : Word.largest < Nat.ofDigitChars 10 digits 0) :
    tokenize text = .error (.issue ((Lexeme.badToken digits (Place.after before)
      (Place.after (before ++ digits))).badCharacter)) := by
  obtain ⟨front, ahead, reached, next⟩ := next_at_number comes
  rw [integer_token_short _ _ short, if_pos large] at next
  obtain ⟨later, more, _, added⟩ := read_scans next (by simp [Lexeme.badToken])
  obtain ⟨steps, broken, scans⟩ := some_scan later more
  rw [tokenize_reached reached (added steps broken scans), List.map_cons]
  unfold gathered
  rw [List.find?_append, reached_good reached, List.find?_cons_of_pos (by simp [Lexeme.badToken])]
  rfl

theorem small_number_is_read (comes : ComesTo text tokens before digits rest)
    (short : digits.length ≤ digitLimit) (small : Nat.ofDigitChars 10 digits 0 ≤ Word.largest) :
    Reached text (tokens ++ [⟨.int, .int (Nat.ofDigitChars 10 digits 0),
        (Place.after before).spanTo (Place.after (before ++ digits))⟩])
      (Source.divided (before ++ digits) rest) := by
  obtain ⟨front, ahead, reached, next⟩ := next_at_number comes
  rw [integer_token_short _ _ short, if_neg (Nat.not_lt.mpr small)] at next
  exact .token reached next (by simp) (by simp)

end Arrival

/-- Reading that is broken off has come to a number with too many digits. -/
theorem broken_scan_comes {text : String} {tokens : List Token} {before rest : List Char}
    {steps : List (Token × Source)} {broken : Option Breakdown} {breakdown : Breakdown}
    (scans : Scans before rest steps broken) (failed : broken = some breakdown)
    (good : ∀ token ∈ steps.map Prod.fst, token.kind ≠ .bad)
    (reached : Reached text tokens (Source.divided before rest)) :
    ∃ tokens before digits rest, ComesTo text tokens before digits rest ∧
      digitLimit < digits.length := by
  induction scans generalizing tokens with
  | ended => cases failed
  | @token before gap rest lexeme token steps broken spaces stops cut made _ induction =>
      obtain ⟨goodHere, goodLater⟩ := List.forall_mem_cons.mp good
      have read := Source.next_token_divided before gap spaces stops cut
      rw [made] at read
      have going := (Lexeme.token_sound (Lexeme.cut_sound cut) made).2
      exact induction failed goodLater (.token reached read goodHere going)
  | @broken before gap rest lexeme other spaces stops cut tooLong =>
      obtain ⟨taken, long, _⟩ := Lexeme.failed_is_long cut tooLong
      have blanks := fun character member => (blank_iff character).mpr (spaces character member)
      exact ⟨tokens, before ++ gap, lexeme.text, rest,
        ⟨⟨before, gap, rfl, blanks, reached⟩, _, taken⟩, long⟩

theorem tokenize_outcomes (text : String) :
    (∃ tokens, tokenize text = .ok tokens) ∨
    (∃ lexeme span, tokenize text =
      .error (.issue ⟨.lexical ("bad character '" ++ lexeme ++ "'"), span⟩)) ∨
    ∃ tokens before digits rest, ComesTo text tokens before digits rest ∧
      digitLimit < digits.length := by
  have scans := Source.scan_of_text text
  rw [tokenize_of_scans scans]
  unfold gathered
  split
  · exact .inr (.inl ⟨_, _, rfl⟩)
  · next good =>
      -- No token is bad, so reading has come to the point at which the scan is broken off.
      cases broken : (Source.ofText text).scan.broken with
      | none => exact .inl ⟨_, rfl⟩
      | some breakdown =>
          exact .inr (.inr (broken_scan_comes scans broken (by simpa using good) .start))

/-- A text is read, or a part of it is shown as a bad character, unless reading comes to a number
with more digits than are converted. Any other number that it comes to is a token if it is at most
the largest word, and otherwise it is shown as a bad character. -/
theorem reading_breaks_off_only_at_long_numbers (text : String) :
    ((∃ tokens, tokenize text = .ok tokens) ∨
      (∃ lexeme span, tokenize text =
        .error (.issue ⟨.lexical ("bad character '" ++ lexeme ++ "'"), span⟩)) ∨
      ∃ tokens before digits rest, ComesTo text tokens before digits rest ∧
        digitLimit < digits.length) ∧
    ∀ tokens before digits rest, ComesTo text tokens before digits rest →
      (digitLimit < digits.length →
        tokenize text = .error (.broken (.literalTooLong digits.length))) ∧
      (digits.length ≤ digitLimit → Word.largest < Nat.ofDigitChars 10 digits 0 →
        ∃ span, tokenize text = .error (.issue
            ⟨.lexical ("bad character '" ++ String.ofList digits ++ "'"), span⟩) ∧
          span.start = (Place.after before).offset ∧
          span.stop = (Place.after (before ++ digits)).offset) ∧
      (digits.length ≤ digitLimit → Nat.ofDigitChars 10 digits 0 ≤ Word.largest →
        ∃ token, token.kind = .int ∧ token.payload = .int (Nat.ofDigitChars 10 digits 0) ∧
          token.Covers before digits ∧
          Reached text (tokens ++ [token]) (Source.divided (before ++ digits) rest) ∧
          ∀ all, tokenize text = .ok all → tokens ++ [token] <+: all) := by
  refine ⟨tokenize_outcomes text, ?_⟩
  intro tokens before digits rest comes
  refine ⟨long_number_breaks comes, ?_, ?_⟩
  · intro short large
    exact ⟨_, large_number_is_reported comes short large, rfl, rfl⟩
  · intro short small
    have reached := small_number_is_read comes short small
    exact ⟨_, rfl, rfl, ⟨rfl, rfl, rfl, rfl⟩, reached,
      fun all read => reached_tokens_come_first reached read⟩

theorem digits_alone {digits : List Char} (run : IsRun Char.isDigit digits) :
    LongestMatch (digits ++ []) digits .int (.int (Nat.ofDigitChars 10 digits 0)) where
  classified := .int run
  head := List.prefix_append _ _
  longest := by
    intro other kind payload _ within
    rw [List.append_nil] at within
    exact within.length_le

theorem comes_to_digits {digits : List Char} (run : IsRun Char.isDigit digits) :
    ComesTo (String.ofList digits) [] [] digits [] where
  reached := by
    refine ⟨[], [], rfl, by simp, ?_⟩
    rw [List.nil_append, List.append_nil]
    have beginning : Source.ofText (String.ofList digits) = Source.divided [] digits := by
      rw [Source.of_text_divided, String.toList_ofList]
    rw [← beginning]
    exact .start
  taken := ⟨_, digits_alone run⟩

/-- A number after two other tokens, and the first number that is too large. -/
theorem numbers_within_the_limits :
    (∃ front all, tokenize "x+007" = .ok all ∧
      ∃ token, token.payload = .int 7 ∧ front ++ [token] <+: all) ∧
    ∃ span, tokenize "9223372036854775808" =
      .error (.issue ⟨.lexical "bad character '9223372036854775808'", span⟩) := by
  have seven : IsRun Char.isDigit ['0', '0', '7'] := ⟨by simp, List.all_eq_true.mp rfl⟩
  have comes : ComesTo "x+007" [⟨.variable, .text "x", ⟨0, 1, 0, 0, 0, 1⟩⟩,
      ⟨.add, .text "+", ⟨1, 2, 0, 0, 1, 2⟩⟩] ['x', '+'] ['0', '0', '7'] [] := by
    refine ⟨⟨['x', '+'], [], rfl, by simp, ?_⟩, _, digits_alone seven⟩
    exact .token (.token .start rfl (by simp) (by simp)) rfl (by simp) (by simp)
  obtain ⟨_, _, small⟩ := (reading_breaks_off_only_at_long_numbers "x+007").2 _ _ _ _ comes
  obtain ⟨token, _, payload, _, _, first⟩ := small (by decide) (by decide)
  have large : IsRun Char.isDigit "9223372036854775808".toList :=
    ⟨by simp, List.all_eq_true.mp rfl⟩
  obtain ⟨_, reports, _⟩ := (reading_breaks_off_only_at_long_numbers _).2 _ _ _ _
    (comes_to_digits large)
  obtain ⟨span, reported, _⟩ := reports (by decide) (by decide)
  exact ⟨⟨_, _, rfl, token, payload, first _ rfl⟩, span, reported⟩

/-- One digit more than are converted. Neither a number that is too large for a word nor zero is
reported or read. -/
theorem long_number_is_not_reported :
    tokenize (String.ofList (List.replicate 4301 '9')) = .error (.broken (.literalTooLong 4301)) ∧
    tokenize (String.ofList (List.replicate 4301 '0')) = .error (.broken (.literalTooLong 4301)) ∧
    ¬∀ text, (∃ tokens, tokenize text = .ok tokens) ∨
      ∃ issue, tokenize text = .error (.issue issue) := by
  have breaks (digit : Char) (isDigit : digit.isDigit = true) :
      tokenize (String.ofList (List.replicate 4301 digit)) =
        .error (.broken (.literalTooLong 4301)) := by
    have run : IsRun Char.isDigit (List.replicate 4301 digit) :=
      replicate_is_run isDigit (by decide)
    have size : (List.replicate 4301 digit).length = 4301 := List.length_replicate
    have long : digitLimit < (List.replicate 4301 digit).length := by
      rw [size]
      decide
    rw [long_number_breaks (comes_to_digits run) long, size]
  have nines := breaks '9' (by decide)
  refine ⟨nines, breaks '0' (by decide), ?_⟩
  intro settled
  rcases settled (String.ofList (List.replicate 4301 '9')) with ⟨tokens, read⟩ | ⟨issue, reported⟩
  · rw [nines] at read
    cases read
  · rw [nines] at reported
    cases reported

end VectorCalc

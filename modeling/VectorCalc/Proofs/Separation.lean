import Mathlib.Data.List.Induction
import VectorCalc.Proofs.Nesting

/-!
Texts with a space between them. No lexeme goes on over a space and none is cut otherwise because a
space follows, so the tokens before the space are those of the first text alone. The tokens after it
are those of the second text, only that they stand further on: a place of the second text is found
by counting the first text and the space too. A first text that cannot be read hides the second one.
-/
namespace VectorCalc

set_option autoImplicit false

/-- How much further on a text stands when other text comes before it. -/
structure Shift where
  bytes : Nat
  lines : Nat
  columns : Nat

/-- The shift of what comes after the text and a space. The columns are the characters since the
last line feed. -/
def Shift.over (text : String) : Shift where
  bytes := text.utf8ByteSize + 1
  lines := text.toList.count '\n'
  columns := (text.toList.reverse.takeWhile (· ≠ '\n')).length + 1

/-- Columns start anew on every line, so only what starts on the first one is moved along it. -/
def Span.shifted (shift : Shift) (span : Span) : Span where
  start := span.start + shift.bytes
  stop := span.stop + shift.bytes
  lineStart := span.lineStart + shift.lines
  lineStop := span.lineStop + shift.lines
  columnStart := if span.lineStart = 0 then span.columnStart + shift.columns else span.columnStart
  columnStop := if span.lineStart = 0 then span.columnStop + shift.columns else span.columnStop

def Token.shifted (shift : Shift) (token : Token) : Token :=
  { token with span := token.span.shifted shift }

def Stop.shifted (shift : Shift) : Stop → Stop
  | .issue found => .issue { found with span := found.span.shifted shift }
  | .broken breakdown => .broken breakdown

def Shift.past (front : List Char) : Shift :=
  ⟨(Place.after front).offset, (Place.after front).line, (Place.after front).column⟩

theorem past_space (text : String) : Shift.past (text.toList ++ [' ']) = Shift.over text := by
  unfold Shift.past
  rw [Place.after_step]
  unfold Place.step
  rw [if_neg (by decide)]
  have size : (' ' : Char).utf8Size = 1 := by decide
  simp [Place.after, Shift.over, size]

namespace Place

theorem after_append_offset (front before : List Char) :
    (after (front ++ before)).offset = (after before).offset + (after front).offset := by
  simp [after, Nat.add_comm]

theorem after_append_line (front before : List Char) :
    (after (front ++ before)).line = (after before).line + (after front).line := by
  simp [after, Nat.add_comm]

theorem after_append_column (front before : List Char) :
    (after (front ++ before)).column =
      if (after before).line = 0 then (after before).column + (after front).column
      else (after before).column := by
  induction before using List.reverseRecOn with
  | nil => simp [after]
  | append_singleton before character induction =>
      rw [← List.append_assoc, after_step, after_step]
      unfold step
      by_cases newline : character = '\n'
      · simp [newline]
      · rw [if_neg newline, if_neg newline, induction]
        dsimp only
        split_ifs <;> omega

theorem column_shifted (front : List Char) {before place : List Char}
    (line : (after place).line = (after before).line) :
    ((after (front ++ place)).column : Int) =
      if ((after before).line : Int) = 0 then ((after place).column : Int) + (after front).column
      else (after place).column := by
  rw [after_append_column, line]
  split_ifs <;> omega

theorem span_shifted (front before part : List Char)
    (line : (after (before ++ part)).line = (after before).line) :
    (after (front ++ before)).spanTo (after (front ++ (before ++ part))) =
      ((after before).spanTo (after (before ++ part))).shifted (.past front) := by
  unfold spanTo Span.shifted Shift.past
  dsimp only
  rw [column_shifted front rfl, column_shifted front line, after_append_offset, after_append_offset,
    after_append_line, after_append_line]
  push_cast
  rfl

theorem counted_span_shifted (front before part : List Char) (count : Int) :
    Span.mk (after (front ++ before)).offset (after (front ++ (before ++ part))).offset
        (after (front ++ before)).line ((after (front ++ before)).line + count)
        (after (front ++ before)).column ((after (front ++ before)).column + count) =
      (Span.mk (after before).offset (after (before ++ part)).offset (after before).line
        ((after before).line + count) (after before).column
        ((after before).column + count)).shifted (.past front) := by
  unfold Span.shifted Shift.past
  dsimp only
  rw [column_shifted front rfl, after_append_offset, after_append_offset, after_append_line]
  push_cast
  congr 1
  · omega
  · split_ifs <;> omega

end Place

namespace Lexeme

theorem cut_on_line {lexeme : Lexeme} {rest : List Char}
    (cut : cut? (lexeme.text ++ rest) = some lexeme) (other : lexeme.kind ≠ .lineBreaks)
    (known : lexeme.kind ≠ .stray) (before : List Char) :
    (Place.after (before ++ lexeme.text)).line = (Place.after before).line := by
  refine (after_plain before ?_).1
  cases cut_matches cut with
  | stray _ _ => exact absurd rfl known
  | whole taken => exact classified_is_plain taken.classified (by simp)
  | @token _ kind payload taken _ _ _ =>
      apply classified_is_plain taken.classified
      rintro rfl
      obtain ⟨first, others, shape, decides⟩ := classified_head taken.classified
      have noLine : first ≠ '\n' := by
        rintro rfl
        rw [shape] at cut
        cases cut
        exact other rfl
      unfold HeadDecides at decides
      rw [if_neg noLine] at decides
      split_ifs at decides
      · have kinds := of_word_kind (first :: others)
        rw [← decides.2.1] at kinds
        exact absurd kinds (by decide)
      · rcases decides with ⟨_, impossible, _⟩ | ⟨_, _, _, _, _, impossible, _⟩
        · cases impossible
        · cases impossible
      · have kinds : ∀ entry ∈ fixedSymbols, entry.2 ≠ .lineEnd := by decide
        exact kinds _ ((symbol_text_iff _ _).mp decides.1) rfl

theorem token_shifted (front before : List Char) {lexeme : Lexeme} {rest : List Char}
    (cut : cut? (lexeme.text ++ rest) = some lexeme) :
    lexeme.token (Place.after (front ++ before)) (Place.after (front ++ (before ++ lexeme.text))) =
      (lexeme.token (Place.after before) (Place.after (before ++ lexeme.text))).map
        (Token.shifted (.past front)) := by
  have onLine := cut_on_line cut
  obtain ⟨kind, text⟩ := lexeme
  have good (kind : TokenKind) (payload : Payload)
      (line : (Place.after (before ++ text)).line = (Place.after before).line) :
      Token.mk kind payload ((Place.after (front ++ before)).spanTo
          (Place.after (front ++ (before ++ text)))) =
        (Token.mk kind payload ((Place.after before).spanTo
          (Place.after (before ++ text)))).shifted (.past front) :=
    congrArg (Token.mk kind payload) (Place.span_shifted front before text line)
  have bad : badToken text (Place.after (front ++ before))
        (Place.after (front ++ (before ++ text))) =
      (badToken text (Place.after before) (Place.after (before ++ text))).shifted (.past front) :=
    congrArg (Token.mk .bad _) (Place.counted_span_shifted front before text 1)
  cases kind with
  | lineBreaks =>
      exact congrArg (fun span => Except.ok (Token.mk .lineEnd _ span))
        (Place.counted_span_shifted front before text text.length)
  | whole =>
      change integerToken _ _ _ = (integerToken _ _ _).map _
      unfold integerToken
      split_ifs
      · rfl
      · dsimp only
        rw [bad, good _ _ (onLine (by simp) (by simp) before)]
        split_ifs <;> rfl
  | stray => exact congrArg Except.ok bad
  | word => exact congrArg Except.ok (good _ _ (onLine (by simp) (by simp) before))
  | fraction => exact congrArg Except.ok (good _ _ (onLine (by simp) (by simp) before))
  | symbol kind => exact congrArg Except.ok (good _ _ (onLine (by simp) (by simp) before))

theorem run_before_space (property : Char → Bool) (ends : property ' ' = false)
    (text more : List Char) :
    (text ++ ' ' :: more).takeWhile property = text.takeWhile property ∧
      (text ++ ' ' :: more).dropWhile property = text.dropWhile property ++ ' ' :: more := by
  induction text with
  | nil => simp [ends]
  | cons character text induction =>
      obtain ⟨taken, dropped⟩ := induction
      rw [List.cons_append, List.takeWhile_cons, List.takeWhile_cons, List.dropWhile_cons,
        List.dropWhile_cons, taken, dropped]
      split_ifs <;> simp

theorem fraction_before_space (text more : List Char) :
    fractionAfter? (text ++ ' ' :: more) = fractionAfter? text := by
  have space : (' ' : Char).isDigit = false := by decide
  match text with
  | [] => rfl
  | [point] =>
      by_cases same : point = '.'
      · subst same
        simp [fractionAfter?, space]
      · simp [fractionAfter?, same]
  | point :: digit :: text =>
      by_cases same : point = '.'
      · subst same
        simp only [List.cons_append, fractionAfter?]
        rw [(run_before_space Char.isDigit space text more).1]
      · simp [fractionAfter?, same]

/-- The lexeme at the head of a text does not depend on what comes after a space. -/
theorem cut_before_space {text : List Char} (nonempty : text ≠ []) (more : List Char) :
    cut? (text ++ ' ' :: more) = cut? text := by
  obtain ⟨first, others, shape⟩ := List.exists_cons_of_ne_nil nonempty
  subst shape
  have lineBreaks := (run_before_space (· == '\n') (by decide) others more).1
  have parts := (run_before_space isWordPart (by decide) others more).1
  obtain ⟨digits, afterDigits⟩ := run_before_space Char.isDigit (by decide) others more
  have pairs (first : Char) : TokenKind.ofSymbolPair? first ' ' = none := by
    unfold TokenKind.ofSymbolPair?
    split <;> simp_all
  have symbols : symbol first (others ++ ' ' :: more) = symbol first others := by
    cases others with
    | nil =>
        unfold symbol
        rw [List.nil_append]
        dsimp only
        rw [pairs]
    | cons second others => rfl
  have numerals : numeral first (others ++ ' ' :: more) = numeral first others := by
    unfold numeral
    rw [digits, afterDigits, fraction_before_space]
  simp only [List.cons_append, cut?, lineBreaks, parts, numerals, symbols]

end Lexeme

/-- A scan is not changed by what comes before its text, but for the places of its tokens. -/
theorem scan_shifted (front : List Char) {before rest : List Char} {steps : List (Token × Source)}
    {broken : Option Breakdown} (scans : Scans before rest steps broken) :
    ∃ moved, Scans (front ++ before) rest moved broken ∧
      moved.map Prod.fst = (steps.map Prod.fst).map (Token.shifted (.past front)) := by
  induction scans with
  | @ended before gap spaces =>
      refine ⟨_, .ended spaces, ?_⟩
      have ending := Place.span_shifted front (before ++ gap) [] (by rw [List.append_nil])
      rw [List.append_nil] at ending
      rw [List.append_assoc]
      exact congrArg (fun span => [Token.mk .fileEnd .none span]) ending
  | @token before gap rest lexeme token steps broken spaces stops cut made _ induction =>
      obtain ⟨moved, others, same⟩ := induction
      have here := Lexeme.token_shifted front (before ++ gap) cut
      rw [made, ← List.append_assoc, ← List.append_assoc, ← List.append_assoc] at here
      rw [← List.append_assoc, ← List.append_assoc] at others
      refine ⟨_, .token spaces stops cut here others, ?_⟩
      rw [List.map_cons, same]
      rfl
  | @broken before gap rest lexeme breakdown spaces stops cut failed =>
      have here := Lexeme.token_shifted front (before ++ gap) cut
      rw [failed, ← List.append_assoc, ← List.append_assoc, ← List.append_assoc] at here
      exact ⟨[], .broken spaces stops cut here, rfl⟩

/-- More spaces in front are skipped with the others. -/
theorem scan_after_spaces {before gap rest : List Char} {steps : List (Token × Source)}
    {broken : Option Breakdown} (spaces : ∀ character ∈ gap, isSpace character = true)
    (scans : Scans (before ++ gap) rest steps broken) :
    Scans before (gap ++ rest) steps broken := by
  have both {more : List Char} (others : ∀ character ∈ more, isSpace character = true) :
      ∀ character ∈ gap ++ more, isSpace character = true :=
    List.forall_mem_append.mpr ⟨spaces, others⟩
  cases scans with
  | ended others =>
      rw [List.append_assoc]
      exact .ended (both others)
  | token others stops cut made later =>
      rw [List.append_assoc before] at made later ⊢
      rw [← List.append_assoc gap]
      exact .token (both others) stops cut made later
  | broken others stops cut failed =>
      rw [List.append_assoc before] at failed
      rw [← List.append_assoc gap]
      exact .broken (both others) stops cut failed

theorem cut_and_more {lexeme : Lexeme} {rest : List Char}
    (stops : ∀ character ∈ (lexeme.text ++ rest).head?, isSpace character = false)
    (cut : Lexeme.cut? (lexeme.text ++ rest) = some lexeme) (more : List Char) :
    (∀ character ∈ (lexeme.text ++ (rest ++ ' ' :: more)).head?, isSpace character = false) ∧
      Lexeme.cut? (lexeme.text ++ (rest ++ ' ' :: more)) = some lexeme := by
  have nonempty : lexeme.text ++ rest ≠ [] :=
    List.append_ne_nil_of_left_ne_nil (Lexeme.cut_sound cut).1 rest
  rw [← List.append_assoc, Lexeme.cut_before_space nonempty]
  obtain ⟨first, others, shape⟩ := List.exists_cons_of_ne_nil nonempty
  rw [shape] at stops cut ⊢
  exact ⟨stops, cut⟩

/-- A text that breaks reading off breaks it off before a space, too. -/
theorem broken_scan_spaced {before rest : List Char} {steps : List (Token × Source)}
    {broken : Option Breakdown} (scans : Scans before rest steps broken) {breakdown : Breakdown}
    (failed : broken = some breakdown) (more : List Char) :
    ∃ others, Scans before (rest ++ ' ' :: more) others broken ∧
      others.map Prod.fst = steps.map Prod.fst := by
  induction scans with
  | ended => cases failed
  | @token before gap rest lexeme token steps broken spaces stops cut made _ induction =>
      obtain ⟨others, later, same⟩ := induction failed
      obtain ⟨stopsHere, cutHere⟩ := cut_and_more stops cut more
      rw [List.append_assoc gap, List.append_assoc lexeme.text]
      refine ⟨_, .token spaces stopsHere cutHere made later, ?_⟩
      rw [List.map_cons, same, List.map_cons]
  | @broken before gap rest lexeme breakdown spaces stops cut tooLong =>
      obtain ⟨stopsHere, cutHere⟩ := cut_and_more stops cut more
      rw [List.append_assoc gap, List.append_assoc lexeme.text]
      exact ⟨[], .broken spaces stopsHere cutHere tooLong, rfl⟩

/-- A text that is read to its end gives its tokens before a space, too, and reading goes on after
the space. -/
theorem whole_scan_spaced {before rest more : List Char} {steps later : List (Token × Source)}
    {broken laterBroken : Option Breakdown} (scans : Scans before rest steps broken)
    (whole : broken = none) (goesOn : Scans (before ++ (rest ++ [' '])) more later laterBroken) :
    ∃ body ending joined, steps.map Prod.fst = body ++ [ending] ∧ ending.kind = .fileEnd ∧
      Scans before (rest ++ ' ' :: more) joined laterBroken ∧
      joined.map Prod.fst = body ++ later.map Prod.fst := by
  induction scans with
  | @ended before gap spaces =>
      have blanks : ∀ character ∈ gap ++ [' '], isSpace character = true :=
        List.forall_mem_append.mpr ⟨spaces, by simp [isSpace]⟩
      have skipped := scan_after_spaces blanks goesOn
      rw [List.append_assoc] at skipped
      exact ⟨[], _, later, rfl, rfl, skipped, rfl⟩
  | @token before gap rest lexeme token steps broken spaces stops cut made _ induction =>
      have shape : before ++ (gap ++ (lexeme.text ++ rest) ++ [' ']) =
          before ++ gap ++ lexeme.text ++ (rest ++ [' ']) := by simp
      rw [shape] at goesOn
      obtain ⟨body, ending, joined, ends, kind, others, same⟩ := induction whole goesOn
      obtain ⟨stopsHere, cutHere⟩ := cut_and_more stops cut more
      rw [List.append_assoc gap, List.append_assoc lexeme.text]
      refine ⟨token :: body, ending, _, ?_, kind, .token spaces stopsHere cutHere made others, ?_⟩
      · rw [List.map_cons, ends, List.cons_append]
      · rw [List.map_cons, same, List.cons_append]
  | broken => cases whole

theorem scan_within_of_scans {before rest : List Char} {steps : List (Token × Source)}
    {broken : Option Breakdown} (scans : Scans before rest steps broken) {bound : Nat}
    (enough : rest.length < bound) :
    Source.scanWithin bound (Source.divided before rest) = ⟨steps, broken⟩ := by
  induction scans generalizing bound with
  | ended spaces =>
      obtain ⟨bound, rfl⟩ := Nat.exists_eq_add_of_lt enough
      unfold Source.scanWithin
      rw [Source.next_token_at_end _ _ spaces]
      rfl
  | @token before gap rest lexeme token steps broken spaces stops cut made _ induction =>
      have nonempty := List.length_pos_iff.mpr (Lexeme.cut_sound cut).1
      have going := (Lexeme.token_sound (Lexeme.cut_sound cut) made).2
      rw [List.length_append, List.length_append] at enough
      obtain ⟨bound, rfl⟩ : ∃ less, bound = less + 1 := ⟨bound - 1, by omega⟩
      unfold Source.scanWithin
      rw [Source.next_token_divided before gap spaces stops cut, made]
      dsimp only
      rw [if_neg going, induction (by omega)]
  | @broken before gap rest lexeme breakdown spaces stops cut failed =>
      obtain ⟨bound, rfl⟩ := Nat.exists_eq_add_of_lt enough
      unfold Source.scanWithin
      rw [Source.next_token_divided before gap spaces stops cut, failed]

theorem scan_of_scans {text : String} {steps : List (Token × Source)} {broken : Option Breakdown}
    (scans : Scans [] text.toList steps broken) : (Source.ofText text).scan = ⟨steps, broken⟩ := by
  rw [Source.of_text_divided]
  exact scan_within_of_scans scans (Nat.lt_succ_self _)

/-- What reading makes of a scan. A bad token is reported even if reading is broken off after it. -/
def gathered (tokens : List Token) (broken : Option Breakdown) : Except Stop (List Token) :=
  match tokens.find? fun token => token.kind = .bad with
  | some token => .error (.issue token.badCharacter)
  | none =>
      match broken with
      | some breakdown => .error (.broken breakdown)
      | none => .ok tokens

theorem tokenize_of_scans {text : String} {steps : List (Token × Source)}
    {broken : Option Breakdown} (scans : Scans [] text.toList steps broken) :
    tokenize text = gathered (steps.map Prod.fst) broken := by
  unfold tokenize
  rw [scan_of_scans scans]
  rfl

theorem gathered_ok {tokens others : List Token} {broken : Option Breakdown}
    (read : gathered tokens broken = .ok others) :
    others = tokens ∧ broken = none ∧
      tokens.find? (fun token => token.kind = .bad) = none := by
  unfold gathered at read
  split at read
  · cases read
  · next good =>
      cases broken with
      | some breakdown => cases read
      | none =>
          cases read
          exact ⟨rfl, rfl, good⟩

theorem gathered_at_bad {front tokens others : List Token} {broken otherBroken : Option Breakdown}
    {token : Token} (found : front.find? (fun token => token.kind = .bad) = some token) :
    gathered (front ++ tokens) broken = gathered (front ++ others) otherBroken := by
  unfold gathered
  rw [List.find?_append, List.find?_append, found]
  rfl

theorem gathered_shifted {body : List Token}
    (good : body.find? (fun token => token.kind = .bad) = none) (shift : Shift)
    (tokens : List Token) (broken : Option Breakdown) :
    gathered (body ++ tokens.map (Token.shifted shift)) broken =
      match gathered tokens broken with
      | .ok others => .ok (body ++ others.map (Token.shifted shift))
      | .error stop => .error (stop.shifted shift) := by
  have found : (body ++ tokens.map (Token.shifted shift)).find? (fun token => token.kind = .bad) =
      (tokens.find? fun token => token.kind = .bad).map (Token.shifted shift) := by
    rw [List.find?_append, good, List.find?_map]
    rfl
  unfold gathered
  rw [found]
  cases tokens.find? fun token => token.kind = .bad with
  | some token => rfl
  | none => cases broken <;> rfl

/-- Reading two texts with a space between them, if the first one is scanned to its end. -/
theorem tokenize_spaced {left : String} (whole : (Source.ofText left).scan.broken = none)
    (right : String) :
    ∃ body ending, (Source.ofText left).scan.tokens = body ++ [ending] ∧ ending.kind = .fileEnd ∧
      tokenize (left ++ " " ++ right) =
        gathered (body ++ (Source.ofText right).scan.tokens.map (Token.shifted (.over left)))
          (Source.ofText right).scan.broken := by
  have shape : (left ++ " " ++ right).toList = left.toList ++ ' ' :: right.toList := by simp
  obtain ⟨moved, goesOn, places⟩ :=
    scan_shifted (left.toList ++ [' ']) (Source.scan_of_text right)
  rw [List.append_nil] at goesOn
  rw [past_space] at places
  obtain ⟨body, ending, joined, ends, kind, scans, same⟩ :=
    whole_scan_spaced (Source.scan_of_text left) whole goesOn
  rw [← shape] at scans
  refine ⟨body, ending, ends, kind, ?_⟩
  rw [tokenize_of_scans scans, same, places]
  rfl

theorem tokenize_broken_spaced {left : String} {breakdown : Breakdown}
    (failed : (Source.ofText left).scan.broken = some breakdown) (right : String) :
    tokenize (left ++ " " ++ right) = tokenize left := by
  have shape : (left ++ " " ++ right).toList = left.toList ++ ' ' :: right.toList := by simp
  obtain ⟨others, scans, same⟩ :=
    broken_scan_spaced (Source.scan_of_text left) failed right.toList
  rw [← shape] at scans
  rw [tokenize_of_scans scans, same]
  rfl

/-- A space between two texts separates their tokens. If the first text cannot be read, reading
stops there as if there was nothing else. Otherwise its tokens come first, without the end of the
file, and then it is with the second text as if it stood alone, except that everything is shifted
by what the first text and the space take. -/
theorem space_separates_tokens (left right : String) :
    (∀ stop, tokenize left = .error stop → tokenize (left ++ " " ++ right) = .error stop) ∧
    ∀ tokens, tokenize left = .ok tokens →
      ∃ body ending, tokens = body ++ [ending] ∧ ending.kind = .fileEnd ∧
        (∀ others, tokenize right = .ok others → tokenize (left ++ " " ++ right) =
          .ok (body ++ others.map (Token.shifted (.over left)))) ∧
        ∀ stop, tokenize right = .error stop → tokenize (left ++ " " ++ right) =
          .error (stop.shifted (.over left)) := by
  have leftRead : tokenize left =
    gathered (Source.ofText left).scan.tokens (Source.ofText left).scan.broken := rfl
  have rightRead : tokenize right =
    gathered (Source.ofText right).scan.tokens (Source.ofText right).scan.broken := rfl
  cases broken : (Source.ofText left).scan.broken with
  | some breakdown =>
      rw [tokenize_broken_spaced broken right]
      refine ⟨fun stop failed => failed, ?_⟩
      intro tokens read
      rw [(tokenize_scan read).2] at broken
      cases broken
  | none =>
      obtain ⟨body, ending, ends, kind, joined⟩ := tokenize_spaced broken right
      have last : [ending].find? (fun token => token.kind = .bad) = none := by
        simp [kind]
      rw [broken, ends] at leftRead
      rw [joined]
      constructor
      · intro stop failed
        cases found : body.find? fun token => token.kind = .bad with
        | some token =>
            rw [← failed, leftRead]
            exact gathered_at_bad found
        | none =>
            unfold gathered at leftRead
            rw [List.find?_append, found, last, failed] at leftRead
            cases leftRead
      · intro tokens read
        rw [read] at leftRead
        obtain ⟨same, _, good⟩ := gathered_ok leftRead.symm
        rw [List.find?_append, Option.or_eq_none_iff] at good
        rw [gathered_shifted good.1, ← rightRead]
        refine ⟨body, ending, same, kind, ?_, ?_⟩
        · intro others readRight
          rw [readRight]
        · intro stop failed
          rw [failed]

/-- The first text ends on its second line. After it and a space there is a text of two lines, and
then one that cannot be read and that stops reading in front of the first text, too. -/
theorem second_text_is_shifted :
    ∃ tokens others body ending, tokenize "x\n12" = .ok tokens ∧ tokens = body ++ [ending] ∧
      tokenize "y\nz" = .ok others ∧
      tokenize ("x\n12" ++ " " ++ "y\nz") =
        .ok (body ++ others.map (Token.shifted ⟨5, 1, 3⟩)) ∧
      tokenize "y$" = .error (.issue ⟨.lexical "bad character '$'", ⟨1, 2, 0, 1, 1, 2⟩⟩) ∧
      tokenize ("x\n12" ++ " " ++ "y$") =
        .error (.issue ⟨.lexical "bad character '$'", ⟨6, 7, 1, 2, 4, 5⟩⟩) ∧
      tokenize ("y$" ++ " " ++ "x\n12") =
        .error (.issue ⟨.lexical "bad character '$'", ⟨1, 2, 0, 1, 1, 2⟩⟩) := by
  obtain ⟨tokens, read⟩ : ∃ tokens, tokenize "x\n12" = .ok tokens := ⟨_, rfl⟩
  obtain ⟨others, readRight⟩ : ∃ others, tokenize "y\nz" = .ok others := ⟨_, rfl⟩
  have stopped : tokenize "y$" =
      .error (.issue ⟨.lexical "bad character '$'", ⟨1, 2, 0, 1, 1, 2⟩⟩) := rfl
  obtain ⟨body, ending, shape, _, reads, _⟩ :=
    (space_separates_tokens "x\n12" "y\nz").2 tokens read
  obtain ⟨_, _, _, _, _, stops⟩ := (space_separates_tokens "x\n12" "y$").2 tokens read
  exact ⟨tokens, others, body, ending, read, shape, readRight, reads others readRight, stopped,
    stops _ stopped, (space_separates_tokens "y$" "x\n12").1 _ stopped⟩

end VectorCalc

import VectorCalc.Proofs.LongestMatch
import VectorCalc.Proofs.Nearest

/-!
Tokens tile their text. Between one token and the next there are blanks only, and the bytes of a
token spell what it carries; its line and its column are found by counting in the text before it.
All of this is an invariant of the scan: a step adds some blanks and a lexeme to the text that is
behind it, and the places are those of that text.
-/
namespace VectorCalc

set_option autoImplicit false

def byteSlice (text : String) (start stop : Int) : ByteArray :=
  text.toUTF8.extract start.toNat stop.toNat

/-- The lexeme is the payload of the token, or it denotes the number that the token carries, with a
point the double nearest to it (`Token.Spells.float_nearest`). -/
def Token.Spells (token : Token) (lexeme : List Char) : Prop :=
  match token.kind with
  | .int => IsRun Char.isDigit lexeme ∧ token.payload = .int (Nat.ofDigitChars 10 lexeme 0)
  | .float => ∃ whole fraction, IsRun Char.isDigit whole ∧ IsRun Char.isDigit fraction ∧
      lexeme = whole ++ '.' :: fraction ∧
      token.payload = .float (Decimal.ofDigits whole fraction)
  | .fileEnd => lexeme = [] ∧ token.payload = .none
  | _ => token.payload = .text (String.ofList lexeme)

structure Token.Covers (token : Token) (before lexeme : List Char) : Prop where
  start : token.span.start = (Place.after before).offset
  stop : token.span.stop = (Place.after (before ++ lexeme)).offset
  line : token.span.lineStart = (Place.after before).line
  column : token.span.columnStart = (Place.after before).column

theorem classified_spells {lexeme : List Char} {kind : TokenKind} {payload : Payload}
    (classified : Classified lexeme kind payload) (span : Span) :
    Token.Spells ⟨kind, payload, span⟩ lexeme := by
  cases classified with
  | lineBreaks run => rfl
  | float wholeRun fractionRun => exact ⟨_, _, wholeRun, fractionRun, rfl, rfl⟩
  | int run => exact ⟨run, rfl⟩
  | @word first others letter parts =>
      rw [reserved_kind]
      have kinds := of_word_kind (first :: others)
      unfold Token.Spells
      simp only [List.mem_cons, List.not_mem_nil, or_false] at kinds
      rcases kinds with same | same | same | same <;> rw [same]
  | @symbol text kind member =>
      have kinds : ∀ entry ∈ fixedSymbols,
          entry.2 ≠ .int ∧ entry.2 ≠ .float ∧ entry.2 ≠ .fileEnd := by decide
      obtain ⟨noInt, noFloat, noEnd⟩ := kinds _ member
      unfold Token.Spells
      dsimp only at *
      split
      · contradiction
      · contradiction
      · contradiction
      · rfl

theorem Token.Spells.float_nearest {token : Token} {lexeme : List Char}
    (spells : token.Spells lexeme) (kind : token.kind = .float) :
    ∃ whole fraction bits, IsRun Char.isDigit whole ∧ IsRun Char.isDigit fraction ∧
      lexeme = whole ++ '.' :: fraction ∧
      Decimal.IsNearest (Nat.ofDigitChars 10 (whole ++ fraction) 0 / 10 ^ fraction.length) bits ∧
      token.payload = .float (Decimal.signed false bits) := by
  unfold Token.Spells at spells
  rw [kind] at spells
  obtain ⟨whole, fraction, wholeRun, fractionRun, shape, payload⟩ := spells
  obtain ⟨bits, nearest, read⟩ := Decimal.of_digits_nearest whole fraction
  rw [digits_value] at nearest
  exact ⟨whole, fraction, bits, wholeRun, fractionRun, shape, nearest, by rw [payload, read]⟩

namespace Lexeme

theorem token_covers {lexeme : Lexeme} {token : Token} {before : List Char}
    (made : lexeme.token (Place.after before) (Place.after (before ++ lexeme.text)) = .ok token) :
    token.Covers before lexeme.text := by
  obtain ⟨kind, text⟩ := lexeme
  cases kind with
  | whole =>
      change integerToken _ _ _ = _ at made
      unfold integerToken at made
      dsimp only at made
      split_ifs at made
      · cases made
        exact ⟨rfl, rfl, rfl, rfl⟩
      · cases made
        exact ⟨rfl, rfl, rfl, rfl⟩
  | _ =>
      cases made
      exact ⟨rfl, rfl, rfl, rfl⟩

theorem token_spells {lexeme : Lexeme} {rest : List Char} {token : Token} {first last : Place}
    (cut : cut? (lexeme.text ++ rest) = some lexeme) (made : lexeme.token first last = .ok token) :
    token.Spells lexeme.text := by
  cases cut_matches cut with
  | token taken _ _ result =>
      obtain ⟨span, same⟩ := result first last
      rw [made] at same
      cases same
      exact classified_spells taken.classified span
  | @whole digits taken =>
      change integerToken digits _ _ = _ at made
      unfold integerToken at made
      dsimp only at made
      split_ifs at made
      · cases made
        rfl
      · cases made
        rw [digits_value]
        exact classified_spells taken.classified _
  | stray _ _ =>
      cases made
      rfl

end Lexeme

theorem offset_mono {front whole : List Char} (within : front <+: whole) :
    (Place.after front).offset ≤ (Place.after whole).offset := by
  obtain ⟨rest, shape⟩ := within
  rw [← shape]
  simp [Place.after]

theorem offset_grows (front : List Char) {part : List Char} (nonempty : part ≠ []) :
    (Place.after front).offset < (Place.after (front ++ part)).offset := by
  obtain ⟨first, others, shape⟩ := List.exists_cons_of_ne_nil nonempty
  have positive := first.utf8Size_pos
  rw [shape]
  simp [Place.after]
  omega

theorem slice_of_part {text : String} {before part rest : List Char} {start stop : Int}
    (shape : text.toList = before ++ part ++ rest) (first : start = (Place.after before).offset)
    (last : stop = (Place.after (before ++ part)).offset) :
    byteSlice text start stop = (String.ofList part).toUTF8 := by
  have whole : text = String.ofList before ++ (String.ofList part ++ String.ofList rest) := by
    rw [← String.ofList_append, ← String.ofList_append, ← List.append_assoc, ← shape,
      String.ofList_toList]
  have starts : start.toNat = (String.ofList before).toByteArray.size + 0 := by
    rw [first, String.size_toByteArray]
    rfl
  have stops : stop.toNat = (String.ofList before).toByteArray.size +
      (String.ofList part).toByteArray.size := by
    rw [last, String.size_toByteArray, String.size_toByteArray, ← String.utf8ByteSize_append,
      ← String.ofList_append]
    rfl
  unfold byteSlice
  rw [starts, stops, whole, String.toUTF8_eq_toByteArray, String.toUTF8_eq_toByteArray,
    String.toByteArray_append, String.toByteArray_append, ByteArray.extract_append_size_add]
  exact ByteArray.extract_append_eq_left rfl

structure StepCovers (before whole : List Char) (step : Token × Source)
    (front lexeme tail : List Char) : Prop where
  shape : whole = front ++ lexeme ++ tail
  later : before <+: front
  covers : step.1.Covers front lexeme
  spells : step.1.Spells lexeme
  nonempty : step.1.kind ≠ .fileEnd → lexeme ≠ []
  source : step.2 = Source.divided (front ++ lexeme) tail

theorem scan_covers {before rest : List Char} {steps : List (Token × Source)}
    {broken : Option Breakdown} (scans : Scans before rest steps broken) :
    ∀ step ∈ steps, ∃ front lexeme tail,
      StepCovers before (before ++ rest) step front lexeme tail := by
  induction scans with
  | @ended before gap spaces =>
      intro step member
      rw [List.mem_singleton.mp member]
      refine ⟨before ++ gap, [], [], by simp, List.prefix_append _ _, ?_, ⟨rfl, rfl⟩,
        fun going => absurd rfl going, by rw [List.append_nil]⟩
      exact ⟨rfl, by rw [List.append_nil]; rfl, rfl, rfl⟩
  | @token before gap rest lexeme token steps broken spaces stops cut made _ induction =>
      have shape : before ++ (gap ++ (lexeme.text ++ rest)) =
          before ++ gap ++ lexeme.text ++ rest := by simp
      intro step member
      rcases List.mem_cons.mp member with here | later
      · rw [here]
        exact ⟨before ++ gap, lexeme.text, rest, shape, List.prefix_append _ _,
          Lexeme.token_covers made, Lexeme.token_spells cut made,
          fun _ => (Lexeme.cut_sound cut).1, rfl⟩
      · obtain ⟨front, part, tail, found⟩ := induction step later
        have earlier : before <+: before ++ gap ++ lexeme.text := by
          rw [List.append_assoc]
          exact List.prefix_append _ _
        rw [shape]
        exact ⟨front, part, tail, found.shape, earlier.trans found.later, found.covers,
          found.spells, found.nonempty, found.source⟩
  | broken => simp

theorem scan_is_ordered {before rest : List Char} {steps : List (Token × Source)}
    {broken : Option Breakdown} (scans : Scans before rest steps broken) :
    (steps.map fun step => step.1.span).Pairwise fun first second => first.stop ≤ second.start := by
  induction scans with
  | ended => simp
  | @token before gap rest lexeme token steps broken spaces stops cut made others induction =>
      rw [List.map_cons, List.pairwise_cons]
      refine ⟨?_, induction⟩
      intro span member
      obtain ⟨step, inside, same⟩ := List.mem_map.mp member
      obtain ⟨front, part, tail, found⟩ := scan_covers others step inside
      have least := offset_mono found.later
      rw [← same, found.covers.start, (Lexeme.token_covers made).stop]
      omega
  | broken => simp

theorem scan_gaps {before rest : List Char} {steps : List (Token × Source)}
    {broken : Option Breakdown} (scans : Scans before rest steps broken) :
    ∀ pair : Int × Int, pair ∈ (((Place.after before).offset : Int) ::
        steps.map fun step => step.1.span.stop).zip (steps.map fun step => step.1.span.start) →
      ∃ front gap tail, before ++ rest = front ++ gap ++ tail ∧
        (∀ character ∈ gap, isSpace character = true) ∧
        pair.1 = (Place.after front).offset ∧ pair.2 = (Place.after (front ++ gap)).offset := by
  induction scans with
  | @ended before gap spaces =>
      intro pair member
      rw [List.mem_singleton.mp member]
      exact ⟨before, gap, [], by simp, spaces, rfl, rfl⟩
  | @token before gap rest lexeme token steps broken spaces stops cut made others induction =>
      have covers := Lexeme.token_covers made
      intro pair member
      rw [List.map_cons, List.map_cons, List.zip_cons_cons, covers.start, covers.stop] at member
      rcases List.mem_cons.mp member with here | later
      · rw [here]
        exact ⟨before, gap, lexeme.text ++ rest, by simp, spaces, rfl, rfl⟩
      · have shape : before ++ (gap ++ (lexeme.text ++ rest)) =
            before ++ gap ++ lexeme.text ++ rest := by simp
        rw [shape]
        exact induction pair later
  | broken => simp

theorem scan_count {before rest : List Char} {steps : List (Token × Source)}
    {broken : Option Breakdown} (scans : Scans before rest steps broken) :
    steps.length ≤ rest.length + 1 := by
  induction scans with
  | ended => simp
  | @token before gap rest lexeme token steps broken spaces stops cut made others induction =>
      have nonempty := List.length_pos_iff.mpr (Lexeme.cut_sound cut).1
      simp only [List.length_cons, List.length_append]
      omega
  | broken => simp

/-- A scan that is not broken off ends with the text. -/
theorem scan_end {before rest : List Char} {steps : List (Token × Source)}
    {broken : Option Breakdown} (scans : Scans before rest steps broken) (whole : broken = none) :
    ∃ body ending after, steps = body ++ [(ending, after)] ∧
      ending.kind = .fileEnd ∧ ending.Covers (before ++ rest) [] ∧
      ∀ step ∈ body, step.1.kind ≠ .fileEnd := by
  induction scans with
  | @ended before gap spaces =>
      exact ⟨[], _, _, rfl, rfl, ⟨rfl, by rw [List.append_nil]; rfl, rfl, rfl⟩, by simp⟩
  | @token before gap rest lexeme token steps broken spaces stops cut made others induction =>
      obtain ⟨body, ending, after, shape, kind, covers, inside⟩ := induction whole
      have same : before ++ gap ++ lexeme.text ++ rest =
          before ++ (gap ++ (lexeme.text ++ rest)) := by simp
      rw [same] at covers
      refine ⟨_ :: body, ending, after, by rw [shape, List.cons_append], kind, covers, ?_⟩
      exact List.forall_mem_cons.mpr
        ⟨(Lexeme.token_sound (Lexeme.cut_sound cut) made).2, inside⟩
  | broken => cases whole

/-- A scan is broken off only at an integer with more digits than are converted. -/
theorem scan_break {before rest : List Char} {steps : List (Token × Source)}
    {broken : Option Breakdown} (scans : Scans before rest steps broken)
    {breakdown : Breakdown} (failed : broken = some breakdown) :
    ∃ front gap digits tail payload, before ++ rest = front ++ gap ++ (digits ++ tail) ∧
      (steps.map fun step => step.1.span.stop).getLastD ((Place.after before).offset : Int) =
        (Place.after front).offset ∧
      (∀ character ∈ gap, isSpace character = true) ∧
      LongestMatch (digits ++ tail) digits .int payload ∧ digitLimit < digits.length := by
  induction scans with
  | ended => cases failed
  | @token before gap rest lexeme token steps broken spaces stops cut made others induction =>
      have covers := Lexeme.token_covers made
      obtain ⟨front, blanks, digits, tail, payload, shape, last, found⟩ := induction failed
      refine ⟨front, blanks, digits, tail, payload, ?_, ?_, found⟩
      · rw [← shape]
        simp
      · rw [List.map_cons, List.getLastD_cons, covers.stop]
        exact last
  | @broken before gap rest lexeme other spaces stops cut tooLong =>
      obtain ⟨taken, long, _⟩ := Lexeme.failed_is_long cut tooLong
      exact ⟨before, gap, lexeme.text, rest, _, by simp, rfl, spaces, taken, long⟩

theorem scan_reads {before rest : List Char} {steps : List (Token × Source)}
    {broken : Option Breakdown} (scans : Scans before rest steps broken) :
    ∀ pair ∈ (Source.divided before rest :: steps.map Prod.snd).zip steps,
      pair.1.nextToken = .ok pair.2 := by
  induction scans with
  | @ended before gap spaces =>
      intro pair member
      rw [List.mem_singleton.mp member]
      exact Source.next_token_at_end before gap spaces
  | @token before gap rest lexeme token steps broken spaces stops cut made others induction =>
      intro pair member
      rcases List.mem_cons.mp member with here | later
      · rw [here]
        dsimp only
        rw [Source.next_token_divided before gap spaces stops cut, made]
      · exact induction pair later
  | broken => simp

structure Source.Scan.Tiles (scan : Source.Scan) (text : String) : Prop where
  read : ∀ pair ∈ (Source.ofText text :: scan.steps.map Prod.snd).zip scan.steps,
    pair.1.nextToken = .ok pair.2
  placed : ∀ step ∈ scan.steps,
    step.2.place = Place.after (text.toList.take step.2.place.index)
  ordered : (scan.tokens.map Token.span).Pairwise fun first second => first.stop ≤ second.start
  nonempty : ∀ token ∈ scan.tokens, token.kind ≠ .fileEnd → token.span.start < token.span.stop
  separated : ∀ pair : Int × Int, pair ∈ ((0 : Int) ::
      scan.tokens.map fun token => token.span.stop).zip
        (scan.tokens.map fun token => token.span.start) →
    pair.1 ≤ pair.2 ∧ ∃ blanks, (∀ character ∈ blanks, character ∈ [' ', '\t', '\r', '\x0c']) ∧
      byteSlice text pair.1 pair.2 = (String.ofList blanks).toUTF8
  spelled : ∀ token ∈ scan.tokens, ∃ before lexeme, before ++ lexeme <+: text.toList ∧
    token.Covers before lexeme ∧ token.Spells lexeme ∧
    byteSlice text token.span.start token.span.stop = (String.ofList lexeme).toUTF8
  count : scan.steps.length ≤ text.length + 1

/-- The last token is the end of the file, at the end of the text, and no other one is. -/
def Source.Scan.EndsWith (scan : Source.Scan) (text : String) : Prop :=
  ∃ (body : List Token) (ending : Token), scan.tokens = body ++ [ending] ∧
    ending.kind = .fileEnd ∧ ending.span.start = text.utf8ByteSize ∧
    ending.span.stop = text.utf8ByteSize ∧
    ∀ token ∈ body, token.kind ≠ .fileEnd

/-- After the last token and some blanks there is an integer with more digits than are
converted. -/
def Source.Scan.StopsAtLongInteger (scan : Source.Scan) (text : String) : Prop :=
  ∃ before blanks digits rest payload, text.toList = before ++ blanks ++ (digits ++ rest) ∧
    (scan.tokens.map fun token => token.span.stop).getLastD 0 = (Place.after before).offset ∧
    (∀ character ∈ blanks, character ∈ [' ', '\t', '\r', '\x0c']) ∧
    LongestMatch (digits ++ rest) digits .int payload ∧ digitLimit < digits.length

theorem scan_tiles {text : String} {scan : Source.Scan}
    (scans : Scans [] text.toList scan.steps scan.broken) : scan.Tiles text where
  read := scan_reads scans
  placed := by
    intro step member
    obtain ⟨front, lexeme, tail, found⟩ := scan_covers scans step member
    have shape : text.toList = front ++ lexeme ++ tail := found.shape
    rw [found.source, shape]
    change Place.after (front ++ lexeme) =
      Place.after ((front ++ lexeme ++ tail).take (front ++ lexeme).length)
    rw [List.take_left]
  ordered := by
    have ordered := scan_is_ordered scans
    unfold Source.Scan.tokens
    rw [List.map_map]
    exact ordered
  nonempty := by
    intro token member going
    obtain ⟨step, inside, same⟩ := List.mem_map.mp member
    obtain ⟨front, lexeme, tail, found⟩ := scan_covers scans step inside
    subst same
    have grows := offset_grows front (found.nonempty going)
    rw [found.covers.start, found.covers.stop]
    omega
  separated := by
    intro pair member
    unfold Source.Scan.tokens at member
    rw [List.map_map, List.map_map] at member
    obtain ⟨front, gap, tail, shape, spaces, first, last⟩ := scan_gaps scans pair member
    have least := offset_mono (List.prefix_append front gap)
    refine ⟨by omega, gap, fun character inside => (blank_iff character).mpr
      (spaces character inside), slice_of_part shape first last⟩
  spelled := by
    intro token member
    obtain ⟨step, inside, same⟩ := List.mem_map.mp member
    obtain ⟨front, lexeme, tail, found⟩ := scan_covers scans step inside
    subst same
    have shape : text.toList = front ++ lexeme ++ tail := found.shape
    exact ⟨front, lexeme, ⟨tail, shape.symm⟩, found.covers, found.spells,
      slice_of_part shape found.covers.start found.covers.stop⟩
  count := scan_count scans

/-- The tokens of a text tile it, up to its end or to an integer that is too long to convert. -/
theorem scan_tiles_text (text : String) :
    (Source.ofText text).scan.Tiles text ∧
      (((Source.ofText text).scan.broken = none ∧ (Source.ofText text).scan.EndsWith text) ∨
        (Source.ofText text).scan.StopsAtLongInteger text) := by
  have scans := Source.scan_of_text text
  refine ⟨scan_tiles scans, ?_⟩
  cases broken : (Source.ofText text).scan.broken with
  | none =>
      obtain ⟨body, ending, after, shape, kind, covers, inside⟩ := scan_end scans broken
      have size : (Place.after ([] ++ text.toList)).offset = text.utf8ByteSize := by
        simp [Place.after]
      have start := covers.start
      have stop := covers.stop
      rw [List.append_nil, size] at stop
      rw [size] at start
      refine .inl ⟨rfl, body.map Prod.fst, ending, ?_, kind, start, stop, ?_⟩
      · unfold Source.Scan.tokens
        rw [shape, List.map_append]
        rfl
      · exact List.forall_mem_map.mpr inside
  | some breakdown =>
      obtain ⟨front, gap, digits, tail, payload, shape, last, spaces, taken, long⟩ :=
        scan_break scans broken
      refine .inr ⟨front, gap, digits, tail, payload, shape, ?_, fun character inside =>
        (blank_iff character).mpr (spaces character inside), taken, long⟩
      unfold Source.Scan.tokens
      rw [List.map_map]
      exact last

end VectorCalc

import VectorCalc.Proofs.Scanning

/-!
Tokens by longest match. The classes of tokens are given by what their texts look like, without an
order among them and without looking ahead. A text is taken apart by dropping a blank or else by
taking the longest head that belongs to a class, until nothing is left or nothing matches. Since no
two classes share a text, there is one such way through a text, and reading tokens follows it.
-/
namespace VectorCalc

set_option autoImplicit false

def fixedSymbols : List (List Char × TokenKind) :=
  [(['='], .equal), (['!', '='], .notEqual), (['<'], .less), (['>'], .greater),
    (['<', '='], .lessEqual), (['>', '='], .greaterEqual), (['+'], .add), (['-'], .subtract),
    (['*'], .multiply), (['/'], .divide), (['^'], .power), (['%'], .modulo), (['#'], .index),
    (['('], .groupOpen), ([')'], .groupClose), (['['], .vectorOpen), ([']'], .vectorClose),
    (['\x7b'], .braceOpen), (['\x7d'], .braceClose)]

def reservedWords : List (List Char × TokenKind) :=
  [(['i', 's'], .sameType), (['p', 'i'], .pi), (['i', 'n', 'f'], .infinity),
    (['i', 'n', 'f', 'i', 'n', 'i', 't', 'y'], .infinity)]

def IsRun (property : Char → Bool) (text : List Char) : Prop :=
  text ≠ [] ∧ ∀ character ∈ text, property character = true

/-- The text is one token of this kind, which carries this payload: for a numeral with a point the
double nearest to it (`Decimal.of_digits_nearest`). -/
inductive Classified : List Char → TokenKind → Payload → Prop where
  | lineBreaks {text : List Char} (run : IsRun (· == '\n') text) :
      Classified text .lineEnd (.text (String.ofList text))
  | float {whole fraction : List Char} (wholeRun : IsRun Char.isDigit whole)
      (fractionRun : IsRun Char.isDigit fraction) :
      Classified (whole ++ '.' :: fraction) .float (.float (Decimal.ofDigits whole fraction))
  | int {digits : List Char} (run : IsRun Char.isDigit digits) :
      Classified digits .int (.int (Nat.ofDigitChars 10 digits 0))
  | word {first : Char} {others : List Char} (letter : first.isAlpha = true)
      (parts : ∀ character ∈ others, character.isAlphanum = true ∨ character = '_') :
      Classified (first :: others) ((reservedWords.lookup (first :: others)).getD .variable)
        (.text (String.ofList (first :: others)))
  | symbol {text : List Char} {kind : TokenKind} (member : (text, kind) ∈ fixedSymbols) :
      Classified text kind (.text (String.ofList text))

/-- A head of the text that belongs to a class, and no longer head does. -/
structure LongestMatch (text lexeme : List Char) (kind : TokenKind) (payload : Payload) :
    Prop where
  classified : Classified lexeme kind payload
  head : lexeme <+: text
  longest : ∀ {other : List Char} {otherKind : TokenKind} {otherPayload : Payload},
    Classified other otherKind otherPayload → other <+: text → other.length ≤ lexeme.length

/-- How taking a text apart ends: with the text, at something that is no token, or at an integer
with more digits than are converted. The text before that point is given with it. -/
inductive Verdict where
  | complete
  | bad (before lexeme : List Char)
  | tooLong (before digits : List Char)

/-- The text `rest`, which follows `before`, gives these tokens, and then the verdict. -/
inductive Tokenized : List Char → List Char → List (TokenKind × Payload) → Verdict → Prop where
  | finish {before : List Char} : Tokenized before [] [(.fileEnd, .none)] .complete
  | blank {before rest : List Char} {character : Char} {marks : List (TokenKind × Payload)}
      {verdict : Verdict} (blank : character ∈ [' ', '\t', '\r', '\x0c'])
      (others : Tokenized (before ++ [character]) rest marks verdict) :
      Tokenized before (character :: rest) marks verdict
  | token {before text lexeme : List Char} {kind : TokenKind} {payload : Payload}
      {marks : List (TokenKind × Payload)} {verdict : Verdict}
      (taken : LongestMatch text lexeme kind payload)
      (small : kind = .int → lexeme.length ≤ digitLimit ∧
        Nat.ofDigitChars 10 lexeme 0 ≤ Word.largest)
      (others : Tokenized (before ++ lexeme) (text.drop lexeme.length) marks verdict) :
      Tokenized before text ((kind, payload) :: marks) verdict
  | unknown {before rest : List Char} {character : Char}
      (solid : character ∉ [' ', '\t', '\r', '\x0c'])
      (unmatched : ∀ {lexeme : List Char} {kind : TokenKind} {payload : Payload},
        Classified lexeme kind payload → ¬lexeme <+: character :: rest) :
      Tokenized before (character :: rest) [] (.bad before [character])
  | tooLarge {before text digits : List Char} {payload : Payload}
      (taken : LongestMatch text digits .int payload) (short : digits.length ≤ digitLimit)
      (large : Word.largest < Nat.ofDigitChars 10 digits 0) :
      Tokenized before text [] (.bad before digits)
  | tooLong {before text digits : List Char} {payload : Payload}
      (taken : LongestMatch text digits .int payload) (long : digitLimit < digits.length) :
      Tokenized before text [] (.tooLong before digits)

theorem digit_is_no_letter {character : Char} (digit : character.isDigit = true) :
    character.isAlpha = false := by
  change (decide ('0'.val ≤ character.val) && decide (character.val ≤ '9'.val)) = true at digit
  simp only [Bool.and_eq_true, decide_eq_true_eq] at digit
  have most : character.val.toNat ≤ 57 := digit.2
  have noUpper : ¬('A'.val ≤ character.val ∧ character.val ≤ 'Z'.val) := by
    rintro ⟨low, _⟩
    have least : 65 ≤ character.val.toNat := low
    omega
  have noLower : ¬ 'a'.val ≤ character.val := by
    intro low
    have least : 97 ≤ character.val.toNat := low
    omega
  change (decide ('A'.val ≤ character.val ∧ character.val ≤ 'Z'.val) ||
    (decide ('a'.val ≤ character.val) && decide (character.val ≤ 'z'.val))) = false
  rw [decide_eq_false noUpper, decide_eq_false noLower]
  rfl

theorem word_part_iff (character : Char) :
    isWordPart character = true ↔ character.isAlphanum = true ∨ character = '_' := by
  simp [isWordPart, Char.isAlphanum]

theorem digits_value (digits : List Char) :
    Text.digitsValue 0 digits = Nat.ofDigitChars 10 digits 0 := by
  unfold Text.digitsValue
  rw [Nat.ofDigitChars_eq_foldl]
  simp [Nat.mul_comm]

theorem reserved_kind (word : List Char) :
    (reservedWords.lookup word).getD .variable = TokenKind.ofWord word := by
  unfold TokenKind.ofWord reservedWords
  simp only [List.lookup_cons, List.lookup_nil]
  repeat' split
  all_goals simp_all

theorem of_word_kind (word : List Char) :
    TokenKind.ofWord word ∈ [.sameType, .pi, .infinity, .variable] := by
  unfold TokenKind.ofWord
  split_ifs <;> simp

def TokenKind.ofSymbolText? : List Char → Option TokenKind
  | [first] => ofSymbol? first
  | [first, second] => ofSymbolPair? first second
  | _ => none

theorem symbol_text_iff (text : List Char) (kind : TokenKind) :
    TokenKind.ofSymbolText? text = some kind ↔ (text, kind) ∈ fixedSymbols := by
  have listed : ∀ entry ∈ fixedSymbols,
      TokenKind.ofSymbolText? entry.1 = some entry.2 := by decide
  constructor
  · intro found
    unfold TokenKind.ofSymbolText? at found
    split at found
    · unfold TokenKind.ofSymbol? at found
      split at found <;> cases found <;> decide
    · unfold TokenKind.ofSymbolPair? at found
      split at found <;> cases found <;> decide
    · cases found
  · exact listed (text, kind)

/-- What belongs to a class, by its first character. -/
def HeadDecides (first : Char) (others : List Char) (kind : TokenKind) (payload : Payload) : Prop :=
  if first = '\n' then
    (∀ character ∈ others, (character == '\n') = true) ∧ kind = .lineEnd ∧
      payload = .text (String.ofList (first :: others))
  else if first.isAlpha = true then
    (∀ character ∈ others, isWordPart character = true) ∧
      kind = TokenKind.ofWord (first :: others) ∧ payload = .text (String.ofList (first :: others))
  else if first.isDigit = true then
    ((∀ character ∈ others, character.isDigit = true) ∧ kind = .int ∧
      payload = .int (Nat.ofDigitChars 10 (first :: others) 0)) ∨
    ∃ whole fraction, IsRun Char.isDigit whole ∧ IsRun Char.isDigit fraction ∧
      first :: others = whole ++ '.' :: fraction ∧ kind = .float ∧
      payload = .float (Decimal.ofDigits whole fraction)
  else
    TokenKind.ofSymbolText? (first :: others) = some kind ∧
      payload = .text (String.ofList (first :: others))

theorem digit_decides {first : Char} {others : List Char} {kind : TokenKind} {payload : Payload}
    (digit : first.isDigit = true) :
    HeadDecides first others kind payload ↔
      ((∀ character ∈ others, character.isDigit = true) ∧ kind = .int ∧
        payload = .int (Nat.ofDigitChars 10 (first :: others) 0)) ∨
      ∃ whole fraction, IsRun Char.isDigit whole ∧ IsRun Char.isDigit fraction ∧
        first :: others = whole ++ '.' :: fraction ∧ kind = .float ∧
        payload = .float (Decimal.ofDigits whole fraction) := by
  have noLine : first ≠ '\n' := by
    intro newline
    rw [newline] at digit
    cases digit
  have noLetter : ¬first.isAlpha = true := by simp [digit_is_no_letter digit]
  unfold HeadDecides
  rw [if_neg noLine, if_neg noLetter, if_pos digit]

theorem classified_head {text : List Char} {kind : TokenKind} {payload : Payload}
    (classified : Classified text kind payload) :
    ∃ first others, text = first :: others ∧ HeadDecides first others kind payload := by
  cases classified with
  | lineBreaks run =>
      obtain ⟨first, others, shape⟩ := List.exists_cons_of_ne_nil run.1
      subst shape
      obtain ⟨newline, rest⟩ := List.forall_mem_cons.mp run.2
      refine ⟨first, others, rfl, ?_⟩
      unfold HeadDecides
      rw [if_pos (by simpa using newline)]
      exact ⟨rest, rfl, rfl⟩
  | @float whole fraction wholeRun fractionRun =>
      obtain ⟨first, others, shape⟩ := List.exists_cons_of_ne_nil wholeRun.1
      have digit := wholeRun.2 first (by simp [shape])
      refine ⟨first, others ++ '.' :: fraction, by simp [shape], ?_⟩
      rw [digit_decides digit]
      exact .inr ⟨whole, fraction, wholeRun, fractionRun, by simp [shape], rfl, rfl⟩
  | int run =>
      obtain ⟨first, others, shape⟩ := List.exists_cons_of_ne_nil run.1
      subst shape
      obtain ⟨digit, rest⟩ := List.forall_mem_cons.mp run.2
      refine ⟨first, others, rfl, ?_⟩
      rw [digit_decides digit]
      exact .inl ⟨rest, rfl, rfl⟩
  | @word first others letter parts =>
      have noLine : first ≠ '\n' := by
        intro newline
        rw [newline] at letter
        cases letter
      refine ⟨first, others, rfl, ?_⟩
      unfold HeadDecides
      rw [if_neg noLine, if_pos letter]
      exact ⟨fun character member => (word_part_iff character).mpr (parts character member),
        reserved_kind _, rfl⟩
  | @symbol text kind member =>
      have plain : ∀ entry ∈ fixedSymbols, ∃ first others, entry.1 = first :: others ∧
          first ≠ '\n' ∧ first.isAlpha = false ∧ first.isDigit = false := by
        simp [fixedSymbols]
      obtain ⟨first, others, shape, noLine, noLetter, noDigit⟩ := plain _ member
      dsimp only at shape
      subst shape
      refine ⟨first, others, rfl, ?_⟩
      unfold HeadDecides
      rw [if_neg noLine, if_neg (by simp [noLetter]), if_neg (by simp [noDigit])]
      exact ⟨(symbol_text_iff _ _).mpr member, rfl⟩

theorem whole_part {whole : List Char} (run : IsRun Char.isDigit whole) (rest : List Char) :
    (whole ++ '.' :: rest).takeWhile Char.isDigit = whole ∧
      (whole ++ '.' :: rest).dropWhile Char.isDigit = '.' :: rest := by
  have point : ('.' : Char).isDigit = false := by decide
  rw [List.takeWhile_append_of_pos run.2, List.dropWhile_append_of_pos run.2]
  simp [point]

/-- A text belongs to one class only. -/
theorem classified_unique {text : List Char} {kind otherKind : TokenKind}
    {payload otherPayload : Payload} (classified : Classified text kind payload)
    (other : Classified text otherKind otherPayload) :
    kind = otherKind ∧ payload = otherPayload := by
  obtain ⟨first, others, shape, decides⟩ := classified_head classified
  obtain ⟨_, _, sameShape, otherDecides⟩ := classified_head other
  rw [shape] at sameShape
  cases sameShape
  unfold HeadDecides at decides otherDecides
  split_ifs at decides otherDecides with noLine noLetter digit
  · rw [decides.2.1, decides.2.2, otherDecides.2.1, otherDecides.2.2]
    exact ⟨rfl, rfl⟩
  · rw [decides.2.1, decides.2.2, otherDecides.2.1, otherDecides.2.2]
    exact ⟨rfl, rfl⟩
  · -- A numeral with a point has a character that is no digit.
    have pointed {whole fraction : List Char}
        (same : first :: others = whole ++ '.' :: fraction) :
        ¬∀ character ∈ others, character.isDigit = true := by
      intro digits
      have member : '.' ∈ first :: others := by simp [same]
      rcases List.mem_cons.mp member with here | later
      · rw [← here] at digit
        cases digit
      · exact absurd (digits '.' later) (by decide)
    rcases decides with ⟨digits, same, carried⟩ | ⟨whole, fraction, run, _, same, kind, carried⟩
    · rcases otherDecides with ⟨_, otherSame, otherCarried⟩ | ⟨_, _, _, _, otherSame, _⟩
      · rw [same, carried, otherSame, otherCarried]
        exact ⟨rfl, rfl⟩
      · exact absurd digits (pointed otherSame)
    · rcases otherDecides with
        ⟨digits, _⟩ | ⟨otherWhole, otherFraction, otherRun, _, otherSame, otherKind, otherCarried⟩
      · exact absurd digits (pointed same)
      · have wholes : whole = otherWhole := by
          rw [← (whole_part run fraction).1, ← same, otherSame,
            (whole_part otherRun otherFraction).1]
        subst wholes
        rw [same] at otherSame
        cases List.append_cancel_left otherSame
        rw [kind, carried, otherKind, otherCarried]
        exact ⟨rfl, rfl⟩
  · obtain ⟨found, carried⟩ := decides
    obtain ⟨otherFound, otherCarried⟩ := otherDecides
    rw [found] at otherFound
    rw [carried, otherCarried]
    exact ⟨Option.some.inj otherFound, rfl⟩

theorem longest_match_unique {text lexeme other : List Char} {kind otherKind : TokenKind}
    {payload otherPayload : Payload} (taken : LongestMatch text lexeme kind payload)
    (otherTaken : LongestMatch text other otherKind otherPayload) :
    lexeme = other ∧ kind = otherKind ∧ payload = otherPayload := by
  have same : lexeme = other := by
    have sizes : lexeme.length = other.length :=
      Nat.le_antisymm (otherTaken.longest taken.classified taken.head)
        (taken.longest otherTaken.classified otherTaken.head)
    rw [List.prefix_iff_eq_take.mp taken.head, List.prefix_iff_eq_take.mp otherTaken.head, sizes]
  subst same
  exact ⟨rfl, classified_unique taken.classified otherTaken.classified⟩

theorem blank_iff (character : Char) :
    character ∈ [' ', '\t', '\r', '\x0c'] ↔ isSpace character = true := by
  simp [isSpace, or_assoc]

theorem blank_unmatched {character : Char} (blank : character ∈ [' ', '\t', '\r', '\x0c'])
    {rest lexeme : List Char} {kind : TokenKind} {payload : Payload}
    (classified : Classified lexeme kind payload) : ¬lexeme <+: character :: rest := by
  have plain : character ≠ '\n' ∧ character.isAlpha = false ∧ character.isDigit = false ∧
      ∀ entry ∈ fixedSymbols, entry.1.head? ≠ some character := by
    simp only [List.mem_cons, List.not_mem_nil, or_false] at blank
    rcases blank with rfl | rfl | rfl | rfl <;> decide
  obtain ⟨noLine, noLetter, noDigit, noSymbol⟩ := plain
  intro head
  obtain ⟨first, others, shape, decides⟩ := classified_head classified
  rw [shape, List.cons_prefix_cons] at head
  have same := head.1
  subst same
  unfold HeadDecides at decides
  rw [if_neg noLine, if_neg (by simp [noLetter]), if_neg (by simp [noDigit])] at decides
  exact noSymbol _ ((symbol_text_iff _ _).mp decides.1) rfl

theorem nothing_unmatched {lexeme : List Char} {kind : TokenKind} {payload : Payload}
    (classified : Classified lexeme kind payload) : ¬lexeme <+: [] := by
  obtain ⟨first, others, shape, _⟩ := classified_head classified
  rw [shape]
  intro head
  cases List.prefix_nil.mp head

theorem tokenized_at_match {before text lexeme : List Char} {kind : TokenKind} {payload : Payload}
    {marks : List (TokenKind × Payload)} {verdict : Verdict}
    (taken : LongestMatch text lexeme kind payload)
    (tokenized : Tokenized before text marks verdict) :
    (∃ others, marks = (kind, payload) :: others ∧
      (kind = .int → lexeme.length ≤ digitLimit ∧ Nat.ofDigitChars 10 lexeme 0 ≤ Word.largest) ∧
      Tokenized (before ++ lexeme) (text.drop lexeme.length) others verdict) ∨
    (kind = .int ∧ lexeme.length ≤ digitLimit ∧ Word.largest < Nat.ofDigitChars 10 lexeme 0 ∧
      marks = [] ∧ verdict = .bad before lexeme) ∨
    (kind = .int ∧ digitLimit < lexeme.length ∧ marks = [] ∧ verdict = .tooLong before lexeme) := by
  cases tokenized with
  | finish => exact absurd taken.head (nothing_unmatched taken.classified)
  | blank blank _ => exact absurd taken.head (blank_unmatched blank taken.classified)
  | token otherTaken small others =>
      obtain ⟨rfl, rfl, rfl⟩ := longest_match_unique taken otherTaken
      exact .inl ⟨_, rfl, small, others⟩
  | unknown _ unmatched => exact absurd taken.head (unmatched taken.classified)
  | tooLarge otherTaken short large =>
      obtain ⟨rfl, rfl, _⟩ := longest_match_unique taken otherTaken
      exact .inr (.inl ⟨rfl, short, large, rfl, rfl⟩)
  | tooLong otherTaken long =>
      obtain ⟨rfl, rfl, _⟩ := longest_match_unique taken otherTaken
      exact .inr (.inr ⟨rfl, long, rfl, rfl⟩)

/-- There is at most one way through a text. -/
theorem tokenized_unique {before text : List Char} {marks otherMarks : List (TokenKind × Payload)}
    {verdict otherVerdict : Verdict} (tokenized : Tokenized before text marks verdict)
    (other : Tokenized before text otherMarks otherVerdict) :
    marks = otherMarks ∧ verdict = otherVerdict := by
  induction tokenized generalizing otherMarks otherVerdict with
  | finish =>
      cases other with
      | finish => exact ⟨rfl, rfl⟩
      | token taken => exact absurd taken.head (nothing_unmatched taken.classified)
      | tooLarge taken => exact absurd taken.head (nothing_unmatched taken.classified)
      | tooLong taken => exact absurd taken.head (nothing_unmatched taken.classified)
  | blank blank _ induction =>
      cases other with
      | blank _ others => exact induction others
      | token taken => exact absurd taken.head (blank_unmatched blank taken.classified)
      | unknown solid _ => exact absurd blank solid
      | tooLarge taken => exact absurd taken.head (blank_unmatched blank taken.classified)
      | tooLong taken => exact absurd taken.head (blank_unmatched blank taken.classified)
  | token taken small _ induction =>
      rcases tokenized_at_match taken other with
        ⟨others, shape, _, rest⟩ | ⟨number, _, large, _⟩ | ⟨number, long, _⟩
      · obtain ⟨same, ends⟩ := induction rest
        exact ⟨by rw [shape, same], ends⟩
      · exact absurd (small number).2 (Nat.not_le.mpr large)
      · exact absurd (small number).1 (Nat.not_le.mpr long)
  | unknown solid unmatched =>
      cases other with
      | blank blank _ => exact absurd blank solid
      | token taken => exact absurd taken.head (unmatched taken.classified)
      | unknown _ _ => exact ⟨rfl, rfl⟩
      | tooLarge taken => exact absurd taken.head (unmatched taken.classified)
      | tooLong taken => exact absurd taken.head (unmatched taken.classified)
  | tooLarge taken short large =>
      rcases tokenized_at_match taken other with
        ⟨_, _, small, _⟩ | ⟨_, _, _, none, ends⟩ | ⟨_, long, _⟩
      · exact absurd (small rfl).2 (Nat.not_le.mpr large)
      · exact ⟨none.symm, ends.symm⟩
      · exact absurd short (Nat.not_le.mpr long)
  | tooLong taken long =>
      rcases tokenized_at_match taken other with
        ⟨_, _, small, _⟩ | ⟨_, short, _⟩ | ⟨_, _, none, ends⟩
      · exact absurd (small rfl).1 (Nat.not_le.mpr long)
      · exact absurd short (Nat.not_le.mpr long)
      · exact ⟨none.symm, ends.symm⟩

theorem head_of_run {property : Char → Bool} {text head : List Char}
    (all : ∀ character ∈ head, property character = true) (within : head <+: text) :
    head.length ≤ (text.takeWhile property).length := by
  obtain ⟨rest, shape⟩ := within
  rw [← shape, List.takeWhile_append_of_pos all, List.length_append]
  omega

theorem all_in_run {property : Char → Bool} (text : List Char) :
    ∀ character ∈ text.takeWhile property, property character = true :=
  fun character member => List.all_eq_true.mp List.all_takeWhile character member

/-- It is enough to look at what the first character allows. -/
theorem longest_of_head {first : Char} {others lexeme : List Char} {kind : TokenKind}
    {payload : Payload} (classified : Classified lexeme kind payload)
    (head : lexeme <+: first :: others)
    (bounded : ∀ more otherKind otherPayload, HeadDecides first more otherKind otherPayload →
      more <+: others → more.length + 1 ≤ lexeme.length) :
    LongestMatch (first :: others) lexeme kind payload := by
  refine ⟨classified, head, ?_⟩
  intro other otherKind otherPayload otherClassified otherHead
  obtain ⟨start, more, shape, decides⟩ := classified_head otherClassified
  subst shape
  obtain ⟨same, within⟩ := List.cons_prefix_cons.mp otherHead
  subst same
  exact bounded more otherKind otherPayload decides within

namespace Lexeme

inductive Matches (text : List Char) : Lexeme → Prop where
  | token {lexeme : Lexeme} {kind : TokenKind} {payload : Payload}
      (taken : LongestMatch text lexeme.text kind payload) (other : kind ≠ .int)
      (good : kind ≠ .bad)
      (made : ∀ first last, ∃ span, lexeme.token first last = .ok ⟨kind, payload, span⟩) :
      Matches text lexeme
  | whole {digits : List Char}
      (taken : LongestMatch text digits .int (.int (Nat.ofDigitChars 10 digits 0))) :
      Matches text ⟨.whole, digits⟩
  | stray {character : Char} {rest : List Char} (shape : text = character :: rest)
      (unmatched : ∀ {lexeme : List Char} {kind : TokenKind} {payload : Payload},
        Classified lexeme kind payload → ¬lexeme <+: text) :
      Matches text ⟨.stray, [character]⟩

theorem line_breaks_match {first : Char} (others : List Char) (newline : first = '\n') :
    Matches (first :: others) ⟨.lineBreaks, first :: others.takeWhile (· == '\n')⟩ := by
  have run : IsRun (· == '\n') (first :: others.takeWhile (· == '\n')) :=
    ⟨by simp, List.forall_mem_cons.mpr ⟨by simp [newline], all_in_run others⟩⟩
  have taken := longest_of_head (.lineBreaks run)
    ((List.prefix_cons_inj first).mpr (List.takeWhile_prefix _)) (by
      intro more kind payload decides within
      unfold HeadDecides at decides
      rw [if_pos newline] at decides
      simpa using head_of_run decides.1 within)
  exact .token taken (by simp) (by simp) fun first last => ⟨_, rfl⟩

theorem word_matches {first : Char} (others : List Char) (noLine : first ≠ '\n')
    (letter : first.isAlpha = true) :
    Matches (first :: others) ⟨.word, first :: others.takeWhile isWordPart⟩ := by
  have classified := Classified.word letter
    (fun character member => (word_part_iff character).mp (all_in_run others character member))
  rw [reserved_kind] at classified
  have taken := longest_of_head classified
    ((List.prefix_cons_inj first).mpr (List.takeWhile_prefix _)) (by
      intro more kind payload decides within
      unfold HeadDecides at decides
      rw [if_neg noLine, if_pos letter] at decides
      simpa using head_of_run decides.1 within)
  have kinds : ∀ kind ∈ [TokenKind.sameType, .pi, .infinity, .variable],
      kind ≠ .int ∧ kind ≠ .bad := by decide
  obtain ⟨other, good⟩ := kinds _ (of_word_kind _)
  exact .token taken other good fun first last => ⟨_, rfl⟩

theorem float_head {text whole fraction : List Char} (wholeRun : IsRun Char.isDigit whole)
    (fractionRun : IsRun Char.isDigit fraction) (within : whole ++ '.' :: fraction <+: text) :
    text.takeWhile Char.isDigit = whole ∧
      ∃ found, fractionAfter? (text.dropWhile Char.isDigit) = some found ∧
        fraction.length ≤ found.length := by
  obtain ⟨rest, shape⟩ := within
  rw [List.append_assoc, List.cons_append] at shape
  obtain ⟨digit, more, same⟩ := List.exists_cons_of_ne_nil fractionRun.1
  obtain ⟨taken, dropped⟩ := whole_part wholeRun (fraction ++ rest)
  have isDigit := fractionRun.2 digit (by simp [same])
  have bounded := head_of_run fractionRun.2 (List.prefix_append fraction rest)
  rw [← shape]
  refine ⟨taken, (fraction ++ rest).takeWhile Char.isDigit, ?_, bounded⟩
  rw [dropped, same]
  simp [fractionAfter?, isDigit]

theorem numeral_matches {first : Char} (others : List Char) (digit : first.isDigit = true) :
    Matches (first :: others) (numeral first others) := by
  have head := numeral_prefix first others
  have taken : (first :: others).takeWhile Char.isDigit =
      first :: others.takeWhile Char.isDigit := by simp [digit]
  have dropped : (first :: others).dropWhile Char.isDigit =
      others.dropWhile Char.isDigit := by simp [digit]
  have wholeRun : IsRun Char.isDigit (first :: others.takeWhile Char.isDigit) :=
    ⟨by simp, List.forall_mem_cons.mpr ⟨digit, all_in_run others⟩⟩
  unfold numeral at head ⊢
  dsimp only at head ⊢
  cases found : fractionAfter? (others.dropWhile Char.isDigit) with
  | none =>
      rw [found] at head
      refine .whole (longest_of_head (.int wholeRun) head ?_)
      intro more kind payload decides within
      rcases (digit_decides digit).mp decides with
        ⟨digits, _⟩ | ⟨whole, fraction, run, rest, same, _⟩
      · simpa using head_of_run digits within
      · have pointed := (List.prefix_cons_inj first).mpr within
        rw [same] at pointed
        obtain ⟨_, other, otherFound, _⟩ := float_head run rest pointed
        rw [dropped, found] at otherFound
        cases otherFound
  | some fraction =>
      rw [found] at head
      obtain ⟨start, more, isDigit, _, same⟩ := fraction_after_some found
      have fractionRun : IsRun Char.isDigit fraction := by
        rw [same]
        exact ⟨by simp, List.forall_mem_cons.mpr ⟨isDigit, all_in_run more⟩⟩
      have longest := longest_of_head (.float wholeRun fractionRun) head (by
        intro more kind payload decides within
        rcases (digit_decides digit).mp decides with
          ⟨digits, _⟩ | ⟨whole, other, run, rest, same, _⟩
        · have bounded := head_of_run digits within
          simp only [List.length_append, List.length_cons]
          omega
        · have pointed := (List.prefix_cons_inj first).mpr within
          rw [same] at pointed
          obtain ⟨wholes, result, otherFound, bounded⟩ := float_head run rest pointed
          rw [dropped, found] at otherFound
          cases otherFound
          have sizes := congrArg List.length same
          rw [taken] at wholes
          rw [← wholes] at sizes
          simp only [List.length_append, List.length_cons] at sizes ⊢
          omega)
      refine .token longest (by simp) (by simp) fun place last => ⟨place.spanTo last, ?_⟩
      unfold token floatValue
      dsimp only
      rw [(whole_part wholeRun fraction).1]
      simp

theorem symbol_text_cases {first : Char} {others : List Char} {kind : TokenKind}
    (found : TokenKind.ofSymbolText? (first :: others) = some kind) :
    (others = [] ∧ TokenKind.ofSymbol? first = some kind) ∨
      ∃ second, others = [second] ∧ TokenKind.ofSymbolPair? first second = some kind := by
  match others, found with
  | [], found => exact .inl ⟨rfl, found⟩
  | [second], found => exact .inr ⟨second, rfl, found⟩

theorem symbol_without_pair {first : Char} {others : List Char}
    (noPair : ∀ second more, others = second :: more →
      TokenKind.ofSymbolPair? first second = none) :
    symbol first others = symbol first [] := by
  cases others with
  | nil => rfl
  | cons second more =>
      unfold symbol
      dsimp only
      rw [noPair second more rfl]

theorem symbol_matches {first : Char} (others : List Char) (noLine : first ≠ '\n')
    (noLetter : ¬first.isAlpha = true) (noDigit : ¬first.isDigit = true) :
    Matches (first :: others) (symbol first others) := by
  have decided {more : List Char} {kind : TokenKind} {payload : Payload}
      (decides : HeadDecides first more kind payload) :
      TokenKind.ofSymbolText? (first :: more) = some kind := by
    unfold HeadDecides at decides
    rw [if_neg noLine, if_neg noLetter, if_neg noDigit] at decides
    exact decides.1
  have fixed {text : List Char} {kind : TokenKind}
      (found : TokenKind.ofSymbolText? text = some kind) :
      kind ≠ .int ∧ kind ≠ .bad ∧ Classified text kind (.text (String.ofList text)) := by
    have member := (symbol_text_iff text kind).mp found
    have kinds : ∀ entry ∈ fixedSymbols, entry.2 ≠ .int ∧ entry.2 ≠ .bad := by decide
    exact ⟨(kinds _ member).1, (kinds _ member).2, .symbol member⟩
  -- Without a pair only the first character can be a symbol.
  have alone (noPair : ∀ second more, others = second :: more →
      TokenKind.ofSymbolPair? first second = none) :
      Matches (first :: others) (symbol first others) := by
    have single {more : List Char} {kind : TokenKind} {payload : Payload}
        (decides : HeadDecides first more kind payload) (within : more <+: others) :
        more = [] ∧ TokenKind.ofSymbol? first = some kind := by
      rcases symbol_text_cases (decided decides) with alone | ⟨second, shape, pair⟩
      · exact alone
      · obtain ⟨rest, whole⟩ := within
        rw [shape] at whole
        rw [noPair second rest whole.symm] at pair
        cases pair
    cases found : TokenKind.ofSymbol? first with
    | none =>
        rw [symbol_without_pair noPair]
        unfold symbol
        rw [found]
        refine .stray rfl ?_
        intro lexeme kind payload classified within
        obtain ⟨start, more, shape, decides⟩ := classified_head classified
        subst shape
        obtain ⟨same, inner⟩ := List.cons_prefix_cons.mp within
        subst same
        have other := (single decides inner).2
        rw [found] at other
        cases other
    | some kind =>
        obtain ⟨number, good, classified⟩ :=
          fixed (show TokenKind.ofSymbolText? [first] = some kind from found)
        rw [symbol_without_pair noPair]
        unfold symbol
        rw [found]
        refine .token (longest_of_head classified ⟨others, rfl⟩ ?_) number good
          fun place last => ⟨_, rfl⟩
        intro more otherKind otherPayload decides within
        rw [(single decides within).1]
        exact Nat.le_refl _
  cases others with
  | nil => exact alone (by simp)
  | cons second more =>
      cases found : TokenKind.ofSymbolPair? first second with
      | none =>
          apply alone
          intro other rest shape
          cases shape
          exact found
      | some kind =>
          obtain ⟨number, good, classified⟩ :=
            fixed (show TokenKind.ofSymbolText? [first, second] = some kind from found)
          unfold symbol
          dsimp only
          rw [found]
          refine .token (longest_of_head classified ⟨more, rfl⟩ ?_) number good
            fun place last => ⟨_, rfl⟩
          intro rest otherKind otherPayload decides _
          rcases symbol_text_cases (decided decides) with ⟨shape, _⟩ | ⟨other, shape, _⟩
          · simp [shape]
          · simp [shape]

theorem cut_matches {text : List Char} {lexeme : Lexeme} (cut : cut? text = some lexeme) :
    Matches text lexeme := by
  cases text with
  | nil => cases cut
  | cons first others =>
      simp only [cut?] at cut
      split_ifs at cut with newline letter digit
      · cases cut
        exact line_breaks_match others newline
      · cases cut
        exact word_matches others newline letter
      · cases cut
        exact numeral_matches others digit
      · cases cut
        exact symbol_matches others newline letter digit

/-- Only an integer with too many digits gives no token at all. -/
theorem failed_is_long {lexeme : Lexeme} {rest : List Char} {first last : Place}
    {breakdown : Breakdown} (cut : cut? (lexeme.text ++ rest) = some lexeme)
    (failed : lexeme.token first last = .error breakdown) :
    LongestMatch (lexeme.text ++ rest) lexeme.text .int
        (.int (Nat.ofDigitChars 10 lexeme.text 0)) ∧
      digitLimit < lexeme.text.length ∧ breakdown = .literalTooLong lexeme.text.length := by
  cases cut_matches cut with
  | token _ _ _ result =>
      obtain ⟨span, same⟩ := result first last
      rw [failed] at same
      cases same
  | whole taken =>
      change integerToken _ _ _ = _ at failed
      unfold integerToken at failed
      dsimp only at failed
      split_ifs at failed with long
      cases failed
      exact ⟨taken, long, rfl⟩
  | stray _ _ => cases failed

end Lexeme

def Verdict.Ends (tokens : List Token) (broken : Option Breakdown)
    (marks : List (TokenKind × Payload)) : Verdict → Prop
  | .complete => tokens.find? (fun token => token.kind = .bad) = none ∧ broken = none ∧
      tokens.map (fun token => (token.kind, token.payload)) = marks
  | .bad before lexeme => tokens.find? (fun token => token.kind = .bad) =
      some (Lexeme.badToken lexeme (Place.after before) (Place.after (before ++ lexeme)))
  | .tooLong _ digits => tokens.find? (fun token => token.kind = .bad) = none ∧
      broken = some (.literalTooLong digits.length)

theorem ends_cons {tokens : List Token} {broken : Option Breakdown}
    {marks : List (TokenKind × Payload)} {verdict : Verdict} {token : Token}
    (good : token.kind ≠ .bad) (ends : verdict.Ends tokens broken marks) :
    verdict.Ends (token :: tokens) broken ((token.kind, token.payload) :: marks) := by
  cases verdict with
  | complete =>
      obtain ⟨found, whole, same⟩ := ends
      refine ⟨?_, whole, by rw [List.map_cons, same]⟩
      rw [List.find?_cons_of_neg (by simpa using good), found]
  | bad before lexeme =>
      unfold Verdict.Ends at ends ⊢
      rw [List.find?_cons_of_neg (by simpa using good), ends]
  | tooLong before digits =>
      obtain ⟨found, long⟩ := ends
      refine ⟨?_, long⟩
      rw [List.find?_cons_of_neg (by simpa using good), found]

theorem tokenized_after_blanks {gap : List Char} {rest : List Char}
    {marks : List (TokenKind × Payload)} {verdict : Verdict}
    (spaces : ∀ character ∈ gap, isSpace character = true) (before : List Char)
    (tokenized : Tokenized (before ++ gap) rest marks verdict) :
    Tokenized before (gap ++ rest) marks verdict := by
  induction gap generalizing before with
  | nil =>
      rw [List.append_nil] at tokenized
      exact tokenized
  | cons character gap induction =>
      obtain ⟨blank, others⟩ := List.forall_mem_cons.mp spaces
      apply Tokenized.blank ((blank_iff character).mpr blank)
      apply induction others
      rw [List.append_assoc]
      exact tokenized

theorem integer_tokenized {before digits rest : List Char} {steps : List Token}
    {broken : Option Breakdown} {token : Token} {first last : Place}
    (taken : LongestMatch (digits ++ rest) digits .int (.int (Nat.ofDigitChars 10 digits 0)))
    (placed : first = Place.after before) (ended : last = Place.after (before ++ digits))
    (made : Lexeme.integerToken digits first last = .ok token)
    (others : ∃ marks verdict, Tokenized (before ++ digits) rest marks verdict ∧
      verdict.Ends steps broken marks) :
    ∃ marks verdict, Tokenized before (digits ++ rest) marks verdict ∧
      verdict.Ends (token :: steps) broken marks := by
  unfold Lexeme.integerToken at made
  split_ifs at made with long
  have short : digits.length ≤ digitLimit := Nat.le_of_not_lt long
  dsimp only at made
  rw [digits_value] at made
  split_ifs at made with large
  · cases made
    refine ⟨[], _, .tooLarge taken short large, ?_⟩
    unfold Verdict.Ends
    rw [List.find?_cons_of_pos (by simp [Lexeme.badToken]), placed, ended]
  · cases made
    obtain ⟨marks, verdict, tokenized, ends⟩ := others
    refine ⟨_, verdict, .token taken (fun _ => ⟨short, Nat.le_of_not_lt large⟩) ?_,
      ends_cons (by simp) ends⟩
    rw [List.drop_left]
    exact tokenized

theorem scan_is_tokenized {before rest : List Char} {steps : List (Token × Source)}
    {broken : Option Breakdown} (scans : Scans before rest steps broken) :
    ∃ marks verdict, Tokenized before rest marks verdict ∧
      verdict.Ends (steps.map Prod.fst) broken marks := by
  induction scans with
  | @ended before gap spaces =>
      have finished := tokenized_after_blanks spaces before .finish
      rw [List.append_nil] at finished
      exact ⟨_, .complete, finished, by simp [Verdict.Ends]⟩
  | @token before gap rest lexeme token steps broken spaces stops cut made _ induction =>
      -- The spaces go first; what is left is about the text from the lexeme on.
      suffices here : ∃ marks verdict,
          Tokenized (before ++ gap) (lexeme.text ++ rest) marks verdict ∧
            verdict.Ends (token :: steps.map Prod.fst) broken marks by
        obtain ⟨marks, verdict, tokenized, ends⟩ := here
        exact ⟨marks, verdict, tokenized_after_blanks spaces before tokenized, ends⟩
      cases Lexeme.cut_matches cut with
      | @token _ kind payload taken other good result =>
          obtain ⟨span, same⟩ := result (Place.after (before ++ gap))
            (Place.after (before ++ gap ++ lexeme.text))
          rw [made] at same
          cases same
          obtain ⟨marks, verdict, tokenized, ends⟩ := induction
          refine ⟨_, verdict, .token taken (fun number => absurd number other) ?_,
            ends_cons good ends⟩
          rw [List.drop_left]
          exact tokenized
      | whole taken => exact integer_tokenized taken rfl rfl made induction
      | @stray character _ _ unmatched =>
          have solid : character ∉ [' ', '\t', '\r', '\x0c'] := by
            rw [blank_iff, stops character rfl]
            exact Bool.false_ne_true
          cases made
          refine ⟨[], _, .unknown solid unmatched, ?_⟩
          unfold Verdict.Ends
          rw [List.find?_cons_of_pos (by simp [Lexeme.badToken])]
  | @broken before gap rest lexeme breakdown spaces stops cut failed =>
      obtain ⟨taken, long, reason⟩ := Lexeme.failed_is_long cut failed
      exact ⟨[], _, tokenized_after_blanks spaces before (.tooLong taken long), by
        simp [Verdict.Ends, reason]⟩

/-- The tokens of a text are those of taking longest matches, and reading stops where no token
matches or an integer is too large, with a diagnostic that shows what stands there. Only an integer
with more digits than are converted ends reading otherwise. -/
theorem tokenize_takes_longest_matches (text : String) :
    (∃ marks verdict, Tokenized [] text.toList marks verdict) ∧
    (∀ marks, Tokenized [] text.toList marks .complete → ∃ tokens, tokenize text = .ok tokens ∧
      tokens.map (fun token => (token.kind, token.payload)) = marks) ∧
    (∀ marks before lexeme, Tokenized [] text.toList marks (.bad before lexeme) →
      ∃ span, tokenize text = .error (.issue
          ⟨.lexical ("bad character '" ++ String.ofList lexeme ++ "'"), span⟩) ∧
        span.start = (Place.after before).offset ∧ span.lineStart = (Place.after before).line ∧
        span.columnStart = (Place.after before).column ∧
        span.stop = (Place.after (before ++ lexeme)).offset) ∧
    ∀ marks before digits, Tokenized [] text.toList marks (.tooLong before digits) →
      tokenize text = .error (.broken (.literalTooLong digits.length)) := by
  obtain ⟨marks, verdict, tokenized, ends⟩ := scan_is_tokenized (Source.scan_of_text text)
  refine ⟨⟨marks, verdict, tokenized⟩, ?_, ?_, ?_⟩
  · intro otherMarks other
    obtain ⟨rfl, rfl⟩ := tokenized_unique tokenized other
    obtain ⟨good, whole, same⟩ := ends
    refine ⟨(Source.ofText text).scan.tokens, ?_, same⟩
    unfold tokenize
    dsimp only [Source.Scan.tokens]
    rw [good, whole]
  · intro otherMarks before lexeme other
    obtain ⟨rfl, rfl⟩ := tokenized_unique tokenized other
    refine ⟨(Lexeme.badToken lexeme (Place.after before) (Place.after (before ++ lexeme))).span,
      ?_, rfl, rfl, rfl, rfl⟩
    unfold tokenize
    dsimp only [Source.Scan.tokens]
    rw [ends]
    rfl
  · intro otherMarks before digits other
    obtain ⟨rfl, rfl⟩ := tokenized_unique tokenized other
    obtain ⟨good, long⟩ := ends
    unfold tokenize
    dsimp only [Source.Scan.tokens]
    rw [good, long]

end VectorCalc

import Mathlib.Tactic.SplitIfs
import VectorCalc.Proofs.Derivation

/-!
What tokens made from text carry. An integer token carries a number of 63 bits, a float token
carries a double, and a variable carries a name that is no reserved word. The end of the file
stands once and last, and reading fails only on a bad token or on an integer with too many digits.
-/
namespace VectorCalc

set_option autoImplicit false

/-- A letter, then letters, digits and underscores, and no reserved word. -/
def IsName (name : String) : Prop :=
  ∃ first others, name.toList = first :: others ∧ first.isAlpha = true ∧
    (∀ character ∈ others, isWordPart character = true) ∧
    first :: others ∉ [['i', 's'], ['p', 'i'], ['i', 'n', 'f'],
      ['i', 'n', 'f', 'i', 'n', 'i', 't', 'y']]

def Token.Sound (token : Token) : Prop :=
  match token.kind with
  | .int => ∃ value : Nat, token.payload = .int value ∧ value ≤ Word.largest
  | .float => ∃ number, token.payload = .float number
  | .variable => ∃ name, token.payload = .text name ∧ IsName name
  | _ => True

theorem of_word_variable {word : List Char} (plain : TokenKind.ofWord word = .variable) :
    word ∉ [['i', 's'], ['p', 'i'], ['i', 'n', 'f'],
      ['i', 'n', 'f', 'i', 'n', 'i', 't', 'y']] := by
  unfold TokenKind.ofWord at plain
  split_ifs at plain
  simp_all

namespace Lexeme

def IsSymbolKind (kind : TokenKind) : Prop :=
  kind ≠ .int ∧ kind ≠ .float ∧ kind ≠ .variable ∧ kind ≠ .fileEnd

theorem symbol_kind {character : Char} {kind : TokenKind}
    (symbol : TokenKind.ofSymbol? character = some kind) : IsSymbolKind kind := by
  unfold TokenKind.ofSymbol? at symbol
  split at symbol <;> cases symbol <;> simp [IsSymbolKind]

theorem symbol_pair_kind {first second : Char} {kind : TokenKind}
    (symbol : TokenKind.ofSymbolPair? first second = some kind) : IsSymbolKind kind := by
  unfold TokenKind.ofSymbolPair? at symbol
  split at symbol <;> cases symbol <;> simp [IsSymbolKind]

def Sound (lexeme : Lexeme) : Prop :=
  lexeme.text ≠ [] ∧
    match lexeme.kind with
    | .word => ∃ first others, lexeme.text = first :: others ∧ first.isAlpha = true ∧
        ∀ character ∈ others, isWordPart character = true
    | .symbol kind => IsSymbolKind kind
    | _ => True

theorem numeral_sound (first : Char) (others : List Char) : (numeral first others).Sound := by
  unfold numeral
  dsimp only
  split <;> exact ⟨by simp, trivial⟩

theorem symbol_sound (first : Char) (others : List Char) : (symbol first others).Sound := by
  unfold symbol
  dsimp only
  split
  · split
    · next found => exact ⟨by simp, symbol_pair_kind found⟩
    · split
      · next found => exact ⟨by simp, symbol_kind found⟩
      · exact ⟨by simp, trivial⟩
  · split
    · next found => exact ⟨by simp, symbol_kind found⟩
    · exact ⟨by simp, trivial⟩

theorem cut_sound {text : List Char} {lexeme : Lexeme} (cut : cut? text = some lexeme) :
    lexeme.Sound := by
  cases text with
  | nil => cases cut
  | cons first others =>
      simp only [cut?] at cut
      split_ifs at cut with newline letter digit
      · cases cut
        exact ⟨by simp, trivial⟩
      · cases cut
        refine ⟨by simp, first, others.takeWhile isWordPart, rfl, letter, ?_⟩
        intro character member
        exact List.all_eq_true.mp List.all_takeWhile character member
      · cases cut
        exact numeral_sound first others
      · cases cut
        exact symbol_sound first others

theorem integer_token_sound {digits : List Char} {first last : Place} {token : Token}
    (made : integerToken digits first last = .ok token) :
    token.Sound ∧ token.kind ≠ .fileEnd := by
  unfold integerToken at made
  split_ifs at made with long
  dsimp only at made
  split_ifs at made with large
  · cases made
    exact ⟨trivial, by simp [badToken]⟩
  · cases made
    exact ⟨⟨_, rfl, Nat.le_of_not_lt large⟩, by simp⟩

theorem token_sound {lexeme : Lexeme} {first last : Place} {token : Token}
    (sound : lexeme.Sound) (made : lexeme.token first last = .ok token) :
    token.Sound ∧ token.kind ≠ .fileEnd := by
  obtain ⟨kind, text⟩ := lexeme
  cases kind with
  | lineBreaks =>
      cases made
      exact ⟨trivial, by simp [lineEndToken]⟩
  | word =>
      cases made
      obtain ⟨start, others, shape, letter, parts⟩ := sound.2
      dsimp only at shape
      have words : TokenKind.ofWord text = .sameType ∨ TokenKind.ofWord text = .pi ∨
          TokenKind.ofWord text = .infinity ∨ TokenKind.ofWord text = .variable := by
        unfold TokenKind.ofWord
        split_ifs <;> simp
      rcases words with same | same | same | same
      · simp [Token.Sound, same]
      · simp [Token.Sound, same]
      · simp [Token.Sound, same]
      · have free := of_word_variable same
        rw [shape] at free
        refine ⟨?_, by simp [same]⟩
        simp only [Token.Sound, same]
        exact ⟨_, rfl, start, others, by rw [String.toList_ofList, shape], letter, parts, free⟩
  | whole => exact integer_token_sound made
  | fraction =>
      cases made
      exact ⟨⟨_, rfl⟩, by simp⟩
  | symbol kind =>
      cases made
      obtain ⟨notInt, notFloat, notVariable, inside⟩ := sound.2
      refine ⟨?_, inside⟩
      unfold Token.Sound
      split
      · next same => exact absurd same notInt
      · next same => exact absurd same notFloat
      · next same => exact absurd same notVariable
      · trivial
  | stray =>
      cases made
      exact ⟨trivial, by simp [badToken]⟩

theorem token_broken {lexeme : Lexeme} {first last : Place} {breakdown : Breakdown}
    (broken : lexeme.token first last = .error breakdown) :
    ∃ digits, digitLimit < digits ∧ breakdown = .literalTooLong digits := by
  obtain ⟨kind, text⟩ := lexeme
  cases kind with
  | whole =>
      unfold token integerToken at broken
      dsimp only at broken
      split_ifs at broken with long
      cases broken
      exact ⟨_, long, rfl⟩
  | _ => cases broken

end Lexeme

namespace Source

theorem advance_rest (source : Source) (count : Nat) :
    (source.advance count).rest = source.rest.drop count := by
  induction count generalizing source with
  | zero => rfl
  | succ count induction =>
      unfold advance
      cases rest : source.rest with
      | nil => simp [rest]
      | cons character others =>
          dsimp only
          rw [induction, List.drop_succ_cons]

/-- One step: the end of the file when only spaces are left, else a token that takes a
character. -/
theorem next_token_sound {source after : Source} {token : Token}
    (read : source.nextToken = .ok (token, after)) :
    token.Sound ∧ (token.kind ≠ .fileEnd → after.rest.length < source.rest.length) := by
  unfold nextToken at read
  dsimp only at read
  cases cut : Lexeme.cut? source.skipSpaces.rest with
  | none =>
      rw [cut] at read
      cases read
      exact ⟨trivial, fun going => absurd rfl going⟩
  | some lexeme =>
      have sound := Lexeme.cut_sound cut
      rw [cut] at read
      dsimp only at read
      split at read
      · next made =>
          cases read
          refine ⟨(Lexeme.token_sound sound made).1, fun _ => ?_⟩
          have some : source.skipSpaces.rest ≠ [] := by
            intro empty
            rw [empty] at cut
            cases cut
          have positive := List.length_pos_iff.mpr some
          have taken := List.length_pos_iff.mpr sound.1
          have skipped : source.skipSpaces.rest.length ≤ source.rest.length := by
            rw [skipSpaces, advance_rest, List.length_drop]
            omega
          rw [advance_rest, List.length_drop]
          omega
      · cases read

theorem next_token_broken {source : Source} {breakdown : Breakdown}
    (broken : source.nextToken = .error breakdown) :
    ∃ digits, digitLimit < digits ∧ breakdown = .literalTooLong digits := by
  unfold nextToken at broken
  dsimp only at broken
  split at broken
  · cases broken
  · split at broken
    · cases broken
    · next failed =>
        cases broken
        exact Lexeme.token_broken failed

/-- The bound is never the reason to stop, so a scan that is not broken ends at the end of the
file. -/
theorem scan_within_sound (bound : Nat) (source : Source)
    (enough : source.rest.length < bound) :
    (∀ token ∈ (scanWithin bound source).tokens, token.Sound) ∧
      ((scanWithin bound source).broken = none → EndsOnce (scanWithin bound source).tokens) ∧
      ∀ breakdown, (scanWithin bound source).broken = some breakdown →
        ∃ digits, digitLimit < digits ∧ breakdown = .literalTooLong digits := by
  induction bound generalizing source with
  | zero => omega
  | succ bound induction =>
      unfold scanWithin
      cases read : source.nextToken with
      | error breakdown =>
          refine ⟨by simp [Scan.tokens], by simp, ?_⟩
          intro other same
          cases same
          exact next_token_broken read
      | ok step =>
          obtain ⟨token, after⟩ := step
          obtain ⟨sound, shorter⟩ := next_token_sound read
          dsimp only
          split_ifs with ended
          · refine ⟨?_, fun _ => ⟨[], token, rfl, ended, by simp⟩, by simp⟩
            simpa [Scan.tokens] using sound
          · have less := shorter ended
            obtain ⟨others, once, broken⟩ := induction after (by omega)
            refine ⟨?_, ?_, broken⟩
            · simpa [Scan.tokens] using ⟨sound, by simpa [Scan.tokens] using others⟩
            · intro whole
              obtain ⟨body, ending, shape, last, inside⟩ := once whole
              refine ⟨token :: body, ending, ?_, last, ?_⟩
              · simpa [Scan.tokens] using shape
              · exact List.forall_mem_cons.mpr ⟨ended, inside⟩

end Source

theorem tokenize_scan {text : String} {tokens : List Token} (read : tokenize text = .ok tokens) :
    (Source.ofText text).scan.tokens = tokens ∧ (Source.ofText text).scan.broken = none := by
  unfold tokenize at read
  dsimp only at read
  split at read
  · cases read
  · split at read
    · cases read
    · next whole =>
        cases read
        exact ⟨rfl, whole⟩

theorem tokenize_sound {text : String} {tokens : List Token}
    (read : tokenize text = .ok tokens) :
    EndsOnce tokens ∧ ∀ token ∈ tokens, token.Sound := by
  obtain ⟨sound, once, _⟩ := Source.scan_within_sound _ (Source.ofText text) (Nat.lt_succ_self _)
  obtain ⟨same, whole⟩ := tokenize_scan read
  rw [← same]
  exact ⟨once whole, sound⟩

theorem tokenize_fails {text : String} {stop : Stop} (failed : tokenize text = .error stop) :
    (∃ message span, stop = .issue ⟨.lexical message, span⟩) ∨
      ∃ digits, digitLimit < digits ∧ stop = .broken (.literalTooLong digits) := by
  obtain ⟨_, _, broken⟩ := Source.scan_within_sound _ (Source.ofText text) (Nat.lt_succ_self _)
  unfold tokenize at failed
  dsimp only at failed
  split at failed
  · cases failed
    exact .inl ⟨_, _, rfl⟩
  · split at failed
    · next breakdown found =>
        cases failed
        obtain ⟨digits, long, same⟩ := broken breakdown found
        exact .inr ⟨digits, long, by rw [same]⟩
    · cases failed

end VectorCalc

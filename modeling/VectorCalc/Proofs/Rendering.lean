import VectorCalc.Proofs.Separation
import VectorCalc.Proofs.Spelling

/-!
Tokens written with single spaces between them. A sign is a token that has a text of its own: a
number, a name, a symbol or a reserved word, or a run of line feeds. Its text alone is read as that
token and nothing else, and a space keeps it apart from the next one. So whatever signs are written
side by side, reading gives them back in order, with what they carry.
-/
namespace VectorCalc

set_option autoImplicit false

inductive Sign where
  | number (value : Nat) (small : value ≤ Word.largest)
  | name (word : String) (named : IsName word)
  /-- Two reserved words are of one kind, so the text is given with it. -/
  | fixed (text : List Char) (kind : TokenKind)
      (listed : (text, kind) ∈ fixedSymbols ++ reservedWords)
  | lineBreaks (count : Nat) (some : 0 < count)

namespace Sign

/-- How a sign is written, and which token it is. Only a number carries something else than its
text. -/
def piece : Sign → Piece
  | .number value _ => .number value
  | .name word _ => .name word
  | .fixed text kind _ => ⟨text, kind, .text (String.ofList text), false⟩
  | .lineBreaks count _ =>
      let breaks := List.replicate count '\n'
      ⟨breaks, .lineEnd, .text (String.ofList breaks), false⟩

theorem piece_sound (sign : Sign) : sign.piece.Sound := by
  cases sign with
  | number value small => exact number_sound small
  | name word named => exact name_sound named
  | fixed text kind listed =>
      refine ⟨?_, ?_, by simp [piece]⟩
      · rcases List.mem_append.mp listed with symbol | word
        · exact .symbol symbol
        · exact reserved_classified word
      · intro number
        have kinds : ∀ entry ∈ fixedSymbols ++ reservedWords, entry.2 ≠ .int := by decide
        exact absurd number (kinds _ listed)
  | lineBreaks count some =>
      exact ⟨.lineBreaks (replicate_is_run (by simp) some), by simp [piece], by simp [piece]⟩

end Sign

theorem scan_piece {piece : Piece} (sound : piece.Sound) (before : List Char) :
    ∃ steps, Scans before piece.text steps none ∧
      (steps.map Prod.fst).map (fun token => (token.kind, token.payload)) =
        [(piece.kind, piece.payload), (.fileEnd, .none)] := by
  have apart : ∀ character ∈ ([] : List Char).head?, character = ' ' ∨ character = '(' := by simp
  obtain ⟨lexeme, cut, text, made⟩ := sound.cut apart
  have stops := classified_starts sound.classified []
  obtain ⟨span, made⟩ := made (Place.after (before ++ []))
    (Place.after (before ++ [] ++ lexeme.text))
  rw [← text] at cut stops ⊢
  have scans := Scans.token (by simp) stops cut made (.ended (by simp))
  rw [List.append_nil, List.nil_append] at scans
  exact ⟨_, scans, rfl⟩

/-- Each piece is read where it stands, and the space after it leads to the next one. -/
theorem scan_pieces {pieces : List Piece} (sound : ∀ piece ∈ pieces, piece.Sound)
    (before : List Char) :
    ∃ steps, Scans before ([' '].intercalate (pieces.map Piece.text)) steps none ∧
      (steps.map Prod.fst).map (fun token => (token.kind, token.payload)) =
        pieces.map (fun piece => (piece.kind, piece.payload)) ++ [(.fileEnd, .none)] := by
  induction pieces generalizing before with
  | nil => exact ⟨_, .ended (by simp), rfl⟩
  | cons piece others induction =>
      obtain ⟨here, later⟩ := List.forall_mem_cons.mp sound
      obtain ⟨steps, scans, marks⟩ := scan_piece here before
      cases others with
      | nil => exact ⟨steps, by simpa using scans, marks⟩
      | cons next others =>
          obtain ⟨more, goesOn, moreMarks⟩ := induction later (before ++ (piece.text ++ [' ']))
          obtain ⟨body, ending, joined, shape, _, whole, same⟩ :=
            whole_scan_spaced scans rfl goesOn
          have first : body.map (fun token => (token.kind, token.payload)) =
              [(piece.kind, piece.payload)] := by
            rw [shape, List.map_append] at marks
            exact List.append_inj_left' marks rfl
          refine ⟨joined, ?_, ?_⟩
          · rw [List.map_cons, List.map_cons, List.intercalate_cons_cons, List.append_assoc]
            exact whole
          · rw [same, List.map_append, first, moreMarks]
            rfl

theorem tokenize_pieces {pieces : List Piece} (sound : ∀ piece ∈ pieces, piece.Sound)
    {text : String} (written : text.toList = [' '].intercalate (pieces.map Piece.text)) :
    ∃ tokens, tokenize text = .ok tokens ∧
      tokens.map (fun token => (token.kind, token.payload)) =
        pieces.map (fun piece => (piece.kind, piece.payload)) ++ [(.fileEnd, .none)] := by
  obtain ⟨steps, scans, marks⟩ := scan_pieces sound []
  have good : ∀ token ∈ steps.map Prod.fst, token.kind ≠ .bad := by
    intro token member
    have marked : (token.kind, token.payload) ∈
        (steps.map Prod.fst).map fun token => (token.kind, token.payload) :=
      List.mem_map_of_mem member
    rw [marks, List.mem_append, List.mem_map, List.mem_singleton] at marked
    rcases marked with ⟨piece, inside, same⟩ | ending
    · have kinds : piece.kind = token.kind := congrArg Prod.fst same
      rw [← kinds]
      exact (classified_kind (sound piece inside).classified).2
    · have kinds : token.kind = .fileEnd := congrArg Prod.fst ending
      simp [kinds]
  refine ⟨steps.map Prod.fst, ?_, marks⟩
  rw [← written] at scans
  rw [tokenize_of_scans scans]
  unfold gathered
  rw [List.find?_eq_none.mpr (by simpa using good)]

/-- Signs that are written with single spaces between them are read back as they are, and then the
end of the file. -/
theorem written_signs_are_read_back (signs : List Sign) :
    ∃ tokens,
      tokenize (" ".intercalate (signs.map fun sign => String.ofList sign.piece.text)) =
        .ok tokens ∧
      tokens.map (fun token => (token.kind, token.payload)) =
        signs.map (fun sign => (sign.piece.kind, sign.piece.payload)) ++ [(.fileEnd, .none)] := by
  have sound : ∀ piece ∈ signs.map Sign.piece, piece.Sound :=
    List.forall_mem_map.mpr fun sign _ => sign.piece_sound
  have written : (" ".intercalate (signs.map fun sign => String.ofList sign.piece.text)).toList =
      [' '].intercalate ((signs.map Sign.piece).map Piece.text) := by
    simp [String.toList_intercalate, Function.comp_def]
  obtain ⟨tokens, read, marks⟩ := tokenize_pieces sound written
  refine ⟨tokens, read, ?_⟩
  rw [marks, List.map_map]
  rfl

end VectorCalc

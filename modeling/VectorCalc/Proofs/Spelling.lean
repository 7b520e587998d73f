import VectorCalc.Proofs.Expectation
import VectorCalc.Proofs.Tiling

/-!
Texts put together from tokens. A piece says what is to be written and which token it is meant to
be. A space stands before a piece, or nothing before a bracket that is to touch what comes before
it. Neither a space nor an opening bracket goes on with a token, so each piece is read back as the
token it was meant to be, whatever follows it, and brackets touch where they were meant to.
-/
namespace VectorCalc

set_option autoImplicit false

structure Piece where
  text : List Char
  kind : TokenKind
  payload : Payload
  touching : Bool := false

structure Piece.Sound (piece : Piece) : Prop where
  classified : Classified piece.text piece.kind piece.payload
  small : piece.kind = .int → piece.text.length ≤ digitLimit ∧
    Nat.ofDigitChars 10 piece.text 0 ≤ Word.largest
  bracket : piece.touching = true → piece.text = ['(']

def Piece.gap (piece : Piece) : List Char :=
  if piece.touching then [] else [' ']

def Piece.ending : Piece :=
  ⟨[], .fileEnd, .none, false⟩

def layout : List Piece → List Char
  | [] => [' ']
  | piece :: others => piece.gap ++ (piece.text ++ layout others)

/-- The tokens are what the pieces were meant to be. The first of them comes after `last`. -/
inductive Written : List Piece → Option Token → List Token → Prop where
  | nothing {last : Option Token} : Written [] last []
  | token {piece : Piece} {pieces : List Piece} {last : Option Token} {token : Token}
      {tokens : List Token} (kind : token.kind = piece.kind)
      (payload : token.payload = piece.payload) (place : token.follows last = piece.touching)
      (others : Written pieces (some token) tokens) :
      Written (piece :: pieces) last (token :: tokens)

theorem written_length {pieces : List Piece} {last : Option Token} {tokens : List Token}
    (written : Written pieces last tokens) : tokens.length = pieces.length := by
  induction written with
  | nothing => rfl
  | token _ _ _ _ induction => rw [List.length_cons, List.length_cons, induction]

theorem written_kinds {pieces : List Piece} {last : Option Token} {tokens : List Token}
    (written : Written pieces last tokens) :
    ∀ token ∈ tokens, ∃ piece ∈ pieces, token.kind = piece.kind := by
  induction written with
  | nothing => simp
  | token kind _ _ _ induction =>
      intro other member
      rcases List.mem_cons.mp member with here | later
      · exact ⟨_, List.mem_cons_self, by rw [here, kind]⟩
      · obtain ⟨piece, inside, same⟩ := induction other later
        exact ⟨piece, List.mem_cons_of_mem _ inside, same⟩

theorem classified_kind {text : List Char} {kind : TokenKind} {payload : Payload}
    (classified : Classified text kind payload) : kind ≠ .fileEnd ∧ kind ≠ .bad := by
  cases classified with
  | word _ _ =>
      have kinds : ∀ kind ∈ [TokenKind.sameType, .pi, .infinity, .variable],
          kind ≠ .fileEnd ∧ kind ≠ .bad := by decide
      rw [reserved_kind]
      exact kinds _ (of_word_kind _)
  | symbol member =>
      have kinds : ∀ entry ∈ fixedSymbols, entry.2 ≠ .fileEnd ∧ entry.2 ≠ .bad := by decide
      exact kinds _ member
  | _ => exact ⟨by simp, by simp⟩

theorem classified_tail {first : Char} {others : List Char} {kind : TokenKind} {payload : Payload}
    (classified : Classified (first :: others) kind payload) :
    ∀ character ∈ others, character ≠ ' ' ∧ character ≠ '(' := by
  have excluded (property : Char → Bool) (space : property ' ' = false)
      (bracket : property '(' = false) {character : Char} (holds : property character = true) :
      character ≠ ' ' ∧ character ≠ '(' := by
    constructor
    · rintro rfl
      rw [space] at holds
      cases holds
    · rintro rfl
      rw [bracket] at holds
      cases holds
  obtain ⟨start, more, shape, decides⟩ := classified_head classified
  cases shape
  intro character member
  unfold HeadDecides at decides
  split_ifs at decides with noLine noLetter digit
  · exact excluded (· == '\n') rfl rfl (decides.1 character member)
  · exact excluded isWordPart rfl rfl (decides.1 character member)
  · rcases decides with ⟨digits, _⟩ | ⟨whole, fraction, wholeRun, fractionRun, same, _⟩
    · exact excluded Char.isDigit rfl rfl (digits character member)
    · have inside : character ∈ whole ++ '.' :: fraction := by
        rw [← same]
        exact List.mem_cons_of_mem _ member
      rcases List.mem_append.mp inside with inWhole | rest
      · exact excluded Char.isDigit rfl rfl (wholeRun.2 character inWhole)
      · rcases List.mem_cons.mp rest with rfl | inFraction
        · decide
        · exact excluded Char.isDigit rfl rfl (fractionRun.2 character inFraction)
  · have plain : ∀ entry ∈ fixedSymbols, ' ' ∉ entry.1.tail ∧ '(' ∉ entry.1.tail := by decide
    obtain ⟨noSpace, noBracket⟩ := plain _ ((symbol_text_iff _ _).mp decides.1)
    exact ⟨ne_of_mem_of_not_mem member noSpace, ne_of_mem_of_not_mem member noBracket⟩

theorem classified_is_longest {text rest : List Char} {kind : TokenKind} {payload : Payload}
    (classified : Classified text kind payload)
    (apart : ∀ character ∈ rest.head?, character = ' ' ∨ character = '(') :
    LongestMatch (text ++ rest) text kind payload := by
  refine ⟨classified, List.prefix_append text rest, ?_⟩
  intro other otherKind otherPayload otherClassified head
  obtain ⟨first, others, shape, _⟩ := classified_head classified
  -- A longer token would go on with the first character of the rest.
  apply Nat.le_of_not_lt
  intro longer
  cases rest with
  | nil =>
      rw [List.append_nil] at head
      exact absurd head.length_le (Nat.not_le.mpr longer)
  | cons character rest =>
      have split : text ++ character :: rest = (text ++ [character]) ++ rest := by simp
      have within : text ++ [character] <+: other := by
        refine List.prefix_of_prefix_length_le ⟨rest, split.symm⟩ head ?_
        rw [List.length_append, List.length_singleton]
        omega
      obtain ⟨more, whole⟩ := within
      rw [← whole, shape, List.cons_append, List.cons_append] at otherClassified
      obtain ⟨noSpace, noBracket⟩ := classified_tail otherClassified character (by simp)
      rcases apart character rfl with same | same
      · exact noSpace same
      · exact noBracket same

theorem replicate_is_run {property : Char → Bool} {character : Char} {count : Nat}
    (holds : property character = true) (some : 0 < count) :
    IsRun property (List.replicate count character) := by
  constructor
  · intro empty
    exact Nat.ne_of_gt some ((List.replicate_eq_nil_iff character).mp empty)
  · intro other member
    rw [List.eq_of_mem_replicate member]
    exact holds

theorem classified_is_cut {text : List Char} {kind : TokenKind} {payload : Payload}
    (classified : Classified text kind payload) (rest : List Char) :
    ∃ lexeme, Lexeme.cut? (text ++ rest) = some lexeme := by
  obtain ⟨first, others, shape, _⟩ := classified_head classified
  rw [shape, List.cons_append]
  simp only [Lexeme.cut?]
  split_ifs <;> exact ⟨_, rfl⟩

theorem integer_token_short {digits : List Char} (first last : Place)
    (short : digits.length ≤ digitLimit) :
    Lexeme.integerToken digits first last =
      if Word.largest < Nat.ofDigitChars 10 digits 0 then .ok (Lexeme.badToken digits first last)
      else .ok ⟨.int, .int (Nat.ofDigitChars 10 digits 0), first.spanTo last⟩ := by
  unfold Lexeme.integerToken
  rw [if_neg (Nat.not_lt.mpr short), digits_value]

/-- A piece before a space or an opening bracket is cut off as the token that it is meant to be. -/
theorem Piece.Sound.cut {piece : Piece} (sound : piece.Sound) {rest : List Char}
    (apart : ∀ character ∈ rest.head?, character = ' ' ∨ character = '(') :
    ∃ lexeme, Lexeme.cut? (piece.text ++ rest) = some lexeme ∧ lexeme.text = piece.text ∧
      ∀ first last, ∃ span, lexeme.token first last = .ok ⟨piece.kind, piece.payload, span⟩ := by
  have longest := classified_is_longest sound.classified apart
  obtain ⟨lexeme, cut⟩ := classified_is_cut sound.classified rest
  refine ⟨lexeme, cut, ?_⟩
  cases Lexeme.cut_matches cut with
  | token taken _ _ made =>
      obtain ⟨text, kind, payload⟩ := longest_match_unique taken longest
      rw [← kind, ← payload]
      exact ⟨text, made⟩
  | @whole digits taken =>
      obtain ⟨text, kind, payload⟩ := longest_match_unique taken longest
      obtain ⟨short, small⟩ := sound.small kind.symm
      refine ⟨text, fun first last => ⟨first.spanTo last, ?_⟩⟩
      change Lexeme.integerToken digits first last = _
      rw [← text] at short small
      rw [integer_token_short _ _ short, if_neg (Nat.not_lt.mpr small), ← kind, ← payload]
  | stray _ unmatched => exact absurd longest.head (unmatched sound.classified)

/-- No token starts with a space. -/
theorem classified_starts {text : List Char} {kind : TokenKind} {payload : Payload}
    (classified : Classified text kind payload) (rest : List Char) :
    ∀ character ∈ (text ++ rest).head?, isSpace character = false := by
  intro character member
  obtain ⟨others, shape⟩ := List.head?_eq_some_iff.mp (Option.mem_def.mp member)
  cases blank : isSpace character with
  | false => rfl
  | true =>
      exact absurd ⟨rest, shape⟩ (blank_unmatched ((blank_iff character).mpr blank) classified)

theorem layout_apart {pieces : List Piece} (sound : ∀ piece ∈ pieces, piece.Sound) :
    ∀ character ∈ (layout pieces).head?, character = ' ' ∨ character = '(' := by
  intro character member
  cases pieces with
  | nil =>
      cases member
      exact .inl rfl
  | cons piece others =>
      unfold layout Piece.gap at member
      split_ifs at member with touching
      · rw [(sound piece List.mem_cons_self).bracket touching] at member
        cases member
        exact .inr rfl
      · cases member
        exact .inl rfl

/-- The next token of a layout is its first piece, and it stands where the piece does. -/
theorem read_piece {piece : Piece} (sound : piece.Sound) (before : List Char) {rest : List Char}
    (apart : ∀ character ∈ rest.head?, character = ' ' ∨ character = '(') :
    ∃ span, (Source.divided before (piece.gap ++ (piece.text ++ rest))).nextToken =
        .ok (⟨piece.kind, piece.payload, span⟩,
          Source.divided (before ++ piece.gap ++ piece.text) rest) ∧
      Token.Covers ⟨piece.kind, piece.payload, span⟩ (before ++ piece.gap) piece.text := by
  obtain ⟨lexeme, cut, text, made⟩ := sound.cut apart
  obtain ⟨span, made⟩ := made (Place.after (before ++ piece.gap))
    (Place.after (before ++ piece.gap ++ lexeme.text))
  have spaces : ∀ character ∈ piece.gap, isSpace character = true := by
    unfold Piece.gap
    split_ifs <;> simp [isSpace]
  have stops := classified_starts sound.classified rest
  rw [← text] at cut stops ⊢
  refine ⟨span, ?_, Lexeme.token_covers made⟩
  rw [Source.next_token_divided before piece.gap spaces stops cut, made]

theorem piece_follows {piece : Piece} {token : Token} {last : Option Token} {before : List Char}
    (start : token.span.start = (Place.after (before ++ piece.gap)).offset)
    (ended : ∀ token ∈ last, token.span.stop = (Place.after before).offset)
    (begins : last = none → piece.touching = false) : token.follows last = piece.touching := by
  cases last with
  | none => exact (begins rfl).symm
  | some previous =>
      unfold Token.follows
      dsimp only
      rw [start, ended previous rfl]
      cases touching : piece.touching with
      | true => simp [Piece.gap, touching]
      | false =>
          have grows := offset_grows before (List.cons_ne_nil ' ' [])
          simp only [Piece.gap, touching, Bool.false_eq_true, if_false, beq_eq_false_iff_ne]
          omega

/-- Reading a layout gives back its pieces one by one. -/
theorem scan_written {pieces : List Piece} (sound : ∀ piece ∈ pieces, piece.Sound)
    {bound : Nat} (enough : pieces.length < bound) (before : List Char) (last : Option Token)
    (ended : ∀ token ∈ last, token.span.stop = (Place.after before).offset)
    (begins : last = none → ∀ piece ∈ pieces.head?, piece.touching = false) :
    (Source.scanWithin bound (Source.divided before (layout pieces))).broken = none ∧
      Written (pieces ++ [.ending]) last
        (Source.scanWithin bound (Source.divided before (layout pieces))).tokens := by
  induction bound generalizing pieces before last with
  | zero => omega
  | succ bound induction =>
      unfold Source.scanWithin
      cases pieces with
      | nil =>
          have finished := Source.next_token_at_end before [' '] (by simp [isSpace])
          unfold layout
          rw [finished]
          refine ⟨rfl, .token rfl rfl ?_ .nothing⟩
          exact piece_follows rfl ended fun _ => rfl
      | cons piece others =>
          obtain ⟨here, later⟩ := List.forall_mem_cons.mp sound
          obtain ⟨span, next, covers⟩ := read_piece here before (layout_apart later)
          have going := (classified_kind here.classified).1
          rw [List.length_cons] at enough
          obtain ⟨whole, written⟩ := induction later (Nat.lt_of_succ_lt_succ enough)
            (before ++ piece.gap ++ piece.text) (some ⟨piece.kind, piece.payload, span⟩)
            (by
              intro token member
              cases member
              exact covers.stop)
            (by simp)
          unfold layout
          rw [next]
          dsimp only
          rw [if_neg going]
          refine ⟨whole, .token rfl rfl ?_ written⟩
          exact piece_follows covers.start ended fun first => begins first piece rfl

theorem layout_length {pieces : List Piece} (sound : ∀ piece ∈ pieces, piece.Sound) :
    pieces.length ≤ (layout pieces).length := by
  induction pieces with
  | nil => simp
  | cons piece others induction =>
      obtain ⟨here, later⟩ := List.forall_mem_cons.mp sound
      obtain ⟨first, more, shape, _⟩ := classified_head here.classified
      have least := induction later
      simp only [layout, shape, List.length_cons, List.length_append]
      omega

theorem tokenize_layout {pieces : List Piece} (sound : ∀ piece ∈ pieces, piece.Sound)
    (begins : ∀ piece ∈ pieces.head?, piece.touching = false) :
    ∃ tokens, tokenize (String.ofList (layout pieces)) = .ok tokens ∧
      Written (pieces ++ [.ending]) none tokens := by
  have enough := Nat.lt_succ_of_le (layout_length sound)
  obtain ⟨whole, written⟩ := scan_written sound enough [] none (by simp) fun _ => begins
  have same : (Source.ofText (String.ofList (layout pieces))).scan =
      Source.scanWithin ((layout pieces).length + 1) (Source.divided [] (layout pieces)) := by
    rw [Source.of_text_divided, String.toList_ofList]
    rfl
  have good : ∀ token ∈ (Source.ofText (String.ofList (layout pieces))).scan.tokens,
      token.kind ≠ .bad := by
    intro token member
    rw [same] at member
    obtain ⟨piece, inside, kind⟩ := written_kinds written token member
    rw [kind]
    rcases List.mem_append.mp inside with among | last
    · exact (classified_kind (sound piece among).classified).2
    · rw [List.mem_singleton.mp last]
      simp [Piece.ending]
  refine ⟨_, ?_, written⟩
  unfold tokenize
  dsimp only
  rw [List.find?_eq_none.mpr (by simpa using good), same, whole]

def TokenKind.spelling (kind : TokenKind) : List Char :=
  (((fixedSymbols ++ reservedWords).find? fun entry => entry.2 = kind).map Prod.fst).getD []

def Piece.sign (kind : TokenKind) : Piece :=
  ⟨kind.spelling, kind, .text (String.ofList kind.spelling), false⟩

def Piece.applied : Piece :=
  { sign .groupOpen with touching := true }

def Piece.number (value : Nat) : Piece :=
  ⟨Nat.toDigits 10 value, .int, .int value, false⟩

def Piece.name (name : String) : Piece :=
  ⟨name.toList, .variable, .text name, false⟩

def bracketed (pieces : List Piece) : List Piece :=
  .sign .groupOpen :: (pieces ++ [.sign .groupClose])

theorem reserved_classified {entry : List Char × TokenKind} (member : entry ∈ reservedWords) :
    Classified entry.1 entry.2 (.text (String.ofList entry.1)) := by
  have parts {others : List Char} (all : others.all isWordPart = true) :
      ∀ character ∈ others, character.isAlphanum = true ∨ character = '_' :=
    fun character inside => (word_part_iff character).mp (List.all_eq_true.mp all character inside)
  simp only [reservedWords, List.mem_cons, List.not_mem_nil, or_false] at member
  rcases member with rfl | rfl | rfl | rfl <;> exact Classified.word rfl (parts rfl)

theorem spelled_classified {kind : TokenKind}
    (known : kind ∈ (fixedSymbols ++ reservedWords).map Prod.snd) :
    Classified kind.spelling kind (.text (String.ofList kind.spelling)) := by
  obtain ⟨entry, member, same⟩ := List.mem_map.mp known
  have found : ((fixedSymbols ++ reservedWords).find? fun entry => entry.2 = kind).isSome := by
    rw [List.find?_isSome]
    exact ⟨entry, member, by simpa using same⟩
  obtain ⟨chosen, shape⟩ := Option.isSome_iff_exists.mp found
  have kinds : chosen.2 = kind := by simpa using List.find?_some shape
  unfold TokenKind.spelling
  rw [shape, ← kinds]
  rcases List.mem_append.mp (List.mem_of_find?_eq_some shape) with symbol | word
  · exact .symbol symbol
  · exact reserved_classified word

theorem sign_sound {kind : TokenKind}
    (known : kind ∈ (fixedSymbols ++ reservedWords).map Prod.snd) : (Piece.sign kind).Sound where
  classified := spelled_classified known
  small := by
    intro number
    change kind = .int at number
    rw [number] at known
    exact absurd known (by decide)
  bracket := by simp [Piece.sign]

theorem applied_sound : Piece.applied.Sound where
  classified := (sign_sound (by decide : TokenKind.groupOpen ∈ _)).classified
  small := by simp [Piece.applied, Piece.sign]
  bracket := fun _ => by decide

theorem digits_are_run (value : Nat) : IsRun Char.isDigit (Nat.toDigits 10 value) :=
  ⟨Nat.toDigits_ne_nil, fun _ member => Nat.isDigit_of_mem_toDigits (by decide) (by decide) member⟩

def signText (value : Int) : List Char :=
  if value < 0 then ['-'] else []

theorem integer_text_shape (value : Int) :
    Text.integerText value = String.ofList (signText value ++ Nat.toDigits 10 value.natAbs) := by
  unfold Text.integerText Text.naturalText signText
  split_ifs
  · rw [String.ofList_append]
  · rfl

theorem number_sound {value : Nat} (small : value ≤ Word.largest) : (Piece.number value).Sound where
  classified := by
    have classified := Classified.int (digits_are_run value)
    rw [Nat.ofDigitChars_ten_toDigits] at classified
    exact classified
  small := by
    intro _
    have short : (Nat.toDigits 10 value).length ≤ 19 := by
      rw [Nat.length_toDigits_le_iff (by decide) (by decide)]
      exact Nat.lt_of_le_of_lt small (by decide)
    refine ⟨Nat.le_trans short (by decide), ?_⟩
    change Nat.ofDigitChars 10 (Nat.toDigits 10 value) 0 ≤ _
    rw [Nat.ofDigitChars_ten_toDigits]
    exact small
  bracket := by simp [Piece.number]

theorem name_sound {name : String} (named : IsName name) : (Piece.name name).Sound where
  classified := by
    obtain ⟨first, others, shape, letter, parts, free⟩ := named
    have classified := Classified.word letter fun character member =>
      (word_part_iff character).mp (parts character member)
    have plain : TokenKind.ofWord (first :: others) = .variable := by
      simp only [List.mem_cons, List.not_mem_nil, or_false, not_or] at free
      unfold TokenKind.ofWord
      rw [if_neg free.1, if_neg free.2.1, if_neg free.2.2.1, if_neg free.2.2.2]
    rw [reserved_kind, plain, ← shape, String.ofList_toList] at classified
    exact classified
  small := by simp [Piece.name]
  bracket := by simp [Piece.name]

theorem bracketed_sound {pieces : List Piece} (sound : ∀ piece ∈ pieces, piece.Sound) :
    ∀ piece ∈ bracketed pieces, piece.Sound := by
  intro piece member
  rcases List.mem_cons.mp member with rfl | rest
  · exact sign_sound (by decide)
  · rcases List.mem_append.mp rest with inside | last
    · exact sound piece inside
    · rw [List.mem_singleton.mp last]
      exact sign_sound (by decide)

end VectorCalc

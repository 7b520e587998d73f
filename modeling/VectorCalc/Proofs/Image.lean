import VectorCalc.Proofs.Formation
import VectorCalc.Proofs.ReadBack

/-!
Which trees are read from a text. A tree that is read is well formed, and every well-formed tree
without doubles is read from some text: the one in which each part of an operation, of a vector or
of a call stands in brackets. Trees count as equal when they differ in spans only, and an integer
may be given by a double that denotes it.
-/
namespace VectorCalc

set_option autoImplicit false

namespace Node

/-- The trees that have a text. Doubles are left out. -/
inductive Expressible : Node → Prop where
  | int {value : Nat} {payload : Payload} {span : Span} (small : value ≤ Word.largest)
      (denoted : (Payload.int value).same payload = true) :
      Expressible (.mk .int payload [] span)
  | name {name : String} {span : Span} (named : IsName name) :
      Expressible (.mk .variable (.text name) [] span)
  | pi {span : Span} : Expressible (.mk .pi .none [] span)
  | infinity {span : Span} : Expressible (.mk .infinity .none [] span)
  | vector {items : List Node} {span : Span} (inner : ∀ item ∈ items, Expressible item) :
      Expressible (.mk .vector .none items span)
  | binary {operator : TokenKind} {left right : Node} {span : Span}
      (known : operator ∈ binaryKinds)
      (compares : operator = .equal → left.kind ≠ .variable ∧ left.kind ≠ .call)
      (first : Expressible left) (second : Expressible right) :
      Expressible (.mk .binary (.text operator.code) [left, right] span)
  | unary {operand : Node} {span : Span} (inner : Expressible operand) :
      Expressible (.mk .unary (.text TokenKind.subtract.code) [operand] span)
  | assign {target value : Node} {span : Span}
      (bindable : target.kind = .variable ∨ target.kind = .call)
      (first : Expressible target) (second : Expressible value) :
      Expressible (.mk .assign .none [target, value] span)
  | call {callee argument : Node} {span : Span} (first : Expressible callee)
      (second : Expressible argument) : Expressible (.mk .call .none [callee, argument] span)

end Node

def Payload.natural : Payload → Nat
  | .int value => value.toNat
  | .float number =>
      match Decimal.Binary64.ofFloat? number with
      | some exact => exact.mantissa * Decimal.twoTo exact.exponent.toNat /
          Decimal.twoTo (-exact.exponent).toNat
      | Option.none => 0
  | _ => 0

theorem natural_of_same {value : Nat} {payload : Payload}
    (same : (Payload.int value).same payload = true) : payload.natural = value := by
  cases payload with
  | int other =>
      have equal : (value : Int) = other := by simpa [Payload.same] using same
      simp [Payload.natural, ← equal]
  | float number =>
      simp only [Payload.same, Payload.denotes, Payload.orderExact?] at same
      unfold Payload.natural
      cases exact : Decimal.Binary64.ofFloat? number with
      | none =>
          rw [exact] at same
          dsimp only at same
          split_ifs at same <;> cases same
      | some binary =>
          rw [exact] at same
          have positive : 0 < Decimal.twoTo (-binary.exponent).toNat := Nat.two_pow_pos _
          simp only [beq_iff_eq, Option.some.injEq, Int.compare_eq_eq,
            Int.ofNat_eq_natCast] at same
          have product : value * Decimal.twoTo (-binary.exponent).toNat =
              binary.mantissa * Decimal.twoTo binary.exponent.toNat := by
            generalize Decimal.twoTo (-binary.exponent).toNat = scale at same
            generalize binary.mantissa * Decimal.twoTo binary.exponent.toNat = magnitude at same ⊢
            split_ifs at same <;> omega
          dsimp only
          rw [exact]
          dsimp only
          rw [← product, Nat.mul_div_cancel _ positive]
  | _ => cases same

namespace Node

def arrange : NodeKind → Payload → List (List Piece) → List Piece
  | .int, payload, _ => [.number payload.natural]
  | .variable, .text name, _ => [.name name]
  | .pi, _, _ => [.sign .pi]
  | .infinity, _, _ => [.sign .infinity]
  | .vector, _, parts =>
      .sign .vectorOpen :: ((parts.map bracketed).flatten ++ [.sign .vectorClose])
  | .binary, .text code, [left, right] =>
      bracketed left ++ .sign (TokenKind.ofCode code) :: bracketed right
  | .unary, _, [operand] => .sign .subtract :: bracketed operand
  | .assign, _, [target, value] => bracketed target ++ .sign .equal :: bracketed value
  | .call, _, [callee, argument] =>
      bracketed callee ++ .applied :: (argument ++ [.sign .groupClose])
  | _, _, _ => []

mutual

def pieces : Node → List Piece
  | mk kind payload children _ => arrange kind payload (listPieces children)

def listPieces : List Node → List (List Piece)
  | [] => []
  | node :: others => pieces node :: listPieces others

end

def spelled (tree : Node) : String :=
  String.ofList (layout tree.pieces)

theorem list_pieces_map (items : List Node) : listPieces items = items.map pieces := by
  induction items with
  | nil => rw [listPieces, List.map_nil]
  | cons item items induction => rw [listPieces, induction, List.map_cons]

end Node

theorem binary_kind_of_code {operator : TokenKind} (known : operator ∈ binaryKinds) :
    TokenKind.ofCode operator.code = operator := by
  have codes : ∀ kind ∈ binaryKinds, TokenKind.ofCode kind.code = kind := by decide
  exact codes operator known

namespace Node

theorem int_pieces {value : Nat} {payload : Payload}
    (denoted : (Payload.int value).same payload = true) (span : Span) :
    (mk .int payload [] span).pieces = [.number value] := by
  change [Piece.number payload.natural] = _
  rw [natural_of_same denoted]

theorem vector_pieces (items : List Node) (span : Span) :
    (mk .vector .none items span).pieces =
      .sign .vectorOpen :: ((items.map fun item => bracketed item.pieces).flatten ++
        [.sign .vectorClose]) := by
  change Piece.sign .vectorOpen :: (((listPieces items).map bracketed).flatten ++ _) = _
  rw [list_pieces_map, List.map_map]
  rfl

theorem binary_pieces {operator : TokenKind} (known : operator ∈ binaryKinds)
    (left right : Node) (span : Span) :
    (mk .binary (.text operator.code) [left, right] span).pieces =
      bracketed left.pieces ++ .sign operator :: bracketed right.pieces := by
  change bracketed left.pieces ++ Piece.sign (TokenKind.ofCode operator.code) :: _ = _
  rw [binary_kind_of_code known]

end Node

theorem binary_kind_has_level {operator : TokenKind} (known : operator ∈ binaryKinds) :
    ∃ level : Level, operator ∈ level.operators := by
  unfold binaryKinds at known
  simp only [List.mem_append] at known
  rcases known with here | here | here | here | here
  · exact ⟨.comparison, here⟩
  · exact ⟨.sum, here⟩
  · exact ⟨.product, here⟩
  · exact ⟨.power, here⟩
  · exact ⟨.index, here⟩

theorem binary_kind_is_written {operator : TokenKind} (known : operator ∈ binaryKinds) :
    operator ∈ (fixedSymbols ++ reservedWords).map Prod.snd := by
  have written : ∀ kind ∈ binaryKinds, kind ∈ (fixedSymbols ++ reservedWords).map Prod.snd := by
    decide
  exact written operator known

theorem pieces_sound {tree : Node} (formed : tree.Expressible) :
    ∀ piece ∈ tree.pieces, piece.Sound := by
  have joined {left right : List Piece} {sign : Piece} (first : ∀ piece ∈ left, piece.Sound)
      (middle : sign.Sound) (second : ∀ piece ∈ right, piece.Sound) :
      ∀ piece ∈ left ++ sign :: right, piece.Sound :=
    List.forall_mem_append.mpr ⟨first, List.forall_mem_cons.mpr ⟨middle, second⟩⟩
  induction formed with
  | @int value payload span small denoted =>
      rw [Node.int_pieces denoted]
      exact List.forall_mem_singleton.mpr (number_sound small)
  | name named => exact List.forall_mem_singleton.mpr (name_sound named)
  | pi => exact List.forall_mem_singleton.mpr (sign_sound (by decide))
  | infinity => exact List.forall_mem_singleton.mpr (sign_sound (by decide))
  | @vector items span _ induction =>
      rw [Node.vector_pieces]
      refine List.forall_mem_cons.mpr ⟨sign_sound (by decide), ?_⟩
      refine joined ?_ (sign_sound (by decide)) (by simp)
      intro piece member
      obtain ⟨part, inside, within⟩ := List.mem_flatten.mp member
      obtain ⟨item, among, same⟩ := List.mem_map.mp inside
      rw [← same] at within
      exact bracketed_sound (induction item among) piece within
  | @binary operator left right span known _ _ _ first second =>
      rw [Node.binary_pieces known]
      exact joined (bracketed_sound first) (sign_sound (binary_kind_is_written known))
        (bracketed_sound second)
  | unary _ induction =>
      exact List.forall_mem_cons.mpr ⟨sign_sound (by decide), bracketed_sound induction⟩
  | assign _ _ _ first second =>
      exact joined (bracketed_sound first) (sign_sound (by decide)) (bracketed_sound second)
  | call _ _ first second =>
      exact joined (bracketed_sound first) applied_sound
        (joined second (sign_sound (by decide)) (by simp))

theorem pieces_begin {tree : Node} (formed : tree.Expressible) :
    ∃ first others, tree.pieces = first :: others ∧ first.touching = false ∧
      first.kind ≠ .lineEnd := by
  cases formed with
  | _ => exact ⟨_, _, rfl, rfl, by simp [Piece.number, Piece.name, Piece.sign]⟩

namespace Grammar

theorem expression_of_call {nested : Rule} {bound : Nat} {pieces : List Piece} {tree : Node}
    (inner : Reads (bound + 1) .call (call nested (bound + 1)) pieces tree) :
    Reads (bound + 1) .expression (expressionWith nested (bound + 1)) pieces tree :=
  expression_of_sum (operand_of_call .comparison inner)

theorem operation_reads {nested : Rule} {bound : Nat} {operator : TokenKind}
    {pieces others : List Piece} {left right : Node} {span : Span}
    (known : operator ∈ binaryKinds)
    (compares : operator = .equal → left.kind ≠ .variable ∧ left.kind ≠ .call)
    (first : Reads (bound + 1) .call (call nested (bound + 1)) pieces left)
    (second : Reads (bound + 1) .call (call nested (bound + 1)) others right) :
    Reads (bound + 1) .expression (expressionWith nested (bound + 1))
      (pieces ++ .sign operator :: others)
      (.mk .binary (.text operator.code) [left, right] span) := by
  obtain ⟨level, among⟩ := binary_kind_has_level known
  by_cases comparison : level = .comparison
  · rw [comparison] at among
    refine comparison_reads (operand_of_call .comparison first)
      (operand_of_call .comparison second) among ?_
    intro equal
    obtain ⟨noVariable, noCall⟩ := compares equal
    simp [isTarget, noVariable, noCall]
  · exact expression_of_sum (sum_of_chain comparison
      (step_reads (operand_of_call level first) (operand_of_call level second) among))

/-- The rule for expressions reads the pieces as the tree, whatever bound it has. -/
def ReadsBack (pieces : List Piece) (tree : Node) : Prop :=
  ∀ bound, Reads bound .expression (expression bound) pieces tree

theorem reads_back_of_succ {pieces : List Piece} {tree : Node}
    (reads : ∀ bound, Reads (bound + 1) .expression
      (expressionWith (expression bound) (bound + 1)) pieces tree) : ReadsBack pieces tree := by
  intro bound
  cases bound with
  | zero => exact fun _ _ _ _ short => absurd short (Nat.not_lt_zero _)
  | succ bound => exact reads bound

theorem bracketed_call {pieces : List Piece} {tree : Node} (inner : ReadsBack pieces tree)
    (bound : Nat) :
    Reads (bound + 1) .call (call (expression bound) (bound + 1)) (bracketed pieces) tree :=
  call_reads (bracketed_reads (inner bound))

theorem bracketed_reads_back {pieces : List Piece} {tree : Node} (inner : ReadsBack pieces tree) :
    ReadsBack (bracketed pieces) tree :=
  reads_back_of_succ fun bound => expression_of_call (bracketed_call inner bound)

theorem leaf_reads_back {piece : Piece} {tree : Node}
    (alone : ∀ span, ∃ read, Token.leaf? ⟨piece.kind, piece.payload, span⟩ = some read ∧
      read.same tree = true) : ReadsBack [piece] tree :=
  reads_back_of_succ fun _ => expression_of_call (call_reads (leaf_reads alone))

theorem vector_reads_back {items : List Node} {span : Span}
    (inner : ∀ item ∈ items, ReadsBack item.pieces item) :
    ReadsBack (Node.mk .vector .none items span).pieces (.mk .vector .none items span) := by
  apply reads_back_of_succ
  intro bound
  have parts : ∀ part ∈ items.map fun item => (item.pieces, item),
      Reads bound .expression (expression bound) (bracketed part.1) part.2 := by
    intro part member
    obtain ⟨item, among, same⟩ := List.mem_map.mp member
    rw [← same]
    exact bracketed_reads_back (inner item among) bound
  have whole : Reads (bound + 1) .atom _ _ (.mk .vector .none _ span) := vector_reads parts
  rw [List.map_map, List.map_map] at whole
  rw [Node.vector_pieces]
  have same : items.map (Prod.snd ∘ fun item : Node => (item.pieces, item)) = items :=
    List.map_id items
  rw [same] at whole
  exact expression_of_call (call_reads whole)

/-- A tree that is written is read back. -/
theorem expression_reads_back {tree : Node} (formed : tree.Expressible) :
    ReadsBack tree.pieces tree := by
  induction formed with
  | int _ denoted =>
      rw [Node.int_pieces denoted]
      exact leaf_reads_back fun span => ⟨_, rfl, by
        simpa [Node.leaf, Node.same, Node.sameLists, Piece.number] using denoted⟩
  | name _ =>
      exact leaf_reads_back fun span => ⟨_, rfl, by
        simp [Node.leaf, Node.same, Node.sameLists, Piece.name, Payload.same]⟩
  | pi => exact leaf_reads_back fun span => ⟨_, rfl, rfl⟩
  | infinity => exact leaf_reads_back fun span => ⟨_, rfl, rfl⟩
  | vector _ induction => exact vector_reads_back induction
  | binary known compares _ _ first second =>
      apply reads_back_of_succ
      intro bound
      rw [Node.binary_pieces known]
      exact operation_reads known compares (bracketed_call first bound)
        (bracketed_call second bound)
  | unary _ induction =>
      apply reads_back_of_succ
      intro bound
      have operand := factor_reads (bracketed_call induction bound)
      exact expression_of_sum (operand_of_factor .comparison (negate_reads operand))
  | assign bindable _ _ first second =>
      apply reads_back_of_succ
      intro bound
      exact assign_reads (operand_of_call .comparison (bracketed_call first bound))
        (bracketed_reads_back second bound) (by simpa [isTarget] using bindable)
  | call _ _ first second =>
      apply reads_back_of_succ
      intro bound
      exact expression_of_call (apply_reads (bracketed_reads (first bound)) (second bound))

end Grammar

theorem Cursor.skip_nothing {cursor : Cursor} (noLine : cursor.kind ≠ .lineEnd) :
    cursor.skipLineEnds = cursor := by
  unfold skipLineEnds
  unfold kind current at noLine
  cases rest : cursor.rest with
  | nil => rfl
  | cons token others =>
      rw [rest] at noLine
      rw [List.takeWhile_cons_of_neg (by simpa using noLine)]
      rfl

theorem spelled_is_read {tree : Node} (formed : tree.Expressible) :
    ∃ read, parseText tree.spelled = .ok read ∧ read.same tree = true := by
  obtain ⟨first, others, shape, free, noLine⟩ := pieces_begin formed
  obtain ⟨tokens, scanned, written⟩ := tokenize_layout (pieces_sound formed) (by
    intro piece member
    rw [shape] at member
    cases member
    exact free)
  have shows : (Cursor.ofTokens tokens).Shows (tree.pieces ++ [.ending]) := written
  have starts : (Cursor.ofTokens tokens).kind ≠ .lineEnd := by
    have begun := shows
    rw [shape] at begun
    rw [(Cursor.Shows.sees begun).kind]
    exact noLine
  have short : (tree.pieces ++ [Piece.ending]).length < tokens.length + 1 := by
    rw [← written_length written]
    exact Nat.lt_succ_self _
  have stops : Phrase.expression.StopsAt .ending :=
    ⟨by change TokenKind.fileEnd ∉ binaryKinds; decide, fun _ => rfl⟩
  obtain ⟨read, after, result, same, rest⟩ := Grammar.expression_reads_back formed
    (tokens.length + 1) .ending [] (Cursor.ofTokens tokens) shows short stops
  have ends : after.kind = .fileEnd := (Cursor.Shows.sees rest).kind
  refine ⟨read, ?_, same⟩
  unfold parseText Node.spelled
  rw [scanned]
  dsimp only
  simp only [parseTokens, Grammar.input, Cursor.plain_skip, Cursor.skip_nothing starts,
    Reader.plain_ok, result, Grammar.finish, if_pos ends, Reader.plain_return, Except.map]

namespace Node

theorem same_shape {kind : NodeKind} {payload : Payload} {children : List Node} {span : Span}
    {tree : Node} (same : (mk kind payload children span).same tree = true) :
    ∃ other parts place, tree = mk kind other parts place ∧ payload.same other = true ∧
      sameLists children parts = true := by
  obtain ⟨otherKind, other, parts, place⟩ := tree
  simp only [Node.same, Bool.and_eq_true, beq_iff_eq] at same
  obtain ⟨⟨kinds, payloads⟩, lists⟩ := same
  exact ⟨other, parts, place, by rw [kinds], payloads, lists⟩

theorem same_nothing {parts : List Node} (same : sameLists [] parts = true) : parts = [] := by
  cases parts with
  | nil => rfl
  | cons part parts => cases same

theorem same_more {child : Node} {children parts : List Node}
    (same : sameLists (child :: children) parts = true) :
    ∃ part others, parts = part :: others ∧ child.same part = true ∧
      sameLists children others = true := by
  cases parts with
  | nil => cases same
  | cons part others =>
      simp only [sameLists, Bool.and_eq_true] at same
      exact ⟨part, others, rfl, same⟩

theorem same_single {child : Node} {parts : List Node} (same : sameLists [child] parts = true) :
    ∃ part, parts = [part] ∧ child.same part = true := by
  obtain ⟨part, others, shape, here, rest⟩ := same_more same
  exact ⟨part, by rw [shape, same_nothing rest], here⟩

theorem same_pair {left right : Node} {parts : List Node}
    (same : sameLists [left, right] parts = true) :
    ∃ first second, parts = [first, second] ∧ left.same first = true ∧
      right.same second = true := by
  obtain ⟨first, others, shape, here, rest⟩ := same_more same
  obtain ⟨second, last, there⟩ := same_single rest
  exact ⟨first, second, by rw [shape, last], here, there⟩

theorem same_member {children parts : List Node} (same : sameLists children parts = true) :
    ∀ part ∈ parts, ∃ child ∈ children, child.same part = true := by
  induction children generalizing parts with
  | nil => simp [same_nothing same]
  | cons child children induction =>
      obtain ⟨part, others, shape, here, rest⟩ := same_more same
      intro other member
      rw [shape] at member
      rcases List.mem_cons.mp member with first | later
      · exact ⟨child, List.mem_cons_self, by rw [first, here]⟩
      · obtain ⟨found, among, alike⟩ := induction rest other later
        exact ⟨found, List.mem_cons_of_mem _ among, alike⟩

end Node

theorem same_text {code : String} {payload : Payload}
    (same : (Payload.text code).same payload = true) : payload = .text code := by
  cases payload with
  | text other =>
      have equal : code = other := by simpa [Payload.same] using same
      rw [equal]
  | _ => cases same

theorem same_no_payload {payload : Payload} (same : Payload.none.same payload = true) :
    payload = .none := by
  cases payload with
  | none => rfl
  | _ => cases same

theorem operator_is_binary (operator : BinaryOperator) : operator.kind ∈ binaryKinds := by
  cases operator with
  | arithmetic operation => cases operation <;> decide
  | comparison relation => cases relation <;> decide
  | index => decide
  | sameType => decide

theorem equal_of_kind {operator : BinaryOperator} (equal : operator.kind = .equal) :
    operator = .comparison .equal := by
  cases operator with
  | arithmetic operation => cases operation <;> cases equal
  | comparison relation => cases relation <;> first | rfl | cases equal
  | index => cases equal
  | sameType => cases equal

/-- What is like a well-formed tree is well formed, and it has a text unless there is a double in
it. -/
theorem expressible_of_same {read tree : Node} (formed : read.WellFormed)
    (same : read.same tree = true) (plain : ∀ part, tree.Part part → part.kind ≠ .float) :
    tree.Expressible := by
  induction formed generalizing tree with
  | int small =>
      obtain ⟨other, parts, place, rfl, payloads, lists⟩ := Node.same_shape same
      rw [Node.same_nothing lists]
      exact .int small payloads
  | float =>
      obtain ⟨other, parts, place, rfl, _⟩ := Node.same_shape same
      exact absurd rfl (plain _ (.self _))
  | infinity =>
      obtain ⟨other, parts, place, rfl, payloads, lists⟩ := Node.same_shape same
      rw [Node.same_nothing lists, same_no_payload payloads]
      exact .infinity
  | pi =>
      obtain ⟨other, parts, place, rfl, payloads, lists⟩ := Node.same_shape same
      rw [Node.same_nothing lists, same_no_payload payloads]
      exact .pi
  | name named =>
      obtain ⟨other, parts, place, rfl, payloads, lists⟩ := Node.same_shape same
      rw [Node.same_nothing lists, same_text payloads]
      exact .name named
  | vector _ induction =>
      obtain ⟨other, parts, place, rfl, payloads, lists⟩ := Node.same_shape same
      rw [same_no_payload payloads]
      refine .vector ?_
      intro item member
      obtain ⟨child, among, alike⟩ := Node.same_member lists item member
      exact induction child among alike ((forall_parts_iff.mp plain).2 item member)
  | @binary operator left right span compares _ _ first second =>
      obtain ⟨other, parts, place, rfl, payloads, lists⟩ := Node.same_shape same
      obtain ⟨start, last, rfl, alike, alikeToo⟩ := Node.same_pair lists
      rw [same_text payloads]
      have inside := (forall_parts_iff.mp plain).2
      refine .binary ?_ ?_ (first alike (inside start (by simp)))
        (second alikeToo (inside last (by simp)))
      · exact operator_is_binary operator
      · intro equal
        have target := compares (equal_of_kind equal)
        rw [same_target alike] at target
        simpa [Grammar.isTarget] using target
  | unary _ induction =>
      obtain ⟨other, parts, place, rfl, payloads, lists⟩ := Node.same_shape same
      obtain ⟨operand, rfl, alike⟩ := Node.same_single lists
      rw [same_text payloads]
      exact .unary (induction alike ((forall_parts_iff.mp plain).2 operand (by simp)))
  | assign bindable _ _ first second =>
      obtain ⟨other, parts, place, rfl, payloads, lists⟩ := Node.same_shape same
      obtain ⟨target, value, rfl, alike, alikeToo⟩ := Node.same_pair lists
      rw [same_no_payload payloads]
      rw [same_target alike] at bindable
      have inside := (forall_parts_iff.mp plain).2
      exact .assign (by simpa [Grammar.isTarget] using bindable)
        (first alike (inside target (by simp))) (second alikeToo (inside value (by simp)))
  | call _ _ first second =>
      obtain ⟨other, parts, place, rfl, payloads, lists⟩ := Node.same_shape same
      obtain ⟨callee, argument, rfl, alike, alikeToo⟩ := Node.same_pair lists
      rw [same_no_payload payloads]
      have inside := (forall_parts_iff.mp plain).2
      exact .call (first alike (inside callee (by simp)))
        (second alikeToo (inside argument (by simp)))

/-- Without doubles, the trees that are read from texts are exactly the well-formed ones. -/
theorem read_trees_are_expressible (tree : Node)
    (plain : ∀ part, tree.Part part → part.kind ≠ .float) :
    (∃ text read, parseText text = .ok read ∧ read.same tree = true) ↔ tree.Expressible := by
  constructor
  · rintro ⟨text, read, parsed, same⟩
    exact expressible_of_same (parse_text_well_formed parsed) same plain
  · intro formed
    obtain ⟨read, parsed, same⟩ := spelled_is_read formed
    exact ⟨tree.spelled, read, parsed, same⟩

/-- The tree of `-x = [9223372036854775807 (f = x)(pi)]`: what is called is an assignment. -/
def assignedCallee : Node :=
  .mk .binary (.text TokenKind.equal.code)
    [.mk .unary (.text TokenKind.subtract.code) [.mk .variable (.text "x") [] {}] {},
      .mk .vector .none
        [.mk .int (.int Word.largest) [] {},
          .mk .call .none
            [.mk .assign .none
              [.mk .variable (.text "f") [] {}, .mk .variable (.text "x") [] {}] {},
              .mk .pi .none [] {}] {}] {}] {}

theorem assigned_callee_is_read :
    (∀ part, assignedCallee.Part part → part.kind ≠ .float) ∧
      ∃ text read, parseText text = .ok read ∧ read.same assignedCallee = true := by
  have plain : ∀ part, assignedCallee.Part part → part.kind ≠ .float := by
    simp [assignedCallee, forall_parts_iff, Node.kind]
  have letters : IsName "f" ∧ IsName "x" :=
    ⟨⟨'f', [], rfl, rfl, by simp, by decide⟩, ⟨'x', [], rfl, rfl, by simp, by decide⟩⟩
  have called : (Node.mk .call .none
      [.mk .assign .none [.mk .variable (.text "f") [] {}, .mk .variable (.text "x") [] {}] {},
        .mk .pi .none [] {}] {}).Expressible :=
    .call (.assign (.inl rfl) (.name letters.1) (.name letters.2)) .pi
  have number : (Node.mk .int (.int Word.largest) [] {}).Expressible :=
    .int (Nat.le_refl _) (by decide)
  refine ⟨plain, (read_trees_are_expressible assignedCallee plain).mpr ?_⟩
  refine .binary (by decide) (fun _ => ⟨by decide, by decide⟩) (.unary (.name letters.2)) ?_
  exact .vector (by simp [number, called])

end VectorCalc

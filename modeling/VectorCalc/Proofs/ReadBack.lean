import VectorCalc.Proofs.Reading
import VectorCalc.Proofs.Spelling

/-!
Rules on tokens that were meant for them. A rule reads pieces as a tree when, wherever they stand
next and whatever follows that does not extend the phrase, it takes exactly these tokens and gives
a tree that is alike. There is one lemma for each way to write a phrase; a bracketed part is an
atom, so it goes through every level on its own.
-/
namespace VectorCalc

set_option autoImplicit false

def Cursor.Shows (cursor : Cursor) (pieces : List Piece) : Prop :=
  Written pieces cursor.last cursor.rest

namespace Cursor

structure Sees (cursor : Cursor) (piece : Piece) (more : List Piece) : Prop where
  kind : cursor.kind = piece.kind
  payload : cursor.current.payload = piece.payload
  touches : cursor.touches = piece.touching
  advance : cursor.advance.Shows more

theorem Shows.sees {cursor : Cursor} {piece : Piece} {more : List Piece}
    (shows : cursor.Shows (piece :: more)) : cursor.Sees piece more := by
  obtain ⟨consumed, last, rest⟩ := cursor
  cases shows with
  | token kind payload place others =>
      refine ⟨kind, payload, ?_, others⟩
      rw [touches_eq_follows]
      exact place

end Cursor

/-- The piece does not extend a phrase that ends before it. An atom is never extended. -/
def Phrase.StopsAt : Phrase → Piece → Prop
  | .atom, _ => True
  | phrase, next =>
      next.kind ∉ phrase.extenders ∧ (next.kind = .groupOpen → next.touching = false)

theorem chain_stops {level : Level} {next : Piece} (stops : (Phrase.chain level).StopsAt next) :
    next.kind ∉ level.operators ∧ level.operand.StopsAt next := by
  have both : next.kind ∉ (Phrase.chain level).extenders ∧
      (next.kind = .groupOpen → next.touching = false) := stops
  rw [chain_extenders, List.mem_append, not_or] at both
  refine ⟨both.1.1, ?_⟩
  cases level <;> exact ⟨both.1.2, both.2⟩

theorem sign_stops {kind : TokenKind} (plain : kind ∉ binaryKinds) :
    Phrase.expression.StopsAt (.sign kind) :=
  ⟨plain, fun _ => rfl⟩

/-- The rule takes the pieces and gives a tree like this one, if fewer than `bound` tokens are
left. -/
def Reads (bound : Nat) (phrase : Phrase) (rule : Rule) (pieces : List Piece) (tree : Node) :
    Prop :=
  ∀ next more cursor, cursor.Shows (pieces ++ next :: more) →
    (pieces ++ next :: more).length < bound → phrase.StopsAt next →
    ∃ read after, rule cursor = .ok (read, after) ∧ read.same tree = true ∧
      after.Shows (next :: more)

theorem same_kind {read tree : Node} (same : read.same tree = true) : read.kind = tree.kind := by
  obtain ⟨kind, payload, children, span⟩ := read
  obtain ⟨otherKind, otherPayload, otherChildren, otherSpan⟩ := tree
  simp only [Node.same, Bool.and_eq_true, beq_iff_eq] at same
  exact same.1.1

theorem same_target {read tree : Node} (same : read.same tree = true) :
    Grammar.isTarget read = Grammar.isTarget tree := by
  unfold Grammar.isTarget
  rw [same_kind same]

theorem same_of_pair {kind : NodeKind} {payload other : Payload} {left right first second : Node}
    (payloads : payload.same other = true) (here : left.same first = true)
    (there : right.same second = true) (span place : Span) :
    (Node.mk kind payload [left, right] span).same (.mk kind other [first, second] place) =
      true := by
  rw [Node.same, Node.sameLists, Node.sameLists, Node.sameLists, payloads, here, there]
  simp

namespace Grammar

open Reader

def operandRule (nested : Rule) (bound : Nat) : Level → Rule
  | .index => factor (call nested bound) bound
  | .power => index nested bound
  | .product => power nested bound
  | .sum => product nested bound
  | .comparison => sum nested bound

theorem atom_of_leaf {nested : Rule} {bound : Nat} {cursor : Cursor} {tree : Node}
    (alone : cursor.current.leaf? = some tree) :
    atom nested bound cursor = .ok (tree, cursor.advance) := by
  unfold Token.leaf? at alone
  rw [atom, plain_ruled]
  split at alone <;> simp_all [Grammar.leaf]

theorem leaf_reads {nested : Rule} {bound : Nat} {piece : Piece} {tree : Node}
    (alone : ∀ span, ∃ read, Token.leaf? ⟨piece.kind, piece.payload, span⟩ = some read ∧
      read.same tree = true) :
    Reads bound .atom (atom nested bound) [piece] tree := by
  intro next more cursor shows _ _
  have sees := Cursor.Shows.sees shows
  obtain ⟨read, leaf, same⟩ := alone cursor.current.span
  have current : cursor.current = ⟨piece.kind, piece.payload, cursor.current.span⟩ := by
    rw [← sees.kind, ← sees.payload]
    rfl
  rw [← current] at leaf
  exact ⟨read, cursor.advance, atom_of_leaf leaf, same, sees.advance⟩

section Parts

variable {nested : Rule} {bound : Nat}

theorem closed_reads {pieces : List Piece} {tree : Node}
    (inner : Reads bound .expression nested pieces tree) {more : List Piece} {cursor : Cursor}
    (shows : cursor.Shows (pieces ++ .sign .groupClose :: more))
    (short : (pieces ++ .sign .groupClose :: more).length < bound) :
    ∃ read closing after, closed nested cursor = .ok (read, closing, after) ∧
      read.same tree = true ∧ after.Shows more := by
  obtain ⟨read, after, result, same, rest⟩ := inner _ more cursor shows short
    (sign_stops (by decide))
  have sees := Cursor.Shows.sees rest
  have closes : after.kind = .groupClose := sees.kind
  refine ⟨read, after.current, after.advance, ?_, same, sees.advance⟩
  rw [closed, result]
  simp only [plain_ok, Cursor.expect, if_pos closes, plain_settle, plain_take, plain_return]

theorem bracketed_reads {pieces : List Piece} {tree : Node}
    (inner : Reads bound .expression nested pieces tree) :
    Reads (bound + 1) .atom (atom nested (bound + 1)) (bracketed pieces) tree := by
  intro next more cursor shows short _
  unfold bracketed at shows short
  rw [List.cons_append, List.append_assoc, List.singleton_append] at shows short
  have sees := Cursor.Shows.sees shows
  have opens : cursor.current.kind = .groupOpen := sees.kind
  obtain ⟨read, closing, after, result, same, rest⟩ := closed_reads inner sees.advance
    (Nat.lt_of_succ_lt_succ short)
  refine ⟨read, after, ?_, same, rest⟩
  rw [atom, plain_ruled]
  simp only [opens, plain_take, plain_ok, result, plain_return]

/-- One item after the other, each of them in brackets. -/
theorem items_read {parts : List (List Piece × Node)}
    (inner : ∀ part ∈ parts, Reads bound .expression nested (bracketed part.1) part.2)
    (count : Nat) (read : List Node) (span : Span) {more : List Piece} {cursor : Cursor}
    (shows : cursor.Shows ((parts.map fun part => bracketed part.1).flatten ++
      .sign .vectorClose :: more))
    (enough : ((parts.map fun part => bracketed part.1).flatten ++
      .sign .vectorClose :: more).length < count)
    (short : ((parts.map fun part => bracketed part.1).flatten ++
      .sign .vectorClose :: more).length < bound) :
    ∃ items final after,
      Grammar.items nested count read span cursor =
        .ok (Node.vector (read.reverse ++ items) final, after) ∧
      Node.sameLists items (parts.map Prod.snd) = true ∧ after.Shows more := by
  induction parts generalizing count read span cursor with
  | nil =>
      have sees := Cursor.Shows.sees shows
      have closes : cursor.kind = .vectorClose := sees.kind
      obtain ⟨count, rfl⟩ := Nat.exists_eq_add_one_of_ne_zero (Nat.ne_zero_of_lt enough)
      refine ⟨[], span.extend cursor.current.span, cursor.advance, ?_, rfl, sees.advance⟩
      rw [Grammar.items, if_pos closes, List.append_nil, plain_take, plain_ok, plain_return]
  | cons part parts induction =>
      obtain ⟨here, later⟩ := List.forall_mem_cons.mp inner
      obtain ⟨count, rfl⟩ := Nat.exists_eq_add_one_of_ne_zero (Nat.ne_zero_of_lt enough)
      rw [List.map_cons, List.flatten_cons, List.append_assoc] at shows enough short
      have goesOn : cursor.kind ≠ .vectorClose := by
        rw [(Cursor.Shows.sees shows).kind]
        exact TokenKind.noConfusion
      -- After an item there is the bracket of the next one, with a space, or the end.
      obtain ⟨first, others, shape, stops⟩ : ∃ first others,
          (parts.map fun part => bracketed part.1).flatten ++ .sign .vectorClose :: more =
            first :: others ∧ Phrase.expression.StopsAt first := by
        cases parts with
        | nil => exact ⟨_, _, rfl, sign_stops (by decide)⟩
        | cons => exact ⟨_, _, rfl, sign_stops (by decide)⟩
      have taken : 0 < (bracketed part.1).length := Nat.zero_lt_succ _
      rw [List.length_append] at enough
      have fewer := short
      rw [List.length_append] at fewer
      rw [shape] at shows short
      obtain ⟨item, after, result, same, rest⟩ := here first others cursor shows short stops
      rw [← shape] at rest
      obtain ⟨items, final, last, results, alike, ends⟩ := induction later count (item :: read)
        (span.extend item.span) rest (by omega) (by omega)
      refine ⟨item :: items, final, last, ?_, ?_, ends⟩
      · rw [Grammar.items, if_neg goesOn, result, plain_ok]
        dsimp only
        rw [results, List.reverse_cons, List.append_assoc, List.singleton_append]
      · rw [List.map_cons, Node.sameLists, same, alike]
        rfl

theorem vector_reads {parts : List (List Piece × Node)} {span : Span}
    (inner : ∀ part ∈ parts, Reads bound .expression nested (bracketed part.1) part.2) :
    Reads (bound + 1) .atom (atom nested (bound + 1))
      (.sign .vectorOpen :: ((parts.map fun part => bracketed part.1).flatten ++
        [.sign .vectorClose]))
      (.mk .vector .none (parts.map Prod.snd) span) := by
  intro next more cursor shows short _
  rw [List.cons_append, List.append_assoc, List.singleton_append] at shows short
  have sees := Cursor.Shows.sees shows
  have opens : cursor.current.kind = .vectorOpen := sees.kind
  have fewer := Nat.lt_of_succ_lt_succ short
  obtain ⟨items, final, after, result, alike, rest⟩ := items_read inner (bound + 1) []
    cursor.current.span sees.advance (Nat.lt_succ_of_lt fewer) fewer
  refine ⟨Node.vector items final, after, ?_, ?_, rest⟩
  · rw [atom, plain_ruled]
    simp only [opens, plain_take, plain_ok]
    exact result
  · unfold Node.vector
    rw [Node.same, alike]
    rfl

theorem no_argument {next : Piece} {more : List Piece} {cursor : Cursor}
    (shows : cursor.Shows (next :: more)) (stops : Phrase.call.StopsAt next) :
    ¬(cursor.kind = .groupOpen ∧ cursor.touches = true) := by
  have sees := Cursor.Shows.sees shows
  rintro ⟨opens, touches⟩
  rw [sees.kind] at opens
  rw [sees.touches, stops.2 opens] at touches
  cases touches

theorem call_reads {pieces : List Piece} {tree : Node}
    (inner : Reads bound .atom (atom nested bound) pieces tree) :
    Reads bound .call (call nested bound) pieces tree := by
  intro next more cursor shows short stops
  obtain ⟨read, after, result, same, rest⟩ := inner next more cursor shows short trivial
  obtain ⟨bound, rfl⟩ := Nat.exists_eq_add_one_of_ne_zero (Nat.ne_zero_of_lt short)
  refine ⟨read, after, ?_, same, rest⟩
  rw [call, plain_ruled]
  simp only [result, plain_ok]
  exact applications_end _ _ _ (no_argument rest stops)

theorem apply_reads {pieces others : List Piece} {callee argument : Node} {span : Span}
    (function : Reads (bound + 1) .atom (atom nested (bound + 1)) pieces callee)
    (inner : Reads bound .expression nested others argument) :
    Reads (bound + 1) .call (call nested (bound + 1))
      (pieces ++ .applied :: (others ++ [.sign .groupClose]))
      (.mk .call .none [callee, argument] span) := by
  intro next more cursor shows short stops
  rw [List.append_assoc, List.cons_append, List.append_assoc, List.singleton_append] at shows short
  obtain ⟨read, middle, result, same, rest⟩ := function _ _ cursor shows short trivial
  have sees := Cursor.Shows.sees rest
  have touching : middle.kind = .groupOpen ∧ middle.touches = true := ⟨sees.kind, sees.touches⟩
  have fewer : (others ++ .sign .groupClose :: next :: more).length < bound := by
    rw [List.length_append, List.length_cons] at short
    omega
  obtain ⟨value, closing, after, results, alike, ends⟩ := closed_reads inner sees.advance fewer
  obtain ⟨bound, rfl⟩ := Nat.exists_eq_add_one_of_ne_zero (Nat.ne_zero_of_lt fewer)
  refine ⟨Node.call read value (read.span.extend closing.span), after, ?_, ?_, ends⟩
  · rw [call, plain_ruled]
    simp only [result, plain_ok, applications_go_on _ _ _ touching, results]
    exact applications_end _ _ _ (no_argument ends stops)
  · exact same_of_pair rfl same alike _ _

theorem factor_reads {pieces : List Piece} {tree : Node}
    (inner : Reads bound .call (call nested bound) pieces tree) (count : Nat) :
    Reads bound .factor (factor (call nested bound) (count + 1)) pieces tree := by
  intro next more cursor shows short stops
  obtain ⟨read, after, result, same, rest⟩ := inner next more cursor shows short stops
  -- A call does not start with a sign, or it would not have been read.
  have unsigned : cursor.kind ≠ .subtract := by
    intro minus
    change cursor.current.kind = .subtract at minus
    rw [call, atom, plain_ruled, plain_ruled] at result
    simp [minus] at result
  refine ⟨read, after, ?_, same, rest⟩
  rw [factor, plain_ruled, if_neg unsigned]
  exact result

theorem negate_reads {operand : Rule} {pieces : List Piece} {tree : Node} {span : Span}
    (inner : ∀ count, Reads (bound + 1) .factor (factor operand (count + 1)) pieces tree) :
    Reads (bound + 1) .factor (factor operand (bound + 1)) (.sign .subtract :: pieces)
      (.mk .unary (.text TokenKind.subtract.code) [tree] span) := by
  intro next more cursor shows short stops
  have sees := Cursor.Shows.sees shows
  have minus : cursor.kind = .subtract := sees.kind
  have fewer : (pieces ++ next :: more).length < bound := Nat.lt_of_succ_lt_succ short
  obtain ⟨count, rfl⟩ := Nat.exists_eq_add_one_of_ne_zero (Nat.ne_zero_of_lt fewer)
  obtain ⟨read, after, result, same, rest⟩ := inner count next more cursor.advance sees.advance
    (Nat.lt_of_succ_lt short) stops
  refine ⟨Node.unary .subtract read (cursor.current.span.extend read.span), after, ?_, ?_, rest⟩
  · rw [factor, plain_ruled, if_pos minus]
    simp only [plain_take, plain_ok, result, plain_return]
  · unfold Node.unary
    rw [Node.same, Node.sameLists, Node.sameLists, same]
    rfl

theorem chain_ends {operators : List TokenKind} {operand : Rule} {left : Node} {cursor : Cursor}
    (ends : cursor.kind ∉ operators) (enough : 0 < bound) :
    chain operators operand bound left cursor = .ok (left, cursor) := by
  obtain ⟨bound, rfl⟩ := Nat.exists_eq_add_one_of_ne_zero (Nat.ne_zero_of_lt enough)
  rw [chain, if_neg ends, plain_return]

theorem single_reads {level : Level} {operand : Rule} {pieces : List Piece} {tree : Node}
    (inner : Reads bound level.operand operand pieces tree) :
    Reads bound (.chain level) (Grammar.level level bound operand) pieces tree := by
  intro next more cursor shows short stops
  obtain ⟨ends, settled⟩ := chain_stops stops
  obtain ⟨read, after, result, same, rest⟩ := inner next more cursor shows short settled
  refine ⟨read, after, ?_, same, rest⟩
  rw [Grammar.level, plain_ruled]
  simp only [result, plain_ok]
  refine chain_ends ?_ (Nat.zero_lt_of_lt short)
  rw [(Cursor.Shows.sees rest).kind]
  exact ends

theorem chain_goes_on {level : Level} {operand : Rule} {kind : TokenKind} {pieces : List Piece}
    {left right tree : Node} {span : Span}
    (inner : Reads bound level.operand operand pieces right)
    (operator : kind ∈ level.operators) (same : left.same tree = true)
    {next : Piece} {more : List Piece} {cursor : Cursor}
    (shows : cursor.Shows (.sign kind :: (pieces ++ next :: more)))
    (short : (Piece.sign kind :: (pieces ++ next :: more)).length < bound)
    (stops : (Phrase.chain level).StopsAt next) :
    ∃ read after, chain level.operators operand bound left cursor = .ok (read, after) ∧
      read.same (.mk .binary (.text kind.code) [tree, right] span) = true ∧
      after.Shows (next :: more) := by
  obtain ⟨ends, settled⟩ := chain_stops stops
  have sees := Cursor.Shows.sees shows
  have here : cursor.kind = kind := sees.kind
  obtain ⟨read, after, result, alike, rest⟩ := inner next more cursor.advance sees.advance
    (Nat.lt_of_succ_lt short) settled
  obtain ⟨bound, rfl⟩ := Nat.exists_eq_add_one_of_ne_zero (Nat.ne_zero_of_lt short)
  refine ⟨Node.binary kind left read, after, ?_, ?_, rest⟩
  · rw [chain, here, if_pos operator, plain_take, plain_ok, result, plain_ok]
    refine chain_ends ?_ (Nat.zero_lt_of_lt (Nat.lt_of_succ_lt_succ short))
    rw [(Cursor.Shows.sees rest).kind]
    exact ends
  · exact same_of_pair (by simp [Payload.same]) same alike _ _

theorem operator_stops {level : Level} {kind : TokenKind} (operator : kind ∈ level.operators) :
    level.operand.StopsAt (.sign kind) := by
  have apart : ∀ kind ∈ level.operators, kind ∉ level.operand.extenders := by
    cases level <;> decide
  cases level <;> exact ⟨apart kind operator, fun _ => rfl⟩

theorem step_reads {level : Level} {operand : Rule} {kind : TokenKind}
    {pieces others : List Piece} {left right : Node} {span : Span}
    (first : Reads bound level.operand operand pieces left)
    (second : Reads bound level.operand operand others right)
    (operator : kind ∈ level.operators) :
    Reads bound (.chain level) (Grammar.level level bound operand)
      (pieces ++ .sign kind :: others) (.mk .binary (.text kind.code) [left, right] span) := by
  intro next more cursor shows short stops
  rw [List.append_assoc, List.cons_append] at shows short
  obtain ⟨read, middle, result, same, rest⟩ := first _ _ cursor shows short
    (operator_stops operator)
  rw [Grammar.level, plain_ruled]
  simp only [result, plain_ok]
  rw [List.length_append] at short
  exact chain_goes_on second operator same rest (by omega) stops

/-- What is a factor by itself is an operand at every level. -/
theorem operand_of_factor (level : Level) {pieces : List Piece} {tree : Node}
    (inner : Reads bound .factor (factor (call nested bound) bound) pieces tree) :
    Reads bound level.operand (operandRule nested bound level) pieces tree := by
  have index : Reads bound (.chain .index) _ pieces tree := single_reads inner
  have power : Reads bound (.chain .power) _ pieces tree := single_reads index
  have product : Reads bound (.chain .product) _ pieces tree := single_reads power
  have sum : Reads bound (.chain .sum) _ pieces tree := single_reads product
  cases level with
  | comparison => exact sum
  | sum => exact product
  | product => exact power
  | power => exact index
  | index => exact inner

/-- The levels that bind tighter than comparison are sums by themselves. -/
theorem sum_of_chain {level : Level} (tighter : level ≠ .comparison) {pieces : List Piece}
    {tree : Node}
    (inner : Reads bound (.chain level)
      (Grammar.level level bound (operandRule nested bound level)) pieces tree) :
    Reads bound (.chain .sum) (sum nested bound) pieces tree := by
  cases level with
  | comparison => exact absurd rfl tighter
  | sum => exact inner
  | product => exact single_reads inner
  | power =>
      have product : Reads bound (.chain .product) _ pieces tree := single_reads inner
      exact single_reads product
  | index =>
      have power : Reads bound (.chain .power) _ pieces tree := single_reads inner
      have product : Reads bound (.chain .product) _ pieces tree := single_reads power
      exact single_reads product

theorem operand_of_call (level : Level) {pieces : List Piece} {tree : Node}
    (inner : Reads (bound + 1) .call (call nested (bound + 1)) pieces tree) :
    Reads (bound + 1) level.operand (operandRule nested (bound + 1) level) pieces tree :=
  operand_of_factor level (factor_reads inner bound)

theorem expression_of_sum {pieces : List Piece} {tree : Node}
    (inner : Reads bound (.chain .sum) (sum nested bound) pieces tree) :
    Reads bound .expression (expressionWith nested bound) pieces tree := by
  intro next more cursor shows short stops
  have chained : (Phrase.chain .comparison).StopsAt next := stops
  obtain ⟨ends, settled⟩ := chain_stops chained
  obtain ⟨read, after, result, same, rest⟩ := inner next more cursor shows short settled
  rw [← (Cursor.Shows.sees rest).kind] at ends
  have compares : ¬(after.kind = .equal ∧ isTarget read = true) := by
    rintro ⟨equal, _⟩
    rw [equal] at ends
    exact ends (by decide)
  refine ⟨read, after, ?_, same, rest⟩
  rw [expressionWith, plain_ruled]
  simp only [result, plain_ok, if_neg compares]
  exact chain_ends ends (Nat.zero_lt_of_lt short)

theorem comparison_reads {kind : TokenKind} {pieces others : List Piece} {left right : Node}
    {span : Span} (first : Reads bound (.chain .sum) (sum nested bound) pieces left)
    (second : Reads bound (.chain .sum) (sum nested bound) others right)
    (operator : kind ∈ Level.comparison.operators)
    (compares : kind = .equal → isTarget left = false) :
    Reads bound .expression (expressionWith nested bound) (pieces ++ .sign kind :: others)
      (.mk .binary (.text kind.code) [left, right] span) := by
  intro next more cursor shows short stops
  rw [List.append_assoc, List.cons_append] at shows short
  obtain ⟨read, middle, result, same, rest⟩ := first _ _ cursor shows short
    (operator_stops operator)
  have noTarget : ¬(middle.kind = .equal ∧ isTarget read = true) := by
    rintro ⟨equal, target⟩
    have sign : kind = .equal := (Cursor.Shows.sees rest).kind.symm.trans equal
    rw [same_target same, compares sign] at target
    cases target
  rw [expressionWith, plain_ruled]
  simp only [result, plain_ok, if_neg noTarget]
  rw [List.length_append] at short
  have chained : (Phrase.chain .comparison).StopsAt next := stops
  exact chain_goes_on second operator same rest (by omega) chained

theorem assign_reads {pieces others : List Piece} {target value : Node} {span : Span}
    (first : Reads (bound + 1) (.chain .sum) (sum nested (bound + 1)) pieces target)
    (second : Reads bound .expression nested others value)
    (bindable : isTarget target = true) :
    Reads (bound + 1) .expression (expressionWith nested (bound + 1))
      (pieces ++ .sign .equal :: others) (.mk .assign .none [target, value] span) := by
  intro next more cursor shows short stops
  rw [List.append_assoc, List.cons_append] at shows short
  have operator : TokenKind.equal ∈ Level.comparison.operators := by decide
  obtain ⟨read, middle, result, same, rest⟩ := first _ _ cursor shows short
    (operator_stops operator)
  have sees := Cursor.Shows.sees rest
  have assigns : middle.kind = .equal ∧ isTarget read = true :=
    ⟨sees.kind, (same_target same).trans bindable⟩
  rw [List.length_append, List.length_cons] at short
  obtain ⟨assigned, after, results, alike, ends⟩ := second next more middle.advance sees.advance
    (by omega) stops
  refine ⟨Node.assign read assigned, after, ?_, ?_, ends⟩
  · rw [expressionWith, plain_ruled]
    simp only [result, plain_ok, if_pos assigns, plain_take, results, plain_return]
  · exact same_of_pair rfl same alike _ _

end Parts

end Grammar

end VectorCalc

import Mathlib.Tactic.SplitIfs
import VectorCalc.Proofs.Derivation

/-!
What may come next. One token after another, an expectation remembers which brackets are open
and whether an operand is due, and nothing of the levels of operators. Every operator takes
operands of one and the same kind, and inside a vector a token that can start an operand leads to
the same expectation whether it continues an item or starts the next one. So the expectations go
through every derivation the grammar has, although they never choose between two of them.
-/
namespace VectorCalc

set_option autoImplicit false

inductive Bracket where
  | group
  | vector

inductive Stage where
  /-- Before the expression, where line ends are skipped. -/
  | opening
  /-- An operand has to start. -/
  | operand
  /-- The first item of a vector has to start, unless the vector is empty. -/
  | item
  /-- An operand is complete. -/
  | complete
  /-- After the expression and a line end. -/
  | closing
  | finished
  deriving DecidableEq

structure Expectation where
  stage : Stage
  brackets : List Bracket := []
  last : Option Token := none

def binaryKinds : List TokenKind :=
  Level.comparison.operators ++ (Level.sum.operators ++ (Level.product.operators ++
    (Level.power.operators ++ Level.index.operators)))

def Token.follows (token : Token) : Option Token → Bool
  | some previous => token.span.start == previous.span.stop
  | none => false

namespace Expectation

def ofStart (brackets : List Bracket) (token : Token) : Option Expectation :=
  match token.kind with
  | .int => some ⟨.complete, brackets, some token⟩
  | .float => some ⟨.complete, brackets, some token⟩
  | .variable => some ⟨.complete, brackets, some token⟩
  | .infinity => some ⟨.complete, brackets, some token⟩
  | .pi => some ⟨.complete, brackets, some token⟩
  | .subtract => some ⟨.operand, brackets, some token⟩
  | .groupOpen => some ⟨.operand, .group :: brackets, some token⟩
  | .vectorOpen => some ⟨.item, .vector :: brackets, some token⟩
  | _ => none

/-- After a token that cannot continue the expression inside the innermost bracket. -/
def ofBoundary (brackets : List Bracket) (token : Token) : Option Expectation :=
  match brackets with
  | [] =>
      if token.kind = .lineEnd then some ⟨.closing, [], some token⟩
      else if token.kind = .fileEnd then some ⟨.finished, [], some token⟩
      else none
  | .group :: outer =>
      if token.kind = .groupClose then some ⟨.complete, outer, some token⟩ else none
  | .vector :: outer =>
      if token.kind = .vectorClose then some ⟨.complete, outer, some token⟩
      else ofStart (.vector :: outer) token

def step (state : Expectation) (token : Token) : Option Expectation :=
  match state.stage with
  | .opening =>
      if token.kind = .lineEnd then some ⟨.opening, state.brackets, some token⟩
      else ofStart state.brackets token
  | .operand => ofStart state.brackets token
  | .item => ofBoundary state.brackets token
  | .complete =>
      if token.kind ∈ binaryKinds then some ⟨.operand, state.brackets, some token⟩
      else if token.kind = .groupOpen ∧ token.follows state.last = true then
        some ⟨.operand, .group :: state.brackets, some token⟩
      else ofBoundary state.brackets token
  | .closing =>
      if token.kind = .lineEnd then some ⟨.closing, state.brackets, some token⟩
      else if token.kind = .fileEnd then some ⟨.finished, state.brackets, some token⟩
      else none
  | .finished => none

def run (state : Expectation) : List Token → Option Expectation
  | [] => some state
  | token :: tokens => (state.step token).bind fun next => next.run tokens

theorem run_append (state : Expectation) (tokens others : List Token) :
    state.run (tokens ++ others) = (state.run tokens).bind fun next => next.run others := by
  induction tokens generalizing state with
  | nil => rfl
  | cons token tokens induction =>
      simp only [List.cons_append, run]
      cases state.step token with
      | none => rfl
      | some next => exact induction next

theorem run_trans {first middle last : Expectation} {tokens others : List Token}
    (before : first.run tokens = some middle) (after : middle.run others = some last) :
    first.run (tokens ++ others) = some last := by
  rw [run_append, before]
  exact after

theorem run_cons {first middle last : Expectation} {token : Token} {tokens : List Token}
    (before : first.step token = some middle) (after : middle.run tokens = some last) :
    first.run (token :: tokens) = some last := by
  rw [run, before]
  exact after

theorem run_singleton {first last : Expectation} {token : Token}
    (moves : first.step token = some last) : first.run [token] = some last :=
  run_cons moves rfl

theorem start_last {brackets : List Bracket} {next : Expectation} {token : Token}
    (starts : ofStart brackets token = some next) : next.last = some token := by
  unfold ofStart at starts
  split at starts <;> cases starts <;> rfl

theorem boundary_last {brackets : List Bracket} {next : Expectation} {token : Token}
    (bounds : ofBoundary brackets token = some next) : next.last = some token := by
  unfold ofBoundary at bounds
  split at bounds
  · split_ifs at bounds <;> cases bounds <;> rfl
  · split_ifs at bounds
    cases bounds
    rfl
  · split_ifs at bounds
    · cases bounds
      rfl
    · exact start_last bounds

theorem step_last {state next : Expectation} {token : Token}
    (moves : state.step token = some next) : next.last = some token := by
  unfold step at moves
  split at moves
  · split_ifs at moves
    · cases moves
      rfl
    · exact start_last moves
  · exact start_last moves
  · exact boundary_last moves
  · split_ifs at moves
    · cases moves
      rfl
    · cases moves
      rfl
    · exact boundary_last moves
  · split_ifs at moves <;> cases moves <;> rfl
  · cases moves

/-- An expectation remembers the last token that was taken. -/
theorem run_last {state next : Expectation} {tokens : List Token}
    (runs : state.run tokens = some next) : next.last = tokens.getLast?.or state.last := by
  induction tokens generalizing state with
  | nil =>
      cases runs
      rfl
  | cons token tokens induction =>
      simp only [run, Option.bind_eq_some_iff] at runs
      obtain ⟨middle, moves, rest⟩ := runs
      rw [induction rest, step_last moves, List.getLast?_cons]
      cases tokens.getLast? <;> rfl

theorem run_nonempty_last {state next : Expectation} {tokens : List Token}
    (runs : state.run tokens = some next) (nonempty : tokens ≠ []) :
    state.run tokens = some ⟨next.stage, next.brackets, tokens.getLast?⟩ := by
  have last := run_last runs
  rw [List.getLast?_eq_some_getLast nonempty, Option.some_or] at last
  rw [runs, List.getLast?_eq_some_getLast nonempty, ← last]

/-- A token that can start an operand is taken inside a vector as if it did start one, also when
it continues the item before it. -/
theorem step_within_vector {stage : Stage} {outer : List Bracket} {last : Option Token}
    {token : Token} {next : Expectation} (inside : stage = .item ∨ stage = .complete)
    (starts : ofStart (.vector :: outer) token = some next) :
    step ⟨stage, .vector :: outer, last⟩ token = some next := by
  have boundary : ofBoundary (.vector :: outer) token = some next := by
    have other : token.kind ≠ .vectorClose := by
      intro same
      simp [ofStart, same] at starts
    simp only [ofBoundary, if_neg other, starts]
  rcases inside with rfl | rfl
  · exact boundary
  · simp only [step]
    split_ifs with operator call
    · -- The only operator that starts an operand is the minus sign.
      have minus : token.kind = .subtract := by
        simp only [binaryKinds, Level.operators, List.cons_append, List.nil_append,
          List.mem_cons, List.not_mem_nil, or_false] at operator
        rcases operator with same | same | same | same | same | same | same | same | same | same |
          same | same | same | same
        all_goals first | exact same | simp [ofStart, same] at starts
      simpa [ofStart, minus] using starts
    · simpa [ofStart, call.1] using starts
    · exact boundary

theorem run_within_vector {stage : Stage} {outer : List Bracket} {last : Option Token}
    {tokens : List Token} {next : Expectation} (inside : stage = .item ∨ stage = .complete)
    (starts : run ⟨.operand, .vector :: outer, last⟩ tokens = some next)
    (some : tokens ≠ []) : run ⟨stage, .vector :: outer, last⟩ tokens = .some next := by
  cases tokens with
  | nil => exact absurd rfl some
  | cons token others =>
      simp only [run, Option.bind_eq_some_iff] at starts ⊢
      obtain ⟨middle, first, rest⟩ := starts
      exact ⟨middle, step_within_vector inside first, rest⟩

end Expectation

theorem operator_is_binary_kind {level : Level} {kind : TokenKind}
    (operator : kind ∈ level.operators) : kind ∈ binaryKinds := by
  cases level <;> simp [binaryKinds, operator]

theorem derived_tokens_nonempty {strict : Bool} {phrase : Phrase} {tokens : List Token}
    {tree : Node} (derived : Derives strict phrase tokens tree) : tokens ≠ [] := by
  induction derived with
  | bare _ induction => exact induction
  | plain _ induction => exact induction
  | single _ induction => exact induction
  | compare _ induction => exact induction
  | leaf _ => simp
  | group _ _ _ _ => simp
  | vector _ _ _ _ _ => simp
  | apply _ _ _ _ _ _ _ _ => simp
  | negate _ _ _ => simp
  | step _ _ _ _ _ _ => simp
  | assign _ _ _ _ _ _ => simp

namespace Expectation

theorem step_leaf {brackets : List Bracket} {last : Option Token} {token : Token} {tree : Node}
    (alone : token.leaf? = some tree) :
    step ⟨.operand, brackets, last⟩ token = some ⟨.complete, brackets, some token⟩ := by
  unfold Token.leaf? at alone
  split at alone <;> simp_all [step, ofStart]

theorem step_operator {sign : Token} {level : Level} (operator : sign.kind ∈ level.operators)
    (brackets : List Bracket) (last : Option Token) :
    step ⟨.complete, brackets, last⟩ sign = some ⟨.operand, brackets, some sign⟩ := by
  simp only [step, if_pos (operator_is_binary_kind operator)]

theorem step_argument {brackets : List Bracket} {previous opening : Token}
    (opens : opening.kind = .groupOpen) (touches : opening.span.start = previous.span.stop) :
    step ⟨.complete, brackets, some previous⟩ opening =
      some ⟨.operand, .group :: brackets, some opening⟩ := by
  have notOperator : opening.kind ∉ binaryKinds := by
    rw [opens]
    decide
  have argument : opening.kind = .groupOpen ∧ opening.follows (some previous) = true := by
    simp [opens, Token.follows, touches]
  simp only [step, if_neg notOperator, if_pos argument]

/-- After a complete operand, a token that neither operates nor opens a group is a boundary. -/
theorem step_boundary {token : Token} (plain : token.kind ∉ .groupOpen :: binaryKinds)
    (brackets : List Bracket) (last : Option Token) :
    step ⟨.complete, brackets, last⟩ token = ofBoundary brackets token := by
  rw [List.mem_cons, not_or] at plain
  have noArgument : ¬(token.kind = .groupOpen ∧ token.follows last = true) := by
    intro argument
    exact plain.1 argument.1
  simp only [step, if_neg plain.2, if_neg noArgument]

theorem step_group_close {brackets : List Bracket} {last : Option Token} {closing : Token}
    (closes : closing.kind = .groupClose) :
    step ⟨.complete, .group :: brackets, last⟩ closing =
      some ⟨.complete, brackets, some closing⟩ := by
  rw [step_boundary (by rw [closes]; decide)]
  exact if_pos closes

theorem step_vector_close {stage : Stage} {brackets : List Bracket} {last : Option Token}
    {closing : Token} (inside : stage = .item ∨ stage = .complete)
    (closes : closing.kind = .vectorClose) :
    step ⟨stage, .vector :: brackets, last⟩ closing =
      some ⟨.complete, brackets, some closing⟩ := by
  rcases inside with rfl | rfl
  · exact if_pos closes
  · rw [step_boundary (by rw [closes]; decide)]
    exact if_pos closes

/-- Items one after another lead from inside a vector to inside the same vector. -/
theorem run_items {brackets : List Bracket} (parts : List (List Token × Node))
    (items : ∀ part ∈ parts, part.1 ≠ [] ∧ ∀ last,
      run ⟨.operand, .vector :: brackets, last⟩ part.1 =
        some ⟨.complete, .vector :: brackets, part.1.getLast?⟩)
    (stage : Stage) (last : Option Token) (inside : stage = .item ∨ stage = .complete) :
    ∃ next final, (next = .item ∨ next = .complete) ∧
      run ⟨stage, .vector :: brackets, last⟩ (parts.map Prod.fst).flatten =
        some ⟨next, .vector :: brackets, final⟩ := by
  induction parts generalizing stage last with
  | nil => exact ⟨stage, last, inside, rfl⟩
  | cons part parts induction =>
      obtain ⟨nonempty, starts⟩ := items part (by simp)
      have first := run_within_vector inside (starts last) nonempty
      obtain ⟨next, final, settled, rest⟩ := induction
        (by intro other member; exact items other (by simp [member])) .complete
        part.1.getLast? (.inr rfl)
      exact ⟨next, final, settled, run_trans first rest⟩

/-- The expectations go through every derivation. -/
theorem run_derived {strict : Bool} {phrase : Phrase} {tokens : List Token} {tree : Node}
    (derived : Derives strict phrase tokens tree) (brackets : List Bracket)
    (last : Option Token) :
    run ⟨.operand, brackets, last⟩ tokens = some ⟨.complete, brackets, tokens.getLast?⟩ := by
  induction derived generalizing brackets last with
  | leaf alone => exact run_singleton (step_leaf alone)
  | @group opening closing inner tree opens closes within induction =>
      have opened : step ⟨.operand, brackets, last⟩ opening =
          some ⟨.operand, .group :: brackets, some opening⟩ := by
        simp [step, ofStart, opens]
      have body := run_trans (induction (.group :: brackets) (some opening))
        (run_singleton (step_group_close closes))
      exact run_nonempty_last (run_cons opened body) (by simp)
  | @vector opening closing parts opens closes items induction =>
      have opened : step ⟨.operand, brackets, last⟩ opening =
          some ⟨.item, .vector :: brackets, some opening⟩ := by
        simp [step, ofStart, opens]
      obtain ⟨next, final, inside, body⟩ := run_items parts
        (by
          intro part member
          exact ⟨derived_tokens_nonempty (items part member),
            induction part member (.vector :: brackets)⟩)
        .item (some opening) (.inl rfl)
      exact run_nonempty_last (run_cons opened
        (run_trans body (run_singleton (step_vector_close inside closes)))) (by simp)
  | bare _ induction => exact induction brackets last
  | @apply tokens inner previous opening closing callee argument function before opens touches
      within closes functionRuns withinRuns =>
      have called := functionRuns brackets last
      rw [before] at called
      have body := run_trans (withinRuns (.group :: brackets) (some opening))
        (run_singleton (step_group_close closes))
      exact run_nonempty_last
        (run_trans called (run_cons (step_argument opens touches) body)) (by simp)
  | @negate sign tokens operand minus factor induction =>
      have signed : step ⟨.operand, brackets, last⟩ sign =
          some ⟨.operand, brackets, some sign⟩ := by
        simp [step, ofStart, minus]
      exact run_nonempty_last (run_cons signed (induction brackets (some sign))) (by simp)
  | plain _ induction => exact induction brackets last
  | single _ induction => exact induction brackets last
  | @step level tokens others sign left right chain operator compares operand chainRuns
      operandRuns =>
      exact run_nonempty_last (run_trans (chainRuns brackets last)
        (run_cons (step_operator operator _ _) (operandRuns brackets (some sign)))) (by simp)
  | compare _ induction => exact induction brackets last
  | @assign tokens others sign target value call bindable equals expression callRuns
      expressionRuns =>
      have operator : sign.kind ∈ Level.comparison.operators := by
        rw [equals]
        decide
      exact run_nonempty_last (run_trans (callRuns brackets last)
        (run_cons (step_operator operator _ _) (expressionRuns brackets (some sign)))) (by simp)

end Expectation

end VectorCalc

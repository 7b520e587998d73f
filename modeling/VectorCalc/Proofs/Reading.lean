import VectorCalc.Proofs.Expectation

/-!
The reader against the grammar. Each rule of the reader either takes a prefix of the tokens that
the grammar derives and stops where nothing can extend it, or gives up on a token that cannot
come next after the tokens before it. The first part is soundness. The second is completeness,
because the expectations go through everything the grammar derives.
-/
namespace VectorCalc

set_option autoImplicit false

structure Cursor.Passes (cursor : Cursor) (taken : List Token) (after : Cursor) : Prop where
  rest : cursor.rest = taken ++ after.rest
  last : after.last = taken.getLast?.or cursor.last
  consumed : after.consumed = cursor.consumed + taken.length

namespace Cursor

theorem passes_nothing (cursor : Cursor) : cursor.Passes [] cursor :=
  ⟨rfl, rfl, rfl⟩

theorem eq_of_passes_nothing {cursor after : Cursor} (passes : cursor.Passes [] after) :
    after = cursor := by
  obtain ⟨rest, last, consumed⟩ := passes
  cases cursor
  cases after
  simp_all

theorem Passes.trans {cursor middle after : Cursor} {taken others : List Token}
    (first : cursor.Passes taken middle) (second : middle.Passes others after) :
    cursor.Passes (taken ++ others) after where
  rest := by rw [first.rest, second.rest, List.append_assoc]
  last := by
    rw [second.last, first.last, List.getLast?_append]
    cases others.getLast? <;> rfl
  consumed := by
    rw [second.consumed, first.consumed, List.length_append, Nat.add_assoc]

theorem Passes.shorter {cursor after : Cursor} {taken : List Token}
    (passes : cursor.Passes taken after) (nonempty : taken ≠ []) :
    after.rest.length < cursor.rest.length := by
  have positive := List.length_pos_iff.mpr nonempty
  rw [passes.rest, List.length_append]
  omega

theorem passes_advance {cursor : Cursor} {token : Token} {others : List Token}
    (rest : cursor.rest = token :: others) : cursor.Passes [token] cursor.advance := by
  unfold advance
  rw [rest]
  exact ⟨rest, rfl, rfl⟩

theorem rest_of_kind {cursor : Cursor} (inside : cursor.kind ≠ .fileEnd) :
    ∃ others, cursor.rest = cursor.current :: others := by
  unfold kind current at *
  cases rest : cursor.rest with
  | nil =>
      rw [rest] at inside
      exact absurd (by unfold endToken; cases cursor.last <;> rfl) inside
  | cons token others => exact ⟨others, rfl⟩

theorem passes_current {cursor : Cursor} (inside : cursor.kind ≠ .fileEnd) :
    cursor.Passes [cursor.current] cursor.advance := by
  obtain ⟨others, rest⟩ := rest_of_kind inside
  exact passes_advance rest

theorem touches_eq_follows (cursor : Cursor) :
    cursor.touches = cursor.current.follows cursor.last := by
  unfold touches Token.follows
  cases cursor.last <;> rfl

end Cursor

def Phrase.extenders : Phrase → List TokenKind
  | .expression => binaryKinds
  | .chain .comparison => binaryKinds
  | .chain .sum => Level.sum.operators ++ (Level.product.operators ++
      (Level.power.operators ++ Level.index.operators))
  | .chain .product => Level.product.operators ++ (Level.power.operators ++ Level.index.operators)
  | .chain .power => Level.power.operators ++ Level.index.operators
  | .chain .index => Level.index.operators
  | .factor => []
  | .call => []
  | .atom => []

def Phrase.ExtendedAt (phrase : Phrase) (cursor : Cursor) : Prop :=
  match phrase with
  | .atom => False
  | phrase =>
      cursor.kind ∈ phrase.extenders ∨ (cursor.kind = .groupOpen ∧ cursor.touches = true)

theorem chain_extenders (level : Level) :
    (Phrase.chain level).extenders = level.operators ++ level.operand.extenders := by
  cases level <;> rfl

theorem chain_extended {level : Level} {cursor : Cursor} :
    (Phrase.chain level).ExtendedAt cursor ↔
      cursor.kind ∈ level.operators ∨ level.operand.ExtendedAt cursor := by
  have operand : level.operand.ExtendedAt cursor ↔ cursor.kind ∈ level.operand.extenders ∨
      (cursor.kind = .groupOpen ∧ cursor.touches = true) := by
    cases level <;> rfl
  rw [operand]
  simp only [Phrase.ExtendedAt]
  rw [chain_extenders, List.mem_append, or_assoc]

inductive Complaint (token : Token) : Stop → Prop where
  | unexpected : Complaint token (.issue ⟨.unexpectedToken token, token.span⟩)
  | expected {kind : TokenKind} (known : kind ∈ [.groupClose, .lineEnd, .fileEnd]) :
      Complaint token (.issue ⟨.expectedToken kind token, token.span⟩)

/-- From an expectation some tokens can be taken, and the reader stops at the first that cannot
come next. -/
def Refuses (state : Expectation) (cursor : Cursor) (stop : Stop) : Prop :=
  ∃ taken here next, cursor.Passes taken here ∧ state.run taken = some next ∧
    next.stage ≠ .finished ∧ next.step here.current = none ∧ Complaint here.current stop

/-- Either the rule takes tokens that the phrase derives and nothing extends them, or it stops
at a token that cannot come next. -/
inductive Agrees (phrase : Phrase) (brackets : List Bracket) (cursor : Cursor) :
    Except Stop (Node × Cursor) → Prop where
  | reads {taken : List Token} {tree : Node} {after : Cursor}
      (passes : cursor.Passes taken after) (derived : Derives true phrase taken tree)
      (settled : ¬phrase.ExtendedAt after) : Agrees phrase brackets cursor (.ok (tree, after))
  | refuses {stop : Stop} (refused : Refuses ⟨.operand, brackets, cursor.last⟩ cursor stop) :
      Agrees phrase brackets cursor (.error stop)

theorem refuses_here {state : Expectation} {cursor : Cursor} {stop : Stop}
    (going : state.stage ≠ .finished) (dead : state.step cursor.current = none)
    (complaint : Complaint cursor.current stop) : Refuses state cursor stop :=
  ⟨[], cursor, state, cursor.passes_nothing, rfl, going, dead, complaint⟩

theorem refuses_later {state next : Expectation} {cursor here : Cursor} {taken : List Token}
    {stop : Stop} (passes : cursor.Passes taken here) (runs : state.run taken = some next)
    (refused : Refuses next here stop) : Refuses state cursor stop := by
  obtain ⟨others, final, last, further, rest, going, dead, complaint⟩ := refused
  exact ⟨taken ++ others, final, last, passes.trans further, Expectation.run_trans runs rest,
    going, dead, complaint⟩

theorem refuses_congr {state other : Expectation} {cursor : Cursor} {stop : Stop}
    (same : state.step cursor.current = other.step cursor.current)
    (going : other.stage ≠ .finished) (refused : Refuses state cursor stop) :
    Refuses other cursor stop := by
  obtain ⟨taken, here, next, passes, runs, goingOn, dead, complaint⟩ := refused
  cases taken with
  | nil =>
      have stays := Cursor.eq_of_passes_nothing passes
      subst stays
      cases runs
      exact refuses_here going (same ▸ dead) complaint
  | cons token others =>
      have current : cursor.current = token := by
        simp only [Cursor.current, passes.rest, List.cons_append]
      rw [current] at same
      refine ⟨token :: others, here, next, passes, ?_, goingOn, dead, complaint⟩
      simpa only [Expectation.run, ← same] using runs

/-- After a derived phrase the expectation is that of a complete operand. -/
theorem run_phrase {phrase : Phrase} {cursor after : Cursor} {taken : List Token} {tree : Node}
    (passes : cursor.Passes taken after) (derived : Derives true phrase taken tree)
    (brackets : List Bracket) :
    Expectation.run ⟨.operand, brackets, cursor.last⟩ taken =
      some ⟨.complete, brackets, after.last⟩ := by
  have nonempty := derived_tokens_nonempty derived
  have last : after.last = taken.getLast? := by
    rw [passes.last, List.getLast?_eq_some_getLast nonempty, Option.some_or]
  rw [last]
  exact Expectation.run_derived derived brackets cursor.last

theorem step_settled {cursor : Cursor} (settled : ¬Phrase.expression.ExtendedAt cursor)
    (brackets : List Bracket) :
    Expectation.step ⟨.complete, brackets, cursor.last⟩ cursor.current =
      Expectation.ofBoundary brackets cursor.current := by
  simp only [Phrase.ExtendedAt, Phrase.extenders, not_or] at settled
  have noOperator : cursor.current.kind ∉ binaryKinds := settled.1
  have noArgument : ¬(cursor.current.kind = .groupOpen ∧
      cursor.current.follows cursor.last = true) := by
    rw [← Cursor.touches_eq_follows]
    exact settled.2
  simp only [Expectation.step, if_neg noOperator, if_neg noArgument]

def NestedAgrees (nested : Rule) (bound : Nat) : Prop :=
  ∀ brackets cursor, cursor.rest.length + 1 < bound →
    Agrees .expression brackets cursor (nested cursor)

namespace Grammar

open Reader

theorem closed_agrees {nested : Rule} {bound : Nat} (agrees : NestedAgrees nested bound)
    (brackets : List Bracket) (cursor : Cursor) (short : cursor.rest.length + 1 < bound) :
    (∀ inner closing after, closed nested cursor = .ok (inner, closing, after) →
      ∃ taken, cursor.Passes (taken ++ [closing]) after ∧
        Derives true .expression taken inner ∧ closing.kind = .groupClose) ∧
    (∀ stop, closed nested cursor = .error stop →
      Refuses ⟨.operand, .group :: brackets, cursor.last⟩ cursor stop) := by
  have first := agrees (.group :: brackets) cursor short
  unfold closed
  generalize nested cursor = result at first
  cases first with
  | refuses refused => simpa using refused
  | @reads taken tree after passes derived settled =>
      simp only [plain_ok, plain_settle, Cursor.expect]
      by_cases closes : after.kind = .groupClose
      · have inside : after.kind ≠ .fileEnd := by simp [closes]
        have further := passes.trans (Cursor.passes_current inside)
        simp only [if_pos closes, plain_ok, plain_take, plain_return]
        refine ⟨?_, by simp⟩
        intro inner closing final same
        cases same
        exact ⟨taken, further, derived, closes⟩
      · simp only [if_neg closes, plain_error]
        refine ⟨by simp, ?_⟩
        intro stop same
        cases same
        have dead : Expectation.step ⟨.complete, .group :: brackets, after.last⟩ after.current =
            none := by
          rw [step_settled settled]
          exact if_neg closes
        exact refuses_later passes (run_phrase passes derived (.group :: brackets))
          (refuses_here (by simp) dead (.expected (by simp)))

/-- Inside a vector, where no item is being extended, anything but the closing bracket is taken as
the start of an item. -/
theorem step_next_item {stage : Stage} {cursor : Cursor} (brackets : List Bracket)
    (between : stage = .item ∨ stage = .complete ∧ ¬Phrase.expression.ExtendedAt cursor)
    (goesOn : cursor.kind ≠ .vectorClose) :
    Expectation.step ⟨.operand, .vector :: brackets, cursor.last⟩ cursor.current =
      Expectation.step ⟨stage, .vector :: brackets, cursor.last⟩ cursor.current := by
  have boundary : Expectation.ofBoundary (.vector :: brackets) cursor.current =
      Expectation.ofStart (.vector :: brackets) cursor.current := if_neg goesOn
  rcases between with rfl | ⟨rfl, settled⟩
  · exact boundary.symm
  · rw [step_settled settled, boundary]
    rfl

theorem items_agree {nested : Rule} {bound : Nat} (agrees : NestedAgrees nested bound)
    (brackets : List Bracket) (count : Nat) (read : List Node) (span : Span) (cursor : Cursor)
    (stage : Stage) (enough : cursor.rest.length < count)
    (short : cursor.rest.length + 1 < bound)
    (between : stage = .item ∨ stage = .complete ∧ ¬Phrase.expression.ExtendedAt cursor) :
    (∀ tree after, items nested count read span cursor = .ok (tree, after) →
      ∃ (parts : List (List Token × Node)) (closing : Token),
        cursor.Passes ((parts.map Prod.fst).flatten ++ [closing]) after ∧
        closing.kind = .vectorClose ∧
        (∀ part ∈ parts, Derives true .expression part.1 part.2) ∧
        tree = Node.vector (read.reverse ++ parts.map Prod.snd)
          (((parts.map Prod.snd).foldl (fun span item => span.extend item.span) span).extend
            closing.span)) ∧
    (∀ stop, items nested count read span cursor = .error stop →
      Refuses ⟨stage, .vector :: brackets, cursor.last⟩ cursor stop) := by
  induction count generalizing read span cursor stage with
  | zero => omega
  | succ count induction =>
      simp only [items]
      by_cases closes : cursor.kind = .vectorClose
      · have inside : cursor.kind ≠ .fileEnd := by simp [closes]
        simp only [if_pos closes, plain_take, plain_ok, plain_return]
        refine ⟨?_, by simp⟩
        intro tree after same
        cases same
        exact ⟨[], cursor.current, Cursor.passes_current inside, closes, by simp, by simp⟩
      · simp only [if_neg closes]
        have first := agrees (.vector :: brackets) cursor short
        have start := step_next_item brackets between closes
        have going : stage ≠ .finished := by
          rcases between with rfl | ⟨rfl, _⟩ <;> simp
        generalize nested cursor = result at first
        cases first with
        | refuses refused => simpa using refuses_congr start going refused
        | @reads taken item middle passes derived settled =>
            have nonempty := derived_tokens_nonempty derived
            have shorter := passes.shorter nonempty
            obtain ⟨succeeds, fails⟩ := induction (item :: read) (span.extend item.span) middle
              .complete (by omega) (by omega) (.inr ⟨rfl, settled⟩)
            constructor
            · intro tree after same
              obtain ⟨parts, closing, further, closed, derivations, shape⟩ :=
                succeeds tree after same
              refine ⟨(taken, item) :: parts, closing, ?_, closed, ?_, ?_⟩
              · simpa using passes.trans further
              · exact List.forall_mem_cons.mpr ⟨derived, derivations⟩
              · simpa using shape
            · intro stop same
              have runs := run_phrase passes derived (.vector :: brackets)
              have inside : stage = .item ∨ stage = .complete := between.imp_right And.left
              exact refuses_later passes (Expectation.run_within_vector inside runs nonempty)
                (fails stop same)

theorem leaf_agrees {brackets : List Bracket} {cursor : Cursor} {tree : Node}
    (alone : cursor.current.leaf? = some tree) :
    Agrees .atom brackets cursor (.ok (tree, cursor.advance)) := by
  have inside : cursor.kind ≠ .fileEnd := by
    intro ended
    unfold Cursor.kind at ended
    simp [Token.leaf?, ended] at alone
  exact .reads (Cursor.passes_current inside) (.leaf alone) id

theorem group_agrees {nested : Rule} {bound : Nat} (agrees : NestedAgrees nested bound)
    (brackets : List Bracket) (cursor : Cursor) (short : cursor.rest.length < bound)
    (opens : cursor.current.kind = .groupOpen) :
    Agrees .atom brackets cursor
      (do
        let (inner, _, after) ← closed nested cursor.advance
        return (inner, after)) := by
  have inside : cursor.kind ≠ .fileEnd := by simp [Cursor.kind, opens]
  have passes := Cursor.passes_current inside
  have shorter := passes.shorter (by simp)
  obtain ⟨succeeds, fails⟩ := closed_agrees agrees brackets cursor.advance (by omega)
  have opened : Expectation.step ⟨.operand, brackets, cursor.last⟩ cursor.current =
      some ⟨.operand, .group :: brackets, cursor.advance.last⟩ := by
    have last := passes.last
    simp only [List.getLast?_singleton, Option.some_or] at last
    simp [Expectation.step, Expectation.ofStart, opens, last]
  cases result : closed nested cursor.advance with
  | error stop =>
      exact .refuses (refuses_later passes (Expectation.run_singleton opened) (fails stop result))
  | ok read =>
      obtain ⟨inner, closing, after⟩ := read
      obtain ⟨taken, further, derived, closes⟩ := succeeds inner closing after result
      exact .reads (passes.trans further) (.group opens closes derived) id

theorem vector_agrees {nested : Rule} {bound : Nat} (agrees : NestedAgrees nested bound)
    (brackets : List Bracket) (cursor : Cursor) (short : cursor.rest.length < bound)
    (opens : cursor.current.kind = .vectorOpen) :
    Agrees .atom brackets cursor (items nested bound [] cursor.current.span cursor.advance) := by
  have inside : cursor.kind ≠ .fileEnd := by simp [Cursor.kind, opens]
  have passes := Cursor.passes_current inside
  have shorter := passes.shorter (by simp)
  obtain ⟨succeeds, fails⟩ := items_agree agrees brackets bound [] cursor.current.span
    cursor.advance .item (by omega) (by omega) (.inl rfl)
  have opened : Expectation.step ⟨.operand, brackets, cursor.last⟩ cursor.current =
      some ⟨.item, .vector :: brackets, cursor.advance.last⟩ := by
    have last := passes.last
    simp only [List.getLast?_singleton, Option.some_or] at last
    simp [Expectation.step, Expectation.ofStart, opens, last]
  cases result : items nested bound [] cursor.current.span cursor.advance with
  | error stop =>
      exact .refuses (refuses_later passes (Expectation.run_singleton opened) (fails stop result))
  | ok read =>
      obtain ⟨tree, after⟩ := read
      obtain ⟨parts, closing, further, closes, derivations, shape⟩ := succeeds tree after result
      rw [shape]
      exact .reads (passes.trans further) (.vector parts opens closes derivations) id

theorem atom_agrees {nested : Rule} {bound : Nat} (agrees : NestedAgrees nested bound)
    (brackets : List Bracket) (cursor : Cursor) (short : cursor.rest.length < bound)
    (unsigned : cursor.kind ≠ .subtract) :
    Agrees .atom brackets cursor (atom nested bound cursor) := by
  simp only [atom, leaf, plain_ruled, plain_take, plain_ok, plain_return, plain_fail]
  split
  case h_1 kind => exact leaf_agrees (by simp [Token.leaf?, kind])
  case h_2 kind => exact leaf_agrees (by simp [Token.leaf?, kind])
  case h_3 kind => exact leaf_agrees (by simp [Token.leaf?, kind])
  case h_4 kind => exact leaf_agrees (by simp [Token.leaf?, kind])
  case h_5 kind => exact leaf_agrees (by simp [Token.leaf?, kind])
  case h_6 kind => exact group_agrees agrees brackets cursor short kind
  case h_7 kind => exact vector_agrees agrees brackets cursor short kind
  case h_8 notInt notFloat notVariable notInfinity notPi notGroup notVector =>
      have dead : Expectation.step ⟨.operand, brackets, cursor.last⟩ cursor.current = none := by
        simp only [Expectation.step]
        unfold Expectation.ofStart
        split <;> first | rfl | contradiction
      exact .refuses (refuses_here (by simp) dead .unexpected)

theorem applications_go_on (nested : Rule) (bound : Nat) (callee : Node) {cursor : Cursor}
    (argument : cursor.kind = .groupOpen ∧ cursor.touches = true) :
    applications nested (bound + 1) callee cursor = (do
      let (argument, closing, after) ← closed nested cursor.advance
      applications nested bound (Node.call callee argument (callee.span.extend closing.span))
        after) := by
  simp only [applications, if_pos argument.1, if_pos argument.2, plain_note, plain_take, plain_ok]

theorem applications_end (nested : Rule) (bound : Nat) (callee : Node) {cursor : Cursor}
    (noArgument : ¬(cursor.kind = .groupOpen ∧ cursor.touches = true)) :
    applications nested (bound + 1) callee cursor = .ok (callee, cursor) := by
  by_cases opens : cursor.kind = .groupOpen
  · have apart : ¬cursor.touches = true := fun touches => noArgument ⟨opens, touches⟩
    simp only [applications, if_pos opens, if_neg apart, plain_note, plain_ok, plain_return]
  · simp only [applications, if_neg opens, plain_return]

theorem applications_agree {nested : Rule} {bound : Nat} (agrees : NestedAgrees nested bound)
    (brackets : List Bracket) (count : Nat) (callee : Node) (start cursor : Cursor)
    (taken : List Token) (passes : start.Passes taken cursor)
    (derived : Derives true .call taken callee) (enough : cursor.rest.length < count)
    (short : cursor.rest.length < bound) :
    Agrees .call brackets start (applications nested count callee cursor) := by
  induction count generalizing callee cursor taken with
  | zero => omega
  | succ count induction =>
      by_cases argument : cursor.kind = .groupOpen ∧ cursor.touches = true
      · rw [applications_go_on nested count callee argument]
        have opens : cursor.current.kind = .groupOpen := argument.1
        have inside : cursor.kind ≠ .fileEnd := by simp [argument.1]
        have opening := Cursor.passes_current inside
        have shorter := opening.shorter (by simp)
        obtain ⟨succeeds, fails⟩ := closed_agrees agrees brackets cursor.advance (by omega)
        have nonempty := derived_tokens_nonempty derived
        have lastOpen : cursor.advance.last = some cursor.current := opening.last
        have last : cursor.last = some (taken.getLast nonempty) := by
          rw [passes.last, List.getLast?_eq_some_getLast nonempty, Option.some_or]
        have touching : cursor.current.span.start = (taken.getLast nonempty).span.stop := by
          have touches := argument.2
          rw [Cursor.touches_eq_follows, last] at touches
          simpa [Token.follows] using touches
        cases result : closed nested cursor.advance with
        | error stop =>
            have runs := Expectation.run_trans (run_phrase passes derived brackets)
              (Expectation.run_singleton (last ▸ Expectation.step_argument opens touching))
            rw [← lastOpen] at runs
            exact .refuses (refuses_later (passes.trans opening) runs (fails stop result))
        | ok read =>
            obtain ⟨inner, closing, after⟩ := read
            obtain ⟨body, further, within, closes⟩ := succeeds inner closing after result
            have whole := passes.trans (opening.trans further)
            have application := Derives.apply derived
              (List.getLast?_eq_some_getLast nonempty) opens touching within closes
            have closed := further.shorter (by simp)
            exact induction _ after _ whole application (by omega) (by omega)
      · rw [applications_end nested count callee argument]
        exact .reads passes derived (by simpa [Phrase.ExtendedAt, Phrase.extenders] using argument)

theorem call_agrees {nested : Rule} {bound : Nat} (agrees : NestedAgrees nested bound)
    (brackets : List Bracket) (cursor : Cursor) (short : cursor.rest.length < bound)
    (unsigned : cursor.kind ≠ .subtract) :
    Agrees .call brackets cursor (call nested bound cursor) := by
  have first := atom_agrees agrees brackets cursor short unsigned
  unfold call
  rw [plain_ruled]
  generalize atom nested bound cursor = result at first
  cases first with
  | refuses refused => exact .refuses refused
  | @reads taken callee after passes derived settled =>
      have shorter := passes.shorter (derived_tokens_nonempty derived)
      exact applications_agree agrees brackets bound callee cursor after taken passes
        (.bare derived) (by omega) (by omega)

theorem factor_agrees {nested : Rule} {bound : Nat} (agrees : NestedAgrees nested bound)
    (brackets : List Bracket) (count : Nat) (cursor : Cursor)
    (enough : cursor.rest.length < count) (short : cursor.rest.length < bound) :
    Agrees .factor brackets cursor (factor (call nested bound) count cursor) := by
  induction count generalizing cursor with
  | zero => omega
  | succ count induction =>
      simp only [factor, plain_ruled, plain_take, plain_ok]
      by_cases minus : cursor.kind = .subtract
      · simp only [if_pos minus]
        have sign : cursor.current.kind = .subtract := minus
        have inside : cursor.kind ≠ .fileEnd := by simp [minus]
        have signed := Cursor.passes_current inside
        have shorter := signed.shorter (by simp)
        have last : cursor.advance.last = some cursor.current := signed.last
        have moves : Expectation.step ⟨.operand, brackets, cursor.last⟩ cursor.current =
            some ⟨.operand, brackets, cursor.advance.last⟩ := by
          simp [Expectation.step, Expectation.ofStart, sign, last]
        have rest := induction cursor.advance (by omega) (by omega)
        generalize factor (call nested bound) count cursor.advance = result at rest
        cases rest with
        | refuses refused =>
            exact .refuses (refuses_later signed (Expectation.run_singleton moves) refused)
        | reads passes derived settled =>
            exact .reads (signed.trans passes) (.negate sign derived) settled
      · simp only [if_neg minus]
        have rest := call_agrees agrees brackets cursor short minus
        generalize call nested bound cursor = result at rest
        cases rest with
        | refuses refused => exact .refuses refused
        | reads passes derived settled => exact .reads passes (.plain derived) settled

def OperandAgrees (phrase : Phrase) (operand : Rule) (bound : Nat) : Prop :=
  ∀ brackets cursor, cursor.rest.length < bound → Agrees phrase brackets cursor (operand cursor)

theorem chain_agrees (level : Level) {operand : Rule} {bound : Nat}
    (agrees : OperandAgrees level.operand operand bound) (brackets : List Bracket) (count : Nat)
    (left : Node) (start cursor : Cursor) (taken : List Token)
    (passes : start.Passes taken cursor) (derived : Derives true (.chain level) taken left)
    (settled : ¬level.operand.ExtendedAt cursor)
    (compares : cursor.kind ∈ level.operators → cursor.kind = .equal → isTarget left = false)
    (enough : cursor.rest.length < count) (short : cursor.rest.length < bound) :
    Agrees (.chain level) brackets start (chain level.operators operand count left cursor) := by
  induction count generalizing left cursor taken with
  | zero => omega
  | succ count induction =>
      simp only [chain, plain_take, plain_ok, plain_return]
      by_cases operator : cursor.kind ∈ level.operators
      · simp only [if_pos operator]
        have inside : cursor.kind ≠ .fileEnd := by
          intro ended
          rw [ended] at operator
          cases level <;> simp [Level.operators] at operator
        have signed := Cursor.passes_current inside
        have shorter := signed.shorter (by simp)
        have last : cursor.advance.last = some cursor.current := signed.last
        have moves := Expectation.run_singleton
          (Expectation.step_operator operator brackets cursor.last)
        rw [← last] at moves
        have next := agrees brackets cursor.advance (by omega)
        generalize operand cursor.advance = result at next
        cases next with
        | refuses refused =>
            exact .refuses (refuses_later (passes.trans signed)
              (Expectation.run_trans (run_phrase passes derived brackets) moves) refused)
        | @reads others right after further operandDerived operandSettled =>
            have whole := passes.trans (signed.trans further)
            have extended := Derives.step derived operator (fun _ => compares operator)
              operandDerived
            have least := further.shorter (derived_tokens_nonempty operandDerived)
            refine induction _ after _ whole extended operandSettled ?_ (by omega) (by omega)
            intro _ _
            rfl
      · simp only [if_neg operator]
        refine .reads passes derived ?_
        rw [chain_extended]
        exact not_or.mpr ⟨operator, settled⟩

theorem level_agrees (level : Level) {operand : Rule} {bound : Nat}
    (agrees : OperandAgrees level.operand operand bound)
    (arithmetic : .equal ∉ level.operators) :
    OperandAgrees (.chain level) (Grammar.level level bound operand) bound := by
  intro brackets cursor short
  have first := agrees brackets cursor short
  unfold Grammar.level
  rw [plain_ruled]
  generalize operand cursor = result at first
  cases first with
  | refuses refused => exact .refuses refused
  | @reads taken left after passes derived settled =>
      have shorter := passes.shorter (derived_tokens_nonempty derived)
      refine chain_agrees level agrees brackets bound left cursor after taken passes
        (.single derived) settled ?_ (by omega) (by omega)
      intro operator equal
      rw [equal] at operator
      exact absurd operator arithmetic

theorem sum_agrees {nested : Rule} {bound : Nat} (agrees : NestedAgrees nested bound) :
    OperandAgrees (.chain .sum) (sum nested bound) bound := by
  have factors : OperandAgrees .factor (factor (call nested bound) bound) bound := by
    intro brackets cursor short
    exact factor_agrees agrees brackets bound cursor short short
  have indices := level_agrees .index factors (by decide)
  have powers := level_agrees .power indices (by decide)
  have products := level_agrees .product powers (by decide)
  exact level_agrees .sum products (by decide)

theorem expression_with_agrees {nested : Rule} {bound : Nat} (agrees : NestedAgrees nested bound)
    (brackets : List Bracket) (cursor : Cursor) (short : cursor.rest.length < bound) :
    Agrees .expression brackets cursor (expressionWith nested bound cursor) := by
  have first := sum_agrees agrees brackets cursor short
  unfold expressionWith
  rw [plain_ruled]
  generalize sum nested bound cursor = result at first
  cases first with
  | refuses refused => exact .refuses refused
  | @reads taken left after passes derived settled =>
      have shorter := passes.shorter (derived_tokens_nonempty derived)
      simp only [plain_take, plain_ok, plain_return]
      by_cases assigns : after.kind = .equal ∧ isTarget left = true
      · simp only [if_pos assigns]
        have equals : after.current.kind = .equal := assigns.1
        have inside : after.kind ≠ .fileEnd := by simp [assigns.1]
        have signed := Cursor.passes_current inside
        have smaller := signed.shorter (by simp)
        have target := target_is_call_phrase derived assigns.2 (by simp) (by simp)
        have operator : after.current.kind ∈ Level.comparison.operators := by
          rw [equals]
          decide
        have moves := Expectation.run_singleton
          (Expectation.step_operator operator brackets after.last)
        have last : after.advance.last = some after.current := signed.last
        rw [← last] at moves
        have next := agrees brackets after.advance (by omega)
        generalize nested after.advance = result at next
        cases next with
        | refuses refused =>
            exact .refuses (refuses_later (passes.trans signed)
              (Expectation.run_trans (run_phrase passes derived brackets) moves) refused)
        | reads further value settledValue =>
            exact .reads (passes.trans (signed.trans further))
              (.assign target assigns.2 equals value) settledValue
      · simp only [if_neg assigns]
        have chained := chain_agrees .comparison (sum_agrees agrees) brackets bound left
          cursor after taken passes (.single derived) settled
          (by
            intro _ equal
            simpa [equal] using assigns)
          (by omega) (by omega)
        change Agrees .expression brackets cursor
          (chain Level.comparison.operators (sum nested bound) bound left after)
        generalize chain Level.comparison.operators (sum nested bound) bound left after = result
          at chained ⊢
        cases chained with
        | refuses refused => exact .refuses refused
        | reads whole comparison settledChain =>
            exact .reads whole (.compare comparison) settledChain

theorem expression_agrees (bound : Nat) (brackets : List Bracket) (cursor : Cursor)
    (short : cursor.rest.length < bound) :
    Agrees .expression brackets cursor (expression bound cursor) := by
  induction bound generalizing brackets cursor with
  | zero => omega
  | succ bound induction =>
      have agrees : NestedAgrees (expression bound) (bound + 1) := by
        intro inner nested shorter
        exact induction inner nested (by omega)
      exact expression_with_agrees agrees brackets cursor short

end Grammar

end VectorCalc

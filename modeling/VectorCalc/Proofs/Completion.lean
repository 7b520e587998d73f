import VectorCalc.Proofs.Acceptance

/-!
Where the reader gives up. Whatever may be expected after some tokens, they can be completed: an
operand that is due is supplied, the open brackets are closed from the innermost outwards, and the
file ends. So the expectations run exactly as far as some accepted input goes on, and the token at
which they stop is the first that no accepted input has in that place. This is the token that the
reader complains about.
-/
namespace VectorCalc

set_option autoImplicit false

/-- The reader returns a tree for these tokens, and the end of the file stands last and nowhere
else. -/
def Accepted (tokens : List Token) : Prop :=
  EndsOnce tokens ∧ ∃ tree, parseTokens tokens = .ok tree

def Bracket.closer : Bracket → Token
  | .group => { kind := .groupClose, payload := .text ")" }
  | .vector => { kind := .vectorClose, payload := .text "]" }

namespace Expectation

/-- No bracket is open before and after the expression, and items stand inside one. -/
def Placed (state : Expectation) : Prop :=
  match state.stage with
  | .operand => True
  | .complete => True
  | .item => state.brackets ≠ []
  | _ => state.brackets = []

theorem placed_start {brackets : List Bracket} {token : Token} {next : Expectation}
    (starts : ofStart brackets token = some next) : next.Placed := by
  unfold ofStart at starts
  split at starts <;> cases starts <;> simp [Placed]

theorem placed_boundary {brackets : List Bracket} {token : Token} {next : Expectation}
    (bounds : ofBoundary brackets token = some next) : next.Placed := by
  unfold ofBoundary at bounds
  split at bounds
  · split_ifs at bounds <;> cases bounds <;> rfl
  · split_ifs at bounds
    cases bounds
    trivial
  · split_ifs at bounds
    · cases bounds
      trivial
    · exact placed_start bounds

theorem step_placed {state next : Expectation} {token : Token} (placed : state.Placed)
    (moves : state.step token = some next) : next.Placed := by
  obtain ⟨stage, brackets, last⟩ := state
  cases stage with
  | opening =>
      simp only [step] at moves
      split_ifs at moves
      · cases moves
        exact placed
      · exact placed_start moves
  | operand => exact placed_start moves
  | item => exact placed_boundary moves
  | complete =>
      simp only [step] at moves
      split_ifs at moves
      · cases moves
        trivial
      · cases moves
        trivial
      · exact placed_boundary moves
  | closing =>
      simp only [step] at moves
      split_ifs at moves <;> cases moves <;> exact placed
  | finished => cases moves

theorem run_placed {state next : Expectation} {tokens : List Token} (placed : state.Placed)
    (runs : state.run tokens = some next) : next.Placed := by
  induction tokens generalizing state with
  | nil =>
      cases runs
      exact placed
  | cons token tokens induction =>
      simp only [run, Option.bind_eq_some_iff] at runs
      obtain ⟨middle, moves, rest⟩ := runs
      exact induction (step_placed placed moves) rest

theorem step_closer {stage : Stage} (inside : stage = .item ∨ stage = .complete)
    (bracket : Bracket) (outer : List Bracket) (last : Option Token) :
    step ⟨stage, bracket :: outer, last⟩ bracket.closer =
      some ⟨.complete, outer, some bracket.closer⟩ := by
  cases bracket with
  | group =>
      rcases inside with rfl | rfl
      · rfl
      · exact step_group_close rfl
  | vector => exact step_vector_close inside rfl

theorem run_closers (stage : Stage) (brackets : List Bracket) (last : Option Token)
    (inside : stage = .complete ∨ stage = .item ∧ brackets ≠ []) :
    ∃ final, run ⟨stage, brackets, last⟩ (brackets.map Bracket.closer) =
      some ⟨.complete, [], final⟩ := by
  induction brackets generalizing stage last with
  | nil =>
      rcases inside with rfl | ⟨_, nonempty⟩
      · exact ⟨last, rfl⟩
      · exact absurd rfl nonempty
  | cons bracket outer induction =>
      have closed := step_closer (inside.symm.imp_left And.left) bracket outer last
      obtain ⟨final, rest⟩ := induction .complete (some bracket.closer) (.inl rfl)
      exact ⟨final, run_cons closed rest⟩

/-- Whatever is expected, some tokens lead to where the file can end. -/
theorem exists_completion {state : Expectation} (placed : state.Placed)
    (going : state.stage ≠ .finished) :
    ∃ rest stage last, (stage = .complete ∨ stage = .closing) ∧
      state.run rest = some ⟨stage, [], last⟩ := by
  let operand : Token := { kind := .pi, payload := .text "pi" }
  obtain ⟨stage, brackets, last⟩ := state
  cases stage with
  | opening =>
      have empty : brackets = [] := placed
      subst empty
      exact ⟨[operand], .complete, some operand, .inl rfl, rfl⟩
  | operand =>
      obtain ⟨final, closes⟩ := run_closers .complete brackets (some operand) (.inl rfl)
      exact ⟨operand :: brackets.map Bracket.closer, .complete, final, .inl rfl,
        run_cons rfl closes⟩
  | item =>
      obtain ⟨final, closes⟩ := run_closers .item brackets last (.inr ⟨rfl, placed⟩)
      exact ⟨_, .complete, final, .inl rfl, closes⟩
  | complete =>
      obtain ⟨final, closes⟩ := run_closers .complete brackets last (.inl rfl)
      exact ⟨_, .complete, final, .inl rfl, closes⟩
  | closing =>
      have empty : brackets = [] := placed
      subst empty
      exact ⟨[], .closing, last, .inr rfl, rfl⟩
  | finished => exact absurd rfl going

end Expectation

theorem accepted_input_runs {tokens : List Token} (accepted : Accepted tokens) :
    ∃ last, Expectation.run ⟨.opening, [], none⟩ tokens = some ⟨.finished, [], last⟩ := by
  obtain ⟨once, tree, read⟩ := accepted
  have agrees := parse_agrees tokens
  rw [read] at agrees
  cases agrees with
  | reads leading expression trailing passes ends =>
      obtain ⟨stage, last, ready, runs⟩ := Expectation.run_body leading expression trailing
      have going : stage ≠ .finished := by
        rcases ready with rfl | rfl <;> simp
      obtain ⟨ending, shape, ended⟩ := rest_at_end once passes ends
        (Expectation.run_inside runs going)
      rw [shape]
      exact ⟨some ending, Expectation.run_trans runs
        (Expectation.run_singleton (Expectation.step_end ready ended))⟩

/-- Tokens after which something is expected are the beginning of an accepted input. -/
theorem run_extends_to_accepted {before : List Token} {state : Expectation}
    (runs : Expectation.run ⟨.opening, [], none⟩ before = some state)
    (going : state.stage ≠ .finished) :
    ∃ rest, Accepted (before ++ rest) := by
  let ending : Token := { kind := .fileEnd }
  have outside : Expectation.Placed ⟨.opening, [], none⟩ := rfl
  have placed := Expectation.run_placed outside runs
  obtain ⟨rest, stage, last, ready, completes⟩ := Expectation.exists_completion placed going
  have whole := Expectation.run_trans runs completes
  have inside := Expectation.run_inside whole (by rcases ready with rfl | rfl <;> simp)
  have ended := Expectation.run_trans whole
    (Expectation.run_singleton (Expectation.step_end ready (rfl : ending.kind = .fileEnd)))
  refine ⟨rest ++ [ending], ?_⟩
  rw [← List.append_assoc]
  refine ⟨⟨before ++ rest, ending, rfl, rfl, inside⟩, ?_⟩
  have agrees := parse_agrees (before ++ rest ++ [ending])
  cases read : parseTokens (before ++ rest ++ [ending]) with
  | ok tree => exact ⟨tree, rfl⟩
  | error stop =>
      rw [read] at agrees
      cases agrees with
      | refuses refused => exact absurd refused (finished_run_is_not_refused ended)

/-- A failure to read is reported at the first token that no accepted input has after the same
tokens before it. -/
theorem parse_fails_at_first_impossible_token (tokens : List Token) (stop : Stop)
    (once : EndsOnce tokens) (failed : parseTokens tokens = .error stop) :
    ∃ issue before token after, stop = .issue issue ∧ tokens = before ++ token :: after ∧
      issue.span = token.span ∧ (∃ rest, Accepted (before ++ rest)) ∧
      ∀ rest, ¬Accepted (before ++ token :: rest) := by
  have agrees := parse_agrees tokens
  rw [failed] at agrees
  cases agrees with
  | refuses refused =>
      obtain ⟨before, here, state, passes, runs, going, dead, complaint⟩ := refused
      -- The end of the file is still ahead, so the reader complains about a token of the list.
      have ahead : ∃ after, here.rest = here.current :: after := by
        cases rest : here.rest with
        | cons token after => exact ⟨after, by simp only [Cursor.current, rest]⟩
        | nil =>
            have split : tokens = before ++ here.rest := passes.rest
            obtain ⟨front, ending, shape, ends, _⟩ := once
            rw [rest, List.append_nil, shape] at split
            exact absurd ends (Expectation.run_inside runs going ending (by rw [← split]; simp))
      obtain ⟨after, rest⟩ := ahead
      have split : tokens = before ++ here.current :: after := by
        rw [← rest]
        exact passes.rest
      have impossible : ∀ others, ¬Accepted (before ++ here.current :: others) := by
        intro others accepted
        obtain ⟨last, finishes⟩ := accepted_input_runs accepted
        have stuck : state.run (here.current :: others) = none := by
          rw [Expectation.run, dead]
          rfl
        rw [Expectation.run_append, runs] at finishes
        exact absurd (stuck.symm.trans finishes) (by simp)
      have possible := run_extends_to_accepted runs going
      cases complaint with
      | unexpected => exact ⟨_, before, _, after, rfl, split, rfl, possible, impossible⟩
      | expected _ => exact ⟨_, before, _, after, rfl, split, rfl, possible, impossible⟩

/-- The tokens of `[f (1]`: the group does not touch the name and is not closed. -/
def unclosedGroup : List Token :=
  [⟨.vectorOpen, .text "[", ⟨0, 1, 0, 0, 0, 1⟩⟩, ⟨.variable, .text "f", ⟨1, 2, 0, 0, 1, 2⟩⟩,
    ⟨.groupOpen, .text "(", ⟨3, 4, 0, 0, 3, 4⟩⟩, ⟨.int, .int 1, ⟨4, 5, 0, 0, 4, 5⟩⟩,
    ⟨.vectorClose, .text "]", ⟨5, 6, 0, 0, 5, 6⟩⟩, ⟨.fileEnd, .none, ⟨6, 6, 0, 0, 6, 6⟩⟩]

theorem unclosed_group_fails_at_bracket :
    ∃ issue before token after, EndsOnce unclosedGroup ∧
      parseTokens unclosedGroup = .error (.issue issue) ∧ issue.span = ⟨5, 6, 0, 0, 5, 6⟩ ∧
      unclosedGroup = before ++ token :: after ∧ token.span = issue.span ∧
      (∃ rest, Accepted (before ++ rest)) ∧ ∀ rest, ¬Accepted (before ++ token :: rest) := by
  have once : EndsOnce unclosedGroup :=
    ⟨unclosedGroup.dropLast, ⟨.fileEnd, .none, ⟨6, 6, 0, 0, 6, 6⟩⟩, rfl, rfl, by decide⟩
  let closing : Token := ⟨.vectorClose, .text "]", ⟨5, 6, 0, 0, 5, 6⟩⟩
  have failed : parseTokens unclosedGroup =
      .error (.issue ⟨.expectedToken .groupClose closing, closing.span⟩) := rfl
  obtain ⟨issue, before, token, after, same, split, span, possible, impossible⟩ :=
    parse_fails_at_first_impossible_token unclosedGroup _ once failed
  cases same
  exact ⟨_, before, token, after, once, failed, rfl, split, span.symm, possible, impossible⟩

end VectorCalc

import VectorCalc.Proofs.Reading

/-!
Whole inputs. The reader accepts a token list exactly when the grammar derives it, however
ambiguous the derivation, and the tree it returns has a strict derivation: every equals sign
that can assign does.
-/
namespace VectorCalc

set_option autoImplicit false

namespace Expectation

theorem boundary_end {brackets : List Bracket} {next : Expectation} {ending : Token}
    (ends : ending.kind = .fileEnd) (bounds : ofBoundary brackets ending = some next) :
    next.stage = .finished := by
  unfold ofBoundary at bounds
  split at bounds
  · simp only [ends, reduceCtorEq, if_false, if_true, Option.some.injEq] at bounds
    rw [← bounds]
  · simp [ends] at bounds
  · simp [ends, ofStart] at bounds

theorem step_over {state next : Expectation} {ending : Token} (ends : ending.kind = .fileEnd)
    (moves : state.step ending = some next) : next.stage = .finished := by
  obtain ⟨stage, brackets, last⟩ := state
  cases stage with
  | opening => simp [step, ofStart, ends] at moves
  | operand => simp [step, ofStart, ends] at moves
  | item => exact boundary_end ends moves
  | complete =>
      rw [step_boundary (by rw [ends]; decide)] at moves
      exact boundary_end ends moves
  | closing =>
      simp only [step, ends, reduceCtorEq, if_false, if_true, Option.some.injEq] at moves
      rw [← moves]
  | finished => cases moves

theorem run_inside {state next : Expectation} {tokens : List Token}
    (runs : state.run tokens = some next) (going : next.stage ≠ .finished) :
    ∀ token ∈ tokens, token.kind ≠ .fileEnd := by
  induction tokens generalizing state with
  | nil => simp
  | cons token tokens induction =>
      simp only [run, Option.bind_eq_some_iff] at runs
      obtain ⟨middle, moves, rest⟩ := runs
      intro other member
      rcases List.mem_cons.mp member with rfl | later
      · intro ends
        have finished := step_over ends moves
        cases tokens with
        | nil =>
            cases rest
            exact going finished
        | cons following others =>
            have stuck : middle.step following = none := by simp only [step, finished]
            simp [run, stuck] at rest
      · exact induction rest other later

theorem run_leading {tokens : List Token} (leading : ∀ token ∈ tokens, token.kind = .lineEnd)
    (last : Option Token) :
    run ⟨.opening, [], last⟩ tokens = some ⟨.opening, [], tokens.getLast?.or last⟩ := by
  induction tokens generalizing last with
  | nil => rfl
  | cons token tokens induction =>
      have lineEnd := leading token (by simp)
      have moves : step ⟨.opening, [], last⟩ token = some ⟨.opening, [], some token⟩ := by
        simp only [step, if_pos lineEnd]
      have rest := induction (by intro other member; exact leading other (by simp [member]))
        (some token)
      rw [run_cons moves rest, List.getLast?_cons]
      cases tokens.getLast? <;> rfl

theorem run_trailing {tokens : List Token} (stage : Stage) (last : Option Token)
    (ready : stage = .complete ∨ stage = .closing)
    (trailing : ∀ token ∈ tokens, token.kind = .lineEnd) :
    run ⟨stage, [], last⟩ tokens =
      some ⟨if tokens = [] then stage else .closing, [], tokens.getLast?.or last⟩ := by
  induction tokens generalizing stage last with
  | nil => rfl
  | cons token tokens induction =>
      have lineEnd := trailing token (by simp)
      have moves : step ⟨stage, [], last⟩ token = some ⟨.closing, [], some token⟩ := by
        rcases ready with rfl | rfl
        · rw [step_boundary (by rw [lineEnd]; decide)]
          exact if_pos lineEnd
        · exact if_pos lineEnd
      have rest := induction .closing (some token) (.inr rfl)
        (by intro other member; exact trailing other (by simp [member]))
      rw [run_cons moves rest, List.getLast?_cons, ite_self, if_neg (List.cons_ne_nil _ _)]
      cases tokens.getLast? <;> rfl

theorem step_end {stage : Stage} {last : Option Token} {ending : Token}
    (ready : stage = .complete ∨ stage = .closing) (ends : ending.kind = .fileEnd) :
    step ⟨stage, [], last⟩ ending = some ⟨.finished, [], some ending⟩ := by
  have noLine : ending.kind ≠ .lineEnd := by simp [ends]
  rcases ready with rfl | rfl
  · rw [step_boundary (by rw [ends]; decide)]
    simp only [ofBoundary, if_neg noLine, if_pos ends]
  · simp only [step, if_neg noLine, if_pos ends]

theorem run_from_opening {brackets : List Bracket} {last : Option Token} {tokens : List Token}
    {next : Expectation} (starts : run ⟨.operand, brackets, last⟩ tokens = some next)
    (nonempty : tokens ≠ []) : run ⟨.opening, brackets, last⟩ tokens = some next := by
  cases tokens with
  | nil => exact absurd rfl nonempty
  | cons token others =>
      simp only [run, Option.bind_eq_some_iff] at starts ⊢
      obtain ⟨middle, first, rest⟩ := starts
      have noLine : token.kind ≠ .lineEnd := by
        intro lineEnd
        simp [step, ofStart, lineEnd] at first
      refine ⟨middle, ?_, rest⟩
      simpa only [step, if_neg noLine] using first

theorem run_body {strict : Bool} {before body after : List Token} {tree : Node}
    (leading : ∀ token ∈ before, token.kind = .lineEnd)
    (expression : Derives strict .expression body tree)
    (trailing : ∀ token ∈ after, token.kind = .lineEnd) :
    ∃ stage last, (stage = .complete ∨ stage = .closing) ∧
      run ⟨.opening, [], none⟩ (before ++ (body ++ after)) = some ⟨stage, [], last⟩ := by
  have middle := run_from_opening
    (run_derived expression [] (before.getLast?.or none)) (derived_tokens_nonempty expression)
  have rest := run_trailing .complete body.getLast? (.inl rfl) trailing
  refine ⟨_, _, ?_, run_trans (run_leading leading none) (run_trans middle rest)⟩
  by_cases empty : after = []
  · exact .inl (if_pos empty)
  · exact .inr (if_neg empty)

end Expectation

namespace Cursor

def advanceBy : Nat → Cursor → Cursor
  | 0, cursor => cursor
  | count + 1, cursor => advanceBy count cursor.advance

def skipLineEnds (cursor : Cursor) : Cursor :=
  advanceBy (cursor.rest.takeWhile fun token => token.kind = .lineEnd).length cursor

theorem plain_take_many (count : Nat) (cursor : Cursor) :
    (Reader.takeMany count cursor : Except Stop Cursor) = .ok (advanceBy count cursor) := by
  induction count generalizing cursor with
  | zero => rfl
  | succ count induction => exact induction cursor.advance

@[simp]
theorem plain_skip (cursor : Cursor) :
    (Reader.skipLineEnds cursor : Except Stop Cursor) = .ok cursor.skipLineEnds :=
  plain_take_many _ cursor

theorem advance_by_passes (count : Nat) (cursor : Cursor) (inside : count ≤ cursor.rest.length) :
    cursor.Passes (cursor.rest.take count) (advanceBy count cursor) := by
  induction count generalizing cursor with
  | zero => exact cursor.passes_nothing
  | succ count induction =>
      cases rest : cursor.rest with
      | nil => simp [rest] at inside
      | cons token others =>
          have first := passes_advance rest
          have remaining : cursor.advance.rest = others := by
            simp only [advance, rest]
          have further := induction cursor.advance (by
            rw [remaining]
            simpa [rest] using inside)
          rw [remaining] at further
          exact first.trans further

/-- Skipping passes all line ends that come next, and no other token. -/
theorem skip_passes (cursor : Cursor) :
    ∃ ends, (∀ token ∈ ends, token.kind = .lineEnd) ∧ cursor.Passes ends cursor.skipLineEnds ∧
      cursor.skipLineEnds.kind ≠ .lineEnd := by
  let ends := cursor.rest.takeWhile fun token => token.kind = .lineEnd
  have split : cursor.rest = ends ++ cursor.rest.dropWhile fun token => token.kind = .lineEnd :=
    List.takeWhile_append_dropWhile.symm
  have taken : cursor.rest.take ends.length = ends :=
    (List.prefix_iff_eq_take.mp (List.takeWhile_prefix _)).symm
  have passes : cursor.Passes ends cursor.skipLineEnds := by
    have advanced := advance_by_passes ends.length cursor
      (List.IsPrefix.length_le (List.takeWhile_prefix _))
    rw [taken] at advanced
    exact advanced
  refine ⟨ends, ?_, passes, ?_⟩
  · intro token member
    simpa using List.all_eq_true.mp List.all_takeWhile token member
  · have rest : cursor.skipLineEnds.rest =
        cursor.rest.dropWhile fun token => token.kind = .lineEnd := by
      have both := passes.rest
      rw [split] at both
      exact (List.append_cancel_left both).symm
    intro lineEnd
    have inside : cursor.skipLineEnds.kind ≠ .fileEnd := by simp [lineEnd]
    obtain ⟨others, shape⟩ := rest_of_kind inside
    rw [rest] at shape
    have stopped := List.head?_dropWhile_not (fun token : Token => token.kind = .lineEnd)
      cursor.rest
    rw [shape] at stopped
    simp only [List.head?_cons] at stopped
    unfold kind at lineEnd
    simp [lineEnd] at stopped

end Cursor

/-- What reading a whole token list comes to. -/
inductive InputAgrees (tokens : List Token) : Except Stop Node → Prop where
  | reads {before body after : List Token} {tree : Node} {here : Cursor}
      (leading : ∀ token ∈ before, token.kind = .lineEnd)
      (expression : Derives true .expression body tree)
      (trailing : ∀ token ∈ after, token.kind = .lineEnd)
      (passes : (Cursor.ofTokens tokens).Passes (before ++ (body ++ after)) here)
      (ends : here.kind = .fileEnd) : InputAgrees tokens (.ok tree)
  | refuses {stop : Stop} (refused : Refuses ⟨.opening, [], none⟩ (Cursor.ofTokens tokens) stop) :
      InputAgrees tokens (.error stop)

theorem finish_agrees (cursor : Cursor) (settled : ¬Phrase.expression.ExtendedAt cursor) :
    (∀ here, Grammar.finish cursor = .ok here →
      ∃ ends, (∀ token ∈ ends, token.kind = .lineEnd) ∧ cursor.Passes ends here ∧
        here.kind = .fileEnd) ∧
    (∀ stop, Grammar.finish cursor = .error stop →
      Refuses ⟨.complete, [], cursor.last⟩ cursor stop) := by
  simp only [Grammar.finish, Reader.plain_settle, Cursor.plain_skip, Reader.plain_return]
  by_cases ended : cursor.kind = .fileEnd
  · simp only [if_pos ended]
    refine ⟨?_, by simp⟩
    intro here same
    cases same
    exact ⟨[], by simp, cursor.passes_nothing, ended⟩
  · simp only [if_neg ended]
    by_cases lineEnd : cursor.kind = .lineEnd
    · simp only [Cursor.expect, if_pos lineEnd, Reader.plain_ok]
      obtain ⟨ends, all, passes, stops⟩ := cursor.skip_passes
      by_cases finished : cursor.skipLineEnds.kind = .fileEnd
      · simp only [if_pos finished, Reader.plain_ok]
        refine ⟨?_, by simp⟩
        intro here same
        cases same
        exact ⟨ends, all, passes, finished⟩
      · simp only [if_neg finished, Reader.plain_error]
        refine ⟨by simp, ?_⟩
        intro stop same
        cases same
        have nonempty : ends ≠ [] := by
          intro none
          subst none
          rw [Cursor.eq_of_passes_nothing passes] at stops
          exact stops lineEnd
        have runs := Expectation.run_trailing .complete cursor.last (.inl rfl) all
        rw [if_neg nonempty, ← passes.last] at runs
        have dead : Expectation.step ⟨.closing, [], cursor.skipLineEnds.last⟩
            cursor.skipLineEnds.current = none := (if_neg stops).trans (if_neg finished)
        exact refuses_later passes runs (refuses_here (by simp) dead (.expected (by simp)))
    · simp only [Cursor.expect, if_neg lineEnd, Reader.plain_error]
      refine ⟨by simp, ?_⟩
      intro stop same
      cases same
      have dead : Expectation.step ⟨.complete, [], cursor.last⟩ cursor.current = none := by
        rw [step_settled settled]
        exact (if_neg lineEnd).trans (if_neg ended)
      exact refuses_here (by simp) dead (.expected (by simp))

theorem parse_agrees (tokens : List Token) : InputAgrees tokens (parseTokens tokens) := by
  let start := Cursor.ofTokens tokens
  obtain ⟨before, leading, skipped, stops⟩ := start.skip_passes
  have opened := Expectation.run_leading leading none
  have last : start.skipLineEnds.last = before.getLast?.or none := skipped.last
  rw [← last] at opened
  have short : start.skipLineEnds.rest.length < tokens.length + 1 := by
    have whole := congrArg List.length skipped.rest
    rw [List.length_append] at whole
    change tokens.length = _ at whole
    omega
  have read := Grammar.expression_agrees (tokens.length + 1) [] start.skipLineEnds short
  simp only [parseTokens, Grammar.input, Cursor.plain_skip, Reader.plain_ok]
  generalize Grammar.expression (tokens.length + 1)
    (Cursor.ofTokens tokens).skipLineEnds = result at read
  cases read with
  | refuses refused =>
      have same : Expectation.step ⟨.operand, [], start.skipLineEnds.last⟩
          start.skipLineEnds.current =
            Expectation.step ⟨.opening, [], start.skipLineEnds.last⟩
              start.skipLineEnds.current := (if_neg stops).symm
      exact .refuses (refuses_later skipped opened (refuses_congr same (by simp) refused))
  | @reads body tree middle passes derived settled =>
      obtain ⟨succeeds, fails⟩ := finish_agrees middle settled
      simp only [Reader.plain_ok]
      cases finished : Grammar.finish middle with
      | error stop =>
          have runs := Expectation.run_from_opening (run_phrase passes derived [])
            (derived_tokens_nonempty derived)
          exact .refuses (refuses_later skipped opened
            (refuses_later passes runs (fails stop finished)))
      | ok here =>
          obtain ⟨after, trailing, further, ends⟩ := succeeds here finished
          exact .reads leading derived trailing (skipped.trans (passes.trans further)) ends

theorem derived_input_runs {strict : Bool} {tokens : List Token} {tree : Node}
    (derived : DerivesInput strict tokens tree) :
    ∃ last, Expectation.run ⟨.opening, [], none⟩ tokens = some ⟨.finished, [], last⟩ := by
  cases derived with
  | @input before body after ending tree leading expression trailing ends =>
      obtain ⟨stage, last, ready, runs⟩ :=
        Expectation.run_body leading expression trailing
      refine ⟨some ending, ?_⟩
      have whole := Expectation.run_trans runs
        (Expectation.run_singleton (Expectation.step_end ready ends))
      simpa using whole

/-- Tokens that run to the end of the file are never refused. -/
theorem finished_run_is_not_refused {tokens : List Token} {last : Option Token} {stop : Stop}
    (runs : Expectation.run ⟨.opening, [], none⟩ tokens = some ⟨.finished, [], last⟩) :
    ¬Refuses ⟨.opening, [], none⟩ (Cursor.ofTokens tokens) stop := by
  rintro ⟨taken, here, next, passes, reached, going, dead, _⟩
  have split : tokens = taken ++ here.rest := passes.rest
  cases rest : here.rest with
  | nil =>
      rw [rest, List.append_nil] at split
      rw [split, reached] at runs
      cases runs
      exact going rfl
  | cons token others =>
      have current : here.current = token := by simp only [Cursor.current, rest]
      rw [current] at dead
      rw [split, rest, Expectation.run_append, reached] at runs
      simp [Expectation.run, dead] at runs

theorem rest_at_end {tokens taken : List Token} {here : Cursor} (once : EndsOnce tokens)
    (passes : (Cursor.ofTokens tokens).Passes taken here) (ends : here.kind = .fileEnd)
    (inside : ∀ token ∈ taken, token.kind ≠ .fileEnd) :
    ∃ ending, tokens = taken ++ [ending] ∧ ending.kind = .fileEnd := by
  obtain ⟨front, ending, shape, last, before⟩ := once
  have split : tokens = taken ++ here.rest := passes.rest
  rcases List.eq_nil_or_concat here.rest with none | ⟨others, final, rest⟩
  · rw [none, List.append_nil] at split
    have member : ending ∈ taken := by
      rw [← split, shape]
      simp
    exact absurd last (inside ending member)
  · rw [List.concat_eq_append] at rest
    have same : front ++ [ending] = (taken ++ others) ++ [final] := by
      rw [← shape, split, rest, List.append_assoc]
    obtain ⟨fronts, endings⟩ := List.append_inj' same rfl
    cases others with
    | nil =>
        rw [rest, List.nil_append] at split
        rw [List.singleton_inj] at endings
        exact ⟨final, split, endings ▸ last⟩
    | cons token others =>
        have current : here.current = token := by
          simp only [Cursor.current, rest, List.cons_append]
        unfold Cursor.kind at ends
        rw [current] at ends
        exact absurd ends (before token (by rw [fronts]; simp))

/-- The reader accepts exactly what the grammar derives, and gives it a tree of the grammar in
which an equals sign assigns wherever it can. -/
theorem parse_accepts_exactly_derived_inputs (tokens : List Token) (once : EndsOnce tokens) :
    ((∃ tree, parseTokens tokens = .ok tree) ↔ ∃ tree, DerivesInput false tokens tree) ∧
      ∀ tree, parseTokens tokens = .ok tree → DerivesInput true tokens tree := by
  have sound : ∀ tree, parseTokens tokens = .ok tree → DerivesInput true tokens tree := by
    intro tree read
    have agrees := parse_agrees tokens
    rw [read] at agrees
    cases agrees with
    | reads leading expression trailing passes ends =>
        obtain ⟨stage, last, ready, runs⟩ :=
          Expectation.run_body leading expression trailing
        have going : stage ≠ .finished := by
          rcases ready with rfl | rfl <;> simp
        obtain ⟨ending, shape, last⟩ := rest_at_end once passes ends
          (Expectation.run_inside runs going)
        rw [shape, List.append_assoc, List.append_assoc]
        exact .input leading expression trailing last
  refine ⟨⟨?_, ?_⟩, sound⟩
  · rintro ⟨tree, read⟩
    exact ⟨tree, strict_input_derives (sound tree read)⟩
  · rintro ⟨tree, derived⟩
    obtain ⟨last, runs⟩ := derived_input_runs derived
    have agrees := parse_agrees tokens
    cases read : parseTokens tokens with
    | ok found => exact ⟨found, rfl⟩
    | error stop =>
        rw [read] at agrees
        cases agrees with
        | refuses refused => exact absurd refused (finished_run_is_not_refused runs)

/-- The tokens of `f(x) = [x (1) -2]` with a line end after it: a definition whose body can be
divided into one, two or three items. -/
def ambiguousVector : List Token :=
  [⟨.variable, .text "f", ⟨0, 1, 0, 0, 0, 1⟩⟩, ⟨.groupOpen, .text "(", ⟨1, 2, 0, 0, 1, 2⟩⟩,
    ⟨.variable, .text "x", ⟨2, 3, 0, 0, 2, 3⟩⟩, ⟨.groupClose, .text ")", ⟨3, 4, 0, 0, 3, 4⟩⟩,
    ⟨.equal, .text "=", ⟨5, 6, 0, 0, 5, 6⟩⟩, ⟨.vectorOpen, .text "[", ⟨7, 8, 0, 0, 7, 8⟩⟩,
    ⟨.variable, .text "x", ⟨8, 9, 0, 0, 8, 9⟩⟩, ⟨.groupOpen, .text "(", ⟨10, 11, 0, 0, 10, 11⟩⟩,
    ⟨.int, .int 1, ⟨11, 12, 0, 0, 11, 12⟩⟩, ⟨.groupClose, .text ")", ⟨12, 13, 0, 0, 12, 13⟩⟩,
    ⟨.subtract, .text "-", ⟨14, 15, 0, 0, 14, 15⟩⟩, ⟨.int, .int 2, ⟨15, 16, 0, 0, 15, 16⟩⟩,
    ⟨.vectorClose, .text "]", ⟨16, 17, 0, 0, 16, 17⟩⟩,
    ⟨.lineEnd, .text "\n", ⟨17, 18, 0, 1, 17, 18⟩⟩, ⟨.fileEnd, .none, ⟨18, 18, 1, 1, 0, 0⟩⟩]

theorem ambiguous_vector_is_accepted :
    EndsOnce ambiguousVector ∧ ∃ tree, parseTokens ambiguousVector = .ok tree ∧
      DerivesInput true ambiguousVector tree := by
  have once : EndsOnce ambiguousVector :=
    ⟨ambiguousVector.dropLast, ⟨.fileEnd, .none, ⟨18, 18, 1, 1, 0, 0⟩⟩, rfl, rfl, by decide⟩
  have read : ∃ tree, parseTokens ambiguousVector = .ok tree := ⟨_, rfl⟩
  obtain ⟨tree, returned⟩ := read
  exact ⟨once, tree, returned,
    (parse_accepts_exactly_derived_inputs ambiguousVector once).2 tree returned⟩

end VectorCalc

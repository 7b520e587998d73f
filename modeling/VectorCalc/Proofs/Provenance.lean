import VectorCalc.Proofs.Grounding
import VectorCalc.Proofs.Session

/-!
Where diagnostics come from. Text that is no token is reported at the first bad token of the scan,
and tokens that are no expression at one of the tokens. An evaluation that stops points at a node of
the tree that was read, or at a node in the body of a function that was bound before it: a function
that is defined, passed or returned on the way has its body in one of these. The label of the input
is added to a diagnostic last, and nothing else is said about the place.
-/
namespace VectorCalc

set_option autoImplicit false

theorem tokenize_issue {text : String} {issue : Issue}
    (failed : tokenize text = .error (.issue issue)) :
    ∃ token, (Source.ofText text).scan.tokens.find? (fun token => token.kind = .bad) = some token ∧
      issue = token.badCharacter := by
  unfold tokenize at failed
  dsimp only at failed
  split at failed
  · next token found =>
      cases failed
      exact ⟨token, found, rfl⟩
  · split at failed <;> cases failed

/-- The end of the file is still ahead when reading stops, so it stops at a token of the list. -/
theorem parse_complaint {tokens : List Token} (once : EndsOnce tokens) {stop : Stop}
    (failed : parseTokens tokens = .error stop) : ∃ token ∈ tokens, Complaint token stop := by
  have agrees := parse_agrees tokens
  rw [failed] at agrees
  cases agrees with
  | refuses refused =>
      obtain ⟨before, here, state, passes, runs, going, _, complaint⟩ := refused
      have split : tokens = before ++ here.rest := passes.rest
      refine ⟨here.current, ?_, complaint⟩
      cases rest : here.rest with
      | cons token after => simp [split, Cursor.current, rest]
      | nil =>
          -- Then the end of the file has been read, and nothing is refused after it.
          obtain ⟨front, ending, shape, ends, _⟩ := once
          rw [rest, List.append_nil, shape] at split
          exact absurd ends (Expectation.run_inside runs going ending (by rw [← split]; simp))

theorem parse_issue {tokens : List Token} (once : EndsOnce tokens) {issue : Issue}
    (failed : parseTokens tokens = .error (.issue issue)) :
    ∃ token ∈ tokens, issue.span = token.span := by
  obtain ⟨token, member, complaint⟩ := parse_complaint once failed
  cases complaint with
  | unexpected => exact ⟨token, member, rfl⟩
  | expected _ => exact ⟨token, member, rfl⟩

def Node.InTreeOrBound (tree : Node) (bindings : Bindings) (node : Node) : Prop :=
  tree.Part node ∨ ∃ name parameter body,
    bindings.get? name = some (.function parameter body) ∧ body.Part node

theorem tree_or_bound_closed {texts : List String} {tree : Node} {bindings : Bindings}
    (treeFormed : tree.WellFormed) (formed : bindings.Formed (ReadFrom texts)) :
    ClosedOrigin (tree.InTreeOrBound bindings) where
  formed := by
    rintro node (within | ⟨name, parameter, body, bound, within⟩)
    · exact Node.part_well_formed treeFormed within
    · cases Bindings.get_formed formed bound with
      | number plain => cases plain
      | function _ read =>
          exact Node.part_well_formed ((read_from_closed texts).formed body read) within
  parts := by
    rintro node (within | ⟨name, parameter, body, bound, within⟩) child inside
    · exact .inl (Node.part_child within inside)
    · exact .inr ⟨name, parameter, body, bound, Node.part_child within inside⟩

/-- Bindings that a session leaves are grounded in themselves. -/
theorem bound_grounded {origin : Node → Prop} {bindings : Bindings}
    (formed : bindings.Formed origin) (tree : Node) :
    bindings.Grounded (tree.InTreeOrBound bindings) := by
  intro name value bound
  cases Bindings.get_formed formed bound with
  | number plain => exact .number plain
  | vector plain => exact .vector fun item member => .number (plain item member)
  | function _ _ => exact .function (.inr ⟨name, _, _, bound, .self _⟩)

theorem evaluation_accounted {texts : List String} {tree : Node} {start : Bindings}
    (treeFormed : tree.WellFormed) (formed : start.Formed (ReadFrom texts)) (depth : Nat) :
    Accounted (tree.InTreeOrBound start) (Value.Grounded (tree.InTreeOrBound start))
      (Evaluation.evaluate depth tree tree.span start).result := by
  have root : tree.InTreeOrBound start tree := .inl (.self tree)
  exact (Evaluation.evaluate_accounts (tree_or_bound_closed treeFormed formed) depth
    tree root ⟨tree, root, rfl⟩ start (bound_grounded formed tree)).2

theorem evaluation_issue {texts : List String} {tree : Node} {start : Bindings}
    (treeFormed : tree.WellFormed) (formed : start.Formed (ReadFrom texts)) (depth : Nat)
    {issue : Issue}
    (failed : (Evaluation.evaluate depth tree tree.span start).result = .error (.issue issue)) :
    ∃ node, tree.InTreeOrBound start node ∧ node.span = issue.span := by
  have accounted := evaluation_accounted treeFormed formed depth
  rw [failed] at accounted
  cases accounted with
  | issue located => exact located

theorem worded_is_described {diagnostic : Diagnostic} {message : String}
    (worded : diagnostic.message = .ok message) : ∃ text, diagnostic.description = .ok text := by
  unfold Diagnostic.description
  rw [worded]
  exact ⟨_, rfl⟩

/-- The report of a run that stopped ends with the line of its diagnostic. -/
theorem report_ends_with_diagnostic {run : Run} {issue : Issue} {label message : String}
    (failed : run.result = .error (.issue issue))
    (worded : (issue.labelled label).message = .ok message) (modes : Modes) :
    ∃ earlier, (run.report modes label).emissions = earlier ++ [.line message] := by
  obtain ⟨text, described⟩ := worded_is_described worded
  unfold Run.report resultReport
  rw [failed]
  dsimp only
  rw [worded, described]
  unfold failureEmissions
  dsimp only
  rw [← List.append_assoc]
  exact ⟨_, rfl⟩

/-- A diagnostic bears the label of its input, which `Issue.labelled` puts on an issue at the end.
It is about the first bad token of the text, or about a token of the text when the tokens cannot be
read, or else about a node of the tree that was read or of the body of a function that was bound
when the evaluation started. -/
theorem diagnostics_point_at_their_source (inputs : List SessionInput) (depth : Nat)
    (text label : String) (issue : Issue)
    (failed : (runText depth (bindingsAfter inputs .empty) text).result = .error (.issue issue)) :
    (∃ (diagnostic : Diagnostic) (message : String), diagnostic.label = label ∧
      diagnostic.span = issue.span ∧ diagnostic.fault = issue.fault ∧
      diagnostic.message = .ok message ∧ ∀ modes, ∃ earlier,
        ((runText depth (bindingsAfter inputs .empty) text).report modes label).emissions =
          earlier ++ [.line message]) ∧
    (∀ stop, tokenize text = .error stop → ∃ token,
      (Source.ofText text).scan.tokens.find? (fun token => token.kind = .bad) = some token ∧
      issue.span = token.span) ∧
    (∀ tokens stop, tokenize text = .ok tokens → parseTokens tokens = .error stop →
      ∃ token ∈ tokens, issue.span = token.span) ∧
    ∀ tree, parseText text = .ok tree → ∃ node,
      (tree.Part node ∨ ∃ name parameter body,
        (bindingsAfter inputs .empty).get? name = some (.function parameter body) ∧
          body.Part node) ∧
      issue.span = node.span := by
  have formed := fresh_session_keeps inputs
  refine ⟨?_, ?_, ?_, ?_⟩
  · have ends := (run_keeps depth text formed).2
    rw [failed] at ends
    cases ends with
    | stop reported =>
        cases reported with
        | issue _ worded =>
            obtain ⟨message, shown⟩ := worded label
            exact ⟨issue.labelled label, message, rfl, rfl, rfl, shown,
              report_ends_with_diagnostic failed shown⟩
  · intro stop unread
    unfold runText at failed
    rw [unread] at failed
    cases failed
    obtain ⟨token, found, same⟩ := tokenize_issue unread
    exact ⟨token, found, by rw [same]; rfl⟩
  · intro tokens stop scanned unread
    unfold runText at failed
    rw [scanned] at failed
    dsimp only at failed
    rw [unread] at failed
    cases failed
    exact parse_issue (tokenize_sound scanned).1 unread
  · intro tree read
    rcases run_text_cases depth (bindingsAfter inputs .empty) text with
      ⟨_, unread, _⟩ | ⟨other, found, _, result, _⟩
    · rw [read] at unread
      cases unread
    · rw [read] at found
      cases found
      rw [result] at failed
      obtain ⟨node, origin, same⟩ := evaluation_issue (parse_text_well_formed read) formed depth
        failed
      exact ⟨node, origin, same.symm⟩

/-- The body of `f` is `1+y`, and `y` is bound nowhere. The call of `f` stops at that name, which
stands in the text of the first input. -/
theorem failing_body_is_pointed_at :
    ∃ issue tree node,
      (runText 3 (bindingsAfter [⟨3, "f(x)=1+y"⟩] .empty) "[2 f(5)]").result =
        .error (.issue issue) ∧
      issue.span = ⟨7, 8, 0, 0, 7, 8⟩ ∧ parseText "[2 f(5)]" = .ok tree ∧
      tree.InTreeOrBound (bindingsAfter [⟨3, "f(x)=1+y"⟩] .empty) node ∧
      issue.span = node.span := by
  let issue : Issue := ⟨.undefinedVariable "y", ⟨7, 8, 0, 0, 7, 8⟩⟩
  have failed : (runText 3 (bindingsAfter [⟨3, "f(x)=1+y"⟩] .empty) "[2 f(5)]").result =
      .error (.issue issue) := rfl
  obtain ⟨tree, read⟩ : ∃ tree, parseText "[2 f(5)]" = .ok tree := ⟨_, rfl⟩
  obtain ⟨_, _, _, located⟩ := diagnostics_point_at_their_source [⟨3, "f(x)=1+y"⟩] 3 "[2 f(5)]" ""
    issue failed
  obtain ⟨node, origin, same⟩ := located tree read
  exact ⟨issue, tree, node, failed, rfl, read, origin, same⟩

end VectorCalc

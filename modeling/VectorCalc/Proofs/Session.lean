import VectorCalc.Proofs.Preservation
import VectorCalc.Report

/-!
Sessions. Inputs are run one after another on the same bindings, whether they fail or not. Every
node that an evaluation visits comes from a text of the session, so that what holds of trees made
from text holds of all function bodies too. The results are about single inputs of a session: what
they can end in, and what they return and leave bound.
-/
namespace VectorCalc

set_option autoImplicit false

structure SessionInput where
  depth : Nat
  text : String

def bindingsAfter (inputs : List SessionInput) (start : Bindings) : Bindings :=
  inputs.foldl (fun bindings input => (runText input.depth bindings input.text).bindings) start

/-- The node is a part of the tree of one of the texts. -/
def ReadFrom (texts : List String) (node : Node) : Prop :=
  ∃ text ∈ texts, ∃ tree, parseText text = .ok tree ∧ tree.Part node

theorem read_from_closed (texts : List String) : ClosedOrigin (ReadFrom texts) where
  formed := by
    rintro node ⟨text, _, tree, read, within⟩
    exact Node.part_well_formed (parse_text_well_formed read) within
  parts := by
    rintro node ⟨text, member, tree, read, within⟩ child inside
    exact ⟨text, member, tree, read, Node.part_child within inside⟩

theorem formed_with_text {texts : List String} {bindings : Bindings} (text : String)
    (formed : bindings.Formed (ReadFrom texts)) :
    bindings.Formed (ReadFrom (texts ++ [text])) := by
  apply Bindings.formed_of_wider formed
  rintro node ⟨source, member, found⟩
  exact ⟨source, List.mem_append_left _ member, found⟩

theorem complaint_is_reported {token : Token} {stop : Stop} (complaint : Complaint token stop) :
    stop.Reported := by
  cases complaint with
  | unexpected => exact issue_is_reported _ rfl (by simp)
  | expected known =>
      simp only [List.mem_cons, List.not_mem_nil, or_false] at known
      rcases known with rfl | rfl | rfl <;>
        exact issue_is_reported _ rfl (by simp)

theorem parse_text_fails {text : String} {stop : Stop} (failed : parseText text = .error stop) :
    stop.Reported := by
  unfold parseText at failed
  cases scanned : tokenize text with
  | error reason =>
      rw [scanned] at failed
      cases failed
      rcases tokenize_fails scanned with ⟨message, span, same⟩ | ⟨digits, long, same⟩
      · rw [same]
        exact issue_is_reported span rfl (by simp)
      · rw [same]
        exact .tooLong long
  | ok tokens =>
      rw [scanned] at failed
      dsimp only at failed
      have agrees := parse_agrees tokens
      rw [failed] at agrees
      cases agrees with
      | refuses refused =>
          obtain ⟨_, _, _, _, _, _, _, complaint⟩ := refused
          exact complaint_is_reported complaint

/-- A run stops at reading, or it is the evaluation of the tree that was read. -/
theorem run_text_cases (depth : Nat) (bindings : Bindings) (text : String) :
    (∃ stop, parseText text = .error stop ∧ (runText depth bindings text).result = .error stop ∧
      (runText depth bindings text).bindings = bindings ∧
      (runText depth bindings text).tree = none) ∨
    ∃ tree, parseText text = .ok tree ∧ (runText depth bindings text).tree = some tree ∧
      (runText depth bindings text).result =
        (Evaluation.evaluate depth tree tree.span bindings).result ∧
      (runText depth bindings text).bindings =
        (Evaluation.evaluate depth tree tree.span bindings).bindings := by
  unfold runText parseText
  cases tokenize text with
  | error stop => exact .inl ⟨stop, rfl, rfl, rfl, rfl⟩
  | ok tokens =>
      dsimp only
      cases parseTokens tokens with
      | error stop => exact .inl ⟨stop, rfl, rfl, rfl, rfl⟩
      | ok tree => exact .inr ⟨tree, rfl, rfl, rfl, rfl⟩

theorem run_text_read {text : String} {tree : Node} (read : parseText text = .ok tree)
    (depth : Nat) (start : Bindings) :
    (runText depth start text).result =
        (Evaluation.evaluate depth tree tree.span start).result ∧
      (runText depth start text).bindings =
        (Evaluation.evaluate depth tree tree.span start).bindings := by
  rcases run_text_cases depth start text with ⟨_, failed, _⟩ | ⟨other, found, _, result, bindings⟩
  · rw [read] at failed
    cases failed
  · rw [read] at found
    cases found
    exact ⟨result, bindings⟩

theorem run_text_unread {text : String} {stop : Stop} (failed : parseText text = .error stop)
    (depth : Nat) (start : Bindings) :
    (runText depth start text).result = .error stop ∧
      (runText depth start text).bindings = start := by
  rcases run_text_cases depth start text with ⟨other, found, result, bindings, _⟩ | ⟨_, read, _⟩
  · rw [failed] at found
    cases found
    exact ⟨result, bindings⟩
  · rw [failed] at read
    cases read

theorem trace_read_keeps {texts : List String} {text : String} {tree : Node} {start : Bindings}
    (depth : Nat) (member : text ∈ texts) (read : parseText text = .ok tree)
    (formed : start.Formed (ReadFrom texts)) :
    (Evaluation.trace depth tree tree.span start).Formed (ReadFrom texts)
      (Value.Formed (ReadFrom texts)) :=
  Evaluation.trace_keeps (read_from_closed texts) depth tree
    ⟨text, member, tree, read, .self tree⟩ tree.span start formed

theorem evaluate_is_traced (depth : Nat) (node : Node) (span : Span) (start : Bindings) :
    Evaluation.evaluate depth node span start =
      (Evaluation.trace depth node span start).outcome :=
  congrFun (Evaluation.forget_trace depth node span).symm start

/-- One input: the invariant is kept, now with the trees of its text. -/
theorem run_keeps {texts : List String} {start : Bindings} (depth : Nat) (text : String)
    (formed : start.Formed (ReadFrom texts)) :
    (runText depth start text).bindings.Formed (ReadFrom (texts ++ [text])) ∧
      Ends (Value.Formed (ReadFrom (texts ++ [text]))) (runText depth start text).result := by
  have widened := formed_with_text text formed
  rcases run_text_cases depth start text with
    ⟨stop, failed, result, bindings, _⟩ | ⟨tree, read, _, result, bindings⟩
  · rw [result, bindings]
    exact ⟨widened, .stop (parse_text_fails failed)⟩
  · have kept := trace_read_keeps depth (by simp : text ∈ texts ++ [text]) read widened
    rw [result, bindings, evaluate_is_traced]
    exact ⟨kept.bindings, kept.result⟩

/-- All inputs: the invariant is kept through a session. -/
theorem session_keeps (inputs : List SessionInput) (texts : List String) (start : Bindings)
    (formed : start.Formed (ReadFrom texts)) :
    (bindingsAfter inputs start).Formed (ReadFrom (texts ++ inputs.map SessionInput.text)) := by
  induction inputs generalizing texts start with
  | nil => simpa [bindingsAfter] using formed
  | cons input inputs induction =>
      have once := (run_keeps input.depth input.text formed).1
      have rest := induction (texts ++ [input.text]) _ once
      rw [List.append_assoc] at rest
      exact rest

theorem fresh_session_keeps (inputs : List SessionInput) :
    (bindingsAfter inputs .empty).Formed (ReadFrom (inputs.map SessionInput.text)) := by
  have kept := session_keeps inputs [] .empty (Bindings.empty_formed _)
  rwa [List.nil_append] at kept

theorem visited_is_formed {origin : Node → Prop} {step : Step} {node : Node}
    (formed : step.Formed origin) (visited : step.visited? = some node) : origin node := by
  induction step with
  | visit _ =>
      cases visited
      exact formed
  | bind _ _ => cases visited
  | inside _ induction => exact induction formed visited

theorem assignment_has_target {node : Node} (formed : node.WellFormed)
    (assigns : node.kind = .assign) :
    ∃ target value, node.children = [target, value] ∧
      (target.kind = .variable ∨ target.kind = .call) := by
  cases formed with
  | @assign target value _ bindable _ _ =>
      refine ⟨target, value, rfl, ?_⟩
      simpa [Grammar.isTarget] using bindable
  | _ => cases assigns

/-- Every input of a session ends in a value or in a reason to stop that is reported, and only
well-formed nodes are evaluated on the way, in its tree and in the bodies it calls. -/
theorem session_never_fails_internally (inputs : List SessionInput) (depth : Nat)
    (text : String) :
    (∀ stop, (runText depth (bindingsAfter inputs .empty) text).result = .error stop →
      stop.Reported) ∧
    ∀ tree, (runText depth (bindingsAfter inputs .empty) text).tree = some tree →
      (Evaluation.trace depth tree tree.span (bindingsAfter inputs .empty)).outcome.result =
        (runText depth (bindingsAfter inputs .empty) text).result ∧
      ∀ step ∈ (Evaluation.trace depth tree tree.span (bindingsAfter inputs .empty)).steps,
        ∀ node, step.visited? = some node → node.WellFormed ∧
          (node.kind = .assign → ∃ target value, node.children = [target, value] ∧
            (target.kind = .variable ∨ target.kind = .call)) := by
  have formed := fresh_session_keeps inputs
  constructor
  · intro stop ended
    have kept := (run_keeps depth text formed).2
    rw [ended] at kept
    cases kept with
    | stop reported => exact reported
  · intro tree shown
    rcases run_text_cases depth (bindingsAfter inputs .empty) text with
      ⟨_, _, _, _, none⟩ | ⟨other, read, found, result, _⟩
    · rw [none] at shown
      cases shown
    · rw [found] at shown
      cases shown
      have kept := trace_read_keeps depth (by simp) read (formed_with_text text formed)
      refine ⟨by rw [result, evaluate_is_traced], ?_⟩
      intro step member node visited
      have readFrom := visited_is_formed (kept.steps step member) visited
      have wellFormed := (read_from_closed _).formed node readFrom
      exact ⟨wellFormed, assignment_has_target wellFormed⟩

/-- Every value that an input of a session returns or leaves bound is a number of 64 bits, a
vector of numbers, or a function with a name for its parameter and a part of one of the texts for
its body. -/
theorem session_values_are_formed (inputs : List SessionInput) (depth : Nat) (text : String) :
    (∀ value, (runText depth (bindingsAfter inputs .empty) text).result = .ok value →
      value.Formed (ReadFrom (inputs.map SessionInput.text ++ [text]))) ∧
    ∀ entry ∈ (runText depth (bindingsAfter inputs .empty) text).bindings.entries,
      entry.2.Formed (ReadFrom (inputs.map SessionInput.text ++ [text])) := by
  obtain ⟨bindings, result⟩ := run_keeps depth text (fresh_session_keeps inputs)
  constructor
  · intro value ended
    rw [ended] at result
    cases result with
    | value holds => exact holds
  · intro entry member
    exact (bindings entry member).2

end VectorCalc

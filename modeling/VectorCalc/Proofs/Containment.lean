import VectorCalc.Proofs.Nesting
import VectorCalc.Proofs.Provenance

/-!
Which text a diagnostic lies in. Widening a span over another one leaves it in the text that both
are in, so the spans of a tree are in the text that it was read from, just as those of its tokens.
But a function keeps its body as it was read, with the spans of the input that defined it, and a
later input may call it. A diagnostic of the later input can then lie outside of its text. It does
lie in the text of the input that the body was read from.
-/
namespace VectorCalc

set_option autoImplicit false

structure Span.Within (span : Span) (text : String) : Prop where
  start : 0 ≤ span.start
  ordered : span.start ≤ span.stop
  stop : span.stop ≤ text.utf8ByteSize
  line : span.lineStart ≤ text.toList.count '\n'

theorem Node.Part.trans {whole middle part : Node} (outer : whole.Part middle)
    (inner : middle.Part part) : whole.Part part := by
  induction outer with
  | self _ => exact inner
  | inside member _ induction => exact .inside member (induction inner)

section Texts

variable {text : String}

theorem Span.Within.extend {first second : Span} (here : first.Within text)
    (there : second.Within text) : (first.extend second).Within text where
  start := here.start
  ordered := Int.le_trans here.ordered (Int.le_max_left _ _)
  stop := Int.max_le.mpr ⟨here.stop, there.stop⟩
  line := here.line

theorem covering_is_within {token : Token} {before lexeme : List Char}
    (covers : token.Covers before lexeme) (inside : before ++ lexeme <+: text.toList) :
    token.span.Within text := by
  have size : (Place.after text.toList).offset = text.utf8ByteSize := by simp [Place.after]
  have ordered := offset_mono (List.prefix_append before lexeme)
  have bounded := offset_mono inside
  have lines : before.count '\n' ≤ text.toList.count '\n' :=
    ((List.prefix_append before lexeme).trans inside).sublist.count_le '\n'
  refine ⟨?_, ?_, ?_, ?_⟩
  · rw [covers.start]
    omega
  · rw [covers.start, covers.stop]
    omega
  · rw [covers.stop]
    omega
  · rw [covers.line]
    exact Int.ofNat_le.mpr lines

theorem scanned_token_is_within {token : Token}
    (member : token ∈ (Source.ofText text).scan.tokens) : token.span.Within text := by
  obtain ⟨step, inside, same⟩ := List.mem_map.mp member
  obtain ⟨before, lexeme, tail, found⟩ := scan_covers (Source.scan_of_text text) step inside
  rw [← same]
  exact covering_is_within found.covers ⟨tail, found.shape.symm⟩

def Node.Within (tree : Node) (text : String) : Prop :=
  ∀ part, tree.Part part → part.span.Within text

theorem Node.Within.here {tree : Node} (within : tree.Within text) : tree.span.Within text :=
  within tree (.self tree)

theorem Node.within_of_children {kind : NodeKind} {payload : Payload} {children : List Node}
    {span : Span} (here : span.Within text) (inside : ∀ child ∈ children, child.Within text) :
    (Node.mk kind payload children span).Within text :=
  forall_parts_iff.mpr ⟨here, inside⟩

theorem vector_span_is_within {opening closing : Token} {items : List Node}
    (first : opening.span.Within text) (last : closing.span.Within text)
    (inside : ∀ item ∈ items, item.Within text) :
    (vectorSpan opening closing items).Within text := by
  refine Span.Within.extend ?_ last
  exact List.foldlRecOn (motive := fun span : Span => span.Within text) items _ first
    fun _ widened item member => widened.extend (inside item member).here

theorem derived_tree_is_within {strict : Bool} {phrase : Phrase} {tokens : List Token} {tree : Node}
    (derived : Derives strict phrase tokens tree)
    (all : ∀ token ∈ tokens, token.span.Within text) : tree.Within text := by
  induction derived with
  | @leaf token tree alone =>
      obtain ⟨childless, span⟩ := leaf_span alone
      obtain ⟨kind, payload, children, place⟩ := tree
      cases childless
      cases span
      exact Node.within_of_children (all token (by simp)) (by simp)
  | group _ _ _ within => exact within fun token member => all token (by simp [member])
  | @vector opening closing parts _ _ _ items =>
      have inside : ∀ item ∈ parts.map Prod.snd, item.Within text := by
        rw [List.forall_mem_map]
        intro part member
        apply items part member
        intro token here
        have among : token ∈ (parts.map Prod.fst).flatten :=
          List.mem_flatten.mpr ⟨part.1, List.mem_map_of_mem member, here⟩
        exact all token (by simp [among])
      exact Node.within_of_children
        (vector_span_is_within (all opening (by simp)) (all closing (by simp)) inside) inside
  | bare _ induction => exact induction all
  | @apply _ _ _ _ closing _ _ _ _ _ _ _ _ function within =>
      have callee := function fun token member => all token (by simp [member])
      have argument := within fun token member => all token (by simp [member])
      exact Node.within_of_children (callee.here.extend (all closing (by simp)))
        (by simp [callee, argument])
  | @negate sign _ _ _ _ induction =>
      have operand := induction fun token member => all token (by simp [member])
      exact Node.within_of_children ((all sign (by simp)).extend operand.here) (by simp [operand])
  | plain _ induction => exact induction all
  | single _ induction => exact induction all
  | step _ _ _ _ first second =>
      have left := first fun token member => all token (by simp [member])
      have right := second fun token member => all token (by simp [member])
      exact Node.within_of_children (left.here.extend right.here) (by simp [left, right])
  | compare _ induction => exact induction all
  | assign _ _ _ _ first second =>
      have target := first fun token member => all token (by simp [member])
      have value := second fun token member => all token (by simp [member])
      exact Node.within_of_children (target.here.extend value.here) (by simp [target, value])

theorem read_tree_is_within {tree : Node} (read : parseText text = .ok tree) :
    tree.Within text := by
  obtain ⟨tokens, front, body, back, scanned, whole, derived⟩ := read_expression read
  apply derived_tree_is_within derived
  intro token member
  apply scanned_token_is_within
  rw [(tokenize_scan scanned).1, whole]
  simp [member]

/-- A text that cannot be read is pointed into. -/
theorem reading_issue_is_within {issue : Issue} (failed : parseText text = .error (.issue issue)) :
    issue.span.Within text := by
  unfold parseText at failed
  cases scanned : tokenize text with
  | error stop =>
      rw [scanned] at failed
      cases failed
      obtain ⟨token, found, same⟩ := tokenize_issue scanned
      rw [same]
      exact scanned_token_is_within (List.mem_of_find?_eq_some found)
  | ok tokens =>
      rw [scanned] at failed
      obtain ⟨token, member, same⟩ := parse_issue (tokenize_sound scanned).1 failed
      rw [same]
      apply scanned_token_is_within
      rw [(tokenize_scan scanned).1]
      exact member

end Texts

/-- A diagnostic of an input lies in the text of the input, unless it comes from the body of a
function that was bound before. Then it lies in the text that the body was read from, which is that
of an earlier input. -/
theorem diagnostics_lie_in_texts_of_the_session (inputs : List SessionInput) (depth : Nat)
    (text : String) (issue : Issue)
    (failed : (runText depth (bindingsAfter inputs .empty) text).result = .error (.issue issue)) :
    issue.span.Within text ∨
      ∃ input ∈ inputs, issue.span.Within input.text ∧
        ∃ tree name parameter body node, parseText input.text = .ok tree ∧ tree.Part body ∧
          (bindingsAfter inputs .empty).get? name = some (.function parameter body) ∧
          body.Part node ∧ issue.span = node.span := by
  have formed := fresh_session_keeps inputs
  rcases run_text_cases depth (bindingsAfter inputs .empty) text with
    ⟨stop, unread, result, _⟩ | ⟨tree, read, _, result, _⟩
  · rw [result] at failed
    cases failed
    exact .inl (reading_issue_is_within unread)
  · rw [result] at failed
    obtain ⟨node, origin, same⟩ :=
      evaluation_issue (parse_text_well_formed read) formed depth failed
    rw [← same]
    rcases origin with within | ⟨name, parameter, body, bound, within⟩
    · exact .inl (read_tree_is_within read node within)
    · cases Bindings.get_formed formed bound with
      | number plain => cases plain
      | function _ readFrom =>
          obtain ⟨source, member, whole, sourceRead, part⟩ := readFrom
          obtain ⟨input, inside, rfl⟩ := List.mem_map.mp member
          exact .inr ⟨input, inside, read_tree_is_within sourceRead node (part.trans within), whole,
            name, _, body, node, sourceRead, part, bound, within, rfl⟩

/-- The body of `f` is `1+y`, and `y` is bound nowhere. The text of the call ends before the offset
that is reported. -/
theorem called_body_lies_in_its_own_text :
    ∃ issue,
      (runText 3 (bindingsAfter [⟨3, "f(x)=1+y"⟩] .empty) "f(5)").result = .error (.issue issue) ∧
      issue.span.Within "f(x)=1+y" := by
  have failed : (runText 3 (bindingsAfter [⟨3, "f(x)=1+y"⟩] .empty) "f(5)").result =
      .error (.issue ⟨.undefinedVariable "y", ⟨7, 8, 0, 0, 7, 8⟩⟩) := rfl
  refine ⟨_, failed, ?_⟩
  rcases diagnostics_lie_in_texts_of_the_session _ _ _ _ failed with
    here | ⟨input, member, there, _⟩
  · exact absurd here.stop (by decide)
  · rw [List.mem_singleton.mp member] at there
    exact there

theorem called_body_lies_outside_the_call :
    ∃ issue,
      (runText 3 (bindingsAfter [⟨3, "f(x)=1+y"⟩] .empty) "f(5)").result = .error (.issue issue) ∧
      ¬issue.span.Within "f(5)" := by
  have failed : (runText 3 (bindingsAfter [⟨3, "f(x)=1+y"⟩] .empty) "f(5)").result =
      .error (.issue ⟨.undefinedVariable "y", ⟨7, 8, 0, 0, 7, 8⟩⟩) := rfl
  refine ⟨_, failed, ?_⟩
  intro within
  exact absurd within.stop (by decide)

end VectorCalc

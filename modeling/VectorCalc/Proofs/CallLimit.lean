import VectorCalc.Proofs.Breakdowns
import VectorCalc.Proofs.Recursion
import VectorCalc.Report

/-!
The limit on nested calls. An evaluation that the limit does not stop is the same evaluation under
every higher limit, with the same result, the same bindings and the same calls. An evaluation under
way begins others: those of the parts of its node, each when what comes before it has a value, and
that of the body of a function it calls. Whatever stops one of these stops the whole for the same
reason, so a call beyond the limit, however deep inside, shows as that and as nothing else; and it
is the only thing that shows so.

Trees are not assumed to have been read from a text, and values may hold anything.
-/
namespace VectorCalc

set_option autoImplicit false

def Outcome.Exhausted {α : Type} (outcome : Outcome α) : Prop :=
  outcome.result = .error (.broken .tooDeep)

namespace Action

variable {α β : Type}

theorem and_then_stopped {first : Action α} {start : Bindings} {stop : Stop}
    (stopped : (first start).result = .error stop) (next : α → Action β) :
    (first.andThen next start).result = .error stop := by
  unfold andThen
  dsimp only
  rw [stopped]

theorem and_then_stops {first : Action α} {next : α → Action β} {start : Bindings} {stop : Stop}
    (stopped : (first.andThen next start).result = .error stop) :
    (first start).result = .error stop ∨
      ∃ middle, (first start).result = .ok middle ∧
        (next middle (first start).bindings).result = .error stop := by
  cases ended : (first start).result with
  | error other =>
      rw [and_then_stopped ended next] at stopped
      cases stopped
      exact .inl rfl
  | ok middle =>
      rw [and_then_result next ended] at stopped
      exact .inr ⟨middle, rfl, stopped⟩

/-- Wherever the limit does not stop the first action, the second one does the same. -/
def Extends (limited wider : Action α) : Prop :=
  ∀ start, ¬(limited start).Exhausted → wider start = limited start

theorem extends_refl (action : Action α) : action.Extends action := by
  intro start _
  rfl

theorem extends_and_then {first other : Action α} {next otherNext : α → Action β}
    (before : first.Extends other) (after : ∀ value, (next value).Extends (otherNext value)) :
    (first.andThen next).Extends (other.andThen otherNext) := by
  intro start unexhausted
  have firstGoes : ¬(first start).Exhausted := by
    intro exhausted
    exact unexhausted (and_then_stopped exhausted next)
  unfold andThen
  dsimp only
  rw [before start firstGoes]
  cases ended : (first start).result with
  | error stop => rfl
  | ok value =>
      have nextGoes : ¬(next value (first start).bindings).Exhausted := by
        intro exhausted
        exact unexhausted ((and_then_result next ended).trans exhausted)
      dsimp only
      rw [after value (first start).bindings nextGoes]

theorem extends_enclosed (call : Call) (frame : Bindings) {body other : Action Value}
    (inside : body.Extends other) :
    (enclosed call frame body).Extends (enclosed call frame other) := by
  intro start unexhausted
  unfold enclosed
  dsimp only
  rw [inside frame unexhausted]

def Unexhausted (action : Action α) : Prop :=
  ∀ start, ¬(action start).Exhausted

theorem unexhausted_give (value : α) : (give value).Unexhausted := by
  intro start exhausted
  cases exhausted

theorem unexhausted_report (fault : Fault) (span : Span) :
    (report fault span : Action α).Unexhausted := by
  intro start exhausted
  cases exhausted

theorem unexhausted_broken {breakdown : Breakdown} (other : breakdown ≠ .tooDeep) :
    (fail (.broken breakdown) : Action α).Unexhausted := by
  intro start exhausted
  cases exhausted
  exact other rfl

end Action

theorem of_content_is_not_too_deep {breakdown : Breakdown} (content : breakdown.OfContent) :
    breakdown ≠ .tooDeep := by
  rintro rfl
  exact content

theorem of_parts_is_not_too_deep (parts : List Node) : Breakdown.ofParts parts ≠ .tooDeep := by
  unfold Breakdown.ofParts
  split <;> simp

namespace Evaluation

section HigherLimits

/-- Only the bodies that are called make a difference. -/
def extending : Evaluator.Relation Action Action where
  Holds := Action.Extends
  Inside := Action.Extends
  perform _ := Action.extends_refl _
  andThen := Action.extends_and_then
  visiting _ here := here
  bind _ _ := Action.extends_refl _
  enclosed call frame inside := Action.extends_enclosed call frame inside

theorem bodies_extend {depth deeper : Nat} (higher : depth ≤ deeper) (inner : Node) :
    (bodiesWithin depth inner).Extends (bodiesWithin deeper inner) := by
  induction depth generalizing deeper inner with
  | zero =>
      -- Nothing to compare: no body is entered.
      intro start unexhausted
      exact absurd rfl unexhausted
  | succ depth induction =>
      obtain ⟨room, rfl⟩ := Nat.exists_eq_add_of_le' higher
      have inside := induction (Nat.le_add_left depth room)
      rw [bodiesWithin, ← Nat.add_assoc, bodiesWithin, evaluate_eq, evaluate_eq]
      exact evaluate_with_related extending _ _ inside inner inner.span

/-- A higher limit makes a difference only to what the lower one stops. -/
theorem evaluate_extends {depth deeper : Nat} (higher : depth ≤ deeper) (node : Node)
    (span : Span) : (evaluate depth node span).Extends (evaluate deeper node span) := by
  rw [evaluate_eq, evaluate_eq]
  exact evaluate_with_related extending _ _ (bodies_extend higher) node span

end HigherLimits

section Equations

variable (depth : Nat) (payload : Payload) (extent span : Span)

theorem evaluate_vector (items : List Node) :
    evaluate depth (.mk .vector payload items extent) span =
      (evaluateItems (bodiesWithin depth) items).andThen fun values => .give (.vector values) := by
  rw [evaluate_eq, evaluateWith]
  rfl

theorem evaluate_binary (left right : Node) :
    evaluate depth (.mk .binary payload [left, right] extent) span =
      (evaluate depth left left.span).andThen fun leftValue =>
        (evaluate depth right right.span).andThen fun rightValue =>
          binary payload leftValue rightValue span := by
  rw [evaluate_eq, evaluateWith]
  rfl

theorem evaluate_unary (operand : Node) (others : List Node) :
    evaluate depth (.mk .unary payload (operand :: others) extent) span =
      (evaluate depth operand operand.span).andThen fun value => unary payload value span := by
  rw [evaluate_eq, evaluateWith]
  rfl

theorem evaluate_assigned {target : Node} {name : Name}
    (bound : Target.ofNode target = .ok (.variable name)) (value : Node) :
    evaluate depth (.mk .assign payload [target, value] extent) span =
      (evaluate depth value value.span).andThen fun result =>
        (Action.bind name result).andThen fun _ => .give result := by
  rw [evaluate_eq, evaluateWith, bound]
  rfl

theorem evaluate_call (callee argument : Node) :
    evaluate depth (.mk .call payload [callee, argument] extent) span =
      (evaluate depth argument argument.span).andThen fun argumentValue =>
        (evaluate depth callee callee.span).andThen fun function =>
          enter (bodiesWithin depth) callee function argumentValue := by
  rw [evaluate_eq, evaluateWith]
  rfl

end Equations

/-- These nodes are evaluated in turn, each to a number; the second bindings are those after the
last one. -/
inductive Passed (depth : Nat) : List Node → Bindings → Bindings → Prop where
  | none (start : Bindings) : Passed depth [] start start
  | first {node : Node} {others : List Node} {start after : Bindings} {value : Value}
      (given : (evaluate depth node node.span start).result = .ok value)
      (number : value.isScalar = true)
      (rest : Passed depth others (evaluate depth node node.span start).bindings after) :
      Passed depth (node :: others) start after

/-- An evaluation under way: how many more calls may be nested in it, the node, the span that the
node is reported at, and the bindings that it starts from. -/
structure Activation where
  depth : Nat
  node : Node
  span : Span
  start : Bindings

namespace Activation

def outcome (activation : Activation) : Outcome Value :=
  evaluate activation.depth activation.node activation.span activation.start

/-- The evaluation of a node has come to one of its parts: every part before it has a value, and
every item before it a number for its value. -/
inductive BeginsPart : Activation → Activation → Prop where
  | item {depth : Nat} {payload : Payload} {before others : List Node} {item : Node}
      {extent span : Span} {start here : Bindings} (passed : Passed depth before start here) :
      BeginsPart ⟨depth, .mk .vector payload (before ++ item :: others) extent, span, start⟩
        ⟨depth, item, item.span, here⟩
  | left {depth : Nat} {payload : Payload} {left right : Node} {extent span : Span}
      {start : Bindings} :
      BeginsPart ⟨depth, .mk .binary payload [left, right] extent, span, start⟩
        ⟨depth, left, left.span, start⟩
  | right {depth : Nat} {payload : Payload} {left right : Node} {extent span : Span}
      {start : Bindings} {value : Value}
      (given : (evaluate depth left left.span start).result = .ok value) :
      BeginsPart ⟨depth, .mk .binary payload [left, right] extent, span, start⟩
        ⟨depth, right, right.span, (evaluate depth left left.span start).bindings⟩
  | operand {depth : Nat} {payload : Payload} {operand : Node} {others : List Node}
      {extent span : Span} {start : Bindings} :
      BeginsPart ⟨depth, .mk .unary payload (operand :: others) extent, span, start⟩
        ⟨depth, operand, operand.span, start⟩
  | assigned {depth : Nat} {payload : Payload} {target value : Node} {name : Name}
      {extent span : Span} {start : Bindings}
      (bound : Target.ofNode target = .ok (.variable name)) :
      BeginsPart ⟨depth, .mk .assign payload [target, value] extent, span, start⟩
        ⟨depth, value, value.span, start⟩
  | argument {depth : Nat} {payload : Payload} {callee argument : Node} {extent span : Span}
      {start : Bindings} :
      BeginsPart ⟨depth, .mk .call payload [callee, argument] extent, span, start⟩
        ⟨depth, argument, argument.span, start⟩
  | callee {depth : Nat} {payload : Payload} {callee argument : Node} {extent span : Span}
      {start : Bindings} {value : Value}
      (given : (evaluate depth argument argument.span start).result = .ok value) :
      BeginsPart ⟨depth, .mk .call payload [callee, argument] extent, span, start⟩
        ⟨depth, callee, callee.span, (evaluate depth argument argument.span start).bindings⟩

/-- The evaluation of a call has come to the body of a function, which starts from these bindings:
the argument has a value, and the callee has the function for its value. -/
inductive Calls : Activation → Node → Bindings → Prop where
  | function {depth : Nat} {payload : Payload} {callee argument body : Node} {parameter : Name}
      {extent span : Span} {start : Bindings} {value : Value}
      (given : (evaluate depth argument argument.span start).result = .ok value)
      (found : (evaluate depth callee callee.span
        (evaluate depth argument argument.span start).bindings).result =
          .ok (.function parameter body)) :
      Calls ⟨depth, .mk .call payload [callee, argument] extent, span, start⟩ body
        (frame callee (.function parameter body) parameter value)

/-- One evaluation is nested in the other. A body takes up one of the calls that may be nested. -/
inductive Nests : Activation → Activation → Prop where
  | self (activation : Activation) : Nests activation activation
  | part {outer part inner : Activation} (begins : outer.BeginsPart part)
      (deeper : part.Nests inner) : Nests outer inner
  | body {outer inner : Activation} {depth : Nat} {body : Node} {frame : Bindings}
      (calls : outer.Calls body frame) (room : outer.depth = depth + 1)
      (deeper : Nests ⟨depth, body, body.span, frame⟩ inner) : Nests outer inner

/-- Some evaluation nested in this one comes to the body of a function when no more calls may be
nested. -/
def Exceeds (outer : Activation) : Prop :=
  ∃ inner body frame, outer.Nests inner ∧ inner.Calls body frame ∧ inner.depth = 0

end Activation

theorem item_of_number {value : Value} (number : value.isScalar = true) (span : Span) :
    item value span = .give value := by
  unfold item
  rw [if_pos number]

theorem number_of_item {value admitted : Value} {span : Span} {start : Bindings}
    (given : (item value span start).result = .ok admitted) : value.isScalar = true := by
  cases number : value.isScalar with
  | true => rfl
  | false =>
      unfold item at given
      rw [number] at given
      cases given

theorem items_stop {depth : Nat} {before : List Node} {start here : Bindings}
    (passed : Passed depth before start here) {node : Node} {stop : Stop}
    (stopped : (evaluate depth node node.span here).result = .error stop) (others : List Node) :
    (evaluateItems (bodiesWithin depth) (before ++ node :: others) start).result =
      .error stop := by
  induction passed with
  | none start =>
      rw [evaluate_eq] at stopped
      rw [List.nil_append, evaluateItems]
      exact Action.and_then_stopped stopped _
  | @first earlier more start after value given number rest induction =>
      have later := induction stopped
      rw [evaluate_eq] at given later
      simp only [List.cons_append, evaluateItems, Evaluator.plain_and_then, Evaluator.plain_perform]
      rw [Action.and_then_result _ given, item_of_number number, Action.and_then_result _ rfl]
      exact Action.and_then_stopped later _

namespace Activation

variable {outer inner part : Activation} {body : Node} {frame : Bindings} {stop : Stop}

theorem part_stops (begins : outer.BeginsPart part)
    (stopped : part.outcome.result = .error stop) : outer.outcome.result = .error stop := by
  unfold outcome at stopped ⊢
  cases begins with
  | item passed =>
      rw [evaluate_vector]
      exact Action.and_then_stopped (items_stop passed stopped _) _
  | left =>
      rw [evaluate_binary]
      exact Action.and_then_stopped stopped _
  | right given =>
      rw [evaluate_binary, Action.and_then_result _ given]
      exact Action.and_then_stopped stopped _
  | operand =>
      rw [evaluate_unary]
      exact Action.and_then_stopped stopped _
  | assigned bound =>
      rw [evaluate_assigned _ _ _ _ bound]
      exact Action.and_then_stopped stopped _
  | argument =>
      rw [evaluate_call]
      exact Action.and_then_stopped stopped _
  | callee given =>
      rw [evaluate_call, Action.and_then_result _ given]
      exact Action.and_then_stopped stopped _

/-- A call ends as the body does. -/
theorem call_ends (calls : outer.Calls body frame) :
    outer.outcome.result = (bodiesWithin outer.depth body frame).result := by
  unfold outcome
  cases calls with
  | function given found =>
      rw [evaluate_call, Action.and_then_result _ given, Action.and_then_result _ found]
      rfl

/-- Along any chain of nested evaluations. -/
theorem nested_stops (nests : outer.Nests inner) (stopped : inner.outcome.result = .error stop) :
    outer.outcome.result = .error stop := by
  induction nests with
  | self _ => exact stopped
  | part begins _ induction => exact part_stops begins (induction stopped)
  | body calls room _ induction =>
      rw [call_ends calls, room]
      exact induction stopped

theorem exhausted_of_exceeds (exceeds : outer.Exceeds) : outer.outcome.Exhausted := by
  obtain ⟨inner, body, frame, nests, calls, full⟩ := exceeds
  apply nested_stops nests
  rw [call_ends calls, full]
  rfl

end Activation

theorem named_unexhausted (name : Name) (span : Span) : (named name span).Unexhausted := by
  intro start exhausted
  rcases Action.and_then_stops exhausted with looked | ⟨found, _, shown⟩
  · cases looked
  · cases found with
    | none => cases shown
    | some value => cases shown

theorem item_unexhausted (value : Value) (span : Span) : (item value span).Unexhausted := by
  unfold item
  split
  · exact Action.unexhausted_give value
  · exact Action.unexhausted_report _ span

theorem binary_unexhausted (payload : Payload) (left right : Value) (span : Span) :
    (binary payload left right span).Unexhausted := by
  unfold binary
  split
  · exact Action.unexhausted_report _ span
  · next operator _ =>
      split
      · exact Action.unexhausted_give _
      · next broken =>
          have content := (operator.apply_fails left right).reason broken
          exact Action.unexhausted_broken (of_content_is_not_too_deep content)
      · exact Action.unexhausted_report _ span

theorem unary_unexhausted (payload : Payload) (operand : Value) (span : Span) :
    (unary payload operand span).Unexhausted := by
  unfold unary
  split
  · split
    · exact Action.unexhausted_give _
    · next broken =>
        have content := operand.negate_fails.reason broken
        exact Action.unexhausted_broken (of_content_is_not_too_deep content)
    · exact Action.unexhausted_report _ span
  · exact Action.unexhausted_report _ span

theorem target_unexhausted (target : Node) {stop : Stop}
    (refused : Target.ofNode target = .error stop) :
    (Action.fail stop : Action Value).Unexhausted := by
  unfold Target.ofNode at refused
  split at refused
  · cases refused
  · split at refused
    · split_ifs at refused
      · cases refused
        exact Action.unexhausted_report _ _
      · cases refused
        exact Action.unexhausted_report _ _
    · cases refused
      exact Action.unexhausted_broken (of_parts_is_not_too_deep _)
  · cases refused
    exact Action.unexhausted_report _ _

theorem items_exhausted {depth : Nat} {items : List Node} {start : Bindings}
    (exhausted : (evaluateItems (bodiesWithin depth) items start).Exhausted) :
    ∃ before node others here, items = before ++ node :: others ∧
      Passed depth before start here ∧ (evaluate depth node node.span here).Exhausted := by
  induction items generalizing start with
  | nil =>
      rw [evaluateItems] at exhausted
      cases exhausted
  | cons first more induction =>
      rw [evaluateItems, ← evaluate_eq] at exhausted
      rcases Action.and_then_stops exhausted with here | ⟨value, given, checked⟩
      · exact ⟨[], first, more, start, rfl, .none start, here⟩
      · rcases Action.and_then_stops checked with refused | ⟨_, admitted, rest⟩
        · exact absurd refused (item_unexhausted value first.span _)
        · have number := number_of_item admitted
          rw [item_of_number number] at rest
          rcases Action.and_then_stops rest with later | ⟨_, _, shown⟩
          · obtain ⟨before, node, others, here, shape, passed, stopped⟩ := induction later
            rw [shape]
            exact ⟨first :: before, node, others, here, rfl, .first given number passed, stopped⟩
          · cases shown

namespace Activation

variable {outer part : Activation} {body : Node} {frame : Bindings}

/-- If the limit stops an evaluation, it stops one that this one has begun. -/
theorem exhausted_cases (exhausted : outer.outcome.Exhausted) :
    (∃ part, outer.BeginsPart part ∧ part.outcome.Exhausted) ∨
      ∃ body frame, outer.Calls body frame ∧ (bodiesWithin outer.depth body frame).Exhausted := by
  obtain ⟨depth, node, span, start⟩ := outer
  unfold outcome at exhausted
  dsimp only at exhausted
  rw [evaluate_eq] at exhausted
  unfold evaluateWith at exhausted
  split at exhausted
  · cases exhausted
  · cases exhausted
  · cases exhausted
  · cases exhausted
  · next name _ _ => exact absurd exhausted (named_unexhausted name span start)
  · rcases Action.and_then_stops exhausted with stopped | ⟨_, _, shown⟩
    · obtain ⟨before, node, others, here, rfl, passed, stopped⟩ := items_exhausted stopped
      exact .inl ⟨_, .item passed, stopped⟩
    · cases shown
  · simp only [← evaluate_eq] at exhausted
    rcases Action.and_then_stops exhausted with stopped | ⟨leftValue, given, rest⟩
    · exact .inl ⟨_, .left, stopped⟩
    · rcases Action.and_then_stops rest with stopped | ⟨rightValue, _, applied⟩
      · exact .inl ⟨_, .right given, stopped⟩
      · exact absurd applied (binary_unexhausted _ leftValue rightValue span _)
  · simp only [← evaluate_eq] at exhausted
    rcases Action.and_then_stops exhausted with stopped | ⟨value, _, applied⟩
    · exact .inl ⟨_, .operand, stopped⟩
    · exact absurd applied (unary_unexhausted _ value span _)
  · cases exhausted
  · next target value _ =>
      simp only [← evaluate_eq] at exhausted
      cases bound : Target.ofNode target with
      | error stop =>
          rw [bound] at exhausted
          exact absurd exhausted (target_unexhausted target bound start)
      | ok binding =>
          rw [bound] at exhausted
          rcases binding with name | ⟨name, parameter⟩
          · rcases Action.and_then_stops exhausted with stopped | ⟨_, _, shown⟩
            · exact .inl ⟨_, .assigned bound, stopped⟩
            · cases shown
          · cases exhausted
  · simp only [← evaluate_eq] at exhausted
    rcases Action.and_then_stops exhausted with stopped | ⟨argumentValue, given, rest⟩
    · exact .inl ⟨_, .argument, stopped⟩
    · rcases Action.and_then_stops rest with stopped | ⟨function, found, entered⟩
      · exact .inl ⟨_, .callee given, stopped⟩
      · cases function with
        | function parameter inner => exact .inr ⟨inner, _, .function given found, entered⟩
        | _ => cases entered
  · cases exhausted
  · -- The node has too few parts or too many, and none of them is evaluated.
    exact absurd exhausted (Action.unexhausted_broken (of_parts_is_not_too_deep _) start)

theorem part_is_child (begins : outer.BeginsPart part) :
    part.depth = outer.depth ∧ part.node ∈ outer.node.children := by
  cases begins <;> simp [Node.children]

theorem exceeds_of_part (begins : outer.BeginsPart part) (exceeds : part.Exceeds) :
    outer.Exceeds := by
  obtain ⟨inner, body, frame, nests, calls, full⟩ := exceeds
  exact ⟨inner, body, frame, .part begins nests, calls, full⟩

theorem exceeds_of_body {depth : Nat} (calls : outer.Calls body frame)
    (room : outer.depth = depth + 1)
    (exceeds : Exceeds ⟨depth, body, body.span, frame⟩) : outer.Exceeds := by
  obtain ⟨inner, innerBody, innerFrame, nests, innerCalls, full⟩ := exceeds
  exact ⟨inner, innerBody, innerFrame, .body calls room nests, innerCalls, full⟩

/-- The limit shows only where a call has gone beyond it. The induction is over the calls that may
still be nested, and within one body over the tree. -/
theorem exceeds_of_exhausted (exhausted : outer.outcome.Exhausted) : outer.Exceeds := by
  obtain ⟨depth, node, span, start⟩ := outer
  induction depth using Nat.strongRecOn generalizing node span start with
  | ind depth bodies =>
      induction node using Node.induction_on_children generalizing span start with
      | node whole parts =>
          rcases exhausted_cases exhausted with ⟨part, begins, stopped⟩ |
            ⟨body, frame, calls, stopped⟩
          · obtain ⟨partDepth, partNode, partSpan, partStart⟩ := part
            obtain ⟨same, member⟩ := part_is_child begins
            cases same
            exact exceeds_of_part begins (parts partNode member partSpan partStart stopped)
          · -- If no more calls may be nested, this is the one too many; else its body has room.
            cases depth with
            | zero => exact ⟨_, body, frame, .self _, calls, rfl⟩
            | succ room =>
                exact exceeds_of_body calls rfl
                  (bodies room (Nat.lt_succ_self room) body body.span frame stopped)

end Activation

/-- The limit on nested calls shows only as itself. A tree that ends in a value, in a diagnostic or
in any other breakdown under one limit is evaluated alike under every higher one, with the same
bindings left behind. It ends in the breakdown of the limit exactly when some evaluation nested in
it goes beyond the limit; then, under whatever label, there is no value and no diagnostic. -/
theorem limit_shows_only_as_itself (depth : Nat) (node : Node) (span : Span) (start : Bindings) :
    (∀ deeper, depth ≤ deeper → ¬(evaluate depth node span start).Exhausted →
      evaluate deeper node span start = evaluate depth node span start) ∧
    ((evaluate depth node span start).Exhausted ↔
      Activation.Exceeds ⟨depth, node, span, start⟩) ∧
    ∀ modes label, Activation.Exceeds ⟨depth, node, span, start⟩ →
      resultReport modes label (evaluate depth node span start).result =
        ⟨.error .tooDeep, []⟩ := by
  refine ⟨?_, ?_, ?_⟩
  · intro deeper higher unexhausted
    exact evaluate_extends higher node span start unexhausted
  · constructor
    · intro exhausted
      exact Activation.exceeds_of_exhausted exhausted
    · intro exceeds
      exact Activation.exhausted_of_exceeds exceeds
  · intro modes label exceeds
    have exhausted : (evaluate depth node span start).result = .error (.broken .tooDeep) :=
      Activation.exhausted_of_exceeds exceeds
    rw [exhausted]
    rfl

/-- The tree of `(y=2)*h(f)+q`. -/
def passingTree : Node :=
  Node.binary .add
    (Node.binary .multiply
      (Node.assign (.leaf .variable (.text "y") ⟨1, 2, 0, 0, 1, 2⟩)
        (.leaf .int (.int 2) ⟨3, 4, 0, 0, 3, 4⟩))
      (Node.call (.leaf .variable (.text "h") ⟨6, 7, 0, 0, 6, 7⟩)
        (.leaf .variable (.text "f") ⟨8, 9, 0, 0, 8, 9⟩) ⟨6, 10, 0, 0, 6, 10⟩))
    (.leaf .variable (.text "q") ⟨11, 12, 0, 0, 11, 12⟩)

/-- What `f(x)=x+1` and `h(g)=g(3)` bind. -/
def passingBindings : Bindings :=
  ⟨[(.text "f", .function (.text "x")
      (Node.binary .add (.leaf .variable (.text "x") ⟨5, 6, 0, 0, 5, 6⟩)
        (.leaf .int (.int 1) ⟨7, 8, 0, 0, 7, 8⟩))),
    (.text "h", .function (.text "g")
      (Node.call (.leaf .variable (.text "g") ⟨5, 6, 0, 0, 5, 6⟩)
        (.leaf .int (.int 3) ⟨7, 8, 0, 0, 7, 8⟩) ⟨5, 9, 0, 0, 5, 9⟩))]⟩

/-- Since `h` calls the function it is given, `h(f)` nests two calls. Where only one may be nested,
nothing is said of `q`, which is not bound; from two on it is always reported, and `y` is bound by
then. -/
theorem passed_function_takes_two_calls :
    parseText "(y=2)*h(f)+q" = .ok passingTree ∧
      (runText 0 (runText 0 .empty "f(x)=x+1").bindings "h(g)=g(3)").bindings =
        passingBindings ∧
      Activation.Exceeds ⟨1, passingTree, passingTree.span, passingBindings⟩ ∧
      (∀ modes label,
        resultReport modes label
          (evaluate 1 passingTree passingTree.span passingBindings).result =
            ⟨.error .tooDeep, []⟩) ∧
      ∀ deeper, 2 ≤ deeper →
        (evaluate deeper passingTree passingTree.span passingBindings).result =
          .error (.issue ⟨.undefinedVariable "q", ⟨11, 12, 0, 0, 11, 12⟩⟩) ∧
        (evaluate deeper passingTree passingTree.span passingBindings).bindings.get?
          (.text "y") = some (.int 2) := by
  obtain ⟨_, limited, shown⟩ :=
    limit_shows_only_as_itself 1 passingTree passingTree.span passingBindings
  obtain ⟨alike, _⟩ :=
    limit_shows_only_as_itself 2 passingTree passingTree.span passingBindings
  have exceeds := limited.mp rfl
  refine ⟨rfl, rfl, exceeds, ?_, ?_⟩
  · intro modes label
    exact shown modes label exceeds
  · intro deeper higher
    have told : (evaluate 2 passingTree passingTree.span passingBindings).result =
        .error (.issue ⟨.undefinedVariable "q", ⟨11, 12, 0, 0, 11, 12⟩⟩) := rfl
    rw [alike deeper higher (fun exhausted => by cases told.symm.trans exhausted)]
    exact ⟨told, rfl⟩

end Evaluation

end VectorCalc

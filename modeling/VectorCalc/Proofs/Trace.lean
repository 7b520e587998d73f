import VectorCalc.Evaluation

/-!
Evaluation that writes down what it does: the nodes it visits and the names it binds, in order.
Without what is written down it is evaluation as it was, and the bindings that it leaves behind
are those it started from after the bindings written down. Steps of a function body are marked,
since they act on the bindings of that body and not on those of its caller.
-/
namespace VectorCalc

set_option autoImplicit false

inductive Step where
  | visit (node : Node)
  | bind (name : Name) (value : Value)
  /-- A step of a function body. -/
  | inside (step : Step)

namespace Step

def visited? : Step → Option Node
  | visit node => some node
  | bind _ _ => none
  | inside step => step.visited?

/-- What a step does to the bindings of the tree that is evaluated. -/
def redo (bindings : Bindings) : Step → Bindings
  | bind name value => bindings.insert name value
  | _ => bindings

end Step

structure Traced (α : Type) where
  outcome : Outcome α
  steps : List Step

abbrev Tracing (α : Type) := Bindings → Traced α

def Action.Still {α : Type} (action : Action α) : Prop :=
  ∀ start, (action start).bindings = start

def Action.Constant {α : Type} (action : Action α) : Prop :=
  ∃ result, ∀ start, action start = ⟨result, start, []⟩

theorem Action.Constant.still {α : Type} {action : Action α} (same : action.Constant) :
    action.Still := by
  obtain ⟨result, found⟩ := same
  intro start
  rw [found]

theorem Action.give_constant {α : Type} (value : α) : (give value).Constant :=
  ⟨_, fun _ => rfl⟩

theorem Action.fail_constant {α : Type} (stop : Stop) : (fail stop : Action α).Constant :=
  ⟨_, fun _ => rfl⟩

theorem Node.induction_on_children {motive : Node → Prop}
    (node : ∀ whole : Node, (∀ child ∈ whole.children, motive child) → motive whole)
    (whole : Node) : motive whole := by
  match whole with
  | .mk kind payload children span =>
      apply node
      intro child member
      exact Node.induction_on_children node child
termination_by sizeOf whole
decreasing_by
  have smaller := List.sizeOf_lt_of_mem member
  simp only [Node.children] at smaller
  simp only [Node.mk.sizeOf_spec]
  omega

namespace Evaluation

theorem named_still (name : Name) (span : Span) : (named name span).Still := by
  intro start
  unfold named Action.andThen Action.look
  dsimp only
  cases start.get? name <;> rfl

theorem item_constant (value : Value) (span : Span) : (item value span).Constant := by
  unfold item
  split
  · exact Action.give_constant value
  · exact Action.fail_constant _

theorem binary_constant (payload : Payload) (left right : Value) (span : Span) :
    (binary payload left right span).Constant := by
  unfold binary
  split
  · exact Action.fail_constant _
  · split
    · exact Action.give_constant _
    · exact Action.fail_constant _
    · exact Action.fail_constant _

theorem unary_constant (payload : Payload) (operand : Value) (span : Span) :
    (unary payload operand span).Constant := by
  unfold unary
  split
  · split
    · exact Action.give_constant _
    · exact Action.fail_constant _
    · exact Action.fail_constant _
  · exact Action.fail_constant _

end Evaluation

/-- A relation between two ways of evaluation that every step keeps. Of the bodies of functions
something else may be known than of the trees that they are called in. -/
structure Evaluator.Relation (m n : Type → Type) [Evaluator m] [Evaluator n] where
  Holds : {α : Type} → m α → n α → Prop
  Inside : m Value → n Value → Prop
  perform {α : Type} {action : Action α} (still : action.Still) :
    Holds (perform action) (perform action)
  andThen {α β : Type} {first : m α} {other : n α} {next : α → m β} {otherNext : α → n β}
    (here : Holds first other) (after : ∀ value, Holds (next value) (otherNext value)) :
    Holds (andThen first next) (andThen other otherNext)
  visiting {α : Type} {rest : m α} {other : n α} (node : Node) (here : Holds rest other) :
    Holds (visiting node rest) (visiting node other)
  bind (name : Name) (value : Value) : Holds (bind name value) (bind name value)
  enclosed {body : m Value} {other : n Value} (call : Call) (frame : Bindings)
    (inside : Inside body other) : Holds (enclosed call frame body) (enclosed call frame other)

namespace Evaluation

section Related

variable {m n : Type → Type} [Evaluator m] [Evaluator n] (relation : Evaluator.Relation m n)
  {body : Node → m Value} {other : Node → n Value}

include relation

theorem enter_related (inside : ∀ inner, relation.Inside (body inner) (other inner))
    (callee : Node) (function argument : Value) :
    relation.Holds (enter body callee function argument)
      (enter other callee function argument) := by
  cases function with
  | function parameter inner => exact relation.enclosed _ _ (inside inner)
  | _ => exact relation.perform fun _ => rfl

theorem evaluate_items_related (items : List Node)
    (each : ∀ node ∈ items, ∀ span,
      relation.Holds (evaluateWith body node span) (evaluateWith other node span)) :
    relation.Holds (evaluateItems body items) (evaluateItems other items) := by
  induction items with
  | nil =>
      rw [evaluateItems, evaluateItems]
      exact relation.perform fun _ => rfl
  | cons node others induction =>
      obtain ⟨first, rest⟩ := List.forall_mem_cons.mp each
      rw [evaluateItems, evaluateItems]
      apply relation.andThen (first node.span)
      intro value
      apply relation.andThen (relation.perform (item_constant value node.span).still)
      intro number
      apply relation.andThen (induction rest)
      intro numbers
      exact relation.perform fun _ => rfl

/-- Evaluation of one tree is related to itself, as far as the bodies are. -/
theorem evaluate_with_related (body : Node → m Value) (other : Node → n Value)
    (inside : ∀ inner, relation.Inside (body inner) (other inner)) (node : Node) (span : Span) :
    relation.Holds (evaluateWith body node span) (evaluateWith other node span) := by
  induction node using Node.induction_on_children generalizing span with
  | node whole induction =>
      unfold evaluateWith
      apply relation.visiting whole
      split
      · exact relation.perform fun _ => rfl
      · exact relation.perform fun _ => rfl
      · exact relation.perform fun _ => rfl
      · exact relation.perform fun _ => rfl
      · next name _ _ => exact relation.perform (named_still name span)
      · next items _ =>
          apply relation.andThen (evaluate_items_related relation items induction)
          intro values
          exact relation.perform fun _ => rfl
      · next payload left right _ =>
          apply relation.andThen (induction left (by simp [Node.children]) _)
          intro leftValue
          apply relation.andThen (induction right (by simp [Node.children]) _)
          intro rightValue
          exact relation.perform (binary_constant payload leftValue rightValue span).still
      · next payload operand _ _ =>
          apply relation.andThen (induction operand (by simp [Node.children]) _)
          intro value
          exact relation.perform (unary_constant payload value span).still
      · exact relation.perform fun _ => rfl
      · next target value _ =>
          rcases Target.ofNode target with stop | name | ⟨name, parameter⟩
          · exact relation.perform fun _ => rfl
          · apply relation.andThen (induction value (by simp [Node.children]) _)
            intro result
            apply relation.andThen (relation.bind name result)
            intro _
            exact relation.perform fun _ => rfl
          · apply relation.andThen (relation.bind name _)
            intro _
            exact relation.perform fun _ => rfl
      · next callee argument _ =>
          apply relation.andThen (induction argument (by simp [Node.children]) _)
          intro argumentValue
          apply relation.andThen (induction callee (by simp [Node.children]) _)
          intro function
          exact enter_related relation inside callee function argumentValue
      · exact relation.perform fun _ => rfl
      · exact relation.perform fun _ => rfl

end Related

end Evaluation

namespace Tracing

variable {α β : Type}

def forget (tracing : Tracing α) : Action α := fun bindings =>
  (tracing bindings).outcome

def silent (action : Action α) : Tracing α := fun bindings =>
  ⟨action bindings, []⟩

def visiting (node : Node) (rest : Tracing α) : Tracing α := fun bindings =>
  ⟨(rest bindings).outcome, .visit node :: (rest bindings).steps⟩

def bind (name : Name) (value : Value) : Tracing Unit := fun bindings =>
  ⟨Action.bind name value bindings, [.bind name value]⟩

def andThen (first : Tracing α) (next : α → Tracing β) : Tracing β := fun bindings =>
  let before := first bindings
  match before.outcome.result with
  | .error stop => ⟨⟨.error stop, before.outcome.bindings, before.outcome.calls⟩, before.steps⟩
  | .ok value =>
      let after := next value before.outcome.bindings
      ⟨⟨after.outcome.result, after.outcome.bindings, before.outcome.calls ++ after.outcome.calls⟩,
        before.steps ++ after.steps⟩

def enclosed (call : Call) (frame : Bindings) (body : Tracing Value) : Tracing Value :=
  fun bindings =>
    ⟨Action.enclosed call frame body.forget bindings, (body frame).steps.map .inside⟩

instance : Evaluator Tracing where
  perform := silent
  andThen := andThen
  visiting := visiting
  bind := bind
  enclosed := enclosed

theorem forget_and_then (first : Tracing α) (next : α → Tracing β) :
    (first.andThen next).forget = first.forget.andThen fun value => (next value).forget := by
  funext bindings
  simp only [forget, andThen, Action.andThen]
  cases (first bindings).outcome.result <;> rfl

/-- Doing the steps again on the bindings at the start gives those at the end. -/
def Redoes (tracing : Tracing α) : Prop :=
  ∀ start, (tracing start).outcome.bindings = (tracing start).steps.foldl Step.redo start

theorem redoes_silent {action : Action α} (still : action.Still) : (silent action).Redoes := still

theorem redoes_visiting (node : Node) {rest : Tracing α} (redoes : rest.Redoes) :
    (visiting node rest).Redoes := redoes

theorem redoes_bind (name : Name) (value : Value) : (bind name value).Redoes := by
  intro bindings
  rfl

theorem redoes_and_then {first : Tracing α} {next : α → Tracing β} (redoes : first.Redoes)
    (nextRedoes : ∀ value, (next value).Redoes) : (first.andThen next).Redoes := by
  intro bindings
  have before := redoes bindings
  unfold andThen
  dsimp only
  cases (first bindings).outcome.result with
  | error stop => exact before
  | ok value =>
      dsimp only
      rw [List.foldl_append, ← before]
      exact nextRedoes value _

theorem redoes_enclosed (call : Call) (frame : Bindings) (body : Tracing Value) :
    (enclosed call frame body).Redoes := by
  intro bindings
  have still (steps : List Step) :
      (steps.map Step.inside).foldl Step.redo bindings = bindings := by
    induction steps with
    | nil => rfl
    | cons _ _ induction => exact induction
  exact (still _).symm

end Tracing

namespace Evaluation

def trace : Nat → Node → Span → Tracing Value :=
  evaluateIn

def forgetting : Evaluator.Relation Tracing Action where
  Holds tracing action := tracing.forget = action
  Inside body other := body.forget = other
  perform _ := rfl
  andThen := by
    intro _ _ first _ next _ here after
    exact (Tracing.forget_and_then first next).trans (congr (congrArg _ here) (funext after))
  visiting _ here := here
  bind _ _ := rfl
  enclosed call frame inside := congrArg (Action.enclosed call frame) inside

theorem forget_trace_with (body : Node → Tracing Value) (node : Node) (span : Span) :
    (evaluateWith body node span).forget =
      evaluateWith (fun inner => (body inner).forget) node span :=
  evaluate_with_related forgetting _ _ (fun _ => rfl) node span

/-- What is written down changes nothing. -/
theorem forget_trace (depth : Nat) (node : Node) (span : Span) :
    (trace depth node span).forget = evaluate depth node span := by
  induction depth generalizing node span with
  | zero => exact forget_trace_with _ node span
  | succ depth induction =>
      exact evaluate_with_related forgetting _ _ (fun inner => induction inner inner.span) node span

/-- Nothing has to be known of a body, as it has bindings of its own. -/
def redoing : Evaluator.Relation Tracing Tracing where
  Holds tracing _ := tracing.Redoes
  Inside _ _ := True
  perform := Tracing.redoes_silent
  andThen here after := Tracing.redoes_and_then here after
  visiting node here := Tracing.redoes_visiting node here
  bind := Tracing.redoes_bind
  enclosed call frame _ := Tracing.redoes_enclosed call frame _

theorem trace_with_redoes (body : Node → Tracing Value) (node : Node) (span : Span) :
    (evaluateWith body node span).Redoes :=
  evaluate_with_related redoing body body (fun _ => trivial) node span

theorem trace_redoes (depth : Nat) (node : Node) (span : Span) :
    (trace depth node span).Redoes := by
  cases depth <;> exact trace_with_redoes _ node span

end Evaluation

end VectorCalc

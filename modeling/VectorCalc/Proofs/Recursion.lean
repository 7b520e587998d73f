import VectorCalc.Proofs.Frame
import VectorCalc.Proofs.Grounding

/-!
Functions that call a name from outside. Every evaluated position of a tree is strict: a tree that
evaluates to a value has had each of them evaluated to a value before. In a function body a name
other than the parameter can only be bound to the function itself, unless the body assigns to it;
so a call of such a name leads into the same body again, or to nothing. The bound on nested calls
carries the induction: below any bound there is no first call that returns.
-/
namespace VectorCalc

set_option autoImplicit false

namespace Node

/-- The parts that are evaluated when the node is. The target of an assignment is none, and
nothing of the definition of a function is. -/
def evaluatedParts : Node → List Node
  | .mk .assign _ [target, value] _ => if target.kind = .variable then [value] else []
  | .mk _ _ children _ => children

inductive Evaluates : Node → Node → Prop where
  | self (node : Node) : Evaluates node node
  | inside {whole part inner : Node} (member : part ∈ whole.evaluatedParts)
      (deeper : part.Evaluates inner) : Evaluates whole inner

def CallsByName (name : String) (whole : Node) : Prop :=
  ∃ callee argument extent, whole.Evaluates (Node.call callee argument extent) ∧
    callee.calledName? = some (.text name)

theorem evaluated_is_child {whole part : Node} (formed : whole.WellFormed)
    (member : part ∈ whole.evaluatedParts) : part ∈ whole.children := by
  cases formed with
  | @assign target value _ _ _ _ =>
      simp only [evaluatedParts] at member
      split_ifs at member
      · simp [children, List.mem_singleton.mp member]
      · cases member
  | _ => exact member

theorem evaluated_writes {whole part : Node} (formed : whole.WellFormed)
    (member : part ∈ whole.evaluatedParts) {name : String} (written : name ∈ part.writes) :
    name ∈ whole.writes := by
  cases formed with
  | @assign target value _ _ _ _ =>
      simp only [evaluatedParts] at member
      split_ifs at member with named
      · rw [List.mem_singleton.mp member] at written
        simp only [writes, if_pos named]
        exact List.mem_append_right _ written
      · cases member
  | vector _ | binary _ _ _ | unary _ | call _ _ =>
      simp only [writes]
      exact writes_of_item member written
  | _ => cases member

end Node

theorem Action.and_then_gives {α β : Type} {first : Action α} {next : α → Action β}
    {start : Bindings} {value : β} (given : (first.andThen next start).result = .ok value) :
    ∃ middle, (first start).result = .ok middle ∧
      (next middle (first start).bindings).result = .ok value := by
  unfold andThen at given
  dsimp only at given
  split at given
  · cases given
  · next middle ended => exact ⟨middle, ended, given⟩

theorem Action.and_then_result {α β : Type} {first : Action α} (next : α → Action β)
    {start : Bindings} {middle : α} (ended : (first start).result = .ok middle) :
    (first.andThen next start).result = (next middle (first start).bindings).result := by
  unfold andThen
  dsimp only
  rw [ended]

namespace Evaluation

theorem evaluate_with_grows (bodies : Node → Action Value) {node : Node}
    (formed : node.WellFormed) (span : Span) (start : Bindings) :
    start.Grows node.writes (evaluateWith bodies node span start).bindings := by
  -- What the bodies bind is lost when a call returns, so they need no trace of their own.
  let traced : Node → Tracing Value := fun inner => .silent (bodies inner)
  have same : evaluateWith bodies node span = (evaluateWith traced node span).forget :=
    (forget_trace_with traced node span).symm
  rw [same]
  unfold Tracing.forget
  rw [trace_with_redoes traced node span start]
  exact redo_all_grows _ (trace_with_writes traced formed span start) start

theorem get_after (bodies : Node → Action Value) {node : Node} (formed : node.WellFormed)
    {name : String} (unassigned : name ∉ node.writes) (span : Span) (start : Bindings) :
    (evaluateWith bodies node span start).bindings.get? (.text name) =
      start.get? (.text name) := by
  apply (evaluate_with_grows bodies formed span start).kept
  intro assigned member same
  cases same
  exact unassigned member

/-- The node can be evaluated with success while the name is bound like this, or not at all. -/
def Succeeds (bodies : Node → Action Value) (name : String) (bound : Option Value)
    (node : Node) : Prop :=
  ∃ span start value, start.get? (.text name) = bound ∧
    (evaluateWith bodies node span start).result = .ok value

section Strictness

variable {bodies : Node → Action Value} {name : String}

theorem items_succeed {items : List Node} (formed : ∀ item ∈ items, item.WellFormed)
    (unassigned : ∀ item ∈ items, name ∉ item.writes) {start : Bindings} {values : List Value}
    (given : (evaluateItems bodies items start).result = .ok values) {item : Node}
    (member : item ∈ items) : Succeeds bodies name (start.get? (.text name)) item := by
  induction items generalizing start values with
  | nil => cases member
  | cons node others induction =>
      obtain ⟨nodeFormed, othersFormed⟩ := List.forall_mem_cons.mp formed
      obtain ⟨nodeQuiet, othersQuiet⟩ := List.forall_mem_cons.mp unassigned
      simp only [evaluateItems, Evaluator.plain_and_then, Evaluator.plain_perform] at given
      obtain ⟨value, first, checked⟩ := Action.and_then_gives given
      rcases List.mem_cons.mp member with same | later
      · rw [same]
        exact ⟨node.span, start, value, rfl, first⟩
      · obtain ⟨number, _, rest⟩ := Action.and_then_gives checked
        rw [(item_constant value node.span).still] at rest
        obtain ⟨numbers, remaining, _⟩ := Action.and_then_gives rest
        rw [← get_after bodies nodeFormed nodeQuiet node.span start]
        exact induction othersFormed othersQuiet remaining later

theorem pair_succeeds {first second : Node} {start : Bindings} {α : Type} {value : α}
    {next : Value → Value → Action α} (formed : first.WellFormed)
    (unassigned : name ∉ first.writes)
    (given : ((evaluateWith bodies first first.span).andThen (fun firstValue =>
      (evaluateWith bodies second second.span).andThen (next firstValue)) start).result =
        .ok value) :
    Succeeds bodies name (start.get? (.text name)) first ∧
      Succeeds bodies name (start.get? (.text name)) second := by
  obtain ⟨firstValue, before, rest⟩ := Action.and_then_gives given
  obtain ⟨secondValue, after, _⟩ := Action.and_then_gives rest
  have kept := get_after bodies formed unassigned first.span start
  exact ⟨⟨first.span, start, firstValue, rfl, before⟩, second.span, _, secondValue, kept, after⟩

/-- One step down: whatever is evaluated before the part does not assign to the name. -/
theorem part_succeeds {whole part : Node} {bound : Option Value} (formed : whole.WellFormed)
    (unassigned : name ∉ whole.writes) (succeeds : Succeeds bodies name bound whole)
    (member : part ∈ whole.evaluatedParts) : Succeeds bodies name bound part := by
  have partFormed (part : Node) (member : part ∈ whole.evaluatedParts) : part.WellFormed :=
    Node.child_well_formed formed (Node.evaluated_is_child formed member)
  have quiet (part : Node) (member : part ∈ whole.evaluatedParts) : name ∉ part.writes :=
    mt (Node.evaluated_writes formed member) unassigned
  obtain ⟨span, start, value, same, given⟩ := succeeds
  subst same
  cases formed with
  | @vector items _ _ =>
      rw [evaluateWith] at given
      obtain ⟨values, items, _⟩ := Action.and_then_gives given
      exact items_succeed partFormed quiet items member
  | @binary operator left right _ _ _ _ =>
      rw [evaluateWith] at given
      have leftPart : left ∈ [left, right] := by simp
      have both := pair_succeeds (partFormed left leftPart) (quiet left leftPart) given
      simp only [Node.evaluatedParts, List.mem_cons, List.not_mem_nil, or_false] at member
      rcases member with same | same
      · rw [same]
        exact both.1
      · rw [same]
        exact both.2
  | @unary operand _ _ =>
      rw [evaluateWith] at given
      obtain ⟨operandValue, first, _⟩ := Action.and_then_gives given
      rw [List.mem_singleton.mp member]
      exact ⟨operand.span, start, operandValue, rfl, first⟩
  | @assign target assigned _ _ _ _ =>
      by_cases named : target.kind = .variable
      · have found : Target.ofNode target = .ok (.variable target.payload) := by
          unfold Target.ofNode
          rw [named]
        rw [evaluateWith, found] at given
        obtain ⟨result, first, _⟩ := Action.and_then_gives given
        simp only [Node.evaluatedParts, if_pos named, List.mem_singleton] at member
        rw [member]
        exact ⟨assigned.span, start, result, rfl, first⟩
      · simp only [Node.evaluatedParts, if_neg named] at member
        cases member
  | @call callee argument _ _ _ =>
      rw [evaluateWith] at given
      have argumentPart : argument ∈ [callee, argument] := by simp
      have both := pair_succeeds (partFormed argument argumentPart) (quiet argument argumentPart)
        given
      simp only [Node.evaluatedParts, List.mem_cons, List.not_mem_nil, or_false] at member
      rcases member with same | same
      · rw [same]
        exact both.2
      · rw [same]
        exact both.1
  | _ => cases member

/-- All the way down to an evaluated position. -/
theorem position_succeeds {whole inner : Node} {bound : Option Value} (formed : whole.WellFormed)
    (unassigned : name ∉ whole.writes) (succeeds : Succeeds bodies name bound whole)
    (within : whole.Evaluates inner) :
    inner.WellFormed ∧ name ∉ inner.writes ∧ Succeeds bodies name bound inner := by
  induction within with
  | self _ => exact ⟨formed, unassigned, succeeds⟩
  | inside member _ induction =>
      exact induction (Node.child_well_formed formed (Node.evaluated_is_child formed member))
        (mt (Node.evaluated_writes formed member) unassigned)
        (part_succeeds formed unassigned succeeds member)

theorem named_callee_gives {callee : Node} {span : Span} {start : Bindings} {value : Value}
    (called : callee.calledName? = some (.text name))
    (given : (evaluateWith bodies callee span start).result = .ok value) :
    start.get? (.text name) = some value := by
  obtain ⟨kind, payload, children, place⟩ := callee
  unfold Node.calledName? at called
  split_ifs at called with byName
  cases byName
  cases called
  rw [evaluateWith] at given
  unfold named at given
  obtain ⟨looked, found, shown⟩ := Action.and_then_gives given
  cases looked with
  | none => cases shown
  | some other =>
      cases shown
      exact Except.ok.inj found

theorem called_name_is_bound {callee argument : Node} {extent : Span} {bound : Option Value}
    (formed : (Node.call callee argument extent).WellFormed)
    (unassigned : name ∉ (Node.call callee argument extent).writes)
    (called : callee.calledName? = some (.text name))
    (succeeds : Succeeds bodies name bound (Node.call callee argument extent)) :
    ∃ parameter inner argumentValue value, bound = some (.function parameter inner) ∧
      (bodies inner (frame callee (.function parameter inner) parameter argumentValue)).result =
        .ok value := by
  obtain ⟨span, start, value, same, given⟩ := succeeds
  subst same
  cases formed with
  | call calleeFormed argumentFormed =>
      have quiet : name ∉ argument.writes := by
        intro written
        apply unassigned
        simp only [Node.call, Node.writes]
        exact Node.writes_of_item (by simp) written
      unfold Node.call at given
      rw [evaluateWith] at given
      obtain ⟨argumentValue, _, rest⟩ := Action.and_then_gives given
      obtain ⟨function, looked, entered⟩ := Action.and_then_gives rest
      have found : start.get? (.text name) = some function := by
        rw [← get_after bodies argumentFormed quiet argument.span start]
        exact named_callee_gives called looked
      cases function with
      | function parameter inner => exact ⟨parameter, inner, argumentValue, value, found, entered⟩
      | _ => cases entered

end Strictness

def bodiesWithin : Nat → Node → Action Value
  | 0, _ => .fail (.broken .tooDeep)
  | depth + 1, inner => evaluate depth inner inner.span

theorem evaluate_eq (depth : Nat) : evaluate depth = evaluateWith (bodiesWithin depth) := by
  cases depth <;> rfl

/-- The frame of a call binds no names but the parameter and the one that the function was called
by. -/
theorem frame_binds (callee : Node) (function argument : Value) {parameter name : String}
    (other : parameter ≠ name) :
    (frame callee function (.text parameter) argument).get? (.text name) = none ∨
      (frame callee function (.text parameter) argument).get? (.text name) = some function := by
  unfold frame
  split
  · rw [Bindings.get_insert_text, if_neg other]
    cases found : (Bindings.empty.insert callee.payload function).get? (.text name) with
    | none => exact .inl rfl
    | some value =>
        rcases Bindings.get_insert_cases found with same | before
        · exact .inr (by rw [same])
        · cases before
  · rw [Bindings.get_insert_text, if_neg other]
    exact .inl rfl

section OutsideCalls

variable {body : Node} {parameter name : String}

/-- Below every bound: if the body returned, a call of the name inside it would have returned
before, and that call has entered the same body. -/
theorem body_never_returns (formed : body.WellFormed) (other : parameter ≠ name)
    (calls : body.CallsByName name) (unassigned : name ∉ body.writes) (depth : Nat)
    (callee : Node) (argument value : Value) :
    (bodiesWithin depth body
      (frame callee (.function (.text parameter) body) (.text parameter) argument)).result ≠
        .ok value := by
  induction depth generalizing callee argument value with
  | zero =>
      intro given
      cases given
  | succ depth induction =>
      intro given
      obtain ⟨inner, innerArgument, extent, within, called⟩ := calls
      rw [bodiesWithin, evaluate_eq] at given
      obtain ⟨innerFormed, quiet, succeeds⟩ := position_succeeds formed unassigned
        ⟨body.span, _, value, rfl, given⟩ within
      obtain ⟨taken, entered, innerValue, result, bound, returned⟩ :=
        called_name_is_bound innerFormed quiet called succeeds
      -- The inner call found the name bound, and so found this function and entered its body.
      rcases frame_binds callee (.function (.text parameter) body) argument other with
        unbound | itself
      · rw [unbound] at bound
        cases bound
      · rw [itself] at bound
        cases bound
        exact induction inner innerValue result returned

/-- Where a body calls a name other than its parameter, and assigns to it nowhere, no call of the
function returns, by whatever callee and with whatever argument. Such a call ends in a diagnostic
or, below any bound, in too many nested calls when the bindings hold values of the language, whose
integers have 64 bits and whose functions have bodies that were read. -/
theorem outside_call_never_returns (formed : body.WellFormed) (other : parameter ≠ name)
    (calls : body.CallsByName name) (unassigned : name ∉ body.writes) (depth : Nat)
    (callee argument : Node) (extent span : Span) (start : Bindings)
    (yields : ∀ function, ((evaluate depth argument argument.span).andThen
      (fun _ => evaluate depth callee callee.span) start).result = .ok function →
        function = .function (.text parameter) body) :
    (∀ value, (evaluate depth (Node.call callee argument extent) span start).result ≠
      .ok value) ∧
    (start.Grounded Node.WellFormed → callee.WellFormed → argument.WellFormed →
      (∃ issue, (evaluate depth (Node.call callee argument extent) span start).result =
        .error (.issue issue)) ∨
      (evaluate depth (Node.call callee argument extent) span start).result =
        .error (.broken .tooDeep)) := by
  have never (value : Value) :
      (evaluate depth (Node.call callee argument extent) span start).result ≠ .ok value := by
    intro given
    rw [evaluate_eq] at given yields
    unfold Node.call at given
    rw [evaluateWith] at given
    obtain ⟨argumentValue, first, rest⟩ := Action.and_then_gives given
    obtain ⟨function, second, entered⟩ := Action.and_then_gives rest
    have same := yields function ((Action.and_then_result _ first).trans second)
    subst same
    exact body_never_returns formed other calls unassigned depth callee argumentValue value entered
  refine ⟨never, ?_⟩
  intro grounded calleeFormed argumentFormed
  have closed : ClosedOrigin Node.WellFormed :=
    ⟨fun _ formed => formed, fun _ formed _ member => Node.child_well_formed formed member⟩
  -- It does not matter here where an issue points: any span is that of a well-formed leaf.
  have anywhere : span.Of Node.WellFormed := ⟨.leaf .pi .none span, .pi, rfl⟩
  have accounted := (evaluate_accounts closed depth (Node.call callee argument extent)
    (.call calleeFormed argumentFormed) anywhere start grounded).2
  generalize (evaluate depth (Node.call callee argument extent) span start).result = ended
    at accounted never
  cases accounted with
  | value _ => exact absurd rfl (never _)
  | issue _ => exact .inl ⟨_, rfl⟩
  | tooDeep => exact .inr rfl

/-- The tree of `x*f(x-1)`. -/
def productBody : Node :=
  Node.binary .multiply (.leaf .variable (.text "x") ⟨0, 1, 0, 0, 0, 1⟩)
    (Node.call (.leaf .variable (.text "f") ⟨2, 3, 0, 0, 2, 3⟩)
      (Node.binary .subtract (.leaf .variable (.text "x") ⟨4, 5, 0, 0, 4, 5⟩)
        (.leaf .int (.int 1) ⟨6, 7, 0, 0, 6, 7⟩)) ⟨2, 8, 0, 0, 2, 8⟩)

/-- With this body `f` goes on below zero: `f(3)` does not return. -/
theorem product_never_returns :
    ∃ callee argument extent start, parseText "x*f(x-1)" = .ok productBody ∧
      productBody.CallsByName "f" ∧ "f" ∉ productBody.writes ∧
      parseText "f(3)" = .ok (Node.call callee argument extent) ∧
      ((evaluate 7 argument argument.span).andThen (fun _ => evaluate 7 callee callee.span)
        start).result = .ok (.function (.text "x") productBody) ∧
      (∀ value, (evaluate 7 (Node.call callee argument extent) extent start).result ≠
        .ok value) ∧
      start.Grounded Node.WellFormed ∧
      ((∃ issue, (evaluate 7 (Node.call callee argument extent) extent start).result =
        .error (.issue issue)) ∨
      (evaluate 7 (Node.call callee argument extent) extent start).result =
        .error (.broken .tooDeep)) := by
  have read : parseText "x*f(x-1)" = .ok productBody := rfl
  have formed := parse_text_well_formed read
  have calls : productBody.CallsByName "f" :=
    ⟨_, _, _, .inside (List.mem_cons_of_mem _ (List.mem_singleton.mpr rfl)) (.self _), rfl⟩
  have unassigned : "f" ∉ productBody.writes := List.not_mem_nil
  let callee : Node := .leaf .variable (.text "f") ⟨0, 1, 0, 0, 0, 1⟩
  let argument : Node := .leaf .int (.int 3) ⟨2, 3, 0, 0, 2, 3⟩
  let extent : Span := ⟨0, 4, 0, 0, 0, 4⟩
  let start := Bindings.empty.insert (.text "f") (.function (.text "x") productBody)
  have callRead : parseText "f(3)" = .ok (Node.call callee argument extent) := rfl
  have grounded : start.Grounded Node.WellFormed :=
    Bindings.insert_grounded _ Bindings.empty_grounded (.function formed)
  have yields : ((evaluate 7 argument argument.span).andThen
      (fun _ => evaluate 7 callee callee.span) start).result =
        .ok (.function (.text "x") productBody) := rfl
  obtain ⟨never, ends⟩ := outside_call_never_returns formed (by decide) calls unassigned 7 callee
    argument extent extent start fun function found => Except.ok.inj (found.symm.trans yields)
  cases parse_text_well_formed callRead with
  | call calleeFormed argumentFormed =>
      exact ⟨callee, argument, extent, start, read, calls, unassigned, callRead, yields, never,
        grounded, ends grounded calleeFormed argumentFormed⟩

end OutsideCalls

end Evaluation

end VectorCalc

import VectorCalc.Proofs.Formation
import VectorCalc.Proofs.Trace

/-!
What evaluation depends on. Two evaluations of one tree, from bindings that agree on the names the
tree reads, take the same steps and end alike, whatever else is bound. The bodies of called
functions need no argument of their own: the frame they start from is made of the callee, the
function and the argument, and these are the same on both sides.
-/
namespace VectorCalc

set_option autoImplicit false

mutual

/-- The names in evaluated positions. The target of an assignment is none, and nothing of the
definition of a function is evaluated when it is defined. -/
def Node.reads : Node → List String
  | .mk .variable (.text name) _ _ => [name]
  | .mk .assign _ [target, value] _ => if target.kind = .variable then value.reads else []
  | .mk _ _ children _ => listReads children

def Node.listReads : List Node → List String
  | [] => []
  | node :: others => node.reads ++ listReads others

end

theorem reads_of_item {items : List Node} {item : Node} (member : item ∈ items) {name : String}
    (read : name ∈ item.reads) : name ∈ Node.listReads items := by
  induction items with
  | nil => cases member
  | cons node others induction =>
      rw [Node.listReads, List.mem_append]
      rcases List.mem_cons.mp member with same | later
      · rw [← same]
        exact .inl read
      · exact .inr (induction later)

/-- The name that a called function goes by in its own frame. -/
def Node.calledName? (callee : Node) : Option Name :=
  if callee.kind = .variable then some callee.payload else none

theorem same_name_text (payload : Payload) (name : String) :
    payload.sameName (.text name) = true ↔ payload = .text name := by
  cases payload <;> simp [Payload.sameName, Payload.same]

namespace Bindings

theorem get_insert_text (bindings : Bindings) (name other : String) (value : Value) :
    (bindings.insert (.text name) value).get? (.text other) =
      if name = other then some value else bindings.get? (.text other) := by
  obtain ⟨entries⟩ := bindings
  unfold insert get?
  dsimp only
  induction entries with
  | nil =>
      by_cases same : name = other
      · simp [insertInto, same, Payload.sameName, Payload.same]
      · simp [insertInto, same, Payload.sameName, Payload.same]
  | cons entry entries induction =>
      obtain ⟨bound, old⟩ := entry
      unfold insertInto
      by_cases here : bound = .text name
      · rw [if_pos ((same_name_text bound name).mpr here)]
        by_cases same : name = other
        · simp [here, same, Payload.sameName, Payload.same]
        · simp [here, same, Payload.sameName, Payload.same]
      · rw [if_neg fun found => here ((same_name_text bound name).mp found)]
        by_cases wanted : bound = .text other
        · have different : name ≠ other := by
            intro same
            exact here (by rw [wanted, same])
          simp [wanted, different, Payload.sameName, Payload.same]
        · have passed : bound.sameName (.text other) = false := by
            rw [Bool.eq_false_iff]
            exact fun found => wanted ((same_name_text bound other).mp found)
          rw [List.find?_cons, passed, List.find?_cons, passed]
          exact induction

/-- Both leave each of the names unbound or bind it to the same value. -/
def Agree (names : List String) (first second : Bindings) : Prop :=
  ∀ name ∈ names, first.get? (.text name) = second.get? (.text name)

end Bindings

/-- Two evaluations that do the same; each keeps what their bindings agree on. -/
structure Together {α : Type} (first second : Bindings) (left right : Traced α) : Prop where
  result : left.outcome.result = right.outcome.result
  calls : left.outcome.calls = right.outcome.calls
  steps : left.steps = right.steps
  agreement : ∀ names, first.Agree names second →
    left.outcome.bindings.Agree names right.outcome.bindings

namespace Tracing

variable {α β : Type} {names : List String}

def Depends (names : List String) (tracing : Tracing α) : Prop :=
  ∀ first second : Bindings, first.Agree names second →
    Together first second (tracing first) (tracing second)

theorem depends_of_fewer {fewer : List String} {tracing : Tracing α}
    (depends : tracing.Depends fewer) (included : ∀ name ∈ fewer, name ∈ names) :
    tracing.Depends names := by
  intro first second agree
  exact depends first second fun name member => agree name (included name member)

theorem depends_constant {action : Action α} (same : action.Constant) :
    (silent action).Depends names := by
  intro first second _
  obtain ⟨result, found⟩ := same
  unfold silent
  rw [found, found]
  exact ⟨rfl, rfl, rfl, fun _ agree => agree⟩

theorem depends_visiting (node : Node) {rest : Tracing α} (depends : rest.Depends names) :
    (visiting node rest).Depends names := by
  intro first second agree
  obtain ⟨result, calls, steps, agreement⟩ := depends first second agree
  exact ⟨result, calls, congrArg (Step.visit node :: ·) steps, agreement⟩

theorem depends_bind (name : String) (value : Value) :
    (bind (.text name) value).Depends names := by
  intro first second _
  refine ⟨rfl, rfl, rfl, ?_⟩
  intro others agree other member
  change (first.insert _ value).get? _ = (second.insert _ value).get? _
  rw [Bindings.get_insert_text, Bindings.get_insert_text, agree other member]

/-- What the first step binds, it binds on both sides, so the next step meets bindings that still
agree. -/
theorem depends_and_then {first : Tracing α} {next : α → Tracing β}
    (depends : first.Depends names) (nextDepends : ∀ value, (next value).Depends names) :
    (first.andThen next).Depends names := by
  intro left right agree
  obtain ⟨result, calls, steps, agreement⟩ := depends left right agree
  unfold andThen
  dsimp only
  rw [result]
  cases (first right).outcome.result with
  | error stop => exact ⟨rfl, calls, steps, agreement⟩
  | ok value =>
      have later := nextDepends value _ _ (agreement names agree)
      refine ⟨later.result, ?_, ?_, ?_⟩
      · dsimp only
        rw [calls, later.calls]
      · dsimp only
        rw [steps, later.steps]
      · intro others same
        exact later.agreement others (agreement others same)

/-- A body runs in its frame, whatever is bound outside. -/
theorem depends_enclosed (call : Call) (frame : Bindings) (body : Tracing Value) :
    (enclosed call frame body).Depends names := by
  intro first second _
  exact ⟨rfl, rfl, rfl, fun _ agree => agree⟩

end Tracing

namespace Evaluation

theorem named_depends (name : String) (span : Span) :
    (Tracing.silent (named (.text name) span)).Depends [name] := by
  intro first second agree
  have same := agree name (by simp)
  unfold Tracing.silent named Action.andThen Action.look
  dsimp only
  rw [same]
  cases second.get? (.text name) <;> exact ⟨rfl, rfl, rfl, fun _ kept => kept⟩

theorem trace_enter_depends {names : List String} (body : Node → Tracing Value) (callee : Node)
    (function argument : Value) : (enter body callee function argument).Depends names := by
  cases function with
  | function parameter inner => exact Tracing.depends_enclosed _ _ _
  | _ => exact Tracing.depends_constant (Action.fail_constant _)

theorem trace_part_depends {body : Node → Tracing Value} (parts : List Node) {part : Node}
    (member : part ∈ parts) (depends : ∀ span, (evaluateWith body part span).Depends part.reads)
    (span : Span) : (evaluateWith body part span).Depends (Node.listReads parts) := by
  apply Tracing.depends_of_fewer (depends span)
  intro name read
  exact reads_of_item member read

theorem trace_items_depend {body : Node → Tracing Value} (items : List Node)
    (each : ∀ node ∈ items, ∀ span, (evaluateWith body node span).Depends node.reads) :
    (evaluateItems body items).Depends (Node.listReads items) := by
  induction items with
  | nil =>
      rw [evaluateItems]
      exact Tracing.depends_constant (Action.give_constant _)
  | cons node others induction =>
      obtain ⟨first, rest⟩ := List.forall_mem_cons.mp each
      have firstDepends := trace_part_depends (node :: others) (by simp) first
      have restDepend : (evaluateItems body others).Depends (Node.listReads (node :: others)) := by
        apply Tracing.depends_of_fewer (induction rest)
        intro name read
        rw [Node.listReads]
        exact List.mem_append_right _ read
      rw [evaluateItems]
      apply Tracing.depends_and_then (firstDepends node.span)
      intro value
      apply Tracing.depends_and_then (Tracing.depends_constant (item_constant value node.span))
      intro number
      apply Tracing.depends_and_then restDepend
      intro numbers
      exact Tracing.depends_constant (Action.give_constant _)

/-- One tree, whatever the bodies of the functions it calls may be. -/
theorem trace_with_depends (body : Node → Tracing Value) {node : Node} (formed : node.WellFormed)
    (span : Span) : (evaluateWith body node span).Depends node.reads := by
  induction node using Node.induction_on_children generalizing span with
  | node whole induction =>
      have parts (child : Node) (member : child ∈ whole.children) :
          ∀ place, (evaluateWith body child place).Depends child.reads :=
        induction child member (Node.child_well_formed formed member)
      unfold evaluateWith
      apply Tracing.depends_visiting whole
      cases formed with
      | int _ | float | infinity | pi =>
          exact Tracing.depends_constant (Action.give_constant _)
      | name _ =>
          rw [Node.reads]
          exact named_depends _ span
      | @vector items _ _ =>
          simp only [Node.reads]
          apply Tracing.depends_and_then (trace_items_depend items parts)
          intro values
          exact Tracing.depends_constant (Action.give_constant _)
      | @binary operator left right _ _ _ _ =>
          have leftDepends := trace_part_depends [left, right] (by simp)
            (parts left (by simp [Node.children]))
          have rightDepends := trace_part_depends [left, right] (by simp)
            (parts right (by simp [Node.children]))
          simp only [Node.reads]
          apply Tracing.depends_and_then (leftDepends _)
          intro leftValue
          apply Tracing.depends_and_then (rightDepends _)
          intro rightValue
          exact Tracing.depends_constant (binary_constant _ leftValue rightValue span)
      | @unary operand _ _ =>
          have depends := trace_part_depends [operand] (by simp)
            (parts operand (by simp [Node.children]))
          simp only [Node.reads]
          apply Tracing.depends_and_then (depends _)
          intro value
          exact Tracing.depends_constant (unary_constant _ value span)
      | @assign target value _ bindable first _ =>
          have depends := parts value (by simp [Node.children])
          rw [Node.reads]
          rcases target_cases first bindable with
            ⟨named, name, found, text, same, _⟩ | ⟨_, part, found⟩ |
              ⟨_, name, parameter, found, ⟨text, same, _⟩, _⟩
          · rw [if_pos named]
            subst same
            simp only [found]
            apply Tracing.depends_and_then (depends _)
            intro result
            apply Tracing.depends_and_then (Tracing.depends_bind text result)
            intro _
            exact Tracing.depends_constant (Action.give_constant _)
          · simp only [found]
            exact Tracing.depends_constant (Action.fail_constant _)
          · -- The function is bound unevaluated, so no name has to agree for it.
            subst same
            simp only [found]
            apply Tracing.depends_and_then (Tracing.depends_bind text _)
            intro _
            exact Tracing.depends_constant (Action.give_constant _)
      | @call callee argument _ _ _ =>
          have argumentDepends := trace_part_depends [callee, argument] (by simp)
            (parts argument (by simp [Node.children]))
          have calleeDepends := trace_part_depends [callee, argument] (by simp)
            (parts callee (by simp [Node.children]))
          simp only [Node.reads]
          apply Tracing.depends_and_then (argumentDepends _)
          intro argumentValue
          apply Tracing.depends_and_then (calleeDepends _)
          intro function
          exact trace_enter_depends body callee function argumentValue

theorem trace_depends (depth : Nat) {node : Node} (formed : node.WellFormed) (span : Span) :
    (trace depth node span).Depends node.reads := by
  cases depth <;> exact trace_with_depends _ formed span

theorem frame_of_called_name {callee other : Node} (same : callee.calledName? = other.calledName?)
    (function : Value) (parameter : Name) (argument : Value) :
    frame callee function parameter argument = frame other function parameter argument := by
  unfold Node.calledName? at same
  unfold frame
  by_cases named : callee.kind = .variable
  · rw [if_pos named] at same
    by_cases otherNamed : other.kind = .variable
    · rw [if_pos otherNamed] at same
      rw [if_pos named, if_pos otherNamed, Option.some.inj same]
    · rw [if_neg otherNamed] at same
      cases same
  · rw [if_neg named] at same
    by_cases otherNamed : other.kind = .variable
    · rw [if_pos otherNamed] at same
      cases same
    · rw [if_neg named, if_neg otherNamed]

/-- From bindings that agree on the names a tree reads, its evaluation ends alike, makes the same
calls and binds the same names to the same values in the same order. What a call computes is
settled by the function, the argument and the name that the function was called by. -/
theorem evaluate_depends_only_on_read_names {text : String} {tree node : Node}
    (read : parseText text = .ok tree) (within : tree.Part node) (depth : Nat) (span : Span)
    {first second : Bindings} (agree : first.Agree node.reads second) :
    ((evaluate depth node span first).result = (evaluate depth node span second).result ∧
      (evaluate depth node span first).calls = (evaluate depth node span second).calls) ∧
    ((trace depth node span first).steps = (trace depth node span second).steps ∧
      (evaluate depth node span first).bindings =
        (trace depth node span first).steps.foldl Step.redo first ∧
      (evaluate depth node span second).bindings =
        (trace depth node span second).steps.foldl Step.redo second) ∧
    ∀ (callee other inner : Node) (parameter : Name) (argument : Value) (here there : Bindings),
      callee.calledName? = other.calledName? →
      (enter (fun body => evaluate depth body body.span) callee (.function parameter inner)
          argument here).result =
        (enter (fun body => evaluate depth body body.span) other (.function parameter inner)
          argument there).result ∧
      (enter (fun body => trace depth body body.span) callee (.function parameter inner)
          argument here).steps =
        (enter (fun body => trace depth body body.span) other (.function parameter inner)
          argument there).steps ∧
      (enter (fun body => evaluate depth body body.span) callee (.function parameter inner)
          argument here).bindings = here := by
  have formed := Node.part_well_formed (parse_text_well_formed read) within
  have together := trace_depends depth formed span first second agree
  refine ⟨?_, ?_, ?_⟩
  · rw [← forget_trace]
    exact ⟨together.result, together.calls⟩
  · rw [← forget_trace]
    exact ⟨together.steps, trace_redoes depth node span first, trace_redoes depth node span second⟩
  · intro callee other inner parameter argument here there same
    have frames := frame_of_called_name same (.function parameter inner) parameter argument
    refine ⟨?_, ?_, rfl⟩
    · unfold enter
      dsimp only
      rw [frames]
      rfl
    · unfold enter
      dsimp only
      rw [frames]
      rfl

/-- The value of the variable that is assigned does not matter, nor does that of `z`; and where
`f` is called by name, what `x` was bound to outside does not matter either. -/
theorem assignment_ignores_its_target :
    ∃ tree, parseText "y=x+1" = .ok tree ∧
      (evaluate 0 tree tree.span ⟨[(.text "x", .int 4), (.text "z", .int 9)]⟩).result =
        (evaluate 0 tree tree.span ⟨[(.text "y", .int 7), (.text "x", .int 4)]⟩).result ∧
      (enter (fun body => evaluate 0 body body.span)
          (.leaf .variable (.text "f") ⟨0, 1, 0, 0, 0, 1⟩)
          (.function (.text "x") tree) (.int 3) .empty).result =
        (enter (fun body => evaluate 0 body body.span) (.leaf .variable (.text "f") tree.span)
          (.function (.text "x") tree) (.int 3) ⟨[(.text "x", .int 8)]⟩).result := by
  obtain ⟨tree, read, reads⟩ : ∃ tree, parseText "y=x+1" = .ok tree ∧ tree.reads = ["x"] :=
    ⟨_, rfl, rfl⟩
  have agree : Bindings.Agree tree.reads ⟨[(.text "x", .int 4), (.text "z", .int 9)]⟩
      ⟨[(.text "y", .int 7), (.text "x", .int 4)]⟩ := by
    intro name member
    rw [reads] at member
    rw [List.mem_singleton.mp member]
    rfl
  obtain ⟨⟨result, _⟩, _, called⟩ :=
    evaluate_depends_only_on_read_names read (.self tree) 0 tree.span agree
  refine ⟨tree, read, result, (called _ _ _ _ _ _ _ ?_).1⟩
  rfl

end Evaluation

end VectorCalc

import VectorCalc.Proofs.Formation
import VectorCalc.Proofs.Operands
import VectorCalc.Proofs.Trace

/-!
What evaluation preserves. Trees are taken from a set of well-formed nodes that holds the parts of
its members. From bindings whose functions have their bodies in that set, evaluation visits nodes
of the set only, binds names to such values only, and ends in such a value or in a reason to stop
that is reported. The bound on nested calls carries the induction over bodies, and the parts of a
tree the one below it.
-/
namespace VectorCalc

set_option autoImplicit false

def Fault.reportedTitles : List String :=
  ["VectaSyntaxError", "ExpectTokenError", "UnexpectedTokenError", "ExpectNodeError",
    "BinaryOperationError", "UnaryOperationError", "VectaIndexError", "IllegalValueError",
    "VariableError"]

/-- A reason to stop that is no failure of the evaluation itself: a diagnostic that can be worded,
too many nested calls, or an integer literal with too many digits. -/
inductive Stop.Reported : Stop → Prop where
  | issue {issue : Issue} (known : issue.fault.title ∈ Fault.reportedTitles)
      (worded : ∀ label, ∃ text, (issue.labelled label).message = .ok text) :
      Reported (.issue issue)
  | tooDeep : Reported (.broken .tooDeep)
  | tooLong {digits : Nat} (long : digitLimit < digits) :
      Reported (.broken (.literalTooLong digits))

theorem worded_title {fault : Fault} {detail : String} (worded : fault.detail = .ok detail)
    (supported : ∀ what, fault ≠ .unsupported what) : fault.title ∈ Fault.reportedTitles := by
  cases fault with
  | unsupported what => exact absurd rfl (supported what)
  | unspecified => cases worded
  | _ => simp [Fault.title, Fault.reportedTitles]

theorem issue_is_reported {fault : Fault} {detail : String} (span : Span)
    (worded : fault.detail = .ok detail) (supported : ∀ what, fault ≠ .unsupported what) :
    Stop.Reported (.issue ⟨fault, span⟩) := by
  refine .issue (worded_title worded supported) ?_
  intro label
  refine ⟨"ERROR: " ++ detail ++ " - " ++ label ++ " " ++ span.text, ?_⟩
  unfold Diagnostic.message
  rw [Issue.labelled, worded]
  rfl

theorem expect_variable_is_reported (node : Node) : node.expectVariable.Reported :=
  issue_is_reported _ rfl (by simp)

inductive Ends {α : Type} (property : α → Prop) : Except Stop α → Prop where
  | value {result : α} (holds : property result) : Ends property (.ok result)
  | stop {reason : Stop} (reported : reason.Reported) : Ends property (.error reason)

namespace Bindings

def Formed (origin : Node → Prop) (bindings : Bindings) : Prop :=
  ∀ entry ∈ bindings.entries, entry.1.Names ∧ entry.2.Formed origin

theorem empty_formed (origin : Node → Prop) : empty.Formed origin := by
  intro entry member
  cases member

theorem formed_of_wider {narrow wide : Node → Prop} {bindings : Bindings}
    (formed : bindings.Formed narrow) (wider : ∀ node, narrow node → wide node) :
    bindings.Formed wide := by
  intro entry member
  obtain ⟨named, value⟩ := formed entry member
  exact ⟨named, Value.formed_of_wider value wider⟩

theorem get_formed {origin : Node → Prop} {bindings : Bindings} {name : Name} {value : Value}
    (formed : bindings.Formed origin) (bound : bindings.get? name = some value) :
    value.Formed origin := by
  unfold get? at bound
  obtain ⟨entry, found, same⟩ := Option.map_eq_some_iff.mp bound
  rw [← same]
  exact (formed entry (List.mem_of_find?_eq_some found)).2

theorem insert_into_mem {name : Name} {value : Value} {entries : List (Name × Value)}
    {entry : Name × Value} (member : entry ∈ insertInto name value entries) :
    entry ∈ entries ∨ (entry.2 = value ∧ (entry.1 = name ∨ ∃ old, (entry.1, old) ∈ entries)) := by
  induction entries with
  | nil =>
      simp only [insertInto, List.mem_cons, List.not_mem_nil, or_false] at member
      subst member
      exact .inr ⟨rfl, .inl rfl⟩
  | cons head entries induction =>
      obtain ⟨other, old⟩ := head
      unfold insertInto at member
      split at member
      · rcases List.mem_cons.mp member with same | later
        · subst same
          exact .inr ⟨rfl, .inr ⟨old, by simp⟩⟩
        · exact .inl (by simp [later])
      · rcases List.mem_cons.mp member with same | later
        · exact .inl (by simp [same])
        · rcases induction later with kept | ⟨same, new | ⟨before, kept⟩⟩
          · exact .inl (by simp [kept])
          · exact .inr ⟨same, .inl new⟩
          · exact .inr ⟨same, .inr ⟨before, by simp [kept]⟩⟩

theorem insert_formed {origin : Node → Prop} {bindings : Bindings} {name : Name} {value : Value}
    (formed : bindings.Formed origin) (named : name.Names) (valueFormed : value.Formed origin) :
    (bindings.insert name value).Formed origin := by
  intro entry member
  rcases insert_into_mem member with kept | ⟨same, new | ⟨old, kept⟩⟩
  · exact formed entry kept
  · rw [same, new]
    exact ⟨named, valueFormed⟩
  · rw [same]
    exact ⟨(formed _ kept).1, valueFormed⟩

end Bindings

def Step.Formed (origin : Node → Prop) : Step → Prop
  | .visit node => origin node
  | .bind name value => name.Names ∧ value.Formed origin
  | .inside step => step.Formed origin

structure Traced.Formed {α : Type} (origin : Node → Prop) (property : α → Prop)
    (traced : Traced α) : Prop where
  bindings : traced.outcome.bindings.Formed origin
  result : Ends property traced.outcome.result
  steps : ∀ step ∈ traced.steps, step.Formed origin

namespace Tracing

variable {α β : Type} {origin : Node → Prop}

def Keeps (origin : Node → Prop) (property : α → Prop) (tracing : Tracing α) : Prop :=
  ∀ start : Bindings, start.Formed origin → (tracing start).Formed origin property

theorem keeps_silent {property : α → Prop} {action : Action α} (still : action.Still)
    (ends : ∀ start : Bindings, start.Formed origin → Ends property (action start).result) :
    (silent action).Keeps origin property := by
  intro start formed
  refine ⟨?_, ends start formed, by simp [silent]⟩
  rw [silent, still]
  exact formed

theorem keeps_give {property : α → Prop} {value : α} (holds : property value) :
    (silent (.give value)).Keeps origin property :=
  keeps_silent (fun _ => rfl) fun _ _ => .value holds

theorem keeps_fail {property : α → Prop} {reason : Stop} (reported : reason.Reported) :
    (silent (.fail reason)).Keeps origin property :=
  keeps_silent (fun _ => rfl) fun _ _ => .stop reported

theorem keeps_visiting {property : α → Prop} {node : Node} {rest : Tracing α}
    (read : origin node) (keeps : rest.Keeps origin property) :
    (visiting node rest).Keeps origin property := by
  intro start formed
  obtain ⟨bindings, result, steps⟩ := keeps start formed
  exact ⟨bindings, result, List.forall_mem_cons.mpr ⟨read, steps⟩⟩

theorem keeps_bind {name : Name} {value : Value} (named : name.Names)
    (valueFormed : value.Formed origin) : (bind name value).Keeps origin fun _ => True := by
  intro start formed
  refine ⟨Bindings.insert_formed formed named valueFormed, .value trivial, ?_⟩
  simpa [bind, Step.Formed] using ⟨named, valueFormed⟩

theorem keeps_and_then {middle : α → Prop} {property : β → Prop} {first : Tracing α}
    {next : α → Tracing β} (keeps : first.Keeps origin middle)
    (nextKeeps : ∀ value, middle value → (next value).Keeps origin property) :
    (first.andThen next).Keeps origin property := by
  intro start formed
  obtain ⟨bindings, result, steps⟩ := keeps start formed
  unfold andThen
  dsimp only
  cases ended : (first start).outcome.result with
  | error reason =>
      rw [ended] at result
      cases result with
      | stop reported => exact ⟨bindings, .stop reported, steps⟩
  | ok value =>
      rw [ended] at result
      cases result with
      | value holds =>
          obtain ⟨later, final, more⟩ := nextKeeps value holds _ bindings
          exact ⟨later, final, List.forall_mem_append.mpr ⟨steps, more⟩⟩

theorem keeps_enclosed {property : Value → Prop} {call : Call} {frame : Bindings}
    {body : Tracing Value} (frameFormed : frame.Formed origin)
    (keeps : body.Keeps origin property) : (enclosed call frame body).Keeps origin property := by
  intro start formed
  obtain ⟨_, result, steps⟩ := keeps frame frameFormed
  refine ⟨formed, result, ?_⟩
  intro step member
  obtain ⟨inner, inside, same⟩ := List.mem_map.mp member
  rw [← same]
  exact steps inner inside

end Tracing

theorem binary_operator_has_title (operator : BinaryOperator) :
    ∃ title, operator.kind.title? = some title := by
  rcases operator with operation | relation | _ | _
  · cases operation <;> exact ⟨_, rfl⟩
  · cases relation <;> exact ⟨_, rfl⟩
  · exact ⟨_, rfl⟩
  · exact ⟨_, rfl⟩

/-- The code of an operator in a tree leads back to it. -/
theorem binary_operator_of_code (operator : BinaryOperator) :
    (Node.operatorOf? (.text operator.kind.code)).bind BinaryOperator.ofKind? = some operator := by
  rcases operator with operation | relation | _ | _
  · cases operation <;> rfl
  · cases relation <;> rfl
  · rfl
  · rfl

/-- Well-formed nodes among which every part of a member is a member. -/
structure ClosedOrigin (origin : Node → Prop) : Prop where
  formed : ∀ node, origin node → node.WellFormed
  parts : ∀ node, origin node → ∀ child ∈ node.children, origin child

namespace Evaluation

variable {origin : Node → Prop}

theorem named_keeps (name : String) (span : Span) :
    (Tracing.silent (named (.text name) span)).Keeps origin (Value.Formed origin) := by
  apply Tracing.keeps_silent (named_still _ span)
  intro start formed
  unfold named Action.andThen Action.look
  dsimp only
  cases bound : start.get? (.text name) with
  | none => exact .stop (issue_is_reported span rfl (by simp))
  | some value => exact .value (Bindings.get_formed formed bound)

theorem item_keeps {value : Value} (span : Span) (formed : value.Formed origin) :
    (Tracing.silent (item value span)).Keeps origin Value.IsNumber := by
  unfold item
  split
  · next scalar => exact Tracing.keeps_give (Value.scalar_is_number formed scalar)
  · exact Tracing.keeps_fail (issue_is_reported span rfl (by simp))

theorem rejected_is_reported (operator : BinaryOperator) (left right : Value) (span : Span) :
    Stop.Reported (.issue ⟨rejected operator left right, span⟩) := by
  obtain ⟨title, titled⟩ := binary_operator_has_title operator
  have required : Fault.requiredTitle operator.kind = .ok title := by
    unfold Fault.requiredTitle
    rw [titled]
  have worded : (Fault.binaryOperands operator.kind left right).detail =
      .ok ("operation " ++ title ++ " cannot be performed on " ++ left.type.kind ++ " and "
        ++ right.type.kind) := by
    unfold Fault.detail
    dsimp only
    rw [required]
    rfl
  have refused := issue_is_reported span worded (by simp)
  unfold rejected
  split
  · exact issue_is_reported span rfl (by simp)
  · exact refused

theorem binary_keeps (operator : BinaryOperator) {left right : Value} (span : Span)
    (leftFormed : left.Formed origin) (rightFormed : right.Formed origin) :
    (Tracing.silent (binary (.text operator.kind.code) left right span)).Keeps origin
      (Value.Formed origin) := by
  have yields := binary_yields operator leftFormed rightFormed
  unfold binary
  rw [binary_operator_of_code]
  dsimp only
  generalize operator.apply left right = result at yields ⊢
  cases yields with
  | value holds => exact Tracing.keeps_give holds
  | operands => exact Tracing.keeps_fail (rejected_is_reported operator left right span)
  | zero => exact Tracing.keeps_fail (rejected_is_reported operator left right span)

theorem unary_keeps {operand : Value} (span : Span) (formed : operand.Formed origin) :
    (Tracing.silent (unary (.text TokenKind.subtract.code) operand span)).Keeps origin
      (Value.Formed origin) := by
  have minus : Node.operatorOf? (.text TokenKind.subtract.code) = some .subtract := rfl
  have refused : Stop.Reported (.issue ⟨.unaryOperand .subtract operand, span⟩) :=
    issue_is_reported span rfl (by simp)
  have yields := negate_yields formed
  unfold unary
  rw [if_pos minus]
  generalize operand.negate = result at yields ⊢
  cases yields with
  | value holds => exact Tracing.keeps_give holds
  | operands => exact Tracing.keeps_fail refused
  | zero => exact Tracing.keeps_fail refused

theorem frame_formed {callee : Node} {function argument : Value} {parameter : Name}
    (calleeFormed : callee.WellFormed) (functionFormed : function.Formed origin)
    (named : parameter.Names) (argumentFormed : argument.Formed origin) :
    (frame callee function parameter argument).Formed origin := by
  unfold frame
  have start := Bindings.empty_formed origin
  split
  · next byName =>
      have name := variable_names calleeFormed byName
      have itself := Bindings.insert_formed start name functionFormed
      exact Bindings.insert_formed itself named argumentFormed
  · exact Bindings.insert_formed start named argumentFormed

theorem trace_enter_keeps {body : Node → Tracing Value} {callee : Node} {function argument : Value}
    (bodyKeeps : ∀ inner, origin inner → (body inner).Keeps origin (Value.Formed origin))
    (calleeFormed : callee.WellFormed) (functionFormed : function.Formed origin)
    (argumentFormed : argument.Formed origin) :
    (enter body callee function argument).Keeps origin (Value.Formed origin) := by
  have refused (value : Value) :
      Stop.Reported (.issue ⟨.illegalValue value ⟨"function", .none⟩, callee.span⟩) :=
    issue_is_reported _ rfl (by simp)
  cases functionFormed with
  | number plain => cases plain <;> exact Tracing.keeps_fail (refused _)
  | vector _ => exact Tracing.keeps_fail (refused _)
  | function named read =>
      have formed := frame_formed calleeFormed (.function named read) ⟨_, rfl, named⟩ argumentFormed
      exact Tracing.keeps_enclosed formed (bodyKeeps _ read)

theorem trace_items_keep {body : Node → Tracing Value} (items : List Node)
    (each : ∀ node ∈ items, ∀ span,
      (evaluateWith body node span).Keeps origin (Value.Formed origin)) :
    (evaluateItems body items).Keeps origin AllNumbers := by
  induction items with
  | nil =>
      rw [evaluateItems]
      exact Tracing.keeps_give (by simp [AllNumbers])
  | cons node others induction =>
      obtain ⟨first, rest⟩ := List.forall_mem_cons.mp each
      rw [evaluateItems]
      apply Tracing.keeps_and_then (first node.span)
      intro value formed
      apply Tracing.keeps_and_then (item_keeps node.span formed)
      intro number plain
      apply Tracing.keeps_and_then (induction rest)
      intro numbers allPlain
      exact Tracing.keeps_give (List.forall_mem_cons.mpr ⟨plain, allPlain⟩)

/-- One tree, if the bodies of the functions it calls keep the invariant. -/
theorem trace_with_keeps {body : Node → Tracing Value} (closed : ClosedOrigin origin)
    (bodyKeeps : ∀ inner, origin inner → (body inner).Keeps origin (Value.Formed origin))
    (node : Node) (read : origin node) (span : Span) :
    (evaluateWith body node span).Keeps origin (Value.Formed origin) := by
  induction node using Node.induction_on_children generalizing span with
  | node whole induction =>
      have formed := closed.formed whole read
      -- Parts of a member are members, so that the hypothesis applies to each of them.
      have parts (child : Node) (member : child ∈ whole.children) (place : Span) :
          (evaluateWith body child place).Keeps origin (Value.Formed origin) :=
        induction child member (closed.parts whole read child member) place
      unfold evaluateWith
      apply Tracing.keeps_visiting read
      cases formed with
      | int small =>
          refine Tracing.keeps_give (.number (.int ?_))
          unfold Word.largest at small
          unfold Word.Fits
          omega
      | float | infinity | pi => exact Tracing.keeps_give (.number .float)
      | name isName => exact named_keeps _ span
      | @vector items _ _ =>
          apply Tracing.keeps_and_then (trace_items_keep items parts)
          intro values plain
          exact Tracing.keeps_give (.vector plain)
      | @binary operator left right _ _ _ _ =>
          apply Tracing.keeps_and_then (parts left (by simp [Node.children]) _)
          intro leftValue leftFormed
          apply Tracing.keeps_and_then (parts right (by simp [Node.children]) _)
          intro rightValue rightFormed
          exact binary_keeps operator span leftFormed rightFormed
      | @unary operand _ _ =>
          apply Tracing.keeps_and_then (parts operand (by simp [Node.children]) _)
          intro value valueFormed
          exact unary_keeps span valueFormed
      | @assign target value _ bindable first _ =>
          rcases target_cases first bindable with
            ⟨_, name, found, named⟩ | ⟨_, part, found⟩ | ⟨_, name, parameter, found, named, taken⟩
          · simp only [found]
            apply Tracing.keeps_and_then (parts value (by simp [Node.children]) _)
            intro result resultFormed
            apply Tracing.keeps_and_then (Tracing.keeps_bind named resultFormed)
            intro _ _
            exact Tracing.keeps_give resultFormed
          · simp only [found]
            exact Tracing.keeps_fail (expect_variable_is_reported part)
          · simp only [found]
            obtain ⟨text, same, isName⟩ := taken
            subst same
            -- The body is not evaluated here, but it is a part and may be called later.
            have body := closed.parts _ read value (by simp [Node.children])
            have function : Value.Formed origin (.function (.text text) value) :=
              .function isName body
            apply Tracing.keeps_and_then (Tracing.keeps_bind named function)
            intro _ _
            exact Tracing.keeps_give function
      | @call callee argument _ first _ =>
          apply Tracing.keeps_and_then (parts argument (by simp [Node.children]) _)
          intro argumentValue argumentFormed
          apply Tracing.keeps_and_then (parts callee (by simp [Node.children]) _)
          intro function functionFormed
          exact trace_enter_keeps bodyKeeps first functionFormed argumentFormed

theorem trace_keeps (closed : ClosedOrigin origin) (depth : Nat) (node : Node)
    (read : origin node) (span : Span) :
    (trace depth node span).Keeps origin (Value.Formed origin) := by
  induction depth generalizing node span with
  | zero =>
      unfold trace
      apply trace_with_keeps closed ?_ node read span
      intro _ _
      exact Tracing.keeps_fail .tooDeep
  | succ depth induction =>
      unfold trace
      apply trace_with_keeps closed ?_ node read span
      intro inner innerRead
      exact induction inner innerRead inner.span

end Evaluation

end VectorCalc

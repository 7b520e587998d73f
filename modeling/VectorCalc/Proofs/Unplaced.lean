import Mathlib.Tactic.SplitIfs
import VectorCalc.Proofs.Trace

/-!
Evaluation without spans. Spans stand in trees, in the function bodies that are bound to names and
in what is said about a failure, and evaluation only ever copies them from one of these to another.
So leaving them all out beforehand comes to the same as leaving them out of what is there
afterwards. Two evaluations that differ in nothing but spans are then compared with the one that has
none.
-/
namespace VectorCalc

set_option autoImplicit false

namespace Node

mutual

def unplaced : Node → Node
  | mk kind payload children _ => mk kind payload (allUnplaced children) {}

def allUnplaced : List Node → List Node
  | [] => []
  | node :: others => unplaced node :: allUnplaced others

end

@[simp] theorem kind_unplaced (node : Node) : node.unplaced.kind = node.kind := by
  cases node
  rfl

@[simp] theorem payload_unplaced (node : Node) : node.unplaced.payload = node.payload := by
  cases node
  rfl

@[simp] theorem span_unplaced (node : Node) : node.unplaced.span = {} := by
  cases node
  rfl

theorem all_unplaced_eq_map (nodes : List Node) : allUnplaced nodes = nodes.map unplaced := by
  induction nodes with
  | nil => rfl
  | cons node others induction => rw [allUnplaced, induction, List.map_cons]

@[simp] theorem parts_unplaced (parts : List Node) :
    Breakdown.ofParts (allUnplaced parts) = Breakdown.ofParts parts := by
  unfold Breakdown.ofParts
  rw [all_unplaced_eq_map, List.length_map]

end Node

namespace Value

mutual

def unplaced : Value → Value
  | .int value => .int value
  | .float value => .float value
  | .vector items => .vector (allUnplaced items)
  | .function parameter body => .function parameter body.unplaced
  | .mislabelled type content => .mislabelled type content

def allUnplaced : List Value → List Value
  | [] => []
  | value :: others => unplaced value :: allUnplaced others

end

@[simp] theorem number_unplaced (value : Value) : value.unplaced.number? = value.number? := by
  cases value <;> rfl

@[simp] theorem type_unplaced (value : Value) : value.unplaced.type = value.type := by
  cases value <;> rfl

@[simp] theorem scalar_unplaced (value : Value) : value.unplaced.isScalar = value.isScalar := by
  cases value <;> rfl

theorem all_unplaced_eq_map (values : List Value) : allUnplaced values = values.map unplaced := by
  induction values with
  | nil => rfl
  | cons value others induction => rw [allUnplaced, induction, List.map_cons]

@[simp] theorem literal_unplaced (type : NumberType) (content : Payload) :
    (literal type content).unplaced = literal type content := by
  unfold literal
  split <;> rfl

end Value

def withoutSpans (result : Except Rejection Value) : Except Rejection Value :=
  result.map Value.unplaced

theorem first_and_rest_unplaced (first : Except Rejection Value)
    (rest : Except Rejection (List Value)) :
    (match withoutSpans first with
      | .error rejection => Except.error rejection
      | .ok item =>
          match rest.map Value.allUnplaced with
          | .error rejection => .error rejection
          | .ok items => .ok (item :: items)) =
      Except.map Value.allUnplaced (match first with
      | .error rejection => .error rejection
      | .ok item =>
          match rest with
          | .error rejection => .error rejection
          | .ok items => .ok (item :: items)) := by
  cases first with
  | error rejection => rfl
  | ok item => cases rest <;> rfl

theorem vector_unplaced (results : Except Rejection (List Value)) :
    (match results.map Value.allUnplaced with
      | .ok items => .ok (.vector items)
      | .error rejection => .error rejection) =
      withoutSpans (match results with
      | .ok items => .ok (.vector items)
      | .error rejection => .error rejection) := by
  cases results <;> rfl

namespace Arithmetic

-- An operator on two numbers gives a number, in which there are no spans to leave out.

theorem on_floats_unplaced (operation : Arithmetic) (left right : Float) :
    withoutSpans (operation.onFloats left right) = operation.onFloats left right := by
  cases operation with
  | modulo =>
      simp only [onFloats]
      split <;> rfl
  | _ => rfl

theorem on_doubles_unplaced (operation : Arithmetic) (left right : Payload) :
    withoutSpans (operation.onDoubles left right) = operation.onDoubles left right := by
  unfold onDoubles
  cases left.toDouble with
  | error rejection => rfl
  | ok leftNumber =>
      cases right.toDouble with
      | error rejection => rfl
      | ok rightNumber => exact operation.on_floats_unplaced leftNumber rightNumber

theorem on_integers_unplaced (operation : Arithmetic) (left right : Int) :
    withoutSpans (operation.onIntegers left right) = operation.onIntegers left right := by
  cases operation with
  | divide => exact on_doubles_unplaced .divide _ _
  | power =>
      simp only [onIntegers]
      split
      · exact on_doubles_unplaced .power _ _
      · rfl
  | modulo =>
      simp only [onIntegers]
      split <;> rfl
  | _ => rfl

theorem relabelled_unplaced {result : Except Rejection Value}
    (plain : withoutSpans result = result) :
    withoutSpans (relabelled result) = relabelled result := by
  unfold relabelled
  split
  · simp [withoutSpans, Except.map]
  · exact plain

theorem combine_unplaced (operation : Arithmetic) (left right : Payload) :
    withoutSpans (operation.combine left right) = operation.combine left right := by
  unfold combine
  split
  · exact operation.on_integers_unplaced _ _
  · split
    · rfl
    · split
      · exact relabelled_unplaced (operation.on_doubles_unplaced left right)
      · rfl

theorem on_contents_unplaced (operation : Arithmetic) (left right : Payload) :
    withoutSpans (operation.onContents left right) = operation.onContents left right := by
  cases operation with
  | divide => exact on_doubles_unplaced .divide left right
  | power =>
      simp only [onContents]
      split
      · rfl
      · split
        · unfold wholePower
          split <;> rfl
        · exact on_doubles_unplaced .power left right
  | add => exact combine_unplaced .add left right
  | subtract => exact combine_unplaced .subtract left right
  | multiply => exact combine_unplaced .multiply left right
  | modulo => exact combine_unplaced .modulo left right

theorem on_numbers_unplaced (operation : Arithmetic) (left right : Value) :
    operation.onNumbers left.unplaced right.unplaced =
      withoutSpans (operation.onNumbers left right) := by
  unfold onNumbers
  rw [Value.number_unplaced, Value.number_unplaced]
  split
  · exact (operation.on_contents_unplaced _ _).symm
  · exact (operation.on_doubles_unplaced _ _).symm
  · rfl

theorem on_scalars_unplaced (operation : Arithmetic) (left right : Value) :
    operation.onScalars left.unplaced right.unplaced =
      withoutSpans (operation.onScalars left right) := by
  have onNumbers := operation.on_numbers_unplaced left right
  cases left with
  | int left =>
      cases right with
      | int right => exact (operation.on_integers_unplaced left right).symm
      | _ => exact onNumbers
  | float left =>
      cases right with
      | float right =>
          simp only [Value.unplaced, onScalars]
          split
          · rfl
          · exact (operation.on_floats_unplaced left right).symm
      | _ => exact onNumbers
  | _ => exact onNumbers

theorem apply_to_each (operation : Arithmetic) (items : List Value) {right : Value}
    (scalar : right.isScalar = true) :
    operation.apply (.vector items) right =
      match operation.applyEach items right with
      | .ok results => .ok (.vector results)
      | .error rejection => .error rejection := by
  cases right with
  | vector others => cases scalar
  | function parameter body => cases scalar
  | _ => rfl

mutual

theorem apply_unplaced (operation : Arithmetic) (left right : Value) :
    operation.apply left.unplaced right.unplaced = withoutSpans (operation.apply left right) := by
  have onScalars := operation.on_scalars_unplaced left right
  cases left with
  | vector items =>
      by_cases scalar : right.isScalar = true
      · have otherScalar : right.unplaced.isScalar = true := by rw [Value.scalar_unplaced, scalar]
        rw [Value.unplaced, apply_to_each operation items scalar,
          apply_to_each operation _ otherScalar, apply_each_unplaced operation items right]
        exact vector_unplaced _
      · cases right with
        | vector others =>
            simp only [Value.unplaced, apply]
            rw [apply_pairwise_unplaced operation items others]
            exact vector_unplaced _
        | function parameter body => rfl
        | _ => exact absurd rfl scalar
  | _ => exact onScalars

theorem apply_each_unplaced (operation : Arithmetic) (items : List Value) (right : Value) :
    operation.applyEach (Value.allUnplaced items) right.unplaced =
      (operation.applyEach items right).map Value.allUnplaced := by
  match items with
  | [] => rfl
  | item :: items =>
      simp only [Value.allUnplaced, applyEach]
      rw [apply_unplaced operation item right, apply_each_unplaced operation items right]
      exact first_and_rest_unplaced _ _

theorem apply_pairwise_unplaced (operation : Arithmetic) (items others : List Value) :
    operation.applyPairwise (Value.allUnplaced items) (Value.allUnplaced others) =
      (operation.applyPairwise items others).map Value.allUnplaced := by
  match items, others with
  | [], _ => rfl
  | _ :: _, [] => rfl
  | item :: items, other :: others =>
      simp only [Value.allUnplaced, applyPairwise]
      rw [apply_unplaced operation item other, apply_pairwise_unplaced operation items others]
      exact first_and_rest_unplaced _ _

end

end Arithmetic

namespace Comparison

theorem on_scalars_unplaced (relation : Comparison) (left right : Value) :
    relation.onScalars left.unplaced right.unplaced = relation.onScalars left right := by
  have onNumbers : relation.onNumbers left.unplaced right.unplaced =
      relation.onNumbers left right := by
    unfold onNumbers
    rw [Value.number_unplaced, Value.number_unplaced]
  cases left with
  | int left => cases right <;> rfl
  | float left => cases right <;> rfl
  | _ => exact onNumbers

mutual

theorem test_unplaced (relation : Comparison) (left right : Value) :
    relation.test left.unplaced right.unplaced = relation.test left right := by
  have onScalars := relation.on_scalars_unplaced left right
  cases left with
  | vector items =>
      cases right with
      | vector others =>
          have lengths : relation.settledByLength (Value.allUnplaced items)
              (Value.allUnplaced others) = relation.settledByLength items others := by
            unfold settledByLength
            rw [Value.all_unplaced_eq_map, Value.all_unplaced_eq_map, List.length_map,
              List.length_map]
          simp only [Value.unplaced, test]
          rw [lengths, test_all_unplaced relation.onItems items others]
      | _ => exact onScalars
  | _ => exact onScalars

theorem test_all_unplaced (relation : Comparison) (items others : List Value) :
    relation.testAll (Value.allUnplaced items) (Value.allUnplaced others) =
      relation.testAll items others := by
  match items, others with
  | [], _ => rfl
  | _ :: _, [] => rfl
  | item :: items, other :: others =>
      simp only [Value.allUnplaced, testAll]
      rw [test_unplaced relation item other, test_all_unplaced relation items others]

end

end Comparison

theorem Value.item_unplaced (vector position : Value) :
    vector.unplaced.item position.unplaced = withoutSpans (vector.item position) := by
  cases vector with
  | vector items =>
      simp only [Value.item, Value.unplaced, Value.number_unplaced]
      rcases position.number? with _ | ⟨_ | _, content⟩
      · rfl
      · simp only [Value.all_unplaced_eq_map, List.length_map, List.getElem?_map]
        cases content.position items.length with
        | error rejection => rfl
        | ok index =>
            dsimp only
            cases items[index]? <;> rfl
      · rfl
  | _ => rfl

theorem BinaryOperator.apply_unplaced (operator : BinaryOperator) (left right : Value) :
    operator.apply left.unplaced right.unplaced = withoutSpans (operator.apply left right) := by
  cases operator with
  | arithmetic operation => exact operation.apply_unplaced left right
  | comparison relation =>
      simp only [BinaryOperator.apply, relation.test_unplaced left right]
      cases relation.test left right <;> rfl
  | index => exact left.item_unplaced right
  | sameType =>
      simp only [BinaryOperator.apply, Value.type_unplaced]
      rfl

mutual

theorem Value.negate_unplaced (value : Value) :
    value.unplaced.negate = withoutSpans value.negate := by
  cases value with
  | vector items =>
      simp only [Value.unplaced, Value.negate]
      rw [Value.negate_all_unplaced items]
      exact vector_unplaced _
  | mislabelled type content =>
      simp only [Value.unplaced, Value.negate]
      unfold Payload.negate
      split <;> simp [withoutSpans, Except.map, Value.unplaced]
  | _ => rfl

theorem Value.negate_all_unplaced (items : List Value) :
    Value.negateAll (Value.allUnplaced items) =
      (Value.negateAll items).map Value.allUnplaced := by
  match items with
  | [] => rfl
  | item :: items =>
      simp only [Value.allUnplaced, Value.negateAll]
      rw [Value.negate_unplaced item, Value.negate_all_unplaced items]
      exact first_and_rest_unplaced _ _

end

namespace Bindings

def unplaced (bindings : Bindings) : Bindings :=
  ⟨bindings.entries.map fun entry => (entry.1, entry.2.unplaced)⟩

@[simp] theorem get_unplaced (bindings : Bindings) (name : Name) :
    bindings.unplaced.get? name = (bindings.get? name).map Value.unplaced := by
  unfold unplaced get?
  rw [List.find?_map, Option.map_map, Option.map_map]
  rfl

theorem insert_into_unplaced (name : Name) (value : Value) (entries : List (Name × Value)) :
    insertInto name value.unplaced (entries.map fun entry => (entry.1, entry.2.unplaced)) =
      (insertInto name value entries).map fun entry => (entry.1, entry.2.unplaced) := by
  induction entries with
  | nil => rfl
  | cons entry entries induction =>
      obtain ⟨other, old⟩ := entry
      simp only [List.map_cons, insertInto]
      split
      · rfl
      · rw [induction, List.map_cons]

@[simp] theorem insert_unplaced (bindings : Bindings) (name : Name) (value : Value) :
    (bindings.insert name value).unplaced = bindings.unplaced.insert name value.unplaced :=
  congrArg Bindings.mk (insert_into_unplaced name value bindings.entries).symm

end Bindings

def Token.unplaced (token : Token) : Token :=
  { token with span := {} }

namespace Fault

def unplaced : Fault → Fault
  | .expectedToken expected found => .expectedToken expected found.unplaced
  | .expectedNode expected found => .expectedNode expected found.unplaced
  | .unexpectedToken found => .unexpectedToken found.unplaced
  | .binaryOperands operator left right => .binaryOperands operator left.unplaced right.unplaced
  | .unaryOperand operator operand => .unaryOperand operator operand.unplaced
  | .illegalValue value required => .illegalValue value.unplaced required
  | fault => fault

theorem title_unplaced (fault : Fault) : fault.unplaced.title = fault.title := by
  cases fault <;> rfl

/-- No span is worded. -/
theorem detail_unplaced (fault : Fault) : fault.unplaced.detail = fault.detail := by
  cases fault <;> simp only [unplaced, detail, Value.type_unplaced, Node.kind_unplaced] <;> rfl

end Fault

def Stop.unplaced : Stop → Stop
  | .issue found => .issue ⟨found.fault.unplaced, {}⟩
  | .broken breakdown => .broken breakdown

theorem expect_variable_unplaced (node : Node) :
    node.unplaced.expectVariable = node.expectVariable.unplaced := by
  unfold Node.expectVariable
  rw [Node.span_unplaced]
  rfl

theorem target_unplaced (node : Node) :
    Target.ofNode node.unplaced = (Target.ofNode node).mapError Stop.unplaced := by
  obtain ⟨kind, payload, children, span⟩ := node
  cases kind with
  | call =>
      rcases children with _ | ⟨name, _ | ⟨parameter, _ | ⟨other, others⟩⟩⟩
      · rfl
      · rfl
      · change (if name.unplaced.kind ≠ .variable then .error name.unplaced.expectVariable
          else if parameter.unplaced.kind ≠ .variable then
            .error parameter.unplaced.expectVariable
          else Except.ok (Target.function name.unplaced.payload parameter.unplaced.payload)) =
            Except.mapError Stop.unplaced (if name.kind ≠ .variable then .error name.expectVariable
              else if parameter.kind ≠ .variable then .error parameter.expectVariable
              else .ok (.function name.payload parameter.payload))
        simp only [Node.kind_unplaced, Node.payload_unplaced, expect_variable_unplaced]
        split_ifs <;> rfl
      · exact congrArg (fun breakdown => Except.error (Stop.broken breakdown))
          (Node.parts_unplaced (name :: parameter :: other :: others))
  | _ => rfl

def unplacedResult {α : Type} (erase : α → α) : Except Stop α → Except Stop α
  | .ok value => .ok (erase value)
  | .error stop => .error stop.unplaced

namespace Action

variable {α β : Type}

/-- From bindings without spans the second step does what the first one does from the same bindings
with their spans, and the spans are left out of everything it leaves. -/
structure Unplaces (erase : α → α) (action other : Action α) : Prop where
  result : ∀ start, (other start.unplaced).result = unplacedResult erase (action start).result
  bindings : ∀ start, (other start.unplaced).bindings = (action start).bindings.unplaced

theorem unplaces_give (erase : α → α) (value : α) :
    (give value).Unplaces erase (give (erase value)) :=
  ⟨fun _ => rfl, fun _ => rfl⟩

theorem unplaces_fail (erase : α → α) (stop : Stop) :
    (fail stop).Unplaces erase (fail stop.unplaced) :=
  ⟨fun _ => rfl, fun _ => rfl⟩

theorem unplaces_report (erase : α → α) (fault : Fault) (span : Span) :
    (report fault span).Unplaces erase (report fault.unplaced {}) :=
  unplaces_fail erase _

theorem unplaces_look (name : Name) :
    (look name).Unplaces (Option.map Value.unplaced) (look name) :=
  ⟨fun start => congrArg Except.ok (start.get_unplaced name), fun _ => rfl⟩

theorem unplaces_bind (name : Name) (value : Value) :
    (bind name value).Unplaces id (bind name value.unplaced) :=
  ⟨fun _ => rfl, fun start => (start.insert_unplaced name value).symm⟩

theorem unplaces_and_then {erase : α → α} {eraseNext : β → β} {first other : Action α}
    {next otherNext : α → Action β} (firstUnplaces : first.Unplaces erase other)
    (nextUnplaces : ∀ value, (next value).Unplaces eraseNext (otherNext (erase value))) :
    (first.andThen next).Unplaces eraseNext (other.andThen otherNext) := by
  have ends (start : Bindings) :
      ((other.andThen otherNext) start.unplaced).result =
          unplacedResult eraseNext ((first.andThen next) start).result ∧
        ((other.andThen otherNext) start.unplaced).bindings =
          ((first.andThen next) start).bindings.unplaced := by
    have result := firstUnplaces.result start
    have bindings := firstUnplaces.bindings start
    unfold andThen
    cases ended : (first start).result with
    | error stop =>
        rw [ended] at result
        simp only [ended, result, unplacedResult, bindings, and_self]
    | ok value =>
        rw [ended] at result
        have after := nextUnplaces value
        simp only [ended, result, unplacedResult, bindings, after.result, after.bindings, and_self]
  exact ⟨fun start => (ends start).1, fun start => (ends start).2⟩

theorem unplaces_enclosed (call otherCall : Call) (frame : Bindings) {body other : Action Value}
    (unplaces : body.Unplaces Value.unplaced other) :
    (enclosed call frame body).Unplaces Value.unplaced
      (enclosed otherCall frame.unplaced other) :=
  ⟨fun _ => unplaces.result frame, fun _ => rfl⟩

end Action

namespace Evaluation

theorem named_unplaces (name : Name) (span : Span) :
    (named name span).Unplaces Value.unplaced (named name {}) := by
  apply Action.unplaces_and_then (Action.unplaces_look name)
  intro bound
  cases bound with
  | none => exact Action.unplaces_report _ _ span
  | some value => exact Action.unplaces_give _ value

theorem item_unplaces (value : Value) (span : Span) :
    (item value span).Unplaces Value.unplaced (item value.unplaced {}) := by
  unfold item
  rw [Value.scalar_unplaced]
  split
  · exact Action.unplaces_give _ value
  · exact Action.unplaces_report _ _ span

theorem rejected_unplaced (operator : BinaryOperator) (left right : Value) :
    rejected operator left.unplaced right.unplaced = (rejected operator left right).unplaced := by
  cases operator with
  | index =>
      cases left with
      | vector items =>
          simp only [rejected, Value.unplaced, Value.number_unplaced]
          rcases right.number? with _ | ⟨_ | _, position⟩
          · rfl
          · simp only [Value.all_unplaced_eq_map, List.length_map]
            rfl
          · rfl
      | _ => rfl
  | _ => rfl

theorem binary_unplaces (payload : Payload) (left right : Value) (span : Span) :
    (binary payload left right span).Unplaces Value.unplaced
      (binary payload left.unplaced right.unplaced {}) := by
  unfold binary
  split
  · exact Action.unplaces_report _ _ span
  · next operator _ =>
      rw [operator.apply_unplaced, rejected_unplaced]
      rcases operator.apply left right with (_ | _ | breakdown) | value
      · exact Action.unplaces_report _ _ span
      · exact Action.unplaces_report _ _ span
      · exact Action.unplaces_fail _ (.broken breakdown)
      · exact Action.unplaces_give _ value

theorem unary_unplaces (payload : Payload) (operand : Value) (span : Span) :
    (unary payload operand span).Unplaces Value.unplaced
      (unary payload operand.unplaced {}) := by
  unfold unary
  split
  · rw [operand.negate_unplaced]
    rcases operand.negate with (_ | _ | breakdown) | value
    · exact Action.unplaces_report _ _ span
    · exact Action.unplaces_report _ _ span
    · exact Action.unplaces_fail _ (.broken breakdown)
    · exact Action.unplaces_give _ value
  · exact Action.unplaces_report _ _ span

theorem frame_unplaced (callee : Node) (function : Value) (parameter : Name) (argument : Value) :
    frame callee.unplaced function.unplaced parameter argument.unplaced =
      (frame callee function parameter argument).unplaced := by
  unfold frame
  rw [Node.kind_unplaced, Node.payload_unplaced]
  split
  · rw [Bindings.insert_unplaced, Bindings.insert_unplaced]
    rfl
  · rw [Bindings.insert_unplaced]
    rfl

def BodyUnplaces (body : Node → Action Value) : Prop :=
  ∀ inner, (body inner).Unplaces Value.unplaced (body inner.unplaced)

variable {body : Node → Action Value}

theorem enter_unplaces (inside : BodyUnplaces body) (callee : Node) (function argument : Value) :
    (enter body callee function argument).Unplaces Value.unplaced
      (enter body callee.unplaced function.unplaced argument.unplaced) := by
  have refused (value : Value) :
      (Action.report (.illegalValue value ⟨"function", .none⟩) callee.span).Unplaces Value.unplaced
        (.report (.illegalValue value.unplaced ⟨"function", .none⟩) callee.unplaced.span) := by
    rw [Node.span_unplaced]
    exact Action.unplaces_report _ _ callee.span
  cases function with
  | function parameter inner =>
      have frames := frame_unplaced callee (.function parameter inner) parameter argument
      have entered := Action.unplaces_enclosed ⟨callee, parameter, argument⟩
        ⟨callee.unplaced, parameter, argument.unplaced⟩
        (frame callee (.function parameter inner) parameter argument) (inside inner)
      rw [← frames] at entered
      exact entered
  | _ => exact refused _

theorem evaluate_items_unplaces (items : List Node)
    (each : ∀ node ∈ items, ∀ span,
      (evaluateWith body node span).Unplaces Value.unplaced
        (evaluateWith body node.unplaced {})) :
    (evaluateItems body items).Unplaces Value.allUnplaced
      (evaluateItems body (Node.allUnplaced items)) := by
  induction items with
  | nil =>
      rw [Node.allUnplaced, evaluateItems]
      exact Action.unplaces_give _ []
  | cons node others induction =>
      obtain ⟨first, rest⟩ := List.forall_mem_cons.mp each
      rw [Node.allUnplaced, evaluateItems, evaluateItems, Node.span_unplaced]
      apply Action.unplaces_and_then (first node.span)
      intro value
      apply Action.unplaces_and_then (item_unplaces value node.span)
      intro item
      apply Action.unplaces_and_then (induction rest)
      intro items
      exact Action.unplaces_give _ (item :: items)

/-- A node that takes two parts breaks down when it has any other number of them. -/
theorem evaluate_misfit (body : Node → Action Value) {kind : NodeKind}
    (paired : kind ∈ [.binary, .assign, .call]) (payload : Payload) {parts : List Node}
    (misfit : ∀ left right, parts ≠ [left, right]) (here span : Span) :
    evaluateWith body (.mk kind payload parts here) span =
      .fail (.broken (.ofParts parts)) := by
  simp only [List.mem_cons, List.not_mem_nil, or_false] at paired
  rcases parts with _ | ⟨first, _ | ⟨second, _ | ⟨third, others⟩⟩⟩
  · rcases paired with rfl | rfl | rfl <;> simp only [evaluateWith] <;> rfl
  · rcases paired with rfl | rfl | rfl <;> simp only [evaluateWith] <;> rfl
  · exact absurd rfl (misfit first second)
  · rcases paired with rfl | rfl | rfl <;> simp only [evaluateWith] <;> rfl

theorem evaluate_pair_unplaces {kind : NodeKind} (paired : kind ∈ [.binary, .assign, .call])
    {payload : Payload} {parts : List Node} {here span : Span}
    (fits : ∀ left right, parts = [left, right] →
      (evaluateWith body (.mk kind payload [left, right] here) span).Unplaces Value.unplaced
        (evaluateWith body (.mk kind payload [left.unplaced, right.unplaced] {}) {})) :
    (evaluateWith body (.mk kind payload parts here) span).Unplaces Value.unplaced
      (evaluateWith body (.mk kind payload (Node.allUnplaced parts) {}) {}) := by
  by_cases two : ∃ left right, parts = [left, right]
  · obtain ⟨left, right, same⟩ := two
    rw [same]
    exact fits left right same
  · have misfit (left right : Node) : parts ≠ [left, right] := fun same => two ⟨left, right, same⟩
    have otherMisfit (left right : Node) : Node.allUnplaced parts ≠ [left, right] := by
      intro same
      rw [Node.all_unplaced_eq_map, List.map_eq_cons_iff] at same
      obtain ⟨first, others, shape, _, rest⟩ := same
      obtain ⟨second, more, otherShape, _, none⟩ := List.map_eq_cons_iff.mp rest
      rw [List.map_eq_nil_iff.mp none] at otherShape
      exact misfit first second (by rw [shape, otherShape])
    rw [evaluate_misfit body paired payload misfit, evaluate_misfit body paired payload otherMisfit,
      Node.parts_unplaced]
    exact Action.unplaces_fail _ (.broken _)

theorem evaluate_with_unplaces (inside : BodyUnplaces body) (node : Node) (span : Span) :
    (evaluateWith body node span).Unplaces Value.unplaced
      (evaluateWith body node.unplaced {}) := by
  induction node using Node.induction_on_children generalizing span with
  | node whole induction =>
      obtain ⟨kind, payload, children, here⟩ := whole
      rw [Node.unplaced]
      by_cases named : kind = .variable
      · subst named
        simp only [evaluateWith]
        exact named_unplaces payload span
      · cases kind with
        | int =>
            simp only [evaluateWith]
            have same := Action.unplaces_give Value.unplaced (.literal .int payload)
            rwa [Value.literal_unplaced] at same
        | float =>
            simp only [evaluateWith]
            have same := Action.unplaces_give Value.unplaced (.literal .float payload)
            rwa [Value.literal_unplaced] at same
        | infinity =>
            simp only [evaluateWith]
            exact Action.unplaces_give Value.unplaced (.float Decimal.positiveInfinity)
        | pi =>
            simp only [evaluateWith]
            exact Action.unplaces_give Value.unplaced (.float circleConstant)
        | vector =>
            simp only [evaluateWith]
            apply Action.unplaces_and_then (evaluate_items_unplaces children induction)
            intro values
            exact Action.unplaces_give Value.unplaced (.vector values)
        | binary =>
            apply evaluate_pair_unplaces (by simp)
            rintro left right rfl
            simp only [evaluateWith, Node.span_unplaced]
            apply Action.unplaces_and_then (induction left (by simp [Node.children]) _)
            intro leftValue
            apply Action.unplaces_and_then (induction right (by simp [Node.children]) _)
            intro rightValue
            exact binary_unplaces payload leftValue rightValue span
        | unary =>
            cases children with
            | nil =>
                simp only [Node.allUnplaced, evaluateWith]
                exact Action.unplaces_fail _ (.broken .noOperand)
            | cons operand others =>
                simp only [Node.allUnplaced, evaluateWith, Node.span_unplaced]
                apply Action.unplaces_and_then (induction operand (by simp [Node.children]) _)
                intro value
                exact unary_unplaces payload value span
        | assign =>
            apply evaluate_pair_unplaces (by simp)
            rintro target value rfl
            simp only [evaluateWith, Node.span_unplaced, target_unplaced]
            rcases Target.ofNode target with stop | name | ⟨name, parameter⟩
            · exact Action.unplaces_fail _ stop
            · apply Action.unplaces_and_then (induction value (by simp [Node.children]) _)
              intro result
              apply Action.unplaces_and_then (Action.unplaces_bind name result)
              intro _
              exact Action.unplaces_give Value.unplaced result
            · apply Action.unplaces_and_then
                (Action.unplaces_bind name (.function parameter value))
              intro _
              exact Action.unplaces_give Value.unplaced (.function parameter value)
        | call =>
            apply evaluate_pair_unplaces (by simp)
            rintro callee argument rfl
            simp only [evaluateWith, Node.span_unplaced]
            apply Action.unplaces_and_then (induction argument (by simp [Node.children]) _)
            intro argumentValue
            apply Action.unplaces_and_then (induction callee (by simp [Node.children]) _)
            intro function
            exact enter_unplaces inside callee function argumentValue
        | other code =>
            simp only [evaluateWith]
            exact Action.unplaces_report _ _ span
        | _ => exact absurd rfl named

theorem evaluate_unplaces (depth : Nat) (node : Node) (span : Span) :
    (evaluate depth node span).Unplaces Value.unplaced (evaluate depth node.unplaced {}) := by
  induction depth generalizing node span with
  | zero =>
      apply evaluate_with_unplaces
      intro inner
      exact Action.unplaces_fail _ (.broken .tooDeep)
  | succ depth induction =>
      apply evaluate_with_unplaces
      intro inner
      simp only [Node.span_unplaced]
      exact induction inner inner.span

end Evaluation

/-- Diagnostics of one class that are worded alike, whatever labels and places they give. -/
structure Diagnostic.Alike (first second : Diagnostic) : Prop where
  title : first.fault.title = second.fault.title
  detail : first.fault.detail = second.fault.detail

/-- Issues that differ only in spans make diagnostics that differ only in labels and places. -/
theorem labelled_alike {first second : Issue}
    (same : first.fault.unplaced = second.fault.unplaced) (label other : String) :
    (first.labelled label).Alike (second.labelled other) where
  title := by
    have titles := congrArg Fault.title same
    rwa [Fault.title_unplaced, Fault.title_unplaced] at titles
  detail := by
    have details := congrArg Fault.detail same
    rwa [Fault.detail_unplaced, Fault.detail_unplaced] at details

/-- Two evaluations end alike: in values that differ only in the spans inside function bodies, in
diagnostics that are alike under all labels, or in the same breakdown. -/
inductive EndAlike : Except Stop Value → Except Stop Value → Prop where
  | values {first second : Value} (same : first.unplaced = second.unplaced) :
      EndAlike (.ok first) (.ok second)
  | issues {first second : Issue}
      (alike : ∀ label other, (first.labelled label).Alike (second.labelled other)) :
      EndAlike (.error (.issue first)) (.error (.issue second))
  | broken (breakdown : Breakdown) :
      EndAlike (.error (.broken breakdown)) (.error (.broken breakdown))

theorem end_alike {first second : Except Stop Value}
    (same : unplacedResult Value.unplaced first = unplacedResult Value.unplaced second) :
    EndAlike first second := by
  rcases first with (issue | breakdown) | value
  · rcases second with (other | breakdown) | value
    · simp only [unplacedResult, Stop.unplaced, Except.error.injEq, Stop.issue.injEq,
        Issue.mk.injEq, and_true] at same
      exact .issues (labelled_alike same)
    · cases same
    · cases same
  · rcases second with (other | other) | value
    · cases same
    · cases same
      exact .broken breakdown
    · cases same
  · rcases second with (other | breakdown) | other
    · cases same
    · cases same
    · exact .values (Except.ok.inj same)

theorem evaluate_alike (depth : Nat) {first second : Node}
    (trees : first.unplaced = second.unplaced) {start other : Bindings}
    (bindings : start.unplaced = other.unplaced) (span otherSpan : Span) :
    EndAlike (Evaluation.evaluate depth first span start).result
        (Evaluation.evaluate depth second otherSpan other).result ∧
      (Evaluation.evaluate depth first span start).bindings.unplaced =
        (Evaluation.evaluate depth second otherSpan other).bindings.unplaced := by
  have left := Evaluation.evaluate_unplaces depth first span
  have right := Evaluation.evaluate_unplaces depth second otherSpan
  rw [← trees] at right
  constructor
  · apply end_alike
    rw [← left.result, ← right.result, bindings]
  · rw [← left.bindings, ← right.bindings, bindings]

end VectorCalc

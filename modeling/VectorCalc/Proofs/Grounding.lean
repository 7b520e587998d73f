import VectorCalc.Proofs.Comparisons
import VectorCalc.Proofs.Preservation

/-!
What evaluation can end in and what it points at. Trees are taken from a set of well-formed nodes
that holds the parts of its members. From bindings whose functions have their bodies in that set,
evaluation ends in a value, in one of a few issues about the span of a node of the set, or because
calls are nested too deep, and it leaves such bindings behind. Values are taken as generally as
operators accept them: vectors may be nested to any depth and hold functions, although no text
evaluates to such a vector.
-/
namespace VectorCalc

set_option autoImplicit false

namespace Value

/-- A number of 64 bits, a vector of grounded values, or a function whose body satisfies
`origin`. -/
inductive Grounded (origin : Node → Prop) : Value → Prop where
  | number {value : Value} (plain : value.IsNumber) : Grounded origin value
  | vector {items : List Value} (inner : ∀ item ∈ items, Grounded origin item) :
      Grounded origin (.vector items)
  | function {parameter : Payload} {body : Node} (read : origin body) :
      Grounded origin (.function parameter body)

variable {origin : Node → Prop}

theorem Grounded.proper {value : Value} (grounded : value.Grounded origin) : value.Proper := by
  induction grounded with
  | number plain => exact .number plain
  | vector _ induction => exact .vector induction
  | function _ => exact .function

theorem partners_grounded {items : List Value} {right : Value} {pair : Value × Value}
    (rightGrounded : right.Grounded origin) (member : pair ∈ partners items right) :
    pair.1 ∈ items ∧ pair.2.Grounded origin := by
  cases right with
  | vector others =>
      have both := List.of_mem_zip member
      refine ⟨both.1, ?_⟩
      cases rightGrounded with
      | number plain => cases plain
      | vector inner => exact inner pair.2 both.2
  | _ =>
      obtain ⟨item, inside, same⟩ := List.mem_map.mp member
      rw [← same]
      exact ⟨inside, rightGrounded⟩

theorem negate_all_eq (items : List Value) : negateAll items = items.mapM negate := by
  induction items with
  | nil => rw [negateAll]; rfl
  | cons item items induction =>
      rw [negateAll, List.mapM_cons, induction]
      cases item.negate with
      | error rejection => rfl
      | ok first => cases items.mapM negate <;> rfl

end Value

section Operators

variable {origin : Node → Prop}

theorem map_results_yield {α : Type} {operate : α → Except Rejection Value} (operands : List α)
    (each : ∀ operand ∈ operands, Yields (Value.Grounded origin) (operate operand)) :
    Yields (Value.Grounded origin) ((operands.mapM operate).map .vector) := by
  rcases map_results_cases operate operands with
    ⟨values, all, gathers⟩ | ⟨operand, member, rejection, failed, gathers⟩
  · rw [gathers]
    refine .value (.vector ?_)
    intro value inside
    have given : Except.ok value ∈ operands.map operate := by
      rw [all]
      exact List.mem_map_of_mem inside
    obtain ⟨operand, member, result⟩ := List.mem_map.mp given
    have yields := each operand member
    rw [result] at yields
    cases yields with
    | value holds => exact holds
  · rw [gathers]
    have yields := each operand member
    rw [failed] at yields
    cases yields with
    | operands => exact .operands
    | zero => exact .zero

theorem arithmetic_on_single (operation : Arithmetic) {left right : Value}
    (single : left.isVector = false) (leftProper : left.Proper) (rightProper : right.Proper) :
    Yields (Value.Grounded origin) (operation.apply left right) := by
  rw [operation.apply_single single]
  by_cases numbers : left.isScalar = true ∧ right.isScalar = true
  · have yields := operation.on_scalars_yields (Value.proper_scalar leftProper numbers.1)
      (Value.proper_scalar rightProper numbers.2)
    generalize operation.onScalars left right = result at yields ⊢
    cases yields with
    | value plain => exact .value (.number plain)
    | operands => exact .operands
    | zero => exact .zero
  · rw [operation.on_scalars_rejects leftProper rightProper numbers]
    exact .operands

theorem arithmetic_grounded (operation : Arithmetic) {left right : Value}
    (leftGrounded : left.Grounded origin) (rightGrounded : right.Grounded origin) :
    Yields (Value.Grounded origin) (operation.apply left right) := by
  induction leftGrounded generalizing right with
  | number plain =>
      exact arithmetic_on_single operation (Value.number_is_no_vector plain) (.number plain)
        rightGrounded.proper
  | function _ => exact arithmetic_on_single operation rfl .function rightGrounded.proper
  | @vector items inner induction =>
      have pairs (meets : right.isVector = true ∨ right.isScalar = true) :
          Yields (Value.Grounded origin) (operation.apply (.vector items) right) := by
        rw [operation.apply_vector items meets]
        apply map_results_yield
        intro pair member
        obtain ⟨inside, meetsGrounded⟩ := Value.partners_grounded rightGrounded member
        exact induction pair.1 inside meetsGrounded
      cases rightGrounded with
      | number plain => exact pairs (.inr (Value.number_is_scalar plain))
      | vector _ => exact pairs (.inl rfl)
      | function _ =>
          rw [Arithmetic.apply]
          · exact .operands
          · simp

theorem comparison_grounded (relation : Comparison) {left right : Value}
    (leftGrounded : left.Grounded origin) (rightGrounded : right.Grounded origin) :
    Yields (Value.Grounded origin) ((relation.test left right).map Value.ofBool) := by
  have tests := relation.test_converse leftGrounded.proper rightGrounded.proper
  generalize relation.test left right = here at tests ⊢
  generalize relation.converse.test right left = there at tests
  cases tests with
  | answers holds => exact .value (.number (Value.of_bool_is_number holds))
  | rejections => exact .operands

theorem item_grounded {vector position : Value} (vectorGrounded : vector.Grounded origin)
    (positionProper : position.Proper) :
    Yields (Value.Grounded origin) (vector.item position) := by
  cases vectorGrounded with
  | number plain => cases plain <;> exact .operands
  | function _ => exact .operands
  | @vector items inner =>
      cases positionProper with
      | vector _ => exact .operands
      | function => exact .operands
      | number plain =>
          cases plain with
          | float => exact .operands
          | @int index _ =>
              simp only [Value.item, Value.number?, Payload.position]
              split_ifs with inside
              · dsimp only
                cases found : items[index.toNat]? with
                | none => exact .operands
                | some item => exact .value (inner item (List.mem_of_getElem? found))
              · exact .operands

theorem binary_grounded (operator : BinaryOperator) {left right : Value}
    (leftGrounded : left.Grounded origin) (rightGrounded : right.Grounded origin) :
    Yields (Value.Grounded origin) (operator.apply left right) := by
  cases operator with
  | arithmetic operation => exact arithmetic_grounded operation leftGrounded rightGrounded
  | comparison relation =>
      rw [relation.comparison_apply]
      exact comparison_grounded relation leftGrounded rightGrounded
  | index => exact item_grounded leftGrounded rightGrounded.proper
  | sameType => exact .value (.number (Value.of_bool_is_number _))

theorem negate_grounded {value : Value} (grounded : value.Grounded origin) :
    Yields (Value.Grounded origin) value.negate := by
  induction grounded with
  | number plain =>
      obtain ⟨result, negated, resultPlain⟩ := negate_number plain
      rw [negated]
      exact .value (.number resultPlain)
  | function _ =>
      rw [Value.negate]
      exact .operands
  | @vector items _ induction =>
      have each : (Value.vector items).negate = (items.mapM Value.negate).map .vector := by
        rw [Value.negate, Value.negate_all_eq]
        exact Arithmetic.vector_of_results _
      rw [each]
      exact map_results_yield items induction

end Operators

namespace Bindings

variable {origin : Node → Prop}

def Grounded (origin : Node → Prop) (bindings : Bindings) : Prop :=
  ∀ name value, bindings.get? name = some value → value.Grounded origin

theorem empty_grounded : empty.Grounded origin := by
  intro name value bound
  cases bound

theorem get_insert_cases {bindings : Bindings} {name other : Name} {value found : Value}
    (bound : (bindings.insert name value).get? other = some found) :
    found = value ∨ bindings.get? other = some found := by
  obtain ⟨entries⟩ := bindings
  unfold insert get? at bound
  unfold get?
  dsimp only at bound ⊢
  induction entries with
  | nil =>
      obtain ⟨entry, first, same⟩ := Option.map_eq_some_iff.mp bound
      have member := List.mem_of_find?_eq_some first
      rw [insertInto, List.mem_singleton] at member
      rw [← same, member]
      exact .inl rfl
  | cons entry entries induction =>
      obtain ⟨kept, old⟩ := entry
      unfold insertInto at bound
      split at bound
      · rw [List.find?_cons] at bound ⊢
        dsimp only at bound ⊢
        split at bound
        · cases bound
          exact .inl rfl
        · exact .inr bound
      · rw [List.find?_cons] at bound ⊢
        dsimp only at bound ⊢
        split at bound
        · exact .inr bound
        · exact induction bound

theorem insert_grounded {bindings : Bindings} (name : Name) {value : Value}
    (grounded : bindings.Grounded origin) (valueGrounded : value.Grounded origin) :
    (bindings.insert name value).Grounded origin := by
  intro other found bound
  rcases get_insert_cases bound with same | kept
  · rw [same]
    exact valueGrounded
  · exact grounded other found kept

end Bindings

def Span.Of (origin : Node → Prop) (span : Span) : Prop :=
  ∃ node, origin node ∧ node.span = span

/-- The faults that evaluation reports. A name that is not bound was read as a name, what is no
target comes from the origin, and an index is an integer. -/
inductive Fault.Raised (origin : Node → Prop) : Fault → Prop where
  | name {name : String} (named : IsName name) : Raised origin (.undefinedVariable name)
  | target {node : Node} (read : origin node) : Raised origin (.expectedNode .variable node)
  | item (value : Value) : Raised origin (.illegalValue value ⟨"vector", .none⟩)
  | callee (value : Value) : Raised origin (.illegalValue value ⟨"function", .none⟩)
  | operands (operator : BinaryOperator) (left right : Value) :
      Raised origin (.binaryOperands operator.kind left right)
  | operand (value : Value) : Raised origin (.unaryOperand .subtract value)
  | index (last position : Int) : Raised origin (.indexOutOfRange last (.int position))

/-- A result, an issue about a node of the origin, or too many nested calls. -/
inductive Accounted {α : Type} (origin : Node → Prop) (property : α → Prop) :
    Except Stop α → Prop where
  | value {result : α} (holds : property result) : Accounted origin property (.ok result)
  | issue {issue : Issue} (located : issue.span.Of origin) (raised : issue.fault.Raised origin) :
      Accounted origin property (.error (.issue issue))
  | tooDeep : Accounted origin property (.error (.broken .tooDeep))

namespace Action

variable {α β : Type} {origin : Node → Prop}

def Accounts (origin : Node → Prop) (property : α → Prop) (action : Action α) : Prop :=
  ∀ start : Bindings, start.Grounded origin →
    (action start).bindings.Grounded origin ∧ Accounted origin property (action start).result

theorem accounts_give {property : α → Prop} {value : α} (holds : property value) :
    (give value).Accounts origin property :=
  fun _ grounded => ⟨grounded, .value holds⟩

theorem accounts_issue {property : α → Prop} {issue : Issue} (located : issue.span.Of origin)
    (raised : issue.fault.Raised origin) : (fail (.issue issue)).Accounts origin property :=
  fun _ grounded => ⟨grounded, .issue located raised⟩

theorem accounts_bind (name : Name) {value : Value} (valueGrounded : value.Grounded origin) :
    (bind name value).Accounts origin fun _ => True :=
  fun _ grounded => ⟨Bindings.insert_grounded name grounded valueGrounded, .value trivial⟩

theorem accounts_and_then {middle : α → Prop} {property : β → Prop} {first : Action α}
    {next : α → Action β} (accounts : first.Accounts origin middle)
    (nextAccounts : ∀ value, middle value → (next value).Accounts origin property) :
    (first.andThen next).Accounts origin property := by
  intro start grounded
  obtain ⟨bindings, result⟩ := accounts start grounded
  unfold andThen
  dsimp only
  generalize (first start).result = ended at result ⊢
  cases result with
  | issue located raised => exact ⟨bindings, .issue located raised⟩
  | tooDeep => exact ⟨bindings, .tooDeep⟩
  | value holds => exact nextAccounts _ holds _ bindings

theorem accounts_enclosed {property : Value → Prop} {call : Call} {frame : Bindings}
    {body : Action Value} (frameGrounded : frame.Grounded origin)
    (accounts : body.Accounts origin property) :
    (enclosed call frame body).Accounts origin property :=
  fun _ grounded => ⟨grounded, (accounts frame frameGrounded).2⟩

end Action

/-- A target that cannot be bound is refused because of one of its parts. -/
theorem refused_target {target : Node} (formed : target.WellFormed)
    (bindable : Grammar.isTarget target = true) {stop : Stop}
    (refused : Target.ofNode target = .error stop) :
    ∃ part ∈ target.children, stop = part.expectVariable := by
  cases formed with
  | name _ => cases refused
  | @call callee argument span _ _ =>
      have bound : Target.ofNode (.mk .call .none [callee, argument] span) =
          if callee.kind ≠ .variable then .error callee.expectVariable
          else if argument.kind ≠ .variable then .error argument.expectVariable
          else .ok (.function callee.payload argument.payload) := rfl
      rw [bound] at refused
      split_ifs at refused
      · cases refused
        exact ⟨callee, by simp [Node.children], rfl⟩
      · cases refused
        exact ⟨argument, by simp [Node.children], rfl⟩
  | _ => cases bindable

namespace Evaluation

variable {origin : Node → Prop}

theorem named_accounts {name : String} (isName : IsName name) {span : Span}
    (located : span.Of origin) :
    (named (.text name) span).Accounts origin (Value.Grounded origin) := by
  intro start grounded
  unfold named Action.andThen Action.look
  dsimp only
  cases bound : start.get? (.text name) with
  | none => exact ⟨grounded, .issue located (.name isName)⟩
  | some value => exact ⟨grounded, .value (grounded (.text name) value bound)⟩

theorem item_accounts {value : Value} {span : Span} (located : span.Of origin)
    (grounded : value.Grounded origin) :
    (item value span).Accounts origin (Value.Grounded origin) := by
  unfold item
  split
  · exact Action.accounts_give grounded
  · exact Action.accounts_issue located (.item value)

theorem rejected_is_raised (operator : BinaryOperator) (left : Value) {right : Value}
    (proper : right.Proper) : (rejected operator left right).Raised origin := by
  unfold rejected
  split
  · next number =>
      cases proper with
      | number plain =>
          cases plain with
          | int _ =>
              cases number
              exact .index _ _
          | float => cases number
      | vector _ => cases number
      | function => cases number
  · exact .operands _ _ _

theorem binary_accounts (operator : BinaryOperator) {left right : Value} {span : Span}
    (located : span.Of origin) (leftGrounded : left.Grounded origin)
    (rightGrounded : right.Grounded origin) :
    (binary (.text operator.kind.code) left right span).Accounts origin
      (Value.Grounded origin) := by
  have yields := binary_grounded operator leftGrounded rightGrounded
  have raised : (rejected operator left right).Raised origin :=
    rejected_is_raised operator left rightGrounded.proper
  unfold binary
  rw [binary_operator_of_code]
  dsimp only
  generalize operator.apply left right = result at yields ⊢
  cases yields with
  | value holds => exact Action.accounts_give holds
  | operands => exact Action.accounts_issue located raised
  | zero => exact Action.accounts_issue located raised

theorem unary_accounts {operand : Value} {span : Span} (located : span.Of origin)
    (grounded : operand.Grounded origin) :
    (unary (.text TokenKind.subtract.code) operand span).Accounts origin
      (Value.Grounded origin) := by
  have minus : Node.operatorOf? (.text TokenKind.subtract.code) = some .subtract := rfl
  have yields := negate_grounded grounded
  unfold unary
  rw [if_pos minus]
  generalize operand.negate = result at yields ⊢
  cases yields with
  | value holds => exact Action.accounts_give holds
  | operands => exact Action.accounts_issue located (.operand operand)
  | zero => exact Action.accounts_issue located (.operand operand)

theorem frame_grounded (callee : Node) {function argument : Value} (parameter : Name)
    (functionGrounded : function.Grounded origin) (argumentGrounded : argument.Grounded origin) :
    (frame callee function parameter argument).Grounded origin := by
  have start : Bindings.empty.Grounded origin := Bindings.empty_grounded
  unfold frame
  split
  · exact Bindings.insert_grounded _ (Bindings.insert_grounded _ start functionGrounded)
      argumentGrounded
  · exact Bindings.insert_grounded _ start argumentGrounded

theorem enter_accounts {body : Node → Action Value} {callee : Node} {function argument : Value}
    (bodyAccounts : ∀ inner, origin inner → (body inner).Accounts origin (Value.Grounded origin))
    (located : callee.span.Of origin) (functionGrounded : function.Grounded origin)
    (argumentGrounded : argument.Grounded origin) :
    (enter body callee function argument).Accounts origin (Value.Grounded origin) := by
  cases functionGrounded with
  | number plain => cases plain <;> exact Action.accounts_issue located (.callee _)
  | vector _ => exact Action.accounts_issue located (.callee _)
  | @function parameter inner read =>
      have function : Value.Grounded origin (.function parameter inner) := .function read
      have grounded := frame_grounded callee parameter function argumentGrounded
      exact Action.accounts_enclosed grounded (bodyAccounts inner read)

theorem evaluate_items_accounts {body : Node → Action Value} (items : List Node)
    (members : ∀ node ∈ items, origin node)
    (each : ∀ node ∈ items, (evaluateWith body node node.span).Accounts origin
      (Value.Grounded origin)) :
    (evaluateItems body items).Accounts origin
      fun values => ∀ value ∈ values, value.Grounded origin := by
  induction items with
  | nil =>
      rw [evaluateItems]
      exact Action.accounts_give (by simp)
  | cons node others induction =>
      obtain ⟨member, otherMembers⟩ := List.forall_mem_cons.mp members
      obtain ⟨first, rest⟩ := List.forall_mem_cons.mp each
      rw [evaluateItems]
      apply Action.accounts_and_then first
      intro value grounded
      apply Action.accounts_and_then (item_accounts ⟨node, member, rfl⟩ grounded)
      intro number numberGrounded
      apply Action.accounts_and_then (induction otherMembers rest)
      intro numbers allGrounded
      exact Action.accounts_give (List.forall_mem_cons.mpr ⟨numberGrounded, allGrounded⟩)

/-- One tree, if the bodies of the functions it calls are accounted for. A root may be reported at
the span of another node of the origin. -/
theorem evaluate_with_accounts {body : Node → Action Value} (closed : ClosedOrigin origin)
    (bodyAccounts : ∀ inner, origin inner → (body inner).Accounts origin (Value.Grounded origin))
    (node : Node) (read : origin node) {span : Span} (located : span.Of origin) :
    (evaluateWith body node span).Accounts origin (Value.Grounded origin) := by
  induction node using Node.induction_on_children generalizing span with
  | node whole induction =>
      have formed := closed.formed whole read
      have members := closed.parts whole read
      have parts (child : Node) (member : child ∈ whole.children) :
          (evaluateWith body child child.span).Accounts origin (Value.Grounded origin) :=
        induction child member (members child member) ⟨child, members child member, rfl⟩
      cases formed with
      | int small =>
          rw [evaluateWith]
          refine Action.accounts_give (.number (.int ?_))
          unfold Word.largest at small
          unfold Word.Fits
          omega
      | float | infinity | pi =>
          rw [evaluateWith]
          exact Action.accounts_give (.number .float)
      | name named =>
          rw [evaluateWith]
          exact named_accounts named located
      | @vector items _ _ =>
          rw [evaluateWith]
          apply Action.accounts_and_then (evaluate_items_accounts items members parts)
          intro values grounded
          exact Action.accounts_give (.vector grounded)
      | @binary operator left right _ _ _ _ =>
          rw [evaluateWith]
          apply Action.accounts_and_then (parts left (by simp [Node.children]))
          intro leftValue leftGrounded
          apply Action.accounts_and_then (parts right (by simp [Node.children]))
          intro rightValue rightGrounded
          exact binary_accounts operator located leftGrounded rightGrounded
      | @unary operand _ _ =>
          rw [evaluateWith]
          apply Action.accounts_and_then (parts operand (by simp [Node.children]))
          intro value grounded
          exact unary_accounts located grounded
      | @assign target value _ bindable first _ =>
          have valueRead := members value (by simp [Node.children])
          rw [evaluateWith]
          cases found : Target.ofNode target with
          | error stop =>
              obtain ⟨part, inside, same⟩ := refused_target first bindable found
              subst same
              have partRead := closed.parts target (members target (by simp [Node.children]))
                part inside
              exact Action.accounts_issue ⟨part, partRead, rfl⟩ (.target partRead)
          | ok bound =>
              rcases bound with name | ⟨name, parameter⟩
              · apply Action.accounts_and_then (parts value (by simp [Node.children]))
                intro result grounded
                apply Action.accounts_and_then (Action.accounts_bind name grounded)
                intro _ _
                exact Action.accounts_give grounded
              · -- The body is not evaluated here, but it is a part and may be called later.
                have grounded : Value.Grounded origin (.function parameter value) :=
                  .function valueRead
                apply Action.accounts_and_then (Action.accounts_bind name grounded)
                intro _ _
                exact Action.accounts_give grounded
      | @call callee argument _ _ _ =>
          have calleeRead := members callee (by simp [Node.children])
          rw [evaluateWith]
          apply Action.accounts_and_then (parts argument (by simp [Node.children]))
          intro argumentValue argumentGrounded
          apply Action.accounts_and_then (parts callee (by simp [Node.children]))
          intro function functionGrounded
          exact enter_accounts bodyAccounts ⟨callee, calleeRead, rfl⟩ functionGrounded
            argumentGrounded

/-- Every tree of the origin, whatever the bound on nested calls. -/
theorem evaluate_accounts (closed : ClosedOrigin origin) (depth : Nat) (node : Node)
    (read : origin node) {span : Span} (located : span.Of origin) :
    (evaluate depth node span).Accounts origin (Value.Grounded origin) := by
  induction depth generalizing node span with
  | zero =>
      unfold evaluate
      apply evaluate_with_accounts closed ?_ node read located
      intro _ _ _ grounded
      exact ⟨grounded, .tooDeep⟩
  | succ depth induction =>
      unfold evaluate
      apply evaluate_with_accounts closed ?_ node read located
      intro inner innerRead
      exact induction inner innerRead ⟨inner, innerRead, rfl⟩

end Evaluation

end VectorCalc

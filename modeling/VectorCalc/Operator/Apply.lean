import VectorCalc.Operator.Arithmetic
import VectorCalc.Operator.Comparison

/-!
Applying an operator to its operands. Comparisons and the type test give one or zero.
-/
namespace VectorCalc

set_option autoImplicit false

def Value.item (vector position : Value) : Except Rejection Value :=
  match vector, position.number? with
  | .vector items, some (.int, content) =>
      match content.position items.length with
      | .error rejection => .error rejection
      | .ok index =>
          match items[index]? with
          | some item => .ok item
          | none => .error (.operands .index)
  | _, _ => .error (.operands .index)

def BinaryOperator.apply (operator : BinaryOperator) (left right : Value) :
    Except Rejection Value :=
  match operator with
  | .arithmetic operation => operation.apply left right
  | .comparison relation =>
      match relation.test left right with
      | .ok holds => .ok (Value.ofBool holds)
      | .error rejection => .error rejection
  | .index => left.item right
  | .sameType => .ok (Value.ofBool (left.type.same right.type))

def applyBinary (kind : TokenKind) (left right : Value) : Except Rejection Value :=
  match BinaryOperator.ofKind? kind with
  | some operator => operator.apply left right
  | none => .error (.operands kind)

mutual

def Value.negate : Value → Except Rejection Value
  | .int value => .ok (.int (Word.wrap (-value)))
  | .float value => .ok (.float (-value))
  | .vector items =>
      match negateAll items with
      | .ok results => .ok (.vector results)
      | .error rejection => .error rejection
  | .function _ _ => .error (.operands .subtract)
  | .mislabelled type content => content.negate type

def Value.negateAll : List Value → Except Rejection (List Value)
  | [] => .ok []
  | item :: items =>
      match negate item with
      | .error rejection => .error rejection
      | .ok first =>
          match negateAll items with
          | .error rejection => .error rejection
          | .ok rest => .ok (first :: rest)

end

/-- The minus sign is the only operator with a single operand. -/
def applyUnary (kind : TokenKind) (operand : Value) : Except Rejection Value :=
  if kind = .subtract then operand.negate else .error (.operands kind)

end VectorCalc

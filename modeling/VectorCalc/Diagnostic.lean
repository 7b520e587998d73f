import VectorCalc.Token
import VectorCalc.Value

/-!
Diagnostics of the language. A fault says what is wrong, an issue adds the span it is
about, and a diagnostic adds the label of the input. Every diagnostic is one line that
ends with the label and the start of the span.
-/
namespace VectorCalc

set_option autoImplicit false

inductive Fault where
  /-- Text that belongs to no token. -/
  | lexical (message : String)
  /-- The grammar needs one kind of token and another stands there. -/
  | expectedToken (expected : TokenKind) (found : Token)
  /-- An assignment needs one kind of node as its target and another stands there. -/
  | expectedNode (expected : NodeKind) (found : Node)
  /-- No expression starts with this token. -/
  | unexpectedToken (found : Token)
  /-- A node or an operator without a rule of evaluation. -/
  | unsupported (what : String)
  /-- A binary operator has no rule for these operands. -/
  | binaryOperands (operator : TokenKind) (left right : Value)
  /-- A unary operator has no rule for this operand. -/
  | unaryOperand (operator : TokenKind) (operand : Value)
  /-- A vector was indexed outside its bounds. -/
  | indexOutOfRange (last : Int) (index : Payload)
  /-- A value of the wrong type. -/
  | illegalValue (value : Value) (required : ValueType)
  /-- A name that is not bound. -/
  | undefinedVariable (name : String)
  /-- A fault of no particular kind. -/
  | unspecified
  deriving Repr

structure Issue where
  fault : Fault
  span : Span
  deriving Repr

structure Diagnostic where
  fault : Fault
  span : Span
  label : String
  deriving Repr

/-- Reading and evaluation hand the label of their input on without looking at it, so it is left out
of them and put on the issue at the end. -/
def Issue.labelled (issue : Issue) (label : String) : Diagnostic :=
  ⟨issue.fault, issue.span, label⟩

inductive Stop where
  | issue (issue : Issue)
  | broken (breakdown : Breakdown)
  deriving Repr

namespace Fault

def title : Fault → String
  | .lexical _ => "VectaSyntaxError"
  | .expectedToken _ _ => "ExpectTokenError"
  | .expectedNode _ _ => "ExpectNodeError"
  | .unexpectedToken _ => "UnexpectedTokenError"
  | .unsupported _ => "VectaNotImplementedError"
  | .binaryOperands _ _ _ => "BinaryOperationError"
  | .unaryOperand _ _ => "UnaryOperationError"
  | .indexOutOfRange _ _ => "VectaIndexError"
  | .illegalValue _ _ => "IllegalValueError"
  | .undefinedVariable _ => "VariableError"
  | .unspecified => "VectaError"

def requiredTitle (kind : TokenKind) : Except Breakdown String :=
  match kind.title? with
  | some title => .ok title
  | none => .error (.missingKey (.text kind.code))

/-- The message without label and place. It can fail only for want of a kind's name. -/
def detail : Fault → Except Breakdown String
  | .lexical message => .ok message
  | .expectedToken expected found => do
      let title ← requiredTitle expected
      return "expected " ++ title ++ " got " ++ found.name
  | .expectedNode expected found =>
      .ok ("expected " ++ expected.code ++ " got " ++ found.kind.title)
  | .unexpectedToken found => .ok ("unexpected " ++ found.name)
  | .unsupported what => .ok ("not implemented -> " ++ what)
  | .binaryOperands operator left right => do
      let title ← requiredTitle operator
      return "operation " ++ title ++ " cannot be performed on " ++ left.type.kind ++ " and "
        ++ right.type.kind
  | .unaryOperand operator operand => do
      let title ← requiredTitle operator
      return "operation " ++ title ++ " cannot be performed on " ++ operand.type.kind
  | .indexOutOfRange last index =>
      .ok ("index " ++ index.plain ++ " out of range, max " ++ Text.integerText last)
  | .illegalValue value required =>
      .ok (value.type.kind ++ " illegal for " ++ required.kind)
  | .undefinedVariable name => .ok ("variable '" ++ name ++ "' is not defined")
  | .unspecified => .error .unworded

end Fault

namespace Diagnostic

def message (diagnostic : Diagnostic) : Except Breakdown String := do
  let detail ← diagnostic.fault.detail
  return "ERROR: " ++ detail ++ " - " ++ diagnostic.label ++ " " ++ diagnostic.span.text

def description (diagnostic : Diagnostic) : Except Breakdown String := do
  let message ← diagnostic.message
  return diagnostic.fault.title ++ "(" ++ Text.quoted message ++ ")"

def same (left right : Diagnostic) : Bool :=
  match left.fault.detail, right.fault.detail with
  | .ok leftDetail, .ok rightDetail =>
      left.fault.title == right.fault.title && leftDetail == rightDetail
        && left.span == right.span && left.label == right.label
  | _, _ => false

end Diagnostic

end VectorCalc

import VectorCalc.Breakdown
import VectorCalc.Span
import VectorCalc.Token.Kind

/-!
Trees. A node has a kind, a payload (the number of a literal, the name of a variable,
the code of an operator), its parts in order and the span it covers. Nothing forces the
parts to fit the kind: what reading produces does fit, and every operation on trees says
what it makes of a node that does not.
-/
namespace VectorCalc

set_option autoImplicit false

inductive NodeKind where
  | int
  | float
  | infinity
  | pi
  | variable
  | vector
  | binary
  | unary
  | assign
  | call
  | other (code : String)
  deriving Repr, DecidableEq, Inhabited

namespace NodeKind

def code : NodeKind → String
  | .int => "int"
  | .float => "float"
  | .infinity => "infinity"
  | .pi => "pi"
  | .variable => "variable"
  | .vector => "vector"
  | .binary => "binary"
  | .unary => "unary"
  | .assign => "set"
  | .call => "call"
  | .other code => code

def known : List NodeKind :=
  [.int, .float, .infinity, .pi, .variable, .vector, .binary, .unary, .assign, .call]

def ofCode (code : String) : NodeKind :=
  (known.find? fun kind => kind.code == code).getD (.other code)

def title : NodeKind → String
  | .binary => "binary operation"
  | .unary => "unary operation"
  | .assign => "assignment"
  | .call => "function call"
  | kind => kind.code

end NodeKind

inductive Node where
  | mk (kind : NodeKind) (payload : Payload) (children : List Node) (span : Span)
  deriving Repr

namespace Node

def kind : Node → NodeKind
  | mk kind _ _ _ => kind

def payload : Node → Payload
  | mk _ payload _ _ => payload

def children : Node → List Node
  | mk _ _ children _ => children

def span : Node → Span
  | mk _ _ _ span => span

def leaf (kind : NodeKind) (payload : Payload) (span : Span) : Node :=
  mk kind payload [] span

def vector (items : List Node) (span : Span) : Node :=
  mk .vector .none items span

def binary (operator : TokenKind) (left right : Node) : Node :=
  mk .binary (.text operator.code) [left, right] (left.span.extend right.span)

def unary (operator : TokenKind) (operand : Node) (span : Span) : Node :=
  mk .unary (.text operator.code) [operand] span

def assign (target value : Node) : Node :=
  mk .assign .none [target, value] (target.span.extend value.span)

def call (callee argument : Node) (span : Span) : Node :=
  mk .call .none [callee, argument] span

def operatorOf? : Payload → Option TokenKind
  | .text code => some (TokenKind.ofCode code)
  | _ => none

mutual

def spans : Node → List Span
  | mk _ _ children span => span :: listSpans children

def listSpans : List Node → List Span
  | [] => []
  | node :: others => spans node ++ listSpans others

end

mutual

/-- Trees are alike when kinds, payloads and parts are, wherever they stood. -/
def same : Node → Node → Bool
  | mk kind payload children _, mk otherKind otherPayload otherChildren _ =>
      kind == otherKind && payload.same otherPayload && sameLists children otherChildren

def sameLists : List Node → List Node → Bool
  | [], [] => true
  | node :: others, otherNode :: more => same node otherNode && sameLists others more
  | _, _ => false

end

end Node

end VectorCalc

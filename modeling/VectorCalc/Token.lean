import VectorCalc.Payload
import VectorCalc.Span
import VectorCalc.Text.Lowercase
import VectorCalc.Token.Kind

/-!
Tokens: a kind, what was read, and where it stood.
-/
namespace VectorCalc

set_option autoImplicit false

structure Token where
  kind : TokenKind
  payload : Payload := .none
  span : Span := {}
  deriving Repr, Inhabited

namespace Token

/-- The name in diagnostics; an unknown kind goes by its code in lower case. -/
def name (token : Token) : String :=
  token.kind.title?.getD (Text.lowercase token.kind.code)

def description (token : Token) : String :=
  "Token(" ++ token.kind.code ++ ", " ++ token.payload.quoted ++ ")"

def same (left right : Token) : Bool :=
  left.kind == right.kind && left.payload.same right.payload

end Token

end VectorCalc

import VectorCalc.Diagnostic

/-!
A cursor into a token list. Past the last token it keeps giving an end-of-file token
that stands at the end of the last one.
-/
namespace VectorCalc

set_option autoImplicit false

structure Cursor where
  consumed : Nat := 0
  last : Option Token := none
  rest : List Token
  deriving Repr

namespace Cursor

def ofTokens (tokens : List Token) : Cursor :=
  { rest := tokens }

def endToken (cursor : Cursor) : Token :=
  match cursor.last with
  | some token => ⟨.fileEnd, .none, token.span.after⟩
  | none => ⟨.fileEnd, .none, {}⟩

def current (cursor : Cursor) : Token :=
  match cursor.rest with
  | token :: _ => token
  | [] => cursor.endToken

def kind (cursor : Cursor) : TokenKind :=
  cursor.current.kind

def advance (cursor : Cursor) : Cursor :=
  match cursor.rest with
  | token :: others => ⟨cursor.consumed + 1, some token, others⟩
  | [] => { cursor with consumed := cursor.consumed + 1 }

def expect (cursor : Cursor) (kind : TokenKind) : Except Stop Token :=
  if cursor.kind = kind then .ok cursor.current
  else .error (.issue ⟨.expectedToken kind cursor.current, cursor.current.span⟩)

/-- The current token starts where the last one taken ends. -/
def touches (cursor : Cursor) : Bool :=
  match cursor.last with
  | some token => cursor.current.span.start == token.span.stop
  | none => false

end Cursor

end VectorCalc

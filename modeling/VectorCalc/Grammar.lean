import VectorCalc.Reader
import VectorCalc.Token.Scan

/-!
From tokens to trees. The grammar, loosest binding first:

    input       := NL* expression (end of file | NL NL* end of file)
    expression  := (variable | call) '=' expression | comparison
    comparison  := sum (('=' | '!=' | '<' | '>' | '<=' | '>=' | 'is') sum)*
    sum         := product (('+' | '-') product)*
    product     := power (('*' | '/' | '%') power)*
    power       := index ('^' index)*
    index       := factor ('#' factor)*
    factor      := '-' factor | call
    call        := atom ('(' expression ')')*
    atom        := INT | FLOAT | VARIABLE | 'pi' | 'inf' | '(' expression ')' | '[' expression* ']'

Operations of one level group to the left, assignment groups to the right. The bracket
of a call touches the token before it, so that a space makes two vector items of a name
and a group. Each rule reads from a cursor and gives a node and the cursor after it. Rules
that repeat carry a bound; a nested expression starts later than the one around it, so the
number of tokens bounds every repetition and every nesting.
-/
namespace VectorCalc

set_option autoImplicit false

namespace Grammar

open Reader

section Rules

variable {m : Type → Type} [Reader m]

def chain (operators : List TokenKind) (operand : RuleIn m) : Nat → Node → RuleIn m
  | 0, _, _ => fail (.broken .unfinished)
  | bound + 1, left, cursor => do
      if cursor.kind ∈ operators then
        let (right, after) ← operand (← take cursor)
        chain operators operand bound (Node.binary cursor.kind left right) after
      else return (left, cursor)

def level (level : Level) (bound : Nat) (operand : RuleIn m) : RuleIn m :=
  ruled (.chain level) fun cursor => do
    let (left, after) ← operand cursor
    chain level.operators operand bound left after

/-- The items of a vector up to and including the closing bracket. The items read so far are
kept latest first. -/
def items (nested : RuleIn m) : Nat → List Node → Span → RuleIn m
  | 0, _, _, _ => fail (.broken .unfinished)
  | bound + 1, read, span, cursor => do
      if cursor.kind = .vectorClose then
        let after ← take cursor
        return (Node.vector read.reverse (span.extend cursor.current.span), after)
      else
        let (item, after) ← nested cursor
        items nested bound (item :: read) (span.extend item.span) after

def closed (nested : RuleIn m) (cursor : Cursor) : m (Node × Token × Cursor) := do
  let (inner, after) ← nested cursor
  let closing ← settle (after.expect .groupClose)
  return (inner, closing, ← take after)

def leaf (kind : NodeKind) (payload : Payload) : RuleIn m := fun cursor => do
  return (Node.leaf kind payload cursor.current.span, ← take cursor)

/-- A group is its inner expression, span included. -/
def atom (nested : RuleIn m) (bound : Nat) : RuleIn m :=
  ruled .atom fun cursor => do
    let token := cursor.current
    match token.kind with
    | .int => leaf .int token.payload cursor
    | .float => leaf .float token.payload cursor
    | .variable => leaf .variable token.payload cursor
    | .infinity => leaf .infinity .none cursor
    | .pi => leaf .pi .none cursor
    | .groupOpen =>
        let (inner, _, after) ← closed nested (← take cursor)
        return (inner, after)
    | .vectorOpen => items nested bound [] token.span (← take cursor)
    | _ => fail (.issue ⟨.unexpectedToken token, token.span⟩)

/-- Applies `callee` to every argument in touching brackets that follows. Only a bracket is asked
whether it touches. -/
def applications (nested : RuleIn m) : Nat → Node → RuleIn m
  | 0, _, _ => fail (.broken .unfinished)
  | bound + 1, callee, cursor => do
      if cursor.kind = .groupOpen then
        note (.touch cursor)
        if cursor.touches then
          let (argument, closing, after) ← closed nested (← take cursor)
          applications nested bound
            (Node.call callee argument (callee.span.extend closing.span)) after
        else return (callee, cursor)
      else return (callee, cursor)

def call (nested : RuleIn m) (bound : Nat) : RuleIn m :=
  ruled .call fun cursor => do
    let (callee, after) ← atom nested bound cursor
    applications nested bound callee after

def factor (operand : RuleIn m) : Nat → RuleIn m
  | 0 => fun _ => fail (.broken .unfinished)
  | bound + 1 => ruled .factor fun cursor => do
      if cursor.kind = .subtract then
        let (inner, after) ← factor operand bound (← take cursor)
        return (Node.unary .subtract inner (cursor.current.span.extend inner.span), after)
      else operand cursor

def index (nested : RuleIn m) (bound : Nat) : RuleIn m :=
  level .index bound (factor (call nested bound) bound)

def power (nested : RuleIn m) (bound : Nat) : RuleIn m :=
  level .power bound (index nested bound)

def product (nested : RuleIn m) (bound : Nat) : RuleIn m :=
  level .product bound (power nested bound)

def sum (nested : RuleIn m) (bound : Nat) : RuleIn m :=
  level .sum bound (product nested bound)

/-- Only a variable or a call can be assigned to; after anything else the sign compares. -/
def isTarget (node : Node) : Bool :=
  node.kind == .variable || node.kind == .call

def expressionWith (nested : RuleIn m) (bound : Nat) : RuleIn m :=
  ruled .expression fun cursor => do
    let (left, after) ← sum nested bound cursor
    if after.kind = .equal ∧ isTarget left then
      let (value, final) ← nested (← take after)
      return (Node.assign left value, final)
    else chain Level.comparison.operators (sum nested bound) bound left after

/-- Reads an expression of fewer than `bound` tokens. -/
def expression : Nat → RuleIn m
  | 0 => fun _ => fail (.broken .unfinished)
  | bound + 1 => expressionWith (expression bound) (bound + 1)

def finish (cursor : Cursor) : m Cursor := do
  if cursor.kind = .fileEnd then return cursor
  else
    let _ ← settle (cursor.expect .lineEnd)
    let after ← skipLineEnds cursor
    let _ ← settle (after.expect .fileEnd)
    return after

def input (tokens : List Token) : m (Node × Cursor) := do
  let start ← skipLineEnds (Cursor.ofTokens tokens)
  let (node, after) ← expression (tokens.length + 1) start
  return (node, ← finish after)

end Rules

end Grammar

def parseTokens (tokens : List Token) : Except Stop Node :=
  Except.map Prod.fst (Grammar.input tokens)

def parseText (text : String) : Except Stop Node :=
  match tokenize text with
  | .error stop => .error stop
  | .ok tokens => parseTokens tokens

end VectorCalc

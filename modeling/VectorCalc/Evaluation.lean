import VectorCalc.Action
import VectorCalc.Operator.Apply

/-!
Evaluation of trees. Operands are evaluated from left to right, a call evaluates its
argument before its callee. A function body sees its parameter and, when the function was
called by name, that name; nothing else is visible inside, and nothing bound inside is
visible afterwards. A root is reported at the span it is given, its parts at their own.
The bound on nested calls shows only as a breakdown of its own.
-/
namespace VectorCalc

set_option autoImplicit false

inductive Target where
  | variable (name : Name)
  | function (name parameter : Name)
  deriving Repr

def Node.expectVariable (node : Node) : Stop :=
  .issue ⟨.expectedNode .variable node, node.span⟩

def Target.ofNode (node : Node) : Except Stop Target :=
  match node.kind with
  | .variable => .ok (.variable node.payload)
  | .call =>
      match node.children with
      | [name, parameter] =>
          if name.kind ≠ .variable then .error name.expectVariable
          else if parameter.kind ≠ .variable then .error parameter.expectVariable
          else .ok (.function name.payload parameter.payload)
      | parts => .error (.broken (Breakdown.ofParts parts))
  | _ => .error node.expectVariable

namespace Evaluation

def circleConstant : Float := Float.ofBits 0x400921FB54442D18

def named (name : Name) (span : Span) : Action Value :=
  (Action.look name).andThen fun
    | some value => .give value
    | none => .report (.undefinedVariable name.plain) span

def item (value : Value) (span : Span) : Action Value :=
  if value.isScalar then .give value else .report (.illegalValue value ⟨"vector", .none⟩) span

def rejected (operator : BinaryOperator) (left right : Value) : Fault :=
  match operator, left, right.number? with
  | .index, .vector items, some (.int, position) => .indexOutOfRange (items.length - 1) position
  | _, _, _ => .binaryOperands operator.kind left right

def unsupportedOperator (payload : Payload) : Fault :=
  .unsupported ("operator " ++ payload.plain)

def binary (payload : Payload) (left right : Value) (span : Span) : Action Value :=
  match (Node.operatorOf? payload).bind BinaryOperator.ofKind? with
  | none => .report (unsupportedOperator payload) span
  | some operator =>
      match operator.apply left right with
      | .ok value => .give value
      | .error (.broken breakdown) => .fail (.broken breakdown)
      | .error _ => .report (rejected operator left right) span

def unary (payload : Payload) (operand : Value) (span : Span) : Action Value :=
  if Node.operatorOf? payload = some .subtract then
    match operand.negate with
    | .ok value => .give value
    | .error (.broken breakdown) => .fail (.broken breakdown)
    | .error _ => .report (.unaryOperand .subtract operand) span
  else .report (unsupportedOperator payload) span

def frame (callee : Node) (function : Value) (parameter : Name) (argument : Value) : Bindings :=
  if callee.kind = .variable then
    (Bindings.empty.insert callee.payload function).insert parameter argument
  else Bindings.empty.insert parameter argument

section Trees

open Evaluator

variable {m : Type → Type} [Evaluator m]

def enter (body : Node → m Value) (callee : Node) (function argument : Value) : m Value :=
  match function with
  | .function parameter inner =>
      enclosed ⟨callee, parameter, argument⟩ (frame callee function parameter argument)
        (body inner)
  | other => perform (.report (.illegalValue other ⟨"function", .none⟩) callee.span)

mutual

/-- Evaluates a tree, leaving the bodies of called functions to `body`. -/
def evaluateWith (body : Node → m Value) (node : Node) (span : Span) : m Value :=
  visiting node <|
    match node with
    | .mk .int payload _ _ => perform (.give (.literal .int payload))
    | .mk .float payload _ _ => perform (.give (.literal .float payload))
    | .mk .infinity _ _ _ => perform (.give (.float Decimal.positiveInfinity))
    | .mk .pi _ _ _ => perform (.give (.float circleConstant))
    | .mk .variable payload _ _ => perform (named payload span)
    | .mk .vector _ items _ =>
        andThen (evaluateItems body items) fun values => perform (.give (.vector values))
    | .mk .binary payload [left, right] _ =>
        andThen (evaluateWith body left left.span) fun leftValue =>
          andThen (evaluateWith body right right.span) fun rightValue =>
            perform (binary payload leftValue rightValue span)
    | .mk .unary payload (operand :: _) _ =>
        andThen (evaluateWith body operand operand.span) fun value =>
          perform (unary payload value span)
    | .mk .unary _ [] _ => perform (.fail (.broken .noOperand))
    | .mk .assign _ [target, value] _ =>
        match Target.ofNode target with
        | .error stop => perform (.fail stop)
        | .ok (.variable name) =>
            andThen (evaluateWith body value value.span) fun result =>
              andThen (bind name result) fun _ => perform (.give result)
        | .ok (.function name parameter) =>
            andThen (bind name (.function parameter value)) fun _ =>
              perform (.give (.function parameter value))
    | .mk .call _ [callee, argument] _ =>
        andThen (evaluateWith body argument argument.span) fun argumentValue =>
          andThen (evaluateWith body callee callee.span) fun function =>
            enter body callee function argumentValue
    | .mk (.other code) _ _ _ => perform (.report (.unsupported code) span)
    | .mk _ _ parts _ => perform (.fail (.broken (Breakdown.ofParts parts)))

def evaluateItems (body : Node → m Value) : List Node → m (List Value)
  | [] => perform (.give [])
  | node :: others =>
      andThen (evaluateWith body node node.span) fun value =>
        andThen (perform (item value node.span)) fun first =>
          andThen (evaluateItems body others) fun rest => perform (.give (first :: rest))

end

/-- Evaluates a tree with at most `depth` calls inside one another. -/
def evaluateIn : Nat → Node → Span → m Value
  | 0 => evaluateWith fun _ => perform (.fail (.broken .tooDeep))
  | depth + 1 => evaluateWith fun inner => evaluateIn depth inner inner.span

end Trees

def evaluate : Nat → Node → Span → Action Value :=
  evaluateIn

end Evaluation

def callLimit : Nat := 1000

end VectorCalc

import VectorCalc.Node

/-!
The printed form of trees. The full form puts every operation in brackets and names its
operator as diagnostics do; printing fails on a node whose parts do not fit its kind or
whose operator has no name. The short description shows at most three parts of a node.
-/
namespace VectorCalc

set_option autoImplicit false

/-- What a node without exactly two parts lacks. -/
def Breakdown.ofParts {α : Type} (parts : List α) : Breakdown :=
  if parts.length < 2 then .tooFewParts parts.length else .tooManyParts

namespace Node

def operatorTitle (payload : Payload) : Except Breakdown String :=
  match (operatorOf? payload).bind TokenKind.title? with
  | some title => .ok title
  | none => .error (.missingKey payload)

mutual

def text : Node → Except Breakdown String
  | mk .int payload _ _ => .ok ("(" ++ payload.plain ++ ")")
  | mk .float payload _ _ => .ok ("(" ++ payload.plain ++ ")")
  | mk .variable payload _ _ => .ok ("(" ++ payload.plain ++ ")")
  | mk .pi _ _ _ => .ok "(pi)"
  | mk .infinity _ _ _ => .ok "(inf)"
  | mk .vector _ items _ => do
      let texts ← listTexts items
      return "[" ++ " ".intercalate texts ++ "]"
  | mk .binary payload [left, right] _ => do
      let leftText ← text left
      let title ← operatorTitle payload
      let rightText ← text right
      return "(" ++ leftText ++ " " ++ title ++ " " ++ rightText ++ ")"
  | mk .unary payload (operand :: _) _ => do
      let title ← operatorTitle payload
      let operandText ← text operand
      return "(" ++ title ++ " " ++ operandText ++ ")"
  | mk .unary payload [] _ => do
      let _ ← operatorTitle payload
      .error .noOperand
  | mk .assign _ [target, value] _ => do
      let targetText ← text target
      let valueText ← text value
      return "(" ++ targetText ++ " = " ++ valueText ++ ")"
  | mk .call _ [callee, argument] _ => do
      let calleeText ← text callee
      let argumentText ← text argument
      return "(" ++ calleeText ++ " " ++ argumentText ++ ")"
  | mk (.other code) _ _ _ => .ok ("(" ++ code ++ ")")
  | mk _ _ parts _ => .error (Breakdown.ofParts parts)

def listTexts : List Node → Except Breakdown (List String)
  | [] => .ok []
  | node :: others => do
      let first ← text node
      let rest ← listTexts others
      return first :: rest

end

def previewLimit : Nat := 3

def describe (kind : NodeKind) (payload : Payload) (parts : List String) (more : Bool) : String :=
  let payloadPart :=
    match payload with
    | .none => []
    | shown => ["value=" ++ shown.quoted]
  let childrenPart :=
    if parts.isEmpty then []
    else ["children=[" ++ ", ".intercalate parts ++ (if more then ", ..." else "") ++ "]"]
  "ASTNode(" ++ ", ".intercalate (kind.code :: (payloadPart ++ childrenPart)) ++ ")"

mutual

def description : Node → String
  | mk kind payload children _ =>
      describe kind payload (descriptions previewLimit children)
        (decide (previewLimit < children.length))

def descriptions : Nat → List Node → List String
  | _, [] => []
  | 0, _ => []
  | count + 1, node :: others => description node :: descriptions count others

end

end Node

end VectorCalc

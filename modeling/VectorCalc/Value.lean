import VectorCalc.Node.Text

/-!
Values: 64-bit integers, doubles, vectors, and functions of one parameter. A function is
its parameter and the unevaluated tree of its body, and remembers nothing of the place
where it was defined. A literal that was put into a tree by hand may carry something else
than a number of its type; its value then keeps that content under the type of the literal.
-/
namespace VectorCalc

set_option autoImplicit false

/-- The type of a value. Functions share a type only if their parameters have the same name. -/
structure ValueType where
  kind : String
  parameter : Payload := .none
  deriving Repr

namespace ValueType

def same (left right : ValueType) : Bool :=
  left.kind == right.kind && left.parameter.sameName right.parameter

def description (type : ValueType) : String :=
  match type.parameter with
  | .none => "Type(" ++ type.kind ++ ")"
  | parameter => "Type(" ++ type.kind ++ ", " ++ parameter.quoted ++ ")"

end ValueType

inductive NumberType where
  | int
  | float
  deriving Repr, DecidableEq

def NumberType.code : NumberType → String
  | .int => "int"
  | .float => "float"

inductive Value where
  | int (value : Int)
  | float (value : Float)
  | vector (items : List Value)
  | function (parameter : Payload) (body : Node)
  /-- A literal of one type with content that is not a number of that type. -/
  | mislabelled (type : NumberType) (content : Payload)
  deriving Repr

namespace Value

def literal (type : NumberType) (content : Payload) : Value :=
  match type, content.unmarked with
  | .int, .int value => .int value
  | .float, .float value => .float value
  | type, other => .mislabelled type other

def number? : Value → Option (NumberType × Payload)
  | .int value => some (.int, .int value)
  | .float value => some (.float, .float value)
  | .mislabelled type content => some (type, content)
  | _ => none

def type : Value → ValueType
  | .int _ => ⟨"int", .none⟩
  | .float _ => ⟨"float", .none⟩
  | .vector _ => ⟨"vector", .none⟩
  | .function parameter _ => ⟨"function", parameter⟩
  | .mislabelled type _ => ⟨type.code, .none⟩

def isScalar : Value → Bool
  | .int _ => true
  | .float _ => true
  | .mislabelled _ _ => true
  | _ => false

def ofBool (holds : Bool) : Value :=
  .int (if holds then 1 else 0)

/-- The text of content that goes for a number. An integer is shown whatever it holds, a double
has to hold a number within the range of doubles. -/
def contentText : NumberType → Payload → Except Breakdown String
  | .int, content => .ok content.plain
  | .float, .int value =>
      if (Decimal.ofInteger? value).isNone then .error (.excess .double)
      else .ok (Text.integerText value)
  | .float, .float value => .ok (Decimal.floatText "NaN" value)
  | .float, content => .error (.mismatch (.notReal content))

mutual

def text : Value → Except Breakdown String
  | .int value => .ok (Text.integerText value)
  | .float value => .ok (Decimal.floatText "NaN" value)
  | .vector items => do
      let shown ← texts items
      return "[" ++ ", ".intercalate shown ++ "]"
  | .function parameter _ => .ok ("function(" ++ parameter.plain ++ ")")
  | .mislabelled type content => contentText type content

def texts : List Value → Except Breakdown (List String)
  | [] => .ok []
  | item :: others => do
      let first ← text item
      let rest ← texts others
      return first :: rest

end

mutual

def description : Value → Except Breakdown String
  | .int value => .ok ("Value(int, " ++ Text.integerText value ++ ")")
  | .float value => .ok ("Value(float, " ++ Decimal.floatText "nan" value ++ ")")
  | .vector items => do
      let parts ← descriptions items
      return "Value(vector, [" ++ ", ".intercalate parts ++ "])"
  | .function parameter body => do
      let bodyText ← body.text
      return "Value(function, " ++ parameter.quoted ++ ", " ++ bodyText ++ ")"
  | .mislabelled type content => .ok ("Value(" ++ type.code ++ ", " ++ content.quoted ++ ")")

def descriptions : List Value → Except Breakdown (List String)
  | [] => .ok []
  | item :: others => do
      let first ← description item
      let rest ← descriptions others
      return first :: rest

end

def sameNumbers (left right : Value) : Bool :=
  match left.number?, right.number? with
  | some (leftType, leftContent), some (rightType, rightContent) =>
      leftType == rightType && leftContent.same rightContent
  | _, _ => false

mutual

/-- Values are alike when type and content are: no integer equals a double, not-a-number equals
nothing, and function bodies are compared without their spans. -/
def same : Value → Value → Bool
  | .int left, .int right => left == right
  | .float left, .float right => left == right
  | .vector left, .vector right => sameLists left right
  | .function parameter body, .function otherParameter otherBody =>
      parameter.same otherParameter && body.same otherBody
  | left, right => sameNumbers left right

def sameLists : List Value → List Value → Bool
  | [], [] => true
  | left :: others, right :: more => same left right && sameLists others more
  | _, _ => false

end

end Value

end VectorCalc

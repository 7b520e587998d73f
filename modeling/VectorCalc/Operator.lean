import VectorCalc.Numeral
import VectorCalc.Value

/-!
Operators and why they reject operands. Arithmetic and comparison work on numbers and on
vectors of numbers, the index takes an item out of a vector, and the type test works on
any two values.
-/
namespace VectorCalc

set_option autoImplicit false

inductive Arithmetic where
  | add
  | subtract
  | multiply
  | divide
  | modulo
  | power
  deriving Repr, DecidableEq

inductive Comparison where
  | equal
  | notEqual
  | less
  | greater
  | lessEqual
  | greaterEqual
  deriving Repr, DecidableEq

inductive BinaryOperator where
  | arithmetic (operation : Arithmetic)
  | comparison (relation : Comparison)
  | index
  | sameType
  deriving Repr, DecidableEq

def Arithmetic.kind : Arithmetic → TokenKind
  | .add => .add
  | .subtract => .subtract
  | .multiply => .multiply
  | .divide => .divide
  | .modulo => .modulo
  | .power => .power

def Comparison.kind : Comparison → TokenKind
  | .equal => .equal
  | .notEqual => .notEqual
  | .less => .less
  | .greater => .greater
  | .lessEqual => .lessEqual
  | .greaterEqual => .greaterEqual

def BinaryOperator.kind : BinaryOperator → TokenKind
  | .arithmetic operation => operation.kind
  | .comparison relation => relation.kind
  | .index => .index
  | .sameType => .sameType

def BinaryOperator.ofKind? : TokenKind → Option BinaryOperator
  | .add => some (.arithmetic .add)
  | .subtract => some (.arithmetic .subtract)
  | .multiply => some (.arithmetic .multiply)
  | .divide => some (.arithmetic .divide)
  | .modulo => some (.arithmetic .modulo)
  | .power => some (.arithmetic .power)
  | .equal => some (.comparison .equal)
  | .notEqual => some (.comparison .notEqual)
  | .less => some (.comparison .less)
  | .greater => some (.comparison .greater)
  | .lessEqual => some (.comparison .lessEqual)
  | .greaterEqual => some (.comparison .greaterEqual)
  | .index => some .index
  | .sameType => some .sameType
  | _ => none

def Arithmetic.symbol : Arithmetic → String
  | .add => "+"
  | .subtract => "-"
  | .multiply => "*"
  | .divide => "/"
  | .modulo => "%"
  | .power => "^"

def Comparison.symbol : Comparison → String
  | .equal => "=="
  | .notEqual => "!="
  | .less => "<"
  | .greater => ">"
  | .lessEqual => "<="
  | .greaterEqual => ">="

/-- Why an operator gives no result. Contents that break a rule are no matter of the operands'
types and are never reported as one. -/
inductive Rejection where
  | operands (operator : TokenKind)
  | moduloByZero
  | broken (breakdown : Breakdown)
  deriving Repr

def Rejection.ofMismatch (mismatch : Mismatch) : Rejection :=
  .broken (.mismatch mismatch)

def Rejection.message : Rejection → String
  | .operands operator => operator.code
  | .moduloByZero => "modulo by zero"
  | .broken breakdown => breakdown.message

/-- Content taken for a double: a text is read as a numeral. -/
def Payload.toDouble : Payload → Except Rejection Float
  | .int value =>
      match Decimal.ofInteger? value with
      | some number => .ok number
      | Option.none => .error (.broken (.excess .double))
  | .float value => .ok value
  | .notANumber _ => .ok Decimal.notANumber
  | .text value => (Numeral.double value).mapError .broken
  | .none => .error (.ofMismatch (.notConverted .none))

end VectorCalc

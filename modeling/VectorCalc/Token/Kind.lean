/-!
Kinds of tokens. Each kind has a code, which is also how a tree names an operator, and
all but unknown kinds have a name for diagnostics. The fixed lexemes of the language
are the symbols and the reserved words listed here.
-/
namespace VectorCalc

set_option autoImplicit false

inductive TokenKind where
  | blank
  | bad
  | lineEnd
  | fileEnd
  | int
  | float
  | infinity
  | pi
  | variable
  | sameType
  | equal
  | notEqual
  | less
  | greater
  | lessEqual
  | greaterEqual
  | add
  | subtract
  | multiply
  | divide
  | power
  | modulo
  | index
  | groupOpen
  | groupClose
  | vectorOpen
  | vectorClose
  | braceOpen
  | braceClose
  | other (code : String)
  deriving Repr, DecidableEq, Inhabited

namespace TokenKind

def code : TokenKind → String
  | .blank => "WS"
  | .bad => "ERROR"
  | .lineEnd => "NL"
  | .fileEnd => "EOF"
  | .int => "INT"
  | .float => "FLOAT"
  | .infinity => "INFINITY"
  | .pi => "PI"
  | .variable => "VARIABLE"
  | .sameType => "TYPE_EQ"
  | .equal => "EQUAL"
  | .notEqual => "NOT_EQUAL"
  | .less => "LESS"
  | .greater => "GREATER"
  | .lessEqual => "LESS_EQUAL"
  | .greaterEqual => "GREATER_EQUAL"
  | .add => "ADD"
  | .subtract => "SUBTRACT"
  | .multiply => "MULTIPLY"
  | .divide => "DIVIDE"
  | .power => "POWER"
  | .modulo => "MODULO"
  | .index => "HASHTAG"
  | .groupOpen => "GROUP_IN"
  | .groupClose => "GROUP_OUT"
  | .vectorOpen => "VECTOR_IN"
  | .vectorClose => "VECTOR_OUT"
  | .braceOpen => "BRACE_IN"
  | .braceClose => "BRACE_OUT"
  | .other code => code

def named : List TokenKind :=
  [.blank, .bad, .lineEnd, .fileEnd, .int, .float, .infinity, .pi, .variable, .sameType, .equal,
    .notEqual, .less, .greater, .lessEqual, .greaterEqual, .add, .subtract, .multiply, .divide,
    .power, .modulo, .index, .groupOpen, .groupClose, .vectorOpen, .vectorClose, .braceOpen,
    .braceClose]

def ofCode (code : String) : TokenKind :=
  (named.find? fun kind => kind.code == code).getD (.other code)

def title? : TokenKind → Option String
  | .blank => some "white space"
  | .bad => some "error"
  | .lineEnd => some "end of line"
  | .fileEnd => some "end of file"
  | .int => some "int"
  | .float => some "float"
  | .infinity => some "infinity"
  | .pi => some "pi"
  | .variable => some "variable"
  | .sameType => some "'is'"
  | .equal => some "'='"
  | .notEqual => some "'!='"
  | .less => some "'<'"
  | .greater => some "'>'"
  | .lessEqual => some "'<='"
  | .greaterEqual => some "'>='"
  | .add => some "'+'"
  | .subtract => some "'-'"
  | .multiply => some "'*'"
  | .divide => some "'/'"
  | .power => some "'^'"
  | .modulo => some "'%'"
  | .index => some "'#'"
  | .groupOpen => some "'('"
  | .groupClose => some "')'"
  | .vectorOpen => some "'['"
  | .vectorClose => some "']'"
  | .braceOpen => some "'\x7b'"
  | .braceClose => some "'\x7d'"
  | .other _ => none

def ofWord (word : List Char) : TokenKind :=
  if word = ['i', 's'] then .sameType
  else if word = ['p', 'i'] then .pi
  else if word = ['i', 'n', 'f'] then .infinity
  else if word = ['i', 'n', 'f', 'i', 'n', 'i', 't', 'y'] then .infinity
  else .variable

def ofSymbol? : Char → Option TokenKind
  | '=' => some .equal
  | '<' => some .less
  | '>' => some .greater
  | '+' => some .add
  | '-' => some .subtract
  | '*' => some .multiply
  | '/' => some .divide
  | '^' => some .power
  | '%' => some .modulo
  | '#' => some .index
  | '(' => some .groupOpen
  | ')' => some .groupClose
  | '[' => some .vectorOpen
  | ']' => some .vectorClose
  | '\x7b' => some .braceOpen
  | '\x7d' => some .braceClose
  | _ => none

def ofSymbolPair? : Char → Char → Option TokenKind
  | '!', '=' => some .notEqual
  | '<', '=' => some .lessEqual
  | '>', '=' => some .greaterEqual
  | _, _ => none

end TokenKind

end VectorCalc

import VectorCalc.Cursor

/-!
What the rules of the grammar are written in. A rule can stop, and it tells each of its moves: the
phrases it enters and leaves, the tokens it takes, and where it looks back at the token before.
Plain reading listens to none of this, so that it is the rules and nothing else.
-/
namespace VectorCalc

set_option autoImplicit false

/-- The levels of binary operations, loosest first. -/
inductive Level where
  | comparison
  | sum
  | product
  | power
  | index

def Level.operators : Level → List TokenKind
  | .comparison => [.equal, .notEqual, .less, .greater, .lessEqual, .greaterEqual, .sameType]
  | .sum => [.add, .subtract]
  | .product => [.multiply, .divide, .modulo]
  | .power => [.power]
  | .index => [.index]

inductive Phrase where
  | expression
  | chain (level : Level)
  | factor
  | call
  | atom

def Level.operand : Level → Phrase
  | .comparison => .chain .sum
  | .sum => .chain .product
  | .product => .chain .power
  | .power => .chain .index
  | .index => .factor

/-- What the reader does, and the cursor at which it does it. -/
inductive Move where
  | enter (phrase : Phrase) (cursor : Cursor)
  | advance (cursor : Cursor)
  /-- The end of the token before the current one is looked up. -/
  | touch (cursor : Cursor)
  /-- A rule that was entered at the one cursor is left at the other one. -/
  | leave (phrase : Phrase) (before after : Cursor)

class Reader (m : Type → Type) extends Monad m where
  /-- Goes on with the value, if there is one. -/
  settle {α : Type} (result : Except Stop α) : m α
  note (move : Move) : m Unit

abbrev RuleIn (m : Type → Type) := Cursor → m (Node × Cursor)

@[default_instance]
instance : Reader (Except Stop) where
  settle result := result
  note _ := .ok ()

abbrev Rule := RuleIn (Except Stop)

namespace Reader

section Steps

variable {m : Type → Type} [Reader m]

def fail {α : Type} (stop : Stop) : m α :=
  settle (.error stop)

def take (cursor : Cursor) : m Cursor := do
  note (.advance cursor)
  return cursor.advance

def takeMany : Nat → Cursor → m Cursor
  | 0, cursor => return cursor
  | count + 1, cursor => do takeMany count (← take cursor)

def skipLineEnds (cursor : Cursor) : m Cursor :=
  takeMany (cursor.rest.takeWhile fun token => token.kind = .lineEnd).length cursor

/-- The rule of a phrase, with the cursors at which it is entered and left. -/
def ruled (phrase : Phrase) (rule : RuleIn m) : RuleIn m := fun cursor => do
  note (.enter phrase cursor)
  let read ← rule cursor
  note (.leave phrase cursor read.2)
  return read

end Steps

section Plain

variable {α β : Type}

@[simp]
theorem plain_ok (value : α) (next : α → Except Stop β) :
    ((.ok value : Except Stop α) >>= next) = next value := rfl

@[simp]
theorem plain_error (stop : Stop) (next : α → Except Stop β) :
    ((.error stop : Except Stop α) >>= next) = .error stop := rfl

@[simp]
theorem plain_return (value : α) : (pure value : Except Stop α) = .ok value := rfl

@[simp]
theorem plain_settle (result : Except Stop α) : (settle result : Except Stop α) = result := rfl

@[simp]
theorem plain_note (move : Move) : (note move : Except Stop Unit) = .ok () := rfl

@[simp]
theorem plain_fail (stop : Stop) : (fail stop : Except Stop α) = .error stop := rfl

@[simp]
theorem plain_take (cursor : Cursor) : (take cursor : Except Stop Cursor) = .ok cursor.advance :=
  rfl

@[simp]
theorem plain_ruled (phrase : Phrase) (rule : Rule) : ruled phrase rule = rule := by
  funext cursor
  simp only [ruled, plain_note, plain_ok]
  cases rule cursor <;> rfl

end Plain

end Reader

end VectorCalc

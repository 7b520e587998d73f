import VectorCalc.Value

/-!
Names bound to values, in the order in which the names were first bound. Binding a name
again changes its value and not its position.
-/
namespace VectorCalc

set_option autoImplicit false

/-- What a variable node carries. Reading gives it a text; a tree made by hand may name a variable
by a number or by nothing at all. -/
abbrev Name := Payload

structure Bindings where
  entries : List (Name × Value) := []
  deriving Repr

namespace Bindings

def empty : Bindings := {}

def get? (bindings : Bindings) (name : Name) : Option Value :=
  (bindings.entries.find? fun entry => entry.1.sameName name).map Prod.snd

def contains (bindings : Bindings) (name : Name) : Bool :=
  (bindings.get? name).isSome

def size (bindings : Bindings) : Nat :=
  bindings.entries.length

def names (bindings : Bindings) : List Name :=
  bindings.entries.map Prod.fst

/-- A name that is there already keeps its place and its form. -/
def insertInto (name : Name) (value : Value) : List (Name × Value) → List (Name × Value)
  | [] => [(name, value)]
  | (other, old) :: entries =>
      if other.sameName name then (other, value) :: entries
      else (other, old) :: insertInto name value entries

def insert (bindings : Bindings) (name : Name) (value : Value) : Bindings :=
  ⟨insertInto name value bindings.entries⟩

def ofList (entries : List (Name × Value)) : Bindings :=
  entries.foldl (fun bindings entry => bindings.insert entry.1 entry.2) empty

def get (bindings : Bindings) (name : Name) : Except Breakdown Value :=
  match bindings.get? name with
  | some value => .ok value
  | none => .error (.missingKey name)

def describeEntries : List (Name × Value) → Except Breakdown (List String)
  | [] => .ok []
  | (name, value) :: entries => do
      let shown ← value.description
      let rest ← describeEntries entries
      return (name.quoted ++ ": " ++ shown) :: rest

def description (bindings : Bindings) : Except Breakdown String := do
  let shown ← describeEntries bindings.entries
  return "Context(\x7b" ++ ", ".intercalate shown ++ "\x7d)"

end Bindings

end VectorCalc

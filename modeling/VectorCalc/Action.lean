import VectorCalc.Bindings
import VectorCalc.Diagnostic

/-!
Steps of evaluation. A step starts from bindings and ends with a result or a reason to
stop; either way it leaves bindings behind and the calls it made. What was bound before a
step stopped stays bound.
-/
namespace VectorCalc

set_option autoImplicit false

structure Call where
  callee : Node
  parameter : Name
  argument : Value
  deriving Repr

structure Outcome (α : Type) where
  result : Except Stop α
  bindings : Bindings
  calls : List Call

abbrev Action (α : Type) := Bindings → Outcome α

namespace Action

variable {α β : Type}

def give (value : α) : Action α := fun bindings =>
  ⟨.ok value, bindings, []⟩

def fail (stop : Stop) : Action α := fun bindings =>
  ⟨.error stop, bindings, []⟩

def report (fault : Fault) (span : Span) : Action α :=
  fail (.issue ⟨fault, span⟩)

def andThen (first : Action α) (next : α → Action β) : Action β := fun bindings =>
  let before := first bindings
  match before.result with
  | .error stop => ⟨.error stop, before.bindings, before.calls⟩
  | .ok value =>
      let after := next value before.bindings
      ⟨after.result, after.bindings, before.calls ++ after.calls⟩

def look (name : Name) : Action (Option Value) := fun bindings =>
  ⟨.ok (bindings.get? name), bindings, []⟩

def bind (name : Name) (value : Value) : Action Unit := fun bindings =>
  ⟨.ok (), bindings.insert name value, []⟩

/-- Runs the body of a function in bindings of its own; the bindings outside stay as they are. -/
def enclosed (call : Call) (frame : Bindings) (body : Action Value) : Action Value :=
  fun bindings =>
    let inner := body frame
    ⟨inner.result, bindings, call :: inner.calls⟩

end Action

/-- What evaluation is put together from: actions in turn, and the nodes that are visited. -/
class Evaluator (m : Type → Type) where
  /-- An action that neither visits a node nor binds a name. -/
  perform {α : Type} (action : Action α) : m α
  andThen {α β : Type} (first : m α) (next : α → m β) : m β
  visiting {α : Type} (node : Node) (rest : m α) : m α
  bind (name : Name) (value : Value) : m Unit
  enclosed (call : Call) (frame : Bindings) (body : m Value) : m Value

instance : Evaluator Action where
  perform action := action
  andThen := Action.andThen
  visiting _ rest := rest
  bind := Action.bind
  enclosed := Action.enclosed

namespace Evaluator

variable {α β : Type}

@[simp]
theorem plain_perform (action : Action α) : (perform action : Action α) = action := rfl

@[simp]
theorem plain_and_then (first : Action α) (next : α → Action β) :
    andThen first next = first.andThen next := rfl

@[simp]
theorem plain_visiting (node : Node) (rest : Action α) : visiting node rest = rest := rfl

end Evaluator

end VectorCalc

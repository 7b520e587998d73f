import Mathlib.Tactic.SplitIfs
import VectorCalc.Proofs.Dependence
import VectorCalc.Proofs.Session

/-!
What evaluation leaves as it was. The names that a tree can bind are read off its assignments in
evaluated positions; whatever is bound, in a run that ends well or stops between two assignments,
is bound to one of them. The bodies of called functions need no induction here: their steps act on
frames of their own, so they are none of the tree's own steps, whatever those bodies may be.
-/
namespace VectorCalc

set_option autoImplicit false

namespace Node

def assigned : Node → List String
  | .mk .variable (.text name) _ _ => [name]
  | .mk .call _ (.mk .variable (.text name) _ _ :: _) _ => [name]
  | _ => []

mutual

/-- The names that assignments in evaluated positions bind. The body of a definition is in none. -/
def writes : Node → List String
  | .mk .assign _ [target, value] _ =>
      target.assigned ++ if target.kind = .variable then value.writes else []
  | .mk _ _ children _ => listWrites children

def listWrites : List Node → List String
  | [] => []
  | node :: others => node.writes ++ listWrites others

end

theorem writes_of_item {items : List Node} {item : Node} (member : item ∈ items) {name : String}
    (written : name ∈ item.writes) : name ∈ listWrites items := by
  induction items with
  | nil => cases member
  | cons node others induction =>
      rw [listWrites, List.mem_append]
      rcases List.mem_cons.mp member with same | later
      · rw [← same]
        exact .inl written
      · exact .inr (induction later)

end Node

namespace Bindings

theorem names_insert_into (name : Name) (value : Value) (entries : List (Name × Value)) :
    (insertInto name value entries).map Prod.fst = entries.map Prod.fst ∨
      (insertInto name value entries).map Prod.fst = entries.map Prod.fst ++ [name] := by
  induction entries with
  | nil => exact .inr rfl
  | cons entry entries induction =>
      obtain ⟨other, old⟩ := entry
      unfold insertInto
      split
      · exact .inl rfl
      · rcases induction with same | appended
        · exact .inl (by rw [List.map_cons, same, List.map_cons])
        · exact .inr (by rw [List.map_cons, appended, List.map_cons, List.cons_append])

theorem get_insert_other (bindings : Bindings) (text : String) (value : Value) {name : Name}
    (different : name ≠ .text text) :
    (bindings.insert (.text text) value).get? name = bindings.get? name := by
  have passed : (Payload.text text).sameName name = false := by
    cases name with
    | text other =>
        have unequal : text ≠ other := fun same => different (by rw [same])
        simpa [Payload.sameName, Payload.same] using unequal
    | _ => rfl
  obtain ⟨entries⟩ := bindings
  unfold insert get?
  dsimp only
  congr 1
  induction entries with
  | nil => simp [insertInto, passed]
  | cons entry entries induction =>
      obtain ⟨other, old⟩ := entry
      unfold insertInto
      split
      · next found =>
          have same := (same_name_text other text).mp found
          rw [same, List.find?_cons, passed, List.find?_cons, passed]
      · rw [List.find?_cons, List.find?_cons, induction]

/-- The names there were come first and in their order, and only the listed names can be new or
have another value than before. -/
structure Grows (names : List String) (before after : Bindings) : Prop where
  order : before.names <+: after.names
  kept : ∀ name : Name, (∀ text ∈ names, name ≠ .text text) → after.get? name = before.get? name
  bound : ∀ name ∈ after.names, name ∈ before.names ∨ ∃ text ∈ names, name = .text text

theorem grows_refl (names : List String) (bindings : Bindings) : bindings.Grows names bindings :=
  ⟨List.prefix_rfl, fun _ _ => rfl, fun _ member => .inl member⟩

theorem Grows.trans {names : List String} {before middle after : Bindings}
    (first : before.Grows names middle) (second : middle.Grows names after) :
    before.Grows names after where
  order := first.order.trans second.order
  kept name other := by rw [second.kept name other, first.kept name other]
  bound name member := by
    rcases second.bound name member with earlier | new
    · exact first.bound name earlier
    · exact .inr new

theorem grows_insert {names : List String} {text : String} (member : text ∈ names)
    (bindings : Bindings) (value : Value) :
    bindings.Grows names (bindings.insert (.text text) value) := by
  have added := names_insert_into (.text text) value bindings.entries
  refine ⟨?_, ?_, ?_⟩
  · rcases added with same | appended
    · exact ⟨[], (List.append_nil _).trans same.symm⟩
    · exact ⟨[.text text], appended.symm⟩
  · intro name other
    exact bindings.get_insert_other text value (other text member)
  · intro name present
    change name ∈ (insertInto (.text text) value bindings.entries).map Prod.fst at present
    rcases added with same | appended
    · rw [same] at present
      exact .inl present
    · rw [appended, List.mem_append, List.mem_singleton] at present
      exact present.imp_right fun same => ⟨text, member, same⟩

end Bindings

def Step.BindsWithin (names : List String) : Step → Prop
  | .bind name _ => ∃ text ∈ names, name = .text text
  | _ => True

theorem redo_grows {names : List String} {step : Step} (within : step.BindsWithin names)
    (start : Bindings) : start.Grows names (step.redo start) := by
  cases step with
  | bind name value =>
      obtain ⟨text, member, same⟩ := within
      subst same
      exact Bindings.grows_insert member start value
  | visit node => exact Bindings.grows_refl names start
  | inside step => exact Bindings.grows_refl names start

theorem redo_all_grows {names : List String} (steps : List Step)
    (within : ∀ step ∈ steps, step.BindsWithin names) (start : Bindings) :
    start.Grows names (steps.foldl Step.redo start) := by
  induction steps generalizing start with
  | nil => exact Bindings.grows_refl names start
  | cons step steps induction =>
      obtain ⟨first, rest⟩ := List.forall_mem_cons.mp within
      exact (redo_grows first start).trans (induction rest (step.redo start))

namespace Tracing

variable {α β : Type} {names : List String}

def Writes (names : List String) (tracing : Tracing α) : Prop :=
  ∀ start, ∀ step ∈ (tracing start).steps, step.BindsWithin names

theorem writes_of_fewer {fewer : List String} {tracing : Tracing α}
    (writes : tracing.Writes fewer) (included : ∀ name ∈ fewer, name ∈ names) :
    tracing.Writes names := by
  intro start step member
  have within := writes start step member
  cases step with
  | bind name value =>
      obtain ⟨text, found, same⟩ := within
      exact ⟨text, included text found, same⟩
  | visit node => trivial
  | inside step => trivial

theorem writes_silent (action : Action α) : (silent action).Writes names := by
  intro start step member
  cases member

theorem writes_visiting (node : Node) {rest : Tracing α} (writes : rest.Writes names) :
    (visiting node rest).Writes names := by
  intro start
  exact List.forall_mem_cons.mpr ⟨trivial, writes start⟩

theorem writes_bind {text : String} (member : text ∈ names) (value : Value) :
    (bind (.text text) value).Writes names := by
  intro start
  exact List.forall_mem_singleton.mpr ⟨text, member, rfl⟩

theorem writes_and_then {first : Tracing α} {next : α → Tracing β} (writes : first.Writes names)
    (nextWrites : ∀ value, (next value).Writes names) : (first.andThen next).Writes names := by
  intro start
  unfold andThen
  dsimp only
  cases (first start).outcome.result with
  | error stop => exact writes start
  | ok value => exact List.forall_mem_append.mpr ⟨writes start, nextWrites value _⟩

theorem writes_enclosed (call : Call) (frame : Bindings) (body : Tracing Value) :
    (enclosed call frame body).Writes names := by
  intro start step member
  obtain ⟨inner, _, same⟩ := List.mem_map.mp member
  rw [← same]
  trivial

end Tracing

namespace Evaluation

theorem trace_enter_writes {names : List String} (body : Node → Tracing Value) (callee : Node)
    (function argument : Value) : (enter body callee function argument).Writes names := by
  cases function with
  | function parameter inner => exact Tracing.writes_enclosed _ _ _
  | _ => exact Tracing.writes_silent _

theorem trace_part_writes {body : Node → Tracing Value} (parts : List Node) {part : Node}
    (member : part ∈ parts) (writes : ∀ span, (evaluateWith body part span).Writes part.writes)
    (span : Span) : (evaluateWith body part span).Writes (Node.listWrites parts) :=
  Tracing.writes_of_fewer (writes span) fun _ written => Node.writes_of_item member written

theorem trace_items_write {body : Node → Tracing Value} {names : List String} (items : List Node)
    (each : ∀ node ∈ items, ∀ span, (evaluateWith body node span).Writes names) :
    (evaluateItems body items).Writes names := by
  induction items with
  | nil =>
      rw [evaluateItems]
      exact Tracing.writes_silent _
  | cons node others induction =>
      obtain ⟨first, rest⟩ := List.forall_mem_cons.mp each
      rw [evaluateItems]
      apply Tracing.writes_and_then (first node.span)
      intro value
      apply Tracing.writes_and_then (Tracing.writes_silent _)
      intro number
      apply Tracing.writes_and_then (induction rest)
      intro numbers
      exact Tracing.writes_silent _

theorem assigned_of_variable {target : Node} {text : String}
    (found : Target.ofNode target = .ok (.variable (.text text))) : target.assigned = [text] := by
  obtain ⟨kind, payload, children, span⟩ := target
  unfold Target.ofNode at found
  split at found
  · next named =>
      cases named
      cases found
      rfl
  · split at found
    · split_ifs at found
      cases found
    · cases found
  · cases found

theorem assigned_of_function {target : Node} {text : String} {parameter : Name}
    (found : Target.ofNode target = .ok (.function (.text text) parameter)) :
    target.assigned = [text] := by
  obtain ⟨kind, payload, children, span⟩ := target
  unfold Target.ofNode at found
  split at found
  · cases found
  · next calls =>
      cases calls
      split at found
      · next name _ parts =>
          cases parts
          split_ifs at found with callee argument
          obtain ⟨calleeKind, calleePayload, calleeChildren, calleeSpan⟩ := name
          cases Decidable.of_not_not callee
          cases found
          rfl
      · cases found
  · cases found

theorem trace_with_writes (body : Node → Tracing Value) {node : Node} (formed : node.WellFormed)
    (span : Span) : (evaluateWith body node span).Writes node.writes := by
  induction node using Node.induction_on_children generalizing span with
  | node whole induction =>
      have parts (child : Node) (member : child ∈ whole.children) :
          ∀ place, (evaluateWith body child place).Writes child.writes :=
        induction child member (Node.child_well_formed formed member)
      unfold evaluateWith
      apply Tracing.writes_visiting whole
      cases formed with
      | int _ => exact Tracing.writes_silent _
      | float => exact Tracing.writes_silent _
      | infinity => exact Tracing.writes_silent _
      | pi => exact Tracing.writes_silent _
      | name _ => exact Tracing.writes_silent _
      | @vector items _ _ =>
          simp only [Node.writes]
          have each (node : Node) (member : node ∈ items) :=
            trace_part_writes items member (parts node member)
          apply Tracing.writes_and_then (trace_items_write items each)
          intro values
          exact Tracing.writes_silent _
      | @binary operator left right _ _ _ _ =>
          have leftWrites := trace_part_writes [left, right] (by simp)
            (parts left (by simp [Node.children]))
          have rightWrites := trace_part_writes [left, right] (by simp)
            (parts right (by simp [Node.children]))
          simp only [Node.writes]
          apply Tracing.writes_and_then (leftWrites _)
          intro leftValue
          apply Tracing.writes_and_then (rightWrites _)
          intro rightValue
          exact Tracing.writes_silent _
      | @unary operand _ _ =>
          have writes := trace_part_writes [operand] (by simp)
            (parts operand (by simp [Node.children]))
          simp only [Node.writes]
          apply Tracing.writes_and_then (writes _)
          intro value
          exact Tracing.writes_silent _
      | @assign target value _ bindable first _ =>
          have writes := parts value (by simp [Node.children])
          rw [Node.writes]
          rcases target_cases first bindable with
            ⟨named, name, found, text, same, _⟩ | ⟨_, part, found⟩ |
              ⟨_, name, parameter, found, ⟨text, same, _⟩, _⟩
          · subst same
            rw [if_pos named, assigned_of_variable found]
            simp only [found]
            have valueWrites :
                (evaluateWith body value value.span).Writes ([text] ++ value.writes) :=
              Tracing.writes_of_fewer (writes _) fun _ => List.mem_append_right _
            apply Tracing.writes_and_then valueWrites
            intro result
            apply Tracing.writes_and_then (Tracing.writes_bind (by simp) result)
            intro _
            exact Tracing.writes_silent _
          · simp only [found]
            exact Tracing.writes_silent _
          · subst same
            rw [assigned_of_function found]
            simp only [found]
            apply Tracing.writes_and_then (Tracing.writes_bind (by simp) _)
            intro _
            exact Tracing.writes_silent _
      | @call callee argument _ _ _ =>
          have argumentWrites := trace_part_writes [callee, argument] (by simp)
            (parts argument (by simp [Node.children]))
          have calleeWrites := trace_part_writes [callee, argument] (by simp)
            (parts callee (by simp [Node.children]))
          simp only [Node.writes]
          apply Tracing.writes_and_then (argumentWrites _)
          intro argumentValue
          apply Tracing.writes_and_then (calleeWrites _)
          intro function
          exact trace_enter_writes body callee function argumentValue

theorem trace_writes (depth : Nat) {node : Node} (formed : node.WellFormed) (span : Span) :
    (trace depth node span).Writes node.writes := by
  cases depth <;> exact trace_with_writes _ formed span

theorem evaluate_grows (depth : Nat) {node : Node} (formed : node.WellFormed) (span : Span)
    (start : Bindings) : start.Grows node.writes (evaluate depth node span start).bindings := by
  rw [evaluate_is_traced, trace_redoes]
  exact redo_all_grows _ (trace_writes depth formed span start) start

/-- The body that is entered leaves no trace in the bindings of its caller. -/
theorem enter_still (body : Node → Action Value) (callee : Node) (function argument : Value) :
    (enter body callee function argument).Still := by
  intro start
  cases function <;> rfl

/-- A call binds what its argument and its callee bind, and nothing more. -/
theorem call_bindings (depth : Nat) (callee argument : Node) (extent span : Span)
    (start : Bindings) :
    (evaluate depth (Node.call callee argument extent) span start).bindings =
      ((evaluate depth argument argument.span).andThen
        (fun _ => evaluate depth callee callee.span) start).bindings := by
  have with_body (body : Node → Action Value) :
      (evaluateWith body (Node.call callee argument extent) span start).bindings =
        ((evaluateWith body argument argument.span).andThen
          (fun _ => evaluateWith body callee callee.span) start).bindings := by
    unfold Node.call
    rw [evaluateWith]
    simp only [Evaluator.plain_visiting, Evaluator.plain_and_then]
    unfold Action.andThen
    dsimp only
    cases (evaluateWith body argument argument.span start).result with
    | error stop => rfl
    | ok argumentValue =>
        dsimp only
        cases (evaluateWith body callee callee.span
            (evaluateWith body argument argument.span start).bindings).result with
        | error stop => rfl
        | ok function => exact enter_still body callee function argumentValue _
  cases depth <;> exact with_body _

end Evaluation

/-- An input that cannot be read changes nothing. Any other leaves the names there were in their
place and changes or adds only names that its tree assigns to, whether it ends in a value or stops
on the way; and the body of a function changes nothing outside of itself. -/
theorem run_changes_only_assigned_names (depth : Nat) (start : Bindings) (text : String) :
    (∀ stop, parseText text = .error stop → (runText depth start text).bindings = start) ∧
    (∀ tree, parseText text = .ok tree →
      start.names <+: (runText depth start text).bindings.names ∧
      (∀ name : Name, (∀ assigned ∈ tree.writes, name ≠ .text assigned) →
        (runText depth start text).bindings.get? name = start.get? name) ∧
      ∀ name ∈ (runText depth start text).bindings.names,
        name ∈ start.names ∨ ∃ assigned ∈ tree.writes, name = .text assigned) ∧
    ∀ (callee argument : Node) (extent span : Span),
      (Evaluation.evaluate depth (Node.call callee argument extent) span start).bindings =
        ((Evaluation.evaluate depth argument argument.span).andThen
          (fun _ => Evaluation.evaluate depth callee callee.span) start).bindings := by
  refine ⟨?_, ?_, fun callee argument extent span =>
    Evaluation.call_bindings depth callee argument extent span start⟩
  · intro stop failed
    rcases run_text_cases depth start text with ⟨_, _, _, kept, _⟩ | ⟨tree, read, _⟩
    · exact kept
    · rw [failed] at read
      cases read
  · intro tree read
    rcases run_text_cases depth start text with ⟨_, failed, _⟩ | ⟨other, found, _, _, bindings⟩
    · rw [read] at failed
      cases failed
    · rw [read] at found
      cases found
      have grows := Evaluation.evaluate_grows depth (parse_text_well_formed read) tree.span start
      rw [bindings]
      exact ⟨grows.order, grows.kept, grows.bound⟩

/-- The function `g` assigns to `x` in its body, and the vector stops at its last item, which is not
bound. What was bound before it stays, and `x` has its old value outside of `g`. -/
theorem stopped_vector_changes_only_assigned_names :
    ∃ tree body, parseText "[(a=2) g(b=3) c]" = .ok tree ∧ parseText "x=y" = .ok body ∧
      tree.writes = ["a", "b"] ∧
      (runText 1 ⟨[(.text "x", .int 1), (.text "g", .function (.text "y") body)]⟩
        "[(a=2) g(b=3) c]").bindings.names = [.text "x", .text "g", .text "a", .text "b"] ∧
      (runText 1 ⟨[(.text "x", .int 1), (.text "g", .function (.text "y") body)]⟩
        "[(a=2) g(b=3) c]").bindings.get? (.text "x") = some (.int 1) := by
  obtain ⟨tree, read, writes⟩ : ∃ tree, parseText "[(a=2) g(b=3) c]" = .ok tree ∧
    tree.writes = ["a", "b"] := ⟨_, rfl, rfl⟩
  obtain ⟨body, bodyRead, bound⟩ : ∃ body, parseText "x=y" = .ok body ∧
      (runText 1 ⟨[(.text "x", .int 1), (.text "g", .function (.text "y") body)]⟩
        "[(a=2) g(b=3) c]").bindings.names = [.text "x", .text "g", .text "a", .text "b"] :=
    ⟨_, rfl, rfl⟩
  obtain ⟨_, kept, _⟩ := (run_changes_only_assigned_names 1
    ⟨[(.text "x", .int 1), (.text "g", .function (.text "y") body)]⟩
    "[(a=2) g(b=3) c]").2.1 tree read
  refine ⟨tree, body, read, bodyRead, writes, bound, ?_⟩
  rw [kept (.text "x") (by simp [writes])]
  rfl

end VectorCalc

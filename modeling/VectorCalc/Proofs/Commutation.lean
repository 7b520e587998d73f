import Mathlib.Data.List.Nodup
import VectorCalc.Proofs.Frame

/-!
Inputs that do not concern each other. If neither of two inputs assigns to a name that the other one
reads, and no name is assigned to by both, each of them ends as it would without the other,
whichever comes first and wherever it stops. What is bound afterwards is the same as well; only
names that were not bound before can stand in another order.
-/
namespace VectorCalc

set_option autoImplicit false

/-- Neither tree assigns to a name that the other one reads, and no name is assigned to by both. -/
structure Node.Independent (first second : Node) : Prop where
  firstUnread : first.writes.Disjoint second.reads
  secondUnread : second.writes.Disjoint first.reads
  apart : first.writes.Disjoint second.writes

theorem Node.Independent.symm {first second : Node} (independent : first.Independent second) :
    second.Independent first :=
  ⟨independent.secondUnread, independent.firstUnread, List.disjoint_symm independent.apart⟩

namespace Bindings

theorem text_is_bound (bindings : Bindings) (text : String) :
    .text text ∈ bindings.names ↔ ∃ value, bindings.get? (.text text) = some value := by
  unfold names get?
  rw [List.mem_map]
  constructor
  · rintro ⟨entry, member, same⟩
    have found : entry.1.sameName (.text text) = true := (same_name_text entry.1 text).mpr same
    cases first : bindings.entries.find? fun entry => entry.1.sameName (.text text) with
    | none => exact absurd found (List.find?_eq_none.mp first entry member)
    | some other => exact ⟨other.2, rfl⟩
  · rintro ⟨value, found⟩
    obtain ⟨entry, first, _⟩ := Option.map_eq_some_iff.mp found
    have same := List.find?_some first
    exact ⟨entry, List.mem_of_find?_eq_some first, (same_name_text entry.1 text).mp same⟩

theorem names_insert_text (text : String) (value : Value) (entries : List (Name × Value)) :
    (insertInto (.text text) value entries).map Prod.fst = entries.map Prod.fst ∨
      (.text text ∉ entries.map Prod.fst ∧
        (insertInto (.text text) value entries).map Prod.fst =
          entries.map Prod.fst ++ [.text text]) := by
  induction entries with
  | nil => exact .inr ⟨by simp, rfl⟩
  | cons entry entries induction =>
      obtain ⟨other, old⟩ := entry
      unfold insertInto
      split
      · exact .inl rfl
      · next different =>
          have unequal : Payload.text text ≠ other := by
            intro same
            exact different ((same_name_text other text).mpr same.symm)
          rcases induction with same | ⟨new, appended⟩
          · exact .inl (by rw [List.map_cons, same, List.map_cons])
          · refine .inr ⟨?_, by rw [List.map_cons, appended, List.map_cons, List.cons_append]⟩
            rw [List.map_cons, List.mem_cons]
            exact not_or.mpr ⟨unequal, new⟩

/-- The names there were come first, and each new one comes once. -/
def Adds (before after : Bindings) : Prop :=
  ∃ fresh, after.names = before.names ++ fresh ∧ fresh.Nodup ∧ before.names.Disjoint fresh

theorem adds_refl (bindings : Bindings) : bindings.Adds bindings :=
  ⟨[], (List.append_nil _).symm, List.nodup_nil, List.disjoint_nil_right _⟩

theorem Adds.trans {before middle after : Bindings} (first : before.Adds middle)
    (second : middle.Adds after) : before.Adds after := by
  obtain ⟨fresh, names, once, new⟩ := first
  obtain ⟨later, laterNames, laterOnce, laterNew⟩ := second
  rw [names] at laterNames laterNew
  have apart := List.disjoint_append_left.mp laterNew
  refine ⟨fresh ++ later, by rw [laterNames, List.append_assoc], ?_, ?_⟩
  · exact List.Nodup.append once laterOnce apart.2
  · exact List.disjoint_append_right.mpr ⟨new, apart.1⟩

theorem adds_insert (bindings : Bindings) (text : String) (value : Value) :
    bindings.Adds (bindings.insert (.text text) value) := by
  rcases names_insert_text text value bindings.entries with same | ⟨new, appended⟩
  · exact ⟨[], by rw [List.append_nil]; exact same, List.nodup_nil, List.disjoint_nil_right _⟩
  · exact ⟨[.text text], appended, List.nodup_singleton _, List.disjoint_singleton.mpr new⟩

/-- Both bind the same names to the same values. The names that were bound at the start come first
in both, and only the others can be in another order. -/
structure Rearranged (start first second : Bindings) : Prop where
  order : start.names <+: first.names
  otherOrder : start.names <+: second.names
  names : first.names.Perm second.names
  values : ∀ name, first.get? name = second.get? name

theorem rearranged_of_adds {start first second : Bindings} (adds : start.Adds first)
    (otherAdds : start.Adds second)
    (members : ∀ name, name ∈ first.names ↔ name ∈ second.names)
    (values : ∀ name, first.get? name = second.get? name) : start.Rearranged first second := by
  obtain ⟨fresh, names, once, new⟩ := adds
  obtain ⟨others, otherNames, otherOnce, otherNew⟩ := otherAdds
  have moved : fresh.Perm others := by
    rw [List.perm_ext_iff_of_nodup once otherOnce]
    intro name
    have same := members name
    rw [names, otherNames, List.mem_append, List.mem_append] at same
    constructor
    · intro member
      exact (same.mp (.inr member)).resolve_left fun old => new old member
    · intro member
      exact (same.mpr (.inr member)).resolve_left fun old => otherNew old member
  refine ⟨⟨fresh, names.symm⟩, ⟨others, otherNames.symm⟩, ?_, values⟩
  rw [names, otherNames]
  exact moved.append_left start.names

end Bindings

theorem redo_adds {names : List String} {step : Step} (within : step.BindsWithin names)
    (start : Bindings) : start.Adds (step.redo start) := by
  cases step with
  | bind name value =>
      obtain ⟨text, _, same⟩ := within
      subst same
      exact start.adds_insert text value
  | visit node => exact start.adds_refl
  | inside step => exact start.adds_refl

theorem redo_all_adds {names : List String} (steps : List Step)
    (within : ∀ step ∈ steps, step.BindsWithin names) (start : Bindings) :
    start.Adds (steps.foldl Step.redo start) := by
  induction steps generalizing start with
  | nil => exact start.adds_refl
  | cons step steps induction =>
      obtain ⟨first, rest⟩ := List.forall_mem_cons.mp within
      exact (redo_adds first start).trans (induction rest (step.redo start))

namespace Evaluation

theorem evaluate_adds (depth : Nat) {node : Node} (formed : node.WellFormed) (span : Span)
    (start : Bindings) : start.Adds (evaluate depth node span start).bindings := by
  rw [evaluate_is_traced, trace_redoes]
  exact redo_all_adds _ (trace_writes depth formed span start) start

/-- Bindings that have grown only by names that a tree does not read make no difference to it, and
what they agreed on before, they agree on afterwards. -/
theorem evaluate_after_growth (depth : Nat) {node : Node} (formed : node.WellFormed) (span : Span)
    {start grown : Bindings} {written : List String} (grows : start.Grows written grown)
    (unread : written.Disjoint node.reads) :
    (evaluate depth node span start).result = (evaluate depth node span grown).result ∧
      ∀ text, text ∉ written → (evaluate depth node span start).bindings.get? (.text text) =
        (evaluate depth node span grown).bindings.get? (.text text) := by
  have kept {text : String} (untouched : text ∉ written) :
      start.get? (.text text) = grown.get? (.text text) := by
    refine (grows.kept (.text text) ?_).symm
    intro other member same
    cases same
    exact untouched member
  have agree : start.Agree node.reads grown := fun text read => kept fun member =>
    unread member read
  have together := trace_depends depth formed span start grown agree
  rw [evaluate_is_traced, evaluate_is_traced]
  refine ⟨together.result, ?_⟩
  intro text untouched
  refine together.agreement [text] ?_ text (List.mem_singleton_self text)
  intro other member
  rw [List.mem_singleton.mp member]
  exact kept untouched

end Evaluation

theorem run_grows {text : String} {tree : Node} (read : parseText text = .ok tree) (depth : Nat)
    (start : Bindings) : start.Grows tree.writes (runText depth start text).bindings := by
  rw [(run_text_read read depth start).2]
  exact Evaluation.evaluate_grows depth (parse_text_well_formed read) tree.span start

theorem run_adds {text : String} {tree : Node} (read : parseText text = .ok tree) (depth : Nat)
    (start : Bindings) : start.Adds (runText depth start text).bindings := by
  rw [(run_text_read read depth start).2]
  exact Evaluation.evaluate_adds depth (parse_text_well_formed read) tree.span start

/-- A run of one input after the run of another one that it is independent of. -/
theorem run_after_independent {first second : String} {firstTree secondTree : Node}
    (firstRead : parseText first = .ok firstTree) (secondRead : parseText second = .ok secondTree)
    (independent : firstTree.Independent secondTree) (firstDepth secondDepth : Nat)
    (start : Bindings) :
    (runText secondDepth start second).result =
        (runText secondDepth (runText firstDepth start first).bindings second).result ∧
      ∀ text, text ∉ firstTree.writes →
        (runText secondDepth start second).bindings.get? (.text text) =
          (runText secondDepth (runText firstDepth start first).bindings second).bindings.get?
            (.text text) := by
  have unaffected := Evaluation.evaluate_after_growth secondDepth
    (parse_text_well_formed secondRead) secondTree.span (run_grows firstRead firstDepth start)
    independent.firstUnread
  rw [(run_text_read secondRead _ _).1, (run_text_read secondRead _ _).1,
    (run_text_read secondRead _ _).2, (run_text_read secondRead _ _).2]
  exact unaffected

/-- What two independent inputs leave bound is the same in both orders. A name that the first one
assigns to is left alone by the second, and any other name by the first. -/
theorem independent_runs_bind_alike {first second : String} {firstTree secondTree : Node}
    (firstRead : parseText first = .ok firstTree) (secondRead : parseText second = .ok secondTree)
    (independent : firstTree.Independent secondTree) (firstDepth secondDepth : Nat)
    (start : Bindings) (name : Name) :
    (runText secondDepth (runText firstDepth start first).bindings second).bindings.get? name =
      (runText firstDepth (runText secondDepth start second).bindings first).bindings.get?
        name := by
  have firstKept (here : Bindings) := (run_grows firstRead firstDepth here).kept name
  have secondKept (here : Bindings) := (run_grows secondRead secondDepth here).kept name
  by_cases written : ∃ text ∈ firstTree.writes, name = .text text
  · obtain ⟨text, member, same⟩ := written
    subst same
    have untouched : text ∉ secondTree.writes := fun also => independent.apart member also
    have left := secondKept (runText firstDepth start first).bindings (by
      intro other found same
      cases same
      exact untouched found)
    have right := (run_after_independent secondRead firstRead independent.symm secondDepth
      firstDepth start).2 text untouched
    exact left.trans right
  · have other : ∀ text ∈ firstTree.writes, name ≠ .text text :=
      fun text member same => written ⟨text, member, same⟩
    rw [firstKept (runText secondDepth start second).bindings other]
    by_cases textual : ∃ text, name = .text text
    · obtain ⟨text, same⟩ := textual
      subst same
      have untouched : text ∉ firstTree.writes := fun member => other text member rfl
      exact ((run_after_independent firstRead secondRead independent firstDepth secondDepth
        start).2 text untouched).symm
    · -- Only texts are ever bound, so any other name has the value it had at the start.
      have never : ∀ text ∈ secondTree.writes, name ≠ .text text :=
        fun text _ same => textual ⟨text, same⟩
      rw [secondKept (runText firstDepth start first).bindings never,
        secondKept start never, firstKept start other]

/-- What is bound after two independent inputs was bound at the start or is the name of a variable
that one of them assigns to. -/
theorem bound_after_both {first second : String} {firstTree secondTree : Node}
    (firstRead : parseText first = .ok firstTree) (secondRead : parseText second = .ok secondTree)
    (firstDepth secondDepth : Nat) (start : Bindings) {name : Name}
    (bound : name ∈
      (runText secondDepth (runText firstDepth start first).bindings second).bindings.names) :
    name ∈ start.names ∨ ∃ text, name = .text text := by
  rcases (run_grows secondRead secondDepth _).bound name bound with earlier | ⟨text, _, same⟩
  · rcases (run_grows firstRead firstDepth start).bound name earlier with old | ⟨text, _, same⟩
    · exact .inl old
    · exact .inr ⟨text, same⟩
  · exact .inr ⟨text, same⟩

theorem independent_runs_bind_same_names {first second : String} {firstTree secondTree : Node}
    (firstRead : parseText first = .ok firstTree) (secondRead : parseText second = .ok secondTree)
    (independent : firstTree.Independent secondTree) (firstDepth secondDepth : Nat)
    (start : Bindings) {name : Name}
    (bound : name ∈
      (runText secondDepth (runText firstDepth start first).bindings second).bindings.names) :
    name ∈
      (runText firstDepth (runText secondDepth start second).bindings first).bindings.names := by
  rcases bound_after_both firstRead secondRead firstDepth secondDepth start bound with
    old | ⟨text, same⟩
  · have once := (run_grows secondRead secondDepth start).order.subset old
    exact (run_grows firstRead firstDepth _).order.subset once
  · subst same
    rw [Bindings.text_is_bound] at bound ⊢
    rw [← independent_runs_bind_alike firstRead secondRead independent]
    exact bound

/-- Two inputs of which neither assigns to a name that the other reads or assigns to can change
places: each ends in the same value or for the same reason, and the same names are bound to the same
values afterwards, also when an input stops after some of its assignments. -/
theorem independent_inputs_commute {first second : String} {firstTree secondTree : Node}
    (firstRead : parseText first = .ok firstTree) (secondRead : parseText second = .ok secondTree)
    (independent : firstTree.Independent secondTree) (firstDepth secondDepth : Nat)
    (start : Bindings) :
    (runText firstDepth start first).result =
        (runText firstDepth (runText secondDepth start second).bindings first).result ∧
      (runText secondDepth (runText firstDepth start first).bindings second).result =
        (runText secondDepth start second).result ∧
      start.Rearranged
        (runText secondDepth (runText firstDepth start first).bindings second).bindings
        (runText firstDepth (runText secondDepth start second).bindings first).bindings := by
  refine ⟨?_, ?_, ?_⟩
  · exact (run_after_independent secondRead firstRead independent.symm secondDepth firstDepth
      start).1
  · exact (run_after_independent firstRead secondRead independent firstDepth secondDepth
      start).1.symm
  · apply Bindings.rearranged_of_adds
    · exact (run_adds firstRead firstDepth start).trans (run_adds secondRead secondDepth _)
    · exact (run_adds secondRead secondDepth start).trans (run_adds firstRead firstDepth _)
    · intro name
      constructor
      · exact independent_runs_bind_same_names firstRead secondRead independent firstDepth
          secondDepth start
      · exact independent_runs_bind_same_names secondRead firstRead independent.symm secondDepth
          firstDepth start
    · exact independent_runs_bind_alike firstRead secondRead independent firstDepth secondDepth
        start

/-- The vector stops at `c`, which is not bound, after it has assigned to `a` and called `g`; the
other input assigns to `b` what `x` is bound to. -/
theorem stopped_vector_commutes :
    ∃ vector copy body, parseText "[(a=2) g(x) c]" = .ok vector ∧ parseText "b=x" = .ok copy ∧
      parseText "x=y" = .ok body ∧ vector.Independent copy ∧
      Bindings.Rearranged ⟨[(.text "x", .int 1), (.text "g", .function (.text "y") body)]⟩
        (runText 1 (runText 1 ⟨[(.text "x", .int 1), (.text "g", .function (.text "y") body)]⟩
          "[(a=2) g(x) c]").bindings "b=x").bindings
        (runText 1 (runText 1 ⟨[(.text "x", .int 1), (.text "g", .function (.text "y") body)]⟩
          "b=x").bindings "[(a=2) g(x) c]").bindings := by
  obtain ⟨vector, vectorRead, vectorWrites, vectorReads⟩ :
      ∃ tree, parseText "[(a=2) g(x) c]" = .ok tree ∧ tree.writes = ["a"] ∧
        tree.reads = ["g", "x", "c"] := ⟨_, rfl, rfl, rfl⟩
  obtain ⟨copy, copyRead, copyWrites, copyReads⟩ :
      ∃ tree, parseText "b=x" = .ok tree ∧ tree.writes = ["b"] ∧ tree.reads = ["x"] :=
    ⟨_, rfl, rfl, rfl⟩
  obtain ⟨body, bodyRead⟩ : ∃ tree, parseText "x=y" = .ok tree := ⟨_, rfl⟩
  have independent : vector.Independent copy :=
    ⟨by simp [vectorWrites, copyReads], by simp [copyWrites, vectorReads],
      by simp [vectorWrites, copyWrites]⟩
  exact ⟨vector, copy, body, vectorRead, copyRead, bodyRead, independent,
    (independent_inputs_commute vectorRead copyRead independent 1 1 _).2.2⟩

end VectorCalc

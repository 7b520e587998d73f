import VectorCalc.Proofs.Acceptance
import VectorCalc.Proofs.Unplaced

/-!
Layout. Of all the places of its tokens the reader asks for one thing only: whether a bracket that
opens a group touches the token before it. Token lists that agree on this and are the same but for
their spans are read in step. Both readings stand before the same index all the time, and they end
in trees that differ only in spans or in the same complaint about the tokens at one index.
-/
namespace VectorCalc

set_option autoImplicit false

/-- The same tokens in the same order, wherever they stand. A bracket that opens a group touches the
token before it in both lists or in neither. -/
structure SameLayout (first second : List Token) : Prop where
  tokens : first.map Token.unplaced = second.map Token.unplaced
  touching : ∀ index token other, first[index + 1]? = some token →
    second[index + 1]? = some other → token.kind = .groupOpen →
      token.follows first[index]? = other.follows second[index]?

def cursorAt (tokens : List Token) (index : Nat) : Cursor :=
  Cursor.advanceBy index (Cursor.ofTokens tokens)

namespace Cursor

theorem advance_by_add (count more : Nat) (cursor : Cursor) :
    advanceBy more (advanceBy count cursor) = advanceBy (count + more) cursor := by
  induction count generalizing cursor with
  | zero => rw [Nat.zero_add, advanceBy]
  | succ count induction => rw [Nat.succ_add, advanceBy, advanceBy, induction]

theorem advance_by_rest (count : Nat) (cursor : Cursor) :
    (advanceBy count cursor).rest = cursor.rest.drop count := by
  induction count generalizing cursor with
  | zero => rfl
  | succ count induction =>
      rw [advanceBy, induction]
      unfold advance
      cases cursor.rest with
      | nil => simp
      | cons token others => rfl

theorem current_unplaced (cursor : Cursor) :
    cursor.current.unplaced =
      (cursor.rest.map Token.unplaced).headD ⟨.fileEnd, .none, {}⟩ := by
  unfold current
  cases cursor.rest with
  | nil =>
      unfold endToken
      cases cursor.last <;> rfl
  | cons token others => rfl

end Cursor

theorem advance_cursor_at (tokens : List Token) (index : Nat) :
    (cursorAt tokens index).advance = cursorAt tokens (index + 1) :=
  Cursor.advance_by_add index 1 (Cursor.ofTokens tokens)

theorem rest_cursor_at (tokens : List Token) (index : Nat) :
    (cursorAt tokens index).rest = tokens.drop index :=
  Cursor.advance_by_rest index (Cursor.ofTokens tokens)

theorem last_cursor_at {tokens : List Token} {index : Nat} (inside : index + 1 < tokens.length) :
    (cursorAt tokens (index + 1)).last = tokens[index]? := by
  have passes := Cursor.advance_by_passes (index + 1) (Cursor.ofTokens tokens)
    (Nat.le_of_lt inside)
  have last : (cursorAt tokens (index + 1)).last = (tokens.take (index + 1)).getLast?.or none :=
    passes.last
  rw [last, Option.or_none, List.getLast?_take, if_neg (Nat.succ_ne_zero index),
    Nat.add_sub_cancel, List.getElem?_eq_getElem (Nat.lt_of_succ_lt inside), Option.some_or]

theorem current_cursor_at {tokens : List Token} {index : Nat}
    (inside : (cursorAt tokens index).kind ≠ .fileEnd) :
    tokens[index]? = some (cursorAt tokens index).current := by
  obtain ⟨others, rest⟩ := Cursor.rest_of_kind inside
  rw [rest_cursor_at] at rest
  rw [← List.head?_drop, rest, List.head?_cons]

namespace SameLayout

variable {first second : List Token}

theorem current (layout : SameLayout first second) (index : Nat) :
    (cursorAt first index).current.unplaced = (cursorAt second index).current.unplaced := by
  rw [Cursor.current_unplaced, Cursor.current_unplaced, rest_cursor_at, rest_cursor_at,
    List.map_drop, List.map_drop, layout.tokens]

theorem kind (layout : SameLayout first second) (index : Nat) :
    (cursorAt second index).kind = (cursorAt first index).kind := by
  have kinds := congrArg Token.kind (layout.current index)
  exact kinds.symm

theorem payload (layout : SameLayout first second) (index : Nat) :
    (cursorAt second index).current.payload = (cursorAt first index).current.payload := by
  have payloads := congrArg Token.payload (layout.current index)
  exact payloads.symm

theorem touches (layout : SameLayout first second) {index : Nat}
    (opens : (cursorAt first index).kind = .groupOpen) :
    (cursorAt second index).touches = (cursorAt first index).touches := by
  cases index with
  | zero => rfl
  | succ index =>
      have otherOpens : (cursorAt second (index + 1)).kind = .groupOpen := by
        rw [layout.kind, opens]
      have here := current_cursor_at (by rw [opens]; decide)
      have there := current_cursor_at (by rw [otherOpens]; decide)
      rw [Cursor.touches_eq_follows, Cursor.touches_eq_follows,
        last_cursor_at (List.getElem?_eq_some_iff.mp here).1,
        last_cursor_at (List.getElem?_eq_some_iff.mp there).1]
      exact (layout.touching index _ _ here there opens).symm

end SameLayout

/-- Both readings stop: at the tokens of one index, with the same complaint, or at the bound. -/
inductive StopAlike (first second : List Token) : Stop → Stop → Prop where
  | complaint {stop other : Stop} (index : Nat)
      (here : Complaint (cursorAt first index).current stop)
      (there : Complaint (cursorAt second index).current other)
      (same : stop.unplaced = other.unplaced) : StopAlike first second stop other
  | unfinished : StopAlike first second (.broken .unfinished) (.broken .unfinished)

inductive ReadAlike (first second : List Token) {α : Type} (related : α → α → Prop) :
    Except Stop α → Except Stop α → Prop where
  | reads {read other : α} (holds : related read other) :
      ReadAlike first second related (.ok read) (.ok other)
  | stops {stop other : Stop} (alike : StopAlike first second stop other) :
      ReadAlike first second related (.error stop) (.error other)

def InStep (first second : List Token) (read other : Node × Cursor) : Prop :=
  read.1.unplaced = other.1.unplaced ∧
    ∃ index, read.2 = cursorAt first index ∧ other.2 = cursorAt second index

def Rule.Steady (first second : List Token) (rule : Rule) : Prop :=
  ∀ index, ReadAlike first second (InStep first second) (rule (cursorAt first index))
    (rule (cursorAt second index))

section

variable {first second : List Token}

theorem ReadAlike.and_then {α β : Type} {related : α → α → Prop} {goal : β → β → Prop}
    {result other : Except Stop α} {next otherNext : α → Except Stop β}
    (alike : ReadAlike first second related result other)
    (goesOn : ∀ read otherRead, related read otherRead →
      ReadAlike first second goal (next read) (otherNext otherRead)) :
    ReadAlike first second goal (result >>= next) (other >>= otherNext) := by
  cases alike with
  | reads holds => exact goesOn _ _ holds
  | stops alike => exact .stops alike

theorem reads_in_step {tree other : Node} (same : tree.unplaced = other.unplaced) (index : Nat) :
    ReadAlike first second (InStep first second) (.ok (tree, cursorAt first index))
      (.ok (other, cursorAt second index)) :=
  .reads ⟨same, index, rfl, rfl⟩

def ClosedInStep (first second : List Token) (read other : Node × Token × Cursor) : Prop :=
  InStep first second (read.1, read.2.2) (other.1, other.2.2)

theorem expect_alike (layout : SameLayout first second) (kind : TokenKind)
    (known : kind ∈ [.groupClose, .lineEnd, .fileEnd]) (index : Nat) :
    ReadAlike first second (fun _ _ => True) ((cursorAt first index).expect kind)
      ((cursorAt second index).expect kind) := by
  unfold Cursor.expect
  rw [layout.kind]
  split
  · exact .reads trivial
  · refine .stops (.complaint index (.expected known) (.expected known) ?_)
    simp only [Stop.unplaced, Fault.unplaced, layout.current index]

end

namespace Grammar

open Reader

section Rules

variable {first second : List Token} (layout : SameLayout first second) {rule : Rule}
  (steady : rule.Steady first second)

include layout steady

theorem closed_alike (index : Nat) :
    ReadAlike first second (ClosedInStep first second) (closed rule (cursorAt first index))
      (closed rule (cursorAt second index)) := by
  simp only [closed, plain_settle, plain_take, plain_ok, plain_return]
  apply (steady index).and_then
  rintro ⟨inner, _⟩ ⟨other, _⟩ ⟨same, next, rfl, rfl⟩
  apply (expect_alike layout .groupClose (by simp) next).and_then
  intro closing otherClosing _
  dsimp only
  rw [advance_cursor_at, advance_cursor_at]
  exact .reads ⟨same, next + 1, rfl, rfl⟩

theorem items_alike (bound : Nat) {read other : List Node}
    (same : Node.allUnplaced read = Node.allUnplaced other) (span otherSpan : Span) (index : Nat) :
    ReadAlike first second (InStep first second)
      (items rule bound read span (cursorAt first index))
      (items rule bound other otherSpan (cursorAt second index)) := by
  induction bound generalizing read other span otherSpan index with
  | zero => exact .stops .unfinished
  | succ bound induction =>
      simp only [items, layout.kind, plain_take, plain_ok, plain_return, advance_cursor_at]
      split
      · apply reads_in_step
        simp only [Node.all_unplaced_eq_map] at same
        simp [Node.vector, Node.unplaced, Node.all_unplaced_eq_map, same]
      · apply (steady index).and_then
        rintro ⟨item, _⟩ ⟨otherItem, _⟩ ⟨sameItem, next, rfl, rfl⟩
        apply induction
        simp [Node.allUnplaced, same, sameItem]

theorem atom_steady (bound : Nat) : Rule.Steady first second (atom rule bound) := by
  intro index
  have kinds : (cursorAt second index).current.kind = (cursorAt first index).current.kind :=
    layout.kind index
  have payloads := layout.payload index
  have leaf (kind : NodeKind) (payload : Payload) (span otherSpan : Span) :
      ReadAlike first second (InStep first second)
        (.ok (Node.leaf kind payload span, cursorAt first (index + 1)))
        (.ok (Node.leaf kind payload otherSpan, cursorAt second (index + 1))) :=
    .reads ⟨rfl, index + 1, rfl, rfl⟩
  simp only [atom, Grammar.leaf, plain_ruled, plain_take, plain_ok, plain_return, plain_fail, kinds,
    payloads, advance_cursor_at]
  split
  case h_1 => exact leaf .int _ _ _
  case h_2 => exact leaf .float _ _ _
  case h_3 => exact leaf .variable _ _ _
  case h_4 => exact leaf .infinity .none _ _
  case h_5 => exact leaf .pi .none _ _
  case h_6 =>
      apply (closed_alike layout steady (index + 1)).and_then
      rintro ⟨inner, _, _⟩ ⟨other, _, _⟩ same
      exact .reads same
  case h_7 => exact items_alike layout steady bound rfl _ _ (index + 1)
  case h_8 =>
      refine .stops (.complaint index .unexpected .unexpected ?_)
      simp only [Stop.unplaced, Fault.unplaced, layout.current index]

theorem applications_alike (bound : Nat) {callee other : Node}
    (same : callee.unplaced = other.unplaced) (index : Nat) :
    ReadAlike first second (InStep first second)
      (applications rule bound callee (cursorAt first index))
      (applications rule bound other (cursorAt second index)) := by
  induction bound generalizing callee other index with
  | zero => exact .stops .unfinished
  | succ bound induction =>
      -- No other rule asks where a token stands, and this one only asks it of an opening bracket.
      have touching : (cursorAt second index).kind = .groupOpen ∧
          (cursorAt second index).touches = true ↔
            (cursorAt first index).kind = .groupOpen ∧ (cursorAt first index).touches = true := by
        rw [layout.kind]
        exact and_congr_right fun opens => by rw [layout.touches opens]
      by_cases argument :
          (cursorAt first index).kind = .groupOpen ∧ (cursorAt first index).touches = true
      · rw [applications_go_on rule bound callee argument,
          applications_go_on rule bound other (touching.mpr argument), advance_cursor_at,
          advance_cursor_at]
        apply (closed_alike layout steady (index + 1)).and_then
        rintro ⟨value, closing, _⟩ ⟨otherValue, otherClosing, _⟩ ⟨sameValue, next, rfl, rfl⟩
        apply induction
        simp [Node.call, Node.unplaced, Node.allUnplaced, same, sameValue]
      · rw [applications_end rule bound callee argument,
          applications_end rule bound other (mt touching.mp argument)]
        exact reads_in_step same index

theorem call_steady (bound : Nat) : Rule.Steady first second (call rule bound) := by
  intro index
  rw [call, plain_ruled]
  apply (atom_steady layout steady bound index).and_then
  rintro ⟨callee, _⟩ ⟨other, _⟩ ⟨same, next, rfl, rfl⟩
  exact applications_alike layout steady bound same next

theorem factor_steady (bound : Nat) : Rule.Steady first second (factor rule bound) := by
  induction bound with
  | zero => exact fun _ => .stops .unfinished
  | succ bound induction =>
      intro index
      simp only [factor, plain_ruled, layout.kind, plain_take, plain_ok, plain_return,
        advance_cursor_at]
      split
      · apply (induction (index + 1)).and_then
        rintro ⟨inner, _⟩ ⟨other, _⟩ ⟨same, next, rfl, rfl⟩
        apply reads_in_step
        simp [Node.unary, Node.unplaced, Node.allUnplaced, same]
      · exact steady index

theorem chain_alike (operators : List TokenKind) (bound : Nat) {left other : Node}
    (same : left.unplaced = other.unplaced) (index : Nat) :
    ReadAlike first second (InStep first second)
      (chain operators rule bound left (cursorAt first index))
      (chain operators rule bound other (cursorAt second index)) := by
  induction bound generalizing left other index with
  | zero => exact .stops .unfinished
  | succ bound induction =>
      simp only [chain, layout.kind, plain_take, plain_ok, plain_return, advance_cursor_at]
      split
      · apply (steady (index + 1)).and_then
        rintro ⟨right, _⟩ ⟨otherRight, _⟩ ⟨sameRight, next, rfl, rfl⟩
        apply induction
        simp [Node.binary, Node.unplaced, Node.allUnplaced, same, sameRight]
      · exact reads_in_step same index

theorem level_steady (level : Level) (bound : Nat) :
    Rule.Steady first second (Grammar.level level bound rule) := by
  intro index
  rw [Grammar.level, plain_ruled]
  apply (steady index).and_then
  rintro ⟨left, _⟩ ⟨other, _⟩ ⟨same, next, rfl, rfl⟩
  exact chain_alike layout steady level.operators bound same next

theorem sum_steady (bound : Nat) : Rule.Steady first second (sum rule bound) := by
  have factors := factor_steady layout (call_steady layout steady bound) bound
  have indexed := level_steady layout factors .index bound
  have powers := level_steady layout indexed .power bound
  have products := level_steady layout powers .product bound
  exact level_steady layout products .sum bound

theorem expression_with_steady (bound : Nat) :
    Rule.Steady first second (expressionWith rule bound) := by
  intro index
  have sums := sum_steady layout steady bound
  rw [expressionWith, plain_ruled]
  apply (sums index).and_then
  rintro ⟨left, _⟩ ⟨other, _⟩ ⟨same, next, rfl, rfl⟩
  have targets : isTarget other = isTarget left := by
    unfold isTarget
    rw [← Node.kind_unplaced other, ← Node.kind_unplaced left, same]
  simp only [layout.kind, targets, plain_take, plain_ok, plain_return, advance_cursor_at]
  split
  · apply (steady (next + 1)).and_then
    rintro ⟨value, _⟩ ⟨otherValue, _⟩ ⟨sameValue, last, rfl, rfl⟩
    apply reads_in_step
    simp [Node.assign, Node.unplaced, Node.allUnplaced, same, sameValue]
  · exact chain_alike layout sums Level.comparison.operators bound same next

end Rules

theorem expression_steady {first second : List Token} (layout : SameLayout first second)
    (bound : Nat) : Rule.Steady first second (expression bound) := by
  induction bound with
  | zero => exact fun _ => .stops .unfinished
  | succ bound induction => exact expression_with_steady layout induction (bound + 1)

end Grammar

/-- Skipping line ends goes by the kinds of the tokens. -/
theorem skip_cursor_at (tokens : List Token) (index : Nat) :
    (cursorAt tokens index).skipLineEnds = cursorAt tokens (index +
      (((tokens.map Token.unplaced).drop index).takeWhile
        fun token => token.kind = .lineEnd).length) := by
  unfold Cursor.skipLineEnds
  rw [rest_cursor_at, ← List.map_drop, List.takeWhile_map, List.length_map]
  exact Cursor.advance_by_add index _ (Cursor.ofTokens tokens)

theorem SameLayout.skips {first second : List Token} (layout : SameLayout first second)
    (index : Nat) :
    ∃ next, (cursorAt first index).skipLineEnds = cursorAt first next ∧
      (cursorAt second index).skipLineEnds = cursorAt second next :=
  ⟨_, skip_cursor_at first index, by rw [skip_cursor_at, layout.tokens]⟩

theorem finish_alike {first second : List Token} (layout : SameLayout first second) (index : Nat) :
    ReadAlike first second (fun _ _ => True) (Grammar.finish (cursorAt first index))
      (Grammar.finish (cursorAt second index)) := by
  obtain ⟨next, here, there⟩ := layout.skips index
  simp only [Grammar.finish, Reader.plain_settle, Cursor.plain_skip, Reader.plain_ok,
    Reader.plain_return]
  rw [layout.kind, here, there]
  split
  · exact .reads trivial
  · apply (expect_alike layout .lineEnd (by simp) index).and_then
    intro _ _ _
    apply (expect_alike layout .fileEnd (by simp) next).and_then
    intro _ _ _
    exact .reads trivial

/-- Token lists of one layout are read to trees that differ only in spans, or they are refused with
the same complaint about the tokens at one index. -/
theorem parse_alike {first second : List Token} (layout : SameLayout first second) :
    ReadAlike first second (fun tree other => tree.unplaced = other.unplaced) (parseTokens first)
      (parseTokens second) := by
  obtain ⟨start, here, there⟩ := layout.skips 0
  have lengths : second.length = first.length := by
    have mapped := congrArg List.length layout.tokens
    rwa [List.length_map, List.length_map, eq_comm] at mapped
  have inputs : ReadAlike first second (fun read other => read.1.unplaced = other.1.unplaced)
      (Grammar.input first) (Grammar.input second) := by
    change (Cursor.ofTokens first).skipLineEnds = _ at here
    change (Cursor.ofTokens second).skipLineEnds = _ at there
    simp only [Grammar.input, Cursor.plain_skip, Reader.plain_ok]
    rw [lengths, here, there]
    apply (Grammar.expression_steady layout (first.length + 1) start).and_then
    rintro ⟨tree, _⟩ ⟨other, _⟩ ⟨same, next, rfl, rfl⟩
    apply (finish_alike layout next).and_then
    intro _ _ _
    exact .reads same
  unfold parseTokens
  generalize Grammar.input first = result, Grammar.input second = otherResult at inputs
  cases inputs with
  | stops alike => exact .stops alike
  | reads same => exact .reads same

/-- Reading never stops at its bound, so what it stops at is an issue. -/
theorem parse_stops_alike {first second : List Token} {stop other : Stop}
    (stopped : parseTokens first = .error stop) (alike : StopAlike first second stop other) :
    ∃ issue otherIssue index, stop = .issue issue ∧ other = .issue otherIssue ∧
      Complaint (cursorAt first index).current stop ∧
      Complaint (cursorAt second index).current other ∧
      issue.fault.unplaced = otherIssue.fault.unplaced := by
  cases alike with
  | unfinished =>
      have agrees := parse_agrees first
      rw [stopped] at agrees
      cases agrees with
      | refuses refused =>
          obtain ⟨_, _, _, _, _, _, _, complaint⟩ := refused
          cases complaint
  | complaint index here there same =>
      rcases stop with issue | _
      · rcases other with otherIssue | _
        · exact ⟨issue, otherIssue, index, rfl, rfl, here, there,
            congrArg Issue.fault (Stop.issue.inj same)⟩
        · cases there
      · cases here

/-- Spans and labels matter only through brackets that touch. Token lists of one layout are read to
trees that differ only in spans, or they are refused in diagnostics of one class and wording that
are about the tokens at one index, whatever labels are put on them. And trees that differ only in
spans, evaluated from bindings that differ only in spans, end alike and leave bindings that differ
only in spans. The label of the input is not an argument of either, see `Issue.labelled`. -/
theorem layout_matters_only_through_touching :
    (∀ first second, SameLayout first second →
      (∃ tree other, parseTokens first = .ok tree ∧ parseTokens second = .ok other ∧
        tree.unplaced = other.unplaced) ∨
      ∃ issue other index, parseTokens first = .error (.issue issue) ∧
        parseTokens second = .error (.issue other) ∧
        Complaint (cursorAt first index).current (.issue issue) ∧
        Complaint (cursorAt second index).current (.issue other) ∧
        ∀ label otherLabel, (issue.labelled label).Alike (other.labelled otherLabel)) ∧
    ∀ (depth : Nat) (tree other : Node) (span otherSpan : Span) (start otherStart : Bindings),
      tree.unplaced = other.unplaced → start.unplaced = otherStart.unplaced →
      EndAlike (Evaluation.evaluate depth tree span start).result
          (Evaluation.evaluate depth other otherSpan otherStart).result ∧
        (Evaluation.evaluate depth tree span start).bindings.unplaced =
          (Evaluation.evaluate depth other otherSpan otherStart).bindings.unplaced := by
  constructor
  · intro first second layout
    have alike := parse_alike layout
    generalize here : parseTokens first = result at alike
    generalize there : parseTokens second = otherResult at alike
    cases alike with
    | reads same => exact .inl ⟨_, _, rfl, rfl, same⟩
    | stops alike =>
        obtain ⟨issue, other, index, rfl, rfl, complaint, otherComplaint, same⟩ :=
          parse_stops_alike here alike
        exact .inr ⟨issue, other, index, rfl, rfl, complaint, otherComplaint,
          labelled_alike same⟩
  · intro depth tree other span otherSpan start otherStart trees bindings
    exact evaluate_alike depth trees bindings span otherSpan

/-- The tokens of `f(2)`. -/
def tightCall : List Token :=
  [⟨.variable, .text "f", ⟨0, 1, 0, 0, 0, 1⟩⟩, ⟨.groupOpen, .text "(", ⟨1, 2, 0, 0, 1, 2⟩⟩,
    ⟨.int, .int 2, ⟨2, 3, 0, 0, 2, 3⟩⟩, ⟨.groupClose, .text ")", ⟨3, 4, 0, 0, 3, 4⟩⟩,
    ⟨.fileEnd, .none, ⟨4, 4, 0, 0, 4, 4⟩⟩]

/-- The tokens of `f( 2 )` in the second line, with a space before them. -/
def looseCall : List Token :=
  [⟨.variable, .text "f", ⟨2, 3, 1, 1, 1, 2⟩⟩, ⟨.groupOpen, .text "(", ⟨3, 4, 1, 1, 2, 3⟩⟩,
    ⟨.int, .int 2, ⟨5, 6, 1, 1, 4, 5⟩⟩, ⟨.groupClose, .text ")", ⟨7, 8, 1, 1, 6, 7⟩⟩,
    ⟨.fileEnd, .none, ⟨8, 8, 1, 1, 7, 7⟩⟩]

def identityAt (span : Span) : Bindings :=
  ⟨[(.text "f", .function (.text "x") (.leaf .variable (.text "x") span))]⟩

theorem loose_call_is_alike :
    SameLayout tightCall looseCall ∧
    ∃ tree other, parseTokens tightCall = .ok tree ∧ parseTokens looseCall = .ok other ∧
      EndAlike
        (Evaluation.evaluate 1 tree tree.span (identityAt ⟨7, 8, 0, 0, 7, 8⟩)).result
        (Evaluation.evaluate 1 other other.span (identityAt ⟨9, 10, 0, 0, 9, 10⟩)).result := by
  have layout : SameLayout tightCall looseCall := by
    refine ⟨rfl, ?_⟩
    intro index token other here there opens
    rcases index with _ | _ | _ | _ | index
    · cases here
      cases there
      rfl
    · cases here
      cases opens
    · cases here
      cases opens
    · cases here
      cases opens
    · cases here
  have bindings : (identityAt ⟨7, 8, 0, 0, 7, 8⟩).unplaced =
      (identityAt ⟨9, 10, 0, 0, 9, 10⟩).unplaced := rfl
  refine ⟨layout, ?_⟩
  rcases layout_matters_only_through_touching.1 _ _ layout with
    ⟨tree, other, read, otherRead, same⟩ | ⟨_, _, _, stopped, _⟩
  · exact ⟨tree, other, read, otherRead,
      (layout_matters_only_through_touching.2 1 tree other _ _ _ _ same bindings).1⟩
  · cases stopped

end VectorCalc

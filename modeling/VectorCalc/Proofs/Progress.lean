import VectorCalc.Proofs.Acceptance
import VectorCalc.Proofs.Walk

/-!
The reader goes forward and stays inside. Any token list at all can be given to it: without an end
of the file, with several of them, with tokens of no known kind. Every move of the reader is
accounted for by the tokens it takes, at nineteen moves for a token. A rule that comes to a result
has moves left over, so it has taken a token, and a rule that stops is in debt by the rules that it
is in. The accounts of the parts of a rule add up to that of the rule, whatever it is made of.
-/
namespace VectorCalc

set_option autoImplicit false

/-- The cursor goes on to the other one past tokens that do not end the file. -/
def Cursor.Reaches (cursor after : Cursor) : Prop :=
  ∃ taken, cursor.Passes taken after ∧ ∀ token ∈ taken, token.kind ≠ .fileEnd

namespace Cursor

theorem reaches_itself (cursor : Cursor) : cursor.Reaches cursor :=
  ⟨[], cursor.passes_nothing, by simp⟩

theorem Reaches.trans {cursor middle after : Cursor} (first : cursor.Reaches middle)
    (second : middle.Reaches after) : cursor.Reaches after := by
  obtain ⟨taken, passes, inside⟩ := first
  obtain ⟨others, further, insideToo⟩ := second
  exact ⟨taken ++ others, passes.trans further, List.forall_mem_append.mpr ⟨inside, insideToo⟩⟩

theorem reaches_advance {cursor : Cursor} (inside : cursor.kind ≠ .fileEnd) :
    cursor.Reaches cursor.advance :=
  ⟨[cursor.current], passes_current inside, List.forall_mem_singleton.mpr inside⟩

theorem Reaches.le {cursor after : Cursor} (reaches : cursor.Reaches after) :
    cursor.consumed ≤ after.consumed := by
  obtain ⟨taken, passes, _⟩ := reaches
  rw [passes.consumed]
  omega

theorem Reaches.count {cursor after : Cursor} (reaches : cursor.Reaches after) :
    after.consumed + after.rest.length = cursor.consumed + cursor.rest.length := by
  obtain ⟨taken, passes, _⟩ := reaches
  rw [passes.consumed, passes.rest, List.length_append]
  omega

theorem advance_length {cursor : Cursor} (inside : cursor.kind ≠ .fileEnd) :
    cursor.advance.rest.length + 1 = cursor.rest.length := by
  rw [(passes_current inside).rest]
  simp

end Cursor

/-- The cursors of a move are reached from the origin. A token that is taken does not end the file,
looking back is done after the origin only, and a rule that is left has gone forward. -/
def Move.Sound (origin : Cursor) : Move → Prop
  | .enter _ cursor => origin.Reaches cursor
  | .advance cursor => origin.Reaches cursor ∧ cursor.kind ≠ .fileEnd
  | .touch cursor => origin.Reaches cursor ∧ origin.consumed < cursor.consumed
  | .leave _ before after =>
      origin.Reaches before ∧ before.Reaches after ∧ before.consumed < after.consumed

def Move.taken? : Move → Option Token
  | .advance cursor => some cursor.current
  | _ => none

namespace Walk

open Reader

section Accounts

variable {α β : Type} {origin start : Cursor} {place : α → Cursor} {gain debt : Int}

def taken (walk : Walk α) : List Token :=
  walk.moves.filterMap Move.taken?

/-- The account of a walk, which goes past the tokens that it takes and no others. With a result it
is at a place and leaves `gain` moves of those that the tokens on the way allow. Without one it is
at most `debt` moves beyond what the tokens ahead allow. -/
structure Sound (origin start : Cursor) (place : α → Cursor) (gain debt : Int) (walk : Walk α) :
    Prop where
  moves : ∀ move ∈ walk.moves, move.Sound origin
  path : ∃ here, start.Passes walk.taken here ∧
    ∀ value, walk.result = .ok value → place value = here
  gives : ∀ value, walk.result = .ok value →
    walk.moves.length + gain + 19 * (place value).rest.length ≤ 19 * start.rest.length
  stops : ∀ stop, walk.result = .error stop →
    (walk.moves.length : Int) ≤ 19 * start.rest.length + debt

theorem Sound.passes {walk : Walk α} (sound : walk.Sound origin start place gain debt) {value : α}
    (given : walk.result = .ok value) : start.Passes walk.taken (place value) := by
  obtain ⟨here, passes, reaches⟩ := sound.path
  rw [reaches value given]
  exact passes

theorem Sound.reaches {walk : Walk α} (sound : walk.Sound origin start place gain debt) {value : α}
    (given : walk.result = .ok value) : start.Reaches (place value) := by
  refine ⟨walk.taken, sound.passes given, ?_⟩
  intro token member
  obtain ⟨move, inside, taken⟩ := List.mem_filterMap.mp member
  have here := sound.moves move inside
  cases move with
  | advance cursor =>
      cases taken
      exact here.2
  | _ => cases taken

theorem Sound.weaken {walk : Walk α} (sound : walk.Sound origin start place gain debt)
    {less more : Int} (smaller : less ≤ gain) (larger : debt ≤ more) :
    walk.Sound origin start place less more where
  moves := sound.moves
  path := sound.path
  gives := by
    intro value given
    have account := sound.gives value given
    omega
  stops := by
    intro stop failed
    have account := sound.stops stop failed
    omega

theorem sound_return {value : α} (here : place value = start) (spent : gain ≤ 0) :
    (pure value : Walk α).Sound origin start place gain debt where
  moves := List.forall_mem_nil _
  path := by
    refine ⟨start, start.passes_nothing, ?_⟩
    intro other same
    cases same
    exact here
  gives := by
    intro other same
    cases same
    rw [here]
    change ((0 : Nat) : Int) + gain + _ ≤ _
    omega
  stops := by
    intro stop failed
    cases failed

theorem sound_fail (stop : Stop) (solvent : 0 ≤ debt) :
    (fail stop : Walk α).Sound origin start place gain debt where
  moves := List.forall_mem_nil _
  path := by
    refine ⟨start, start.passes_nothing, ?_⟩
    intro value given
    cases given
  gives := by
    intro value given
    cases given
  stops := by
    intro _ _
    change ((0 : Nat) : Int) ≤ _
    omega

theorem sound_note {move : Move} {rest : Walk α} (still : move.taken? = none)
    (here : move.Sound origin) (sound : rest.Sound origin start place (gain + 1) (debt - 1)) :
    (note move >>= fun _ => rest).Sound origin start place gain debt where
  moves := List.forall_mem_cons.mpr ⟨here, sound.moves⟩
  path := by
    have same : (note move >>= fun _ => rest).taken = rest.taken := List.filterMap_cons_none still
    rw [same]
    exact sound.path
  gives := by
    intro value given
    have account := sound.gives value given
    change ((rest.moves.length + 1 : Nat) : Int) + _ + _ ≤ _
    omega
  stops := by
    intro stop failed
    have account := sound.stops stop failed
    change ((rest.moves.length + 1 : Nat) : Int) ≤ _
    omega

/-- A token pays for its own move and for eighteen more. -/
theorem sound_take {cursor : Cursor} {next : Cursor → Walk α} (reached : origin.Reaches cursor)
    (inside : cursor.kind ≠ .fileEnd)
    (sound : origin.Reaches cursor.advance →
      (next cursor.advance).Sound origin cursor.advance place (gain - 18) (debt + 18)) :
    (take cursor >>= next).Sound origin cursor place gain debt := by
  have ahead := Cursor.advance_length inside
  have later := sound (reached.trans (Cursor.reaches_advance inside))
  refine ⟨List.forall_mem_cons.mpr ⟨⟨reached, inside⟩, later.moves⟩, ?_, ?_, ?_⟩
  · obtain ⟨here, passes, reaches⟩ := later.path
    exact ⟨here, (Cursor.passes_current inside).trans passes, reaches⟩
  · intro value given
    have account := later.gives value given
    change (((next cursor.advance).moves.length + 1 : Nat) : Int) + _ + _ ≤ _
    omega
  · intro stop failed
    have account := later.stops stop failed
    change (((next cursor.advance).moves.length + 1 : Nat) : Int) ≤ _
    omega

theorem sound_bind {first : Walk α} {next : α → Walk β} {final : β → Cursor}
    {whole allowed : Int} (sound : first.Sound origin start place gain debt)
    (covered : debt ≤ allowed)
    (nextSound : ∀ value, start.Reaches (place value) →
      gain + 19 * (place value).rest.length ≤ 19 * start.rest.length →
      (next value).Sound origin (place value) final (whole - gain) (allowed + gain)) :
    (first >>= next).Sound origin start final whole allowed := by
  cases result : first.result with
  | error stop =>
      rw [bind_stopped result]
      obtain ⟨here, passes, _⟩ := sound.path
      refine ⟨sound.moves, ⟨here, passes, ?_⟩, ?_, ?_⟩
      · intro value given
        cases given
      · intro value given
        cases given
      · intro _ _
        have account := sound.stops stop result
        dsimp only
        omega
  | ok value =>
      rw [bind_given result]
      have account := sound.gives value result
      have later := nextSound value (sound.reaches result) (by omega)
      obtain ⟨here, further, reaches⟩ := later.path
      refine ⟨List.forall_mem_append.mpr ⟨sound.moves, later.moves⟩, ⟨here, ?_, reaches⟩, ?_, ?_⟩
      · unfold taken
        rw [List.filterMap_append]
        exact (sound.passes result).trans further
      · intro other given
        have rest := later.gives other given
        simp only [List.length_append]
        omega
      · intro stop failed
        have rest := later.stops stop failed
        simp only [List.length_append]
        omega

end Accounts

end Walk

/-- The moves that are left over once a phrase has been read. Whatever is read first inside of a
phrase leaves two more, for entering the phrase and for leaving it, and an atom one more for looking
back after it. -/
def Phrase.saving : Phrase → Int
  | .expression => 1
  | .chain .comparison => 1
  | .chain .sum => 3
  | .chain .product => 5
  | .chain .power => 7
  | .chain .index => 9
  | .factor => 11
  | .call => 13
  | .atom => 16

/-- How many rules may have been entered for nothing when a phrase is not read. -/
def Phrase.debt : Phrase → Int
  | .expression => 8
  | .chain .comparison => 8
  | .chain .sum => 7
  | .chain .product => 6
  | .chain .power => 5
  | .chain .index => 4
  | .factor => 3
  | .call => 2
  | .atom => 1

theorem Phrase.saving_positive (phrase : Phrase) : 0 < phrase.saving := by
  cases phrase with
  | chain level => cases level <;> decide
  | _ => decide

theorem Phrase.debt_bounded (phrase : Phrase) : 0 ≤ phrase.debt ∧ phrase.debt ≤ 8 := by
  cases phrase with
  | chain level => cases level <;> decide
  | _ => decide

theorem Level.chain_account (level : Level) :
    (Phrase.chain level).saving + 2 = level.operand.saving ∧
      level.operand.debt + 1 = (Phrase.chain level).debt := by
  cases level <;> decide

namespace Walk

open Reader

def RuleSound (phrase : Phrase) (rule : WalkRule) : Prop :=
  ∀ origin cursor, origin.Reaches cursor →
    (rule cursor).Sound origin cursor Prod.snd phrase.saving phrase.debt

/-- Where something is left over, a token was taken. -/
theorem goes_forward {start after : Cursor} {gain : Int} (reaches : start.Reaches after)
    (saves : 0 < gain) (account : gain + 19 * after.rest.length ≤ 19 * start.rest.length) :
    start.consumed < after.consumed := by
  have count := reaches.count
  omega

/-- Entering a rule and leaving it are two moves, and only the first one is made in vain. -/
theorem ruled_sound (phrase : Phrase) {rule : WalkRule}
    (sound : ∀ origin cursor, origin.Reaches cursor →
      (rule cursor).Sound origin cursor Prod.snd (phrase.saving + 2) (phrase.debt - 1)) :
    RuleSound phrase (ruled phrase rule) := by
  intro origin cursor reached
  have saves := phrase.saving_positive
  have entered : (Move.enter phrase cursor).Sound origin := reached
  refine sound_note rfl entered (sound_bind (sound origin cursor reached) (Int.le_refl _) ?_)
  intro read reaches account
  have left : (Move.leave phrase cursor read.2).Sound origin :=
    ⟨reached, reaches, goes_forward reaches (by omega) account⟩
  exact sound_note rfl left (sound_return rfl (by omega))

section Rules

variable {origin cursor : Cursor} {nested operand : WalkRule}

theorem chain_sound {phrase : Phrase} {operators : List TokenKind}
    (others : .fileEnd ∉ operators) (sound : RuleSound phrase operand) (bound : Nat) (left : Node)
    (reached : origin.Reaches cursor) :
    (Grammar.chain operators operand bound left cursor).Sound origin cursor Prod.snd 0 0 := by
  have saves := phrase.saving_positive
  have owes := phrase.debt_bounded
  induction bound generalizing left cursor with
  | zero => exact sound_fail _ (Int.le_refl 0)
  | succ bound induction =>
      unfold Grammar.chain
      split_ifs with operator
      · have inside : cursor.kind ≠ .fileEnd := fun ended => others (ended ▸ operator)
        -- The token of the operator pays for whatever its operand may owe.
        apply sound_take reached inside
        intro further
        apply sound_bind (sound origin _ further) (by omega)
        intro right reaches _
        have rest := induction (Node.binary cursor.kind left right.1) (further.trans reaches)
        exact rest.weaken (by omega) (by omega)
      · exact sound_return rfl (Int.le_refl 0)

theorem level_sound (level : Level) (bound : Nat) (sound : RuleSound level.operand operand) :
    RuleSound (.chain level) (Grammar.level level bound operand) := by
  have saves := level.operand.saving_positive
  have owes := level.operand.debt_bounded
  obtain ⟨saving, debt⟩ := level.chain_account
  have others : .fileEnd ∉ level.operators := by cases level <;> decide
  apply ruled_sound
  intro origin cursor reached
  apply sound_bind (sound origin cursor reached) (by omega)
  intro left reaches _
  have rest := chain_sound others sound bound left.1 (reached.trans reaches)
  exact rest.weaken (by omega) (by omega)

theorem closed_sound (sound : RuleSound .expression nested) (reached : origin.Reaches cursor) :
    (Grammar.closed nested cursor).Sound origin cursor (fun group => group.2.2) 19 8 := by
  apply sound_bind (sound origin cursor reached) (Int.le_refl _)
  intro inner reaches _
  dsimp only [Cursor.expect]
  by_cases closes : inner.2.kind = .groupClose
  · rw [if_pos closes, settle_ok]
    have inside : inner.2.kind ≠ .fileEnd := by simp [closes]
    exact sound_take (reached.trans reaches) inside fun _ => sound_return rfl (by decide)
  · rw [if_neg closes, settle_error]
    exact sound_fail _ (by decide)

theorem items_sound (sound : RuleSound .expression nested) (bound : Nat) (read : List Node)
    (span : Span) (reached : origin.Reaches cursor) :
    (Grammar.items nested bound read span cursor).Sound origin cursor Prod.snd 18 8 := by
  induction bound generalizing read span cursor with
  | zero => exact sound_fail _ (by decide)
  | succ bound induction =>
      unfold Grammar.items
      split_ifs with closes
      · have inside : cursor.kind ≠ .fileEnd := by simp [closes]
        exact sound_take reached inside fun _ => sound_return rfl (by decide)
      · -- Each item leaves something over, so the next one may owe as much as the first.
        apply sound_bind (sound origin cursor reached) (Int.le_refl _)
        intro item reaches _
        have rest := induction (item.1 :: read) (span.extend item.1.span) (reached.trans reaches)
        exact rest.weaken (by decide) (by decide)

theorem atom_sound (sound : RuleSound .expression nested) (bound : Nat) :
    RuleSound .atom (Grammar.atom nested bound) := by
  apply ruled_sound
  intro origin cursor reached
  have inside {kind : TokenKind} (same : cursor.current.kind = kind) (other : kind ≠ .fileEnd) :
      cursor.kind ≠ .fileEnd := fun ended => other (same.symm.trans ended)
  dsimp only
  split
  case h_1 kind | h_2 kind | h_3 kind | h_4 kind | h_5 kind =>
      exact sound_take reached (inside kind (by simp)) fun _ => sound_return rfl (by decide)
  case h_6 kind =>
      apply sound_take reached (inside kind (by simp))
      intro further
      apply sound_bind (closed_sound sound further) (by decide)
      intro group _ _
      exact sound_return rfl (by decide)
  case h_7 kind =>
      apply sound_take reached (inside kind (by simp))
      intro further
      exact (items_sound sound bound [] _ further).weaken (by decide) (by decide)
  case h_8 => exact sound_fail _ (by decide)

/-- Something has been taken before an argument is looked for, so there is a token to look back
at. -/
theorem applications_sound (sound : RuleSound .expression nested) (bound : Nat) (callee : Node)
    (reached : origin.Reaches cursor) (started : origin.consumed < cursor.consumed) :
    (Grammar.applications nested bound callee cursor).Sound origin cursor Prod.snd (-1) 1 := by
  induction bound generalizing callee cursor with
  | zero => exact sound_fail _ (by decide)
  | succ bound induction =>
      unfold Grammar.applications
      split_ifs with opens touches
      · have inside : cursor.kind ≠ .fileEnd := by simp [opens]
        have looked : (Move.touch cursor).Sound origin := ⟨reached, started⟩
        apply sound_note rfl looked
        apply sound_take reached inside
        intro further
        apply sound_bind (closed_sound sound further) (by decide)
        intro argument reaches _
        have onward := (Cursor.reaches_advance inside).trans reaches
        have later := onward.le
        have rest := induction
          (Node.call callee argument.1 (callee.span.extend argument.2.1.span))
          (further.trans reaches) (by omega)
        exact rest.weaken (by decide) (by decide)
      · have looked : (Move.touch cursor).Sound origin := ⟨reached, started⟩
        exact sound_note rfl looked (sound_return rfl (by decide))
      · exact sound_return rfl (by decide)

theorem call_sound (sound : RuleSound .expression nested) (bound : Nat) :
    RuleSound .call (Grammar.call nested bound) := by
  apply ruled_sound
  intro origin cursor reached
  apply sound_bind (atom_sound sound bound origin cursor reached) (by decide)
  intro callee reaches account
  have before := reached.le
  have forward := goes_forward reaches (by decide) account
  have rest := applications_sound sound bound callee.1 (reached.trans reaches) (by omega)
  exact rest.weaken (by decide) (by decide)

theorem factor_sound (sound : RuleSound .call operand) (bound : Nat) :
    RuleSound .factor (Grammar.factor operand bound) := by
  induction bound with
  | zero =>
      intro origin cursor _
      exact sound_fail _ (by decide)
  | succ bound induction =>
      apply ruled_sound
      intro origin cursor reached
      split_ifs with signed
      · have inside : cursor.kind ≠ .fileEnd := by simp [signed]
        apply sound_take reached inside
        intro further
        apply sound_bind (induction origin _ further) (by decide)
        intro inner _ _
        exact sound_return rfl (by decide)
      · exact (sound origin cursor reached).weaken (by decide) (by decide)

theorem index_sound (sound : RuleSound .expression nested) (bound : Nat) :
    RuleSound (.chain .index) (Grammar.index nested bound) :=
  level_sound .index bound (factor_sound (call_sound sound bound) bound)

theorem power_sound (sound : RuleSound .expression nested) (bound : Nat) :
    RuleSound (.chain .power) (Grammar.power nested bound) :=
  level_sound .power bound (index_sound sound bound)

theorem product_sound (sound : RuleSound .expression nested) (bound : Nat) :
    RuleSound (.chain .product) (Grammar.product nested bound) :=
  level_sound .product bound (power_sound sound bound)

theorem sum_sound (sound : RuleSound .expression nested) (bound : Nat) :
    RuleSound (.chain .sum) (Grammar.sum nested bound) :=
  level_sound .sum bound (product_sound sound bound)

theorem expression_with_sound (sound : RuleSound .expression nested) (bound : Nat) :
    RuleSound .expression (Grammar.expressionWith nested bound) := by
  have others : .fileEnd ∉ Level.comparison.operators := by decide
  apply ruled_sound
  intro origin cursor reached
  apply sound_bind (sum_sound sound bound origin cursor reached) (by decide)
  intro left reaches _
  have further := reached.trans reaches
  dsimp only
  split_ifs with assigns
  · have inside : left.2.kind ≠ .fileEnd := by simp [assigns.1]
    apply sound_take further inside
    intro onward
    apply sound_bind (sound origin _ onward) (by decide)
    intro value _ _
    exact sound_return rfl (by decide)
  · have rest := chain_sound others (sum_sound sound bound) bound left.1 further
    exact rest.weaken (by decide) (by decide)

end Rules

theorem expression_sound (bound : Nat) : RuleSound .expression (Grammar.expression bound) := by
  induction bound with
  | zero =>
      intro origin cursor _
      exact sound_fail _ (by decide)
  | succ bound induction => exact expression_with_sound induction (bound + 1)

theorem take_many_sound {origin cursor : Cursor} {count : Nat}
    (lines : ∀ token ∈ cursor.rest.take count, token.kind = .lineEnd)
    (enough : count ≤ cursor.rest.length) (reached : origin.Reaches cursor) :
    (takeMany count cursor : Walk Cursor).Sound origin cursor id 0 0 := by
  induction count generalizing cursor with
  | zero => exact sound_return rfl (Int.le_refl 0)
  | succ count induction =>
      cases rest : cursor.rest with
      | nil =>
          rw [rest] at enough
          cases enough
      | cons token others =>
          have ahead : cursor.rest = [token] ++ cursor.advance.rest :=
            (Cursor.passes_advance rest).rest
          rw [ahead] at lines enough
          rw [List.singleton_append, List.take_succ_cons, List.forall_mem_cons] at lines
          rw [List.singleton_append, List.length_cons] at enough
          have current : cursor.current = token := by simp only [Cursor.current, rest]
          have inside : cursor.kind ≠ .fileEnd := by simp [Cursor.kind, current, lines.1]
          apply sound_take reached inside
          intro further
          exact (induction lines.2 (by omega) further).weaken (by decide) (by decide)

theorem skip_sound {origin cursor : Cursor} (reached : origin.Reaches cursor) :
    (skipLineEnds cursor : Walk Cursor).Sound origin cursor id 0 0 := by
  have front : cursor.rest.takeWhile (fun token => token.kind = .lineEnd) <+: cursor.rest :=
    List.takeWhile_prefix _
  refine take_many_sound ?_ front.length_le reached
  intro token member
  rw [← List.prefix_iff_eq_take.mp front] at member
  exact of_decide_eq_true (List.all_eq_true.mp List.all_takeWhile token member)

theorem finish_sound {origin cursor : Cursor} (reached : origin.Reaches cursor) :
    (Grammar.finish cursor : Walk Cursor).Sound origin cursor id 0 0 := by
  unfold Grammar.finish Cursor.expect
  split_ifs with ended lineEnd
  · exact sound_return rfl (Int.le_refl 0)
  · rw [settle_ok]
    apply sound_bind (skip_sound reached) (Int.le_refl 0)
    intro after _ _
    split_ifs
    · exact sound_return rfl (Int.le_refl 0)
    · exact sound_fail _ (Int.le_refl 0)
  · exact sound_fail _ (Int.le_refl 0)

theorem input_sound (tokens : List Token) :
    (input tokens).Sound (Cursor.ofTokens tokens) (Cursor.ofTokens tokens) Prod.snd 0 8 := by
  have start := (Cursor.ofTokens tokens).reaches_itself
  apply sound_bind (skip_sound start) (by decide)
  intro first reached _
  apply sound_bind (expression_sound _ _ first reached) (by decide)
  intro read reaches _
  have further := reached.trans reaches
  apply sound_bind (finish_sound further) (by decide)
  intro final _ _
  exact sound_return rfl (by decide)

end Walk

theorem rule_goes_forward {phrase : Phrase} {walk : WalkRule} {rule : Rule}
    (sound : Walk.RuleSound phrase walk) (follows : Walk.Follows walk rule) {cursor after : Cursor}
    {tree : Node} (read : rule cursor = .ok (tree, after)) : cursor.consumed < after.consumed := by
  have walked := sound cursor cursor cursor.reaches_itself
  have given := (follows cursor).trans read
  have account := walked.gives (tree, after) given
  dsimp only at account
  exact Walk.goes_forward (walked.reaches given) phrase.saving_positive (by omega)

theorem rules_go_forward {bound : Nat} {rule : Rule} (member : rule ∈ Grammar.rules bound)
    {cursor after : Cursor} {tree : Node} (read : rule cursor = .ok (tree, after)) :
    cursor.consumed < after.consumed := by
  have sound := Walk.expression_sound bound
  have follows := Walk.expression_follows bound
  simp only [Grammar.rules, List.mem_cons, List.not_mem_nil, or_false] at member
  rcases member with rfl | rfl | rfl | rfl | rfl | rfl | rfl | rfl
  · exact rule_goes_forward (Walk.expression_with_sound sound _)
      (Walk.expression_with_follows follows _) read
  · exact rule_goes_forward (Walk.sum_sound sound _) (Walk.sum_follows follows _) read
  · exact rule_goes_forward (Walk.product_sound sound _) (Walk.product_follows follows _) read
  · exact rule_goes_forward (Walk.power_sound sound _) (Walk.power_follows follows _) read
  · exact rule_goes_forward (Walk.index_sound sound _) (Walk.index_follows follows _) read
  · exact rule_goes_forward (Walk.factor_sound (Walk.call_sound sound _) _)
      (Walk.factor_follows (Walk.call_follows follows _) _) read
  · exact rule_goes_forward (Walk.call_sound sound _) (Walk.call_follows follows _) read
  · exact rule_goes_forward (Walk.atom_sound sound _) (Walk.atom_follows follows _) read

/-- The cursor is at an index of the token list or at its end, with no end of the file behind
it. -/
structure Cursor.StandsIn (cursor : Cursor) (tokens : List Token) : Prop where
  bounded : cursor.consumed ≤ tokens.length
  rest : cursor.rest = tokens.drop cursor.consumed
  last : cursor.last = (tokens.take cursor.consumed).getLast?
  inside : ∀ token ∈ tokens.take cursor.consumed, token.kind ≠ .fileEnd

theorem count_from_start {tokens taken : List Token} {cursor : Cursor}
    (passes : (Cursor.ofTokens tokens).Passes taken cursor) : cursor.consumed = taken.length := by
  rw [passes.consumed]
  exact Nat.zero_add _

theorem taken_from_start {tokens taken : List Token} {cursor : Cursor}
    (passes : (Cursor.ofTokens tokens).Passes taken cursor) :
    tokens.take cursor.consumed = taken := by
  have shape : tokens = taken ++ cursor.rest := passes.rest
  rw [shape, count_from_start passes, List.take_left]

theorem reached_stands_in {tokens : List Token} {cursor : Cursor}
    (reached : (Cursor.ofTokens tokens).Reaches cursor) : cursor.StandsIn tokens := by
  obtain ⟨taken, passes, inside⟩ := reached
  have shape : tokens = taken ++ cursor.rest := passes.rest
  have consumed := count_from_start passes
  have front := taken_from_start passes
  refine ⟨?_, ?_, ?_, ?_⟩
  · rw [shape, consumed, List.length_append]
    omega
  · rw [consumed, shape, List.drop_left]
  · rw [front, passes.last]
    exact Option.or_none
  · rw [front]
    exact inside

namespace Move

def cursors : Move → List Cursor
  | .enter _ cursor => [cursor]
  | .advance cursor => [cursor, cursor.advance]
  | .touch cursor => [cursor]
  | .leave _ before after => [before, after]

/-- What is taken is a token of the list that does not end the file. What is looked back at is the
token of the list that was taken last. A rule that is left has taken a token. -/
def Safe (tokens : List Token) : Move → Prop
  | .enter _ _ => True
  | .advance cursor =>
      ∃ token, tokens[cursor.consumed]? = some token ∧ token.kind ≠ .fileEnd
  | .touch cursor => 0 < cursor.consumed ∧ cursor.consumed - 1 < tokens.length ∧
      ∃ token, tokens[cursor.consumed - 1]? = some token ∧ cursor.last = some token
  | .leave _ before after => before.consumed < after.consumed

end Move

theorem sound_move_stands_in {tokens : List Token} {move : Move}
    (sound : move.Sound (Cursor.ofTokens tokens)) :
    ∀ cursor ∈ move.cursors, cursor.StandsIn tokens := by
  cases move with
  | enter _ cursor => simpa [Move.cursors] using reached_stands_in sound
  | touch cursor => simpa [Move.cursors] using reached_stands_in sound.1
  | advance cursor =>
      have after := sound.1.trans (Cursor.reaches_advance sound.2)
      simpa [Move.cursors] using ⟨reached_stands_in sound.1, reached_stands_in after⟩
  | leave _ before after =>
      simpa [Move.cursors] using
        ⟨reached_stands_in sound.1, reached_stands_in (sound.1.trans sound.2.1)⟩

theorem sound_move_is_safe {tokens : List Token} {move : Move}
    (sound : move.Sound (Cursor.ofTokens tokens)) : move.Safe tokens := by
  cases move with
  | enter _ _ => trivial
  | leave _ before after => exact sound.2.2
  | advance cursor =>
      have stands := reached_stands_in sound.1
      obtain ⟨others, rest⟩ := Cursor.rest_of_kind sound.2
      refine ⟨cursor.current, ?_, sound.2⟩
      rw [stands.rest] at rest
      rw [← List.head?_drop, rest]
      rfl
  | touch cursor =>
      have stands := reached_stands_in sound.1
      have positive : 0 < cursor.consumed := sound.2
      have bounded := stands.bounded
      refine ⟨positive, by omega, tokens[cursor.consumed - 1], ?_, ?_⟩
      · exact List.getElem?_eq_getElem _
      · rw [stands.last, List.getLast?_take, if_neg (by omega), List.getElem?_eq_getElem (by omega)]
        rfl

/-- Reading any list of tokens ends with a tree or a diagnostic, after at most nineteen moves for a
token and eight more. The tokens are taken one after another from the first one on, and a tree is
given only at an end of the file. The cursor never leaves the list and never passes an end of the
file, looking back finds the token that was taken last, and every rule that is left has taken a
token, whatever cursor it was entered at. -/
theorem reading_goes_forward_within_its_tokens (tokens : List Token) :
    ((∃ tree, parseTokens tokens = .ok tree) ∨
      ∃ issue, parseTokens tokens = .error (.issue issue)) ∧
    (Walk.input tokens).result.map Prod.fst = parseTokens tokens ∧
    (Walk.input tokens).moves.length ≤ 19 * tokens.length + 8 ∧
    (Walk.input tokens).taken <+: tokens ∧
    (∀ tree final, (Walk.input tokens).result = .ok (tree, final) →
      (Walk.input tokens).taken = tokens.take final.consumed ∧ final.kind = .fileEnd) ∧
    (∀ move ∈ (Walk.input tokens).moves,
      (∀ cursor ∈ move.cursors, cursor.StandsIn tokens) ∧ move.Safe tokens) ∧
    ∀ bound, ∀ rule ∈ Grammar.rules bound, ∀ cursor tree after,
      rule cursor = .ok (tree, after) → cursor.consumed < after.consumed := by
  have sound := Walk.input_sound tokens
  have start : (Cursor.ofTokens tokens).rest.length = tokens.length := rfl
  refine ⟨?_, Walk.input_result tokens, ?_, ?_, ?_, ?_, ?_⟩
  · have agrees := parse_agrees tokens
    generalize parseTokens tokens = result at agrees ⊢
    cases agrees with
    | reads _ _ _ _ _ => exact .inl ⟨_, rfl⟩
    | refuses refused =>
        obtain ⟨_, _, _, _, _, _, _, complaint⟩ := refused
        cases complaint <;> exact .inr ⟨_, rfl⟩
  · cases ended : (Walk.input tokens).result with
    | ok read =>
        have account := sound.gives read ended
        omega
    | error stop =>
        have account := sound.stops stop ended
        omega
  · obtain ⟨here, passes, _⟩ := sound.path
    exact ⟨here.rest, passes.rest.symm⟩
  · intro tree final given
    exact ⟨(taken_from_start (sound.passes given)).symm, Walk.input_at_end given⟩
  · intro move member
    have here := sound.moves move member
    exact ⟨sound_move_stands_in here, sound_move_is_safe here⟩
  · intro bound rule member cursor tree after read
    exact rules_go_forward member read

/-- The tokens of `f(x)` without an end of the file. -/
def endlessCall : List Token :=
  [⟨.variable, .text "f", ⟨0, 1, 0, 0, 0, 1⟩⟩, ⟨.groupOpen, .text "(", ⟨1, 2, 0, 0, 1, 2⟩⟩,
    ⟨.variable, .text "x", ⟨2, 3, 0, 0, 2, 3⟩⟩, ⟨.groupClose, .text ")", ⟨3, 4, 0, 0, 3, 4⟩⟩]

/-- The whole list is taken, and before its second token the first one is looked back at. -/
theorem endless_call_is_read :
    (∃ tree final, (Walk.input endlessCall).result = .ok (tree, final) ∧
      (Walk.input endlessCall).taken = endlessCall.take final.consumed ∧
      final.consumed = endlessCall.length) ∧
    ∃ cursor token, .touch cursor ∈ (Walk.input endlessCall).moves ∧ cursor.consumed = 1 ∧
      endlessCall[0]? = some token ∧ cursor.last = some token := by
  obtain ⟨_, _, _, _, ends, moves, _⟩ := reading_goes_forward_within_its_tokens endlessCall
  let last : Cursor := ⟨4, endlessCall.getLast?, []⟩
  obtain ⟨tree, read⟩ : ∃ tree, (Walk.input endlessCall).result = .ok (tree, last) := ⟨_, rfl⟩
  let cursor : Cursor := ⟨1, endlessCall.head?, endlessCall.tail⟩
  have looked : (Walk.input endlessCall).moves[10]? = some (.touch cursor) := rfl
  have member := List.mem_of_getElem? looked
  obtain ⟨_, _, token, found, before⟩ := (moves _ member).2
  refine ⟨⟨tree, last, read, (ends tree last read).1, rfl⟩, ?_⟩
  exact ⟨cursor, token, member, rfl, found, before⟩

end VectorCalc

import Mathlib.Tactic.SplitIfs
import VectorCalc.Proofs.Derivation

/-!
Reading that writes down what it does. The rules are those of the grammar, read by a reader that
keeps their moves; without what is kept they come to the results of plain reading. Of the two
questions asked before the bracket of an argument only the second one looks back, and it is asked
only if the first one is answered.
-/
namespace VectorCalc

set_option autoImplicit false

def Grammar.rules (bound : Nat) : List Rule :=
  let nested := expression bound
  [expressionWith nested (bound + 1), sum nested (bound + 1), product nested (bound + 1),
    power nested (bound + 1), index nested (bound + 1),
    factor (call nested (bound + 1)) (bound + 1), call nested (bound + 1), atom nested (bound + 1)]

structure Walk (α : Type) where
  result : Except Stop α
  moves : List Move

abbrev WalkRule := RuleIn Walk

namespace Walk

open Reader

instance : Reader Walk where
  pure value := ⟨.ok value, []⟩
  bind first next :=
    match first.result with
    | .error stop => ⟨.error stop, first.moves⟩
    | .ok value => ⟨(next value).result, first.moves ++ (next value).moves⟩
  settle result := ⟨result, []⟩
  note move := ⟨.ok (), [move]⟩

def input (tokens : List Token) : Walk (Node × Cursor) :=
  Grammar.input tokens

section Results

variable {α β : Type}

theorem bind_stopped {first : Walk α} {stop : Stop} (stopped : first.result = .error stop)
    (next : α → Walk β) : first >>= next = ⟨.error stop, first.moves⟩ := by
  obtain ⟨result, moves⟩ := first
  subst stopped
  rfl

theorem bind_given {first : Walk α} {value : α} (given : first.result = .ok value)
    (next : α → Walk β) :
    first >>= next = ⟨(next value).result, first.moves ++ (next value).moves⟩ := by
  obtain ⟨result, moves⟩ := first
  subst given
  rfl

theorem result_bind (first : Walk α) (next : α → Walk β) :
    (first >>= next).result = first.result >>= fun value => (next value).result := by
  cases result : first.result with
  | error stop => rw [bind_stopped result, plain_error]
  | ok value => rw [bind_given result, plain_ok]

theorem bind_gives {first : Walk α} {next : α → Walk β} {value : β}
    (given : (first >>= next).result = .ok value) :
    ∃ middle, first.result = .ok middle ∧ (next middle).result = .ok value := by
  rw [result_bind] at given
  cases result : first.result with
  | error stop =>
      rw [result] at given
      cases given
  | ok middle =>
      rw [result] at given
      exact ⟨middle, rfl, given⟩

theorem bind_follows {first : Walk α} {next : α → Walk β} {plain : Except Stop α}
    {plainNext : α → Except Stop β} (follows : first.result = plain)
    (nextFollows : ∀ value, (next value).result = plainNext value) :
    (first >>= next).result = plain >>= plainNext := by
  rw [result_bind, follows]
  exact congrArg _ (funext nextFollows)

theorem settle_ok (value : α) (next : α → Walk β) :
    (settle (.ok value) >>= next : Walk β) = next value := rfl

theorem settle_error (stop : Stop) (next : α → Walk β) :
    (settle (.error stop) >>= next : Walk β) = fail stop := rfl

end Results

/-- The walk comes to the result of the rule. -/
def Follows (walk : WalkRule) (rule : Rule) : Prop :=
  ∀ cursor, (walk cursor).result = rule cursor

theorem take_follows (cursor : Cursor) : (take cursor : Walk Cursor).result = take cursor := rfl

theorem ruled_follows (phrase : Phrase) {walk : WalkRule} {rule : Rule}
    (follows : Follows walk rule) : Follows (ruled phrase walk) (ruled phrase rule) := by
  intro cursor
  exact bind_follows rfl fun _ => bind_follows (follows cursor) fun _ => rfl

section Rules

variable {nested operand : WalkRule} {nestedRule operandRule : Rule}

theorem chain_follows (operators : List TokenKind) (follows : Follows operand operandRule)
    (bound : Nat) (left : Node) :
    Follows (Grammar.chain operators operand bound left)
      (Grammar.chain operators operandRule bound left) := by
  induction bound generalizing left with
  | zero => exact fun _ => rfl
  | succ bound induction =>
      intro cursor
      unfold Grammar.chain
      split_ifs
      · apply bind_follows (take_follows cursor)
        intro next
        exact bind_follows (follows next) fun right => induction _ right.2
      · rfl

theorem level_follows (level : Level) (bound : Nat) (follows : Follows operand operandRule) :
    Follows (Grammar.level level bound operand) (Grammar.level level bound operandRule) := by
  apply ruled_follows
  intro cursor
  exact bind_follows (follows cursor) fun left => chain_follows _ follows bound left.1 left.2

theorem items_follow (follows : Follows nested nestedRule) (bound : Nat) (read : List Node)
    (span : Span) :
    Follows (Grammar.items nested bound read span)
      (Grammar.items nestedRule bound read span) := by
  induction bound generalizing read span with
  | zero => exact fun _ => rfl
  | succ bound induction =>
      intro cursor
      unfold Grammar.items
      split_ifs
      · rfl
      · exact bind_follows (follows cursor) fun item => induction _ _ item.2

theorem closed_follows (follows : Follows nested nestedRule) (cursor : Cursor) :
    (Grammar.closed nested cursor).result = Grammar.closed nestedRule cursor := by
  apply bind_follows (follows cursor)
  intro inner
  exact bind_follows rfl fun _ => rfl

theorem atom_follows (follows : Follows nested nestedRule) (bound : Nat) :
    Follows (Grammar.atom nested bound) (Grammar.atom nestedRule bound) := by
  apply ruled_follows
  intro cursor
  dsimp only
  cases cursor.current.kind with
  | groupOpen =>
      apply bind_follows (take_follows cursor)
      intro next
      exact bind_follows (closed_follows follows next) fun _ => rfl
  | vectorOpen =>
      apply bind_follows (take_follows cursor)
      intro next
      exact items_follow follows bound [] _ next
  | _ => rfl

theorem applications_follow (follows : Follows nested nestedRule) (bound : Nat) (callee : Node) :
    Follows (Grammar.applications nested bound callee)
      (Grammar.applications nestedRule bound callee) := by
  induction bound generalizing callee with
  | zero => exact fun _ => rfl
  | succ bound induction =>
      intro cursor
      unfold Grammar.applications
      split_ifs
      · apply bind_follows rfl
        intro _
        apply bind_follows (take_follows cursor)
        intro next
        exact bind_follows (closed_follows follows next) fun argument => induction _ argument.2.2
      · rfl
      · rfl

theorem call_follows (follows : Follows nested nestedRule) (bound : Nat) :
    Follows (Grammar.call nested bound) (Grammar.call nestedRule bound) := by
  apply ruled_follows
  intro cursor
  apply bind_follows (atom_follows follows bound cursor)
  intro callee
  exact applications_follow follows bound callee.1 callee.2

theorem factor_follows (follows : Follows operand operandRule) (bound : Nat) :
    Follows (Grammar.factor operand bound) (Grammar.factor operandRule bound) := by
  induction bound with
  | zero => exact fun _ => rfl
  | succ bound induction =>
      apply ruled_follows
      intro cursor
      dsimp only
      split_ifs
      · apply bind_follows (take_follows cursor)
        intro next
        exact bind_follows (induction next) fun _ => rfl
      · exact follows cursor

theorem index_follows (follows : Follows nested nestedRule) (bound : Nat) :
    Follows (Grammar.index nested bound) (Grammar.index nestedRule bound) :=
  level_follows .index bound (factor_follows (call_follows follows bound) bound)

theorem power_follows (follows : Follows nested nestedRule) (bound : Nat) :
    Follows (Grammar.power nested bound) (Grammar.power nestedRule bound) :=
  level_follows .power bound (index_follows follows bound)

theorem product_follows (follows : Follows nested nestedRule) (bound : Nat) :
    Follows (Grammar.product nested bound) (Grammar.product nestedRule bound) :=
  level_follows .product bound (power_follows follows bound)

theorem sum_follows (follows : Follows nested nestedRule) (bound : Nat) :
    Follows (Grammar.sum nested bound) (Grammar.sum nestedRule bound) :=
  level_follows .sum bound (product_follows follows bound)

theorem expression_with_follows (follows : Follows nested nestedRule) (bound : Nat) :
    Follows (Grammar.expressionWith nested bound) (Grammar.expressionWith nestedRule bound) := by
  have sums := sum_follows follows bound
  apply ruled_follows
  intro cursor
  apply bind_follows (sums cursor)
  intro left
  dsimp only
  split_ifs
  · apply bind_follows (take_follows left.2)
    intro next
    exact bind_follows (follows next) fun _ => rfl
  · exact chain_follows _ sums bound left.1 left.2

theorem expression_follows (bound : Nat) :
    Follows (Grammar.expression bound) (Grammar.expression bound) := by
  induction bound with
  | zero => exact fun _ => rfl
  | succ bound induction => exact expression_with_follows induction (bound + 1)

end Rules

theorem take_many_follows (count : Nat) (cursor : Cursor) :
    (takeMany count cursor : Walk Cursor).result = takeMany count cursor := by
  induction count generalizing cursor with
  | zero => rfl
  | succ count induction => exact bind_follows (take_follows cursor) induction

theorem skip_follows (cursor : Cursor) :
    (skipLineEnds cursor : Walk Cursor).result = skipLineEnds cursor :=
  take_many_follows _ cursor

theorem finish_follows (cursor : Cursor) :
    (Grammar.finish cursor : Walk Cursor).result = Grammar.finish cursor := by
  unfold Grammar.finish
  split_ifs
  · rfl
  · apply bind_follows rfl
    intro _
    apply bind_follows (skip_follows cursor)
    intro after
    exact bind_follows rfl fun _ => rfl

theorem input_result (tokens : List Token) :
    (input tokens).result.map Prod.fst = parseTokens tokens := by
  have follows : (input tokens).result = Grammar.input tokens := by
    apply bind_follows (skip_follows _)
    intro start
    apply bind_follows (expression_follows _ start)
    intro read
    exact bind_follows (finish_follows read.2) fun _ => rfl
  rw [follows]
  rfl

theorem finish_at_end {cursor final : Cursor}
    (given : (Grammar.finish cursor : Walk Cursor).result = .ok final) : final.kind = .fileEnd := by
  unfold Grammar.finish at given
  split_ifs at given with ended
  · cases given
    exact ended
  · obtain ⟨_, _, rest⟩ := bind_gives given
    obtain ⟨after, _, ending⟩ := bind_gives rest
    obtain ⟨_, found, same⟩ := bind_gives ending
    change after.expect .fileEnd = _ at found
    cases same
    unfold Cursor.expect at found
    split_ifs at found with ends
    exact ends

theorem input_at_end {tokens : List Token} {tree : Node} {final : Cursor}
    (given : (input tokens).result = .ok (tree, final)) : final.kind = .fileEnd := by
  obtain ⟨start, _, rest⟩ := bind_gives given
  obtain ⟨read, _, ending⟩ := bind_gives rest
  obtain ⟨last, finished, result⟩ := bind_gives ending
  cases result
  exact finish_at_end finished

end Walk

end VectorCalc

import VectorCalc.Grammar

/-!
The grammar as a relation between token lists and trees. It is stated without a cursor, without
a bound and without an order of trial, and it is ambiguous: the tokens between the brackets of a
vector can be divided into items in several ways, and an equals sign can assign or compare. A
strict derivation settles the second ambiguity only, in favour of assignment.
-/
namespace VectorCalc

set_option autoImplicit false

def Token.leaf? (token : Token) : Option Node :=
  match token.kind with
  | .int => some (Node.leaf .int token.payload token.span)
  | .float => some (Node.leaf .float token.payload token.span)
  | .variable => some (Node.leaf .variable token.payload token.span)
  | .infinity => some (Node.leaf .infinity .none token.span)
  | .pi => some (Node.leaf .pi .none token.span)
  | _ => none

/-- The span of a vector is that of its opening bracket, widened over the items and over the
closing bracket. -/
def vectorSpan (opening closing : Token) (items : List Node) : Span :=
  (items.foldl (fun span item => span.extend item.span) opening.span).extend closing.span

/-- The grammar derives the tokens from the phrase and assigns the tree to them. Under `strict`
an equals sign after a variable or a call never compares. -/
inductive Derives (strict : Bool) : Phrase → List Token → Node → Prop where
  | leaf {token : Token} {tree : Node} (alone : token.leaf? = some tree) :
      Derives strict .atom [token] tree
  | group {opening closing : Token} {inner : List Token} {tree : Node}
      (opens : opening.kind = .groupOpen) (closes : closing.kind = .groupClose)
      (within : Derives strict .expression inner tree) :
      Derives strict .atom (opening :: (inner ++ [closing])) tree
  | vector {opening closing : Token} (parts : List (List Token × Node))
      (opens : opening.kind = .vectorOpen) (closes : closing.kind = .vectorClose)
      (items : ∀ part ∈ parts, Derives strict .expression part.1 part.2) :
      Derives strict .atom (opening :: ((parts.map Prod.fst).flatten ++ [closing]))
        (Node.vector (parts.map Prod.snd) (vectorSpan opening closing (parts.map Prod.snd)))
  | bare {tokens : List Token} {tree : Node} (atom : Derives strict .atom tokens tree) :
      Derives strict .call tokens tree
  | apply {tokens inner : List Token} {previous opening closing : Token} {callee argument : Node}
      (function : Derives strict .call tokens callee)
      (before : tokens.getLast? = some previous)
      (opens : opening.kind = .groupOpen) (touches : opening.span.start = previous.span.stop)
      (within : Derives strict .expression inner argument) (closes : closing.kind = .groupClose) :
      Derives strict .call (tokens ++ opening :: (inner ++ [closing]))
        (Node.call callee argument (callee.span.extend closing.span))
  | negate {sign : Token} {tokens : List Token} {operand : Node}
      (minus : sign.kind = .subtract) (factor : Derives strict .factor tokens operand) :
      Derives strict .factor (sign :: tokens)
        (Node.unary .subtract operand (sign.span.extend operand.span))
  | plain {tokens : List Token} {tree : Node} (call : Derives strict .call tokens tree) :
      Derives strict .factor tokens tree
  | single {level : Level} {tokens : List Token} {tree : Node}
      (operand : Derives strict level.operand tokens tree) :
      Derives strict (.chain level) tokens tree
  | step {level : Level} {tokens others : List Token} {sign : Token} {left right : Node}
      (chain : Derives strict (.chain level) tokens left)
      (operator : sign.kind ∈ level.operators)
      (compares : strict = true → sign.kind = .equal → Grammar.isTarget left = false)
      (operand : Derives strict level.operand others right) :
      Derives strict (.chain level) (tokens ++ sign :: others)
        (Node.binary sign.kind left right)
  | compare {tokens : List Token} {tree : Node}
      (chain : Derives strict (.chain .comparison) tokens tree) :
      Derives strict .expression tokens tree
  | assign {tokens others : List Token} {sign : Token} {target value : Node}
      (call : Derives strict .call tokens target) (bindable : Grammar.isTarget target = true)
      (equals : sign.kind = .equal) (expression : Derives strict .expression others value) :
      Derives strict .expression (tokens ++ sign :: others) (Node.assign target value)

inductive DerivesInput (strict : Bool) : List Token → Node → Prop where
  | input {before body after : List Token} {ending : Token} {tree : Node}
      (leading : ∀ token ∈ before, token.kind = .lineEnd)
      (expression : Derives strict .expression body tree)
      (trailing : ∀ token ∈ after, token.kind = .lineEnd)
      (ends : ending.kind = .fileEnd) :
      DerivesInput strict (before ++ (body ++ (after ++ [ending]))) tree

/-- The end-of-file token stands last and nowhere else. -/
def EndsOnce (tokens : List Token) : Prop :=
  ∃ body ending, tokens = body ++ [ending] ∧ ending.kind = .fileEnd ∧
    ∀ token ∈ body, token.kind ≠ .fileEnd

theorem strict_derivation_derives {phrase : Phrase} {tokens : List Token} {tree : Node}
    (derived : Derives true phrase tokens tree) : Derives false phrase tokens tree := by
  induction derived with
  | leaf alone => exact .leaf alone
  | group opens closes _ within => exact .group opens closes within
  | vector parts opens closes _ items => exact .vector parts opens closes items
  | bare _ atom => exact .bare atom
  | apply _ before opens touches _ closes function within =>
      exact .apply function before opens touches within closes
  | negate minus _ factor => exact .negate minus factor
  | plain _ call => exact .plain call
  | single _ operand => exact .single operand
  | step _ operator _ _ chain operand =>
      exact .step chain operator (by intro impossible; cases impossible) operand
  | compare _ chain => exact .compare chain
  | assign _ bindable equals _ call expression => exact .assign call bindable equals expression

theorem strict_input_derives {tokens : List Token} {tree : Node}
    (derived : DerivesInput true tokens tree) : DerivesInput false tokens tree := by
  cases derived with
  | input leading expression trailing ends =>
      exact .input leading (strict_derivation_derives expression) trailing ends

theorem target_is_call_phrase {strict : Bool} {phrase : Phrase} {tokens : List Token}
    {tree : Node} (derived : Derives strict phrase tokens tree)
    (bindable : Grammar.isTarget tree = true) (tight : phrase ≠ .atom)
    (inner : phrase ≠ .expression) : Derives strict .call tokens tree := by
  induction derived with
  | leaf _ => exact absurd rfl tight
  | group _ _ _ _ => exact absurd rfl tight
  | vector _ _ _ _ _ => exact absurd rfl tight
  | bare atom _ => exact .bare atom
  | apply function before opens touches within closes _ _ =>
      exact .apply function before opens touches within closes
  | negate _ _ _ => simp [Grammar.isTarget, Node.unary, Node.kind] at bindable
  | plain call _ => exact call
  | @single level _ _ _ induction =>
      exact induction bindable (by cases level <;> simp [Level.operand])
        (by cases level <;> simp [Level.operand])
  | step _ _ _ _ _ _ => simp [Grammar.isTarget, Node.binary, Node.kind] at bindable
  | compare _ _ => exact absurd rfl inner
  | assign _ _ _ _ _ _ => exact absurd rfl inner

end VectorCalc

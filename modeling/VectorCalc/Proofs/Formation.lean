import VectorCalc.Evaluation
import VectorCalc.Proofs.Acceptance
import VectorCalc.Proofs.Tokens

/-!
Trees that come from text. Every node has the parts and the payload that its kind calls for:
literals carry numbers of their type, variables carry names, operators are known ones, and only
variables and calls are assigned to.
-/
namespace VectorCalc

set_option autoImplicit false

namespace Node

inductive WellFormed : Node → Prop where
  | int {value : Nat} {span : Span} (small : value ≤ Word.largest) :
      WellFormed (.mk .int (.int value) [] span)
  | float {number : Float} {span : Span} : WellFormed (.mk .float (.float number) [] span)
  | infinity {span : Span} : WellFormed (.mk .infinity .none [] span)
  | pi {span : Span} : WellFormed (.mk .pi .none [] span)
  | name {name : String} {span : Span} (named : IsName name) :
      WellFormed (.mk .variable (.text name) [] span)
  | vector {items : List Node} {span : Span} (formed : ∀ item ∈ items, WellFormed item) :
      WellFormed (.mk .vector .none items span)
  | binary {operator : BinaryOperator} {left right : Node} {span : Span}
      (compares : operator = .comparison .equal → Grammar.isTarget left = false)
      (first : WellFormed left) (second : WellFormed right) :
      WellFormed (.mk .binary (.text operator.kind.code) [left, right] span)
  | unary {operand : Node} {span : Span} (formed : WellFormed operand) :
      WellFormed (.mk .unary (.text TokenKind.subtract.code) [operand] span)
  | assign {target value : Node} {span : Span} (bindable : Grammar.isTarget target = true)
      (first : WellFormed target) (second : WellFormed value) :
      WellFormed (.mk .assign .none [target, value] span)
  | call {callee argument : Node} {span : Span} (first : WellFormed callee)
      (second : WellFormed argument) : WellFormed (.mk .call .none [callee, argument] span)

inductive Part : Node → Node → Prop where
  | self (node : Node) : Part node node
  | inside {whole child part : Node} (member : child ∈ whole.children)
      (deeper : Part child part) :
      Part whole part

theorem child_well_formed {whole child : Node} (formed : whole.WellFormed)
    (member : child ∈ whole.children) : child.WellFormed := by
  cases formed with
  | int _ => simp [children] at member
  | float => simp [children] at member
  | infinity => simp [children] at member
  | pi => simp [children] at member
  | name _ => simp [children] at member
  | vector items => exact items child member
  | binary _ first second =>
      simp only [children, List.mem_cons, List.not_mem_nil, or_false] at member
      rcases member with rfl | rfl
      · exact first
      · exact second
  | unary operand =>
      simp only [children, List.mem_cons, List.not_mem_nil, or_false] at member
      rw [member]
      exact operand
  | assign _ first second =>
      simp only [children, List.mem_cons, List.not_mem_nil, or_false] at member
      rcases member with rfl | rfl
      · exact first
      · exact second
  | call first second =>
      simp only [children, List.mem_cons, List.not_mem_nil, or_false] at member
      rcases member with rfl | rfl
      · exact first
      · exact second

theorem part_well_formed {whole part : Node} (formed : whole.WellFormed)
    (within : whole.Part part) : part.WellFormed := by
  induction within with
  | self _ => exact formed
  | inside member _ induction => exact induction (child_well_formed formed member)

theorem part_child {whole part child : Node} (within : whole.Part part)
    (member : child ∈ part.children) : whole.Part child := by
  induction within with
  | self _ => exact .inside member (.self child)
  | inside upper _ induction => exact .inside upper (induction member)

end Node

theorem forall_parts_iff {property : Node → Prop} {kind : NodeKind} {payload : Payload}
    {children : List Node} {span : Span} :
    (∀ part, (Node.mk kind payload children span).Part part → property part) ↔
      property (.mk kind payload children span) ∧
        ∀ child ∈ children, ∀ part, child.Part part → property part := by
  constructor
  · intro all
    exact ⟨all _ (.self _), fun child member part within => all part (.inside member within)⟩
  · rintro ⟨here, inside⟩ part within
    cases within with
    | self => exact here
    | inside member deeper => exact inside _ member part deeper

def Payload.Names (name : Payload) : Prop :=
  ∃ text, name = .text text ∧ IsName text

theorem variable_names {node : Node} (formed : node.WellFormed) (named : node.kind = .variable) :
    node.payload.Names := by
  cases formed with
  | name isName => exact ⟨_, rfl, isName⟩
  | _ => cases named

/-- What a well-formed assignment binds: a name, a name and a parameter, or nothing because a part
of its target should have been a variable. -/
theorem target_cases {target : Node} (formed : target.WellFormed)
    (bindable : Grammar.isTarget target = true) :
    (target.kind = .variable ∧
      ∃ name, Target.ofNode target = .ok (.variable name) ∧ name.Names) ∨
    (target.kind ≠ .variable ∧ ∃ part : Node, Target.ofNode target = .error part.expectVariable) ∨
    (target.kind ≠ .variable ∧ ∃ name parameter,
      Target.ofNode target = .ok (.function name parameter) ∧ name.Names ∧ parameter.Names) := by
  cases formed with
  | name isName => exact .inl ⟨rfl, _, rfl, _, rfl, isName⟩
  | @call callee argument span first second =>
      have bound : Target.ofNode (.mk .call .none [callee, argument] span) =
          if callee.kind ≠ .variable then .error callee.expectVariable
          else if argument.kind ≠ .variable then .error argument.expectVariable
          else .ok (.function callee.payload argument.payload) := rfl
      have call : (Node.mk .call .none [callee, argument] span).kind ≠ .variable := by
        simp [Node.kind]
      by_cases calleeNamed : callee.kind = .variable
      · by_cases argumentNamed : argument.kind = .variable
        · refine .inr (.inr ⟨call, _, _, ?_, variable_names first calleeNamed,
            variable_names second argumentNamed⟩)
          rw [bound, if_neg (not_not_intro calleeNamed), if_neg (not_not_intro argumentNamed)]
        · refine .inr (.inl ⟨call, argument, ?_⟩)
          rw [bound, if_neg (not_not_intro calleeNamed), if_pos argumentNamed]
      · refine .inr (.inl ⟨call, callee, ?_⟩)
        rw [bound, if_pos calleeNamed]
  | _ => cases bindable

theorem leaf_well_formed {token : Token} {tree : Node} (alone : token.leaf? = some tree)
    (sound : token.Sound) : tree.WellFormed := by
  unfold Token.leaf? at alone
  unfold Token.Sound at sound
  split at alone
  · next kind =>
      rw [kind] at sound
      obtain ⟨value, payload, small⟩ := sound
      cases alone
      rw [payload]
      exact .int small
  · next kind =>
      rw [kind] at sound
      obtain ⟨number, payload⟩ := sound
      cases alone
      rw [payload]
      exact .float
  · next kind =>
      rw [kind] at sound
      obtain ⟨name, payload, named⟩ := sound
      cases alone
      rw [payload]
      exact .name named
  · cases alone
    exact .infinity
  · cases alone
    exact .pi
  · cases alone

theorem level_operator {level : Level} {kind : TokenKind} (operator : kind ∈ level.operators) :
    ∃ binary : BinaryOperator, binary.kind = kind := by
  cases level <;>
    simp only [Level.operators, List.mem_cons, List.not_mem_nil, or_false] at operator
  · rcases operator with rfl | rfl | rfl | rfl | rfl | rfl | rfl
    · exact ⟨.comparison .equal, rfl⟩
    · exact ⟨.comparison .notEqual, rfl⟩
    · exact ⟨.comparison .less, rfl⟩
    · exact ⟨.comparison .greater, rfl⟩
    · exact ⟨.comparison .lessEqual, rfl⟩
    · exact ⟨.comparison .greaterEqual, rfl⟩
    · exact ⟨.sameType, rfl⟩
  · rcases operator with rfl | rfl
    · exact ⟨.arithmetic .add, rfl⟩
    · exact ⟨.arithmetic .subtract, rfl⟩
  · rcases operator with rfl | rfl | rfl
    · exact ⟨.arithmetic .multiply, rfl⟩
    · exact ⟨.arithmetic .divide, rfl⟩
    · exact ⟨.arithmetic .modulo, rfl⟩
  · exact ⟨.arithmetic .power, operator.symm⟩
  · exact ⟨.index, operator.symm⟩

/-- A strict derivation from sound tokens assigns a well-formed tree. -/
theorem derived_tree_well_formed {phrase : Phrase} {tokens : List Token} {tree : Node}
    (derived : Derives true phrase tokens tree) (sound : ∀ token ∈ tokens, token.Sound) :
    tree.WellFormed := by
  induction derived with
  | leaf alone => exact leaf_well_formed alone (sound _ (by simp))
  | group _ _ _ induction =>
      exact induction (by intro token member; exact sound token (by simp [member]))
  | vector parts _ _ _ induction =>
      refine .vector ?_
      intro item member
      obtain ⟨part, inside, same⟩ := List.mem_map.mp member
      rw [← same]
      apply induction part inside
      intro token here
      apply sound token
      simp only [List.mem_cons, List.mem_append, List.mem_flatten, List.mem_map]
      exact .inr (.inl ⟨part.1, ⟨part, inside, rfl⟩, here⟩)
  | bare _ induction => exact induction sound
  | apply _ _ _ _ _ _ function argument =>
      exact .call (function (by intro token member; exact sound token (by simp [member])))
        (argument (by intro token member; exact sound token (by simp [member])))
  | negate _ _ induction =>
      exact .unary (induction (by intro token member; exact sound token (by simp [member])))
  | plain _ induction => exact induction sound
  | single _ induction => exact induction sound
  | step _ operator compares _ left right =>
      obtain ⟨binary, kind⟩ := level_operator operator
      have first := left (by intro token member; exact sound token (by simp [member]))
      have second := right (by intro token member; exact sound token (by simp [member]))
      unfold Node.binary
      rw [← kind] at compares ⊢
      refine .binary ?_ first second
      intro same
      rw [same] at compares
      exact compares rfl rfl
  | compare _ induction => exact induction sound
  | assign _ bindable _ _ target value =>
      exact .assign bindable
        (target (by intro token member; exact sound token (by simp [member])))
        (value (by intro token member; exact sound token (by simp [member])))

theorem read_expression {text : String} {tree : Node} (read : parseText text = .ok tree) :
    ∃ tokens front body back, tokenize text = .ok tokens ∧ tokens = front ++ (body ++ back) ∧
      Derives true .expression body tree := by
  unfold parseText at read
  cases scanned : tokenize text with
  | error stop =>
      rw [scanned] at read
      cases read
  | ok tokens =>
      rw [scanned] at read
      dsimp only at read
      have agrees := parse_agrees tokens
      rw [read] at agrees
      cases agrees with
      | @reads before body after _ here _ expression _ passes _ =>
          have whole : tokens = before ++ (body ++ after) ++ here.rest := passes.rest
          refine ⟨tokens, before, body, after ++ here.rest, rfl, ?_, expression⟩
          rw [whole, List.append_assoc, List.append_assoc]

theorem parse_text_well_formed {text : String} {tree : Node}
    (read : parseText text = .ok tree) : tree.WellFormed := by
  obtain ⟨tokens, front, body, back, scanned, whole, expression⟩ := read_expression read
  refine derived_tree_well_formed expression ?_
  intro token member
  apply (tokenize_sound scanned).2 token
  rw [whole]
  simp [member]

end VectorCalc

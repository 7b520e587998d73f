import VectorCalc.Proofs.Image
import VectorCalc.Proofs.Preservation

/-!
The printed form of a tree determines the tree. A printed form ends where its own bracket closes,
so that it can be told from whatever text comes after it: what follows the opening bracket says
whether the node is a leaf, has an operand or has two parts, and what follows the first of two
parts says how they are joined. The induction over printed forms therefore leaves the text after
them open. Doubles are left out, since unequal ones may be printed alike.
-/
namespace VectorCalc

set_option autoImplicit false

theorem parts_before_delimiter {delimiter : Char} {first second rest others : List Char}
    (firstPlain : delimiter ∉ first) (secondPlain : delimiter ∉ second)
    (same : first ++ delimiter :: rest = second ++ delimiter :: others) :
    first = second ∧ rest = others := by
  induction first generalizing second with
  | nil =>
      cases second with
      | nil => exact ⟨rfl, (List.cons.inj same).2⟩
      | cons character second =>
          exact absurd (List.mem_cons.mpr (.inl (List.cons.inj same).1)) secondPlain
  | cons character first induction =>
      cases second with
      | nil => exact absurd (List.mem_cons.mpr (.inl (List.cons.inj same).1.symm)) firstPlain
      | cons other second =>
          obtain ⟨heads, tails⟩ := List.cons.inj same
          obtain ⟨parts, ends⟩ := induction
            (fun inside => firstPlain (List.mem_cons_of_mem _ inside))
            (fun inside => secondPlain (List.mem_cons_of_mem _ inside)) tails
          exact ⟨by rw [heads, parts], ends⟩

def Opens (text : List Char) : Prop :=
  ∃ bracket others, text = bracket :: others ∧ bracket ∈ ['(', '[']

theorem Opens.append {text : List Char} (opens : Opens text) (rest : List Char) :
    Opens (text ++ rest) := by
  obtain ⟨bracket, others, rfl, bracketed⟩ := opens
  exact ⟨bracket, others ++ rest, rfl, bracketed⟩

inductive Joint where
  | operation (kind : TokenKind)
  | assignment
  | call
  deriving DecidableEq

namespace Joint

/-- The word between the parts. Nothing but a space stands between a function and its argument. -/
def word : Joint → Option (List Char)
  | .operation kind => kind.title?.map String.toList
  | .assignment => some ['=']
  | .call => none

/-- What stands between the space after the first part and the second part. -/
def mark (joint : Joint) : List Char :=
  match joint.word with
  | some word => word ++ [' ']
  | none => []

def node (joint : Joint) (left right : Node) (span : Span) : Node :=
  match joint with
  | .operation kind => .mk .binary (.text kind.code) [left, right] span
  | .assignment => .mk .assign .none [left, right] span
  | .call => .mk .call .none [left, right] span

def known : List Joint :=
  .assignment :: .call :: binaryKinds.map .operation

theorem word_determines_joint {first second : Joint} (firstKnown : first ∈ known)
    (secondKnown : second ∈ known) (same : first.word = second.word) : first = second := by
  have found : ∀ joint ∈ known,
      known.find? (fun other => other.word = joint.word) = some joint := by decide
  have both := found first firstKnown
  rw [same, found second secondKnown] at both
  exact (Option.some.inj both).symm

/-- A word has no space in it and is no bracket. -/
theorem word_is_plain {joint : Joint} (isKnown : joint ∈ known) {word : List Char}
    (found : joint.word = some word) :
    ' ' ∉ word ∧ ∃ first others, word = first :: others ∧ first ∉ ['(', '['] := by
  have plain : known.all (fun joint => joint.word.all fun word =>
      !word.contains ' ' && word.head?.any fun first => first != '(' && first != '[') = true := by
    decide
  have here := List.all_eq_true.mp plain joint isKnown
  rw [found, Option.all_some, Bool.and_eq_true] at here
  obtain ⟨spaceless, heads⟩ := here
  cases word with
  | nil => cases heads
  | cons first others =>
      refine ⟨by simpa using spaceless, first, others, rfl, ?_⟩
      simpa using heads

/-- The mark between two parts says how they are joined, since the second part starts with a
bracket. -/
theorem mark_determines_joint {first second : Joint} (firstKnown : first ∈ known)
    (secondKnown : second ∈ known) {rest more : List Char} (opens : Opens rest)
    (otherOpens : Opens more) (same : first.mark ++ rest = second.mark ++ more) :
    first = second ∧ rest = more := by
  obtain ⟨bracket, remaining, rfl, bracketed⟩ := opens
  obtain ⟨other, otherRemaining, rfl, otherBracketed⟩ := otherOpens
  unfold mark at same
  cases firstWord : first.word with
  | none =>
      cases secondWord : second.word with
      | none =>
          rw [firstWord, secondWord] at same
          have words := firstWord.trans secondWord.symm
          exact ⟨word_determines_joint firstKnown secondKnown words, same⟩
      | some word =>
          obtain ⟨_, character, others, rfl, plain⟩ := word_is_plain secondKnown secondWord
          rw [firstWord, secondWord] at same
          rw [(List.cons.inj same).1] at bracketed
          exact absurd bracketed plain
  | some word =>
      obtain ⟨spaceless, character, others, shape, plain⟩ := word_is_plain firstKnown firstWord
      cases secondWord : second.word with
      | none =>
          rw [firstWord, secondWord, shape] at same
          rw [← (List.cons.inj same).1] at otherBracketed
          exact absurd otherBracketed plain
      | some otherWord =>
          obtain ⟨otherSpaceless, _⟩ := word_is_plain secondKnown secondWord
          rw [firstWord, secondWord] at same
          dsimp only at same
          rw [List.append_assoc, List.append_assoc] at same
          obtain ⟨words, ends⟩ := parts_before_delimiter spaceless otherSpaceless same
          rw [words, ← secondWord] at firstWord
          exact ⟨word_determines_joint firstKnown secondKnown firstWord, ends⟩

end Joint

inductive LeafText : NodeKind → Payload → List Char → Prop where
  | number {value : Nat} (small : value ≤ Word.largest) :
      LeafText .int (.int value) (Nat.toDigits 10 value)
  | name {name : String} (named : IsName name) : LeafText .variable (.text name) name.toList
  | pi : LeafText .pi .none ['p', 'i']
  | infinity : LeafText .infinity .none ['i', 'n', 'f']

theorem leaf_text_classified {kind : NodeKind} {payload : Payload} {text : List Char}
    (leaf : LeafText kind payload text) :
    ∃ tokenKind content, Classified text tokenKind content ∧
      Token.leaf? ⟨tokenKind, content, {}⟩ = some (.mk kind payload [] {}) := by
  cases leaf with
  | number small => exact ⟨_, _, (number_sound small).classified, rfl⟩
  | name named => exact ⟨_, _, (name_sound named).classified, rfl⟩
  | pi =>
      have listed : (['p', 'i'], TokenKind.pi) ∈ reservedWords := by decide
      exact ⟨_, _, reserved_classified listed, rfl⟩
  | infinity =>
      have listed : (['i', 'n', 'f'], TokenKind.infinity) ∈ reservedWords := by decide
      exact ⟨_, _, reserved_classified listed, rfl⟩

theorem leaf_text_determines_leaf {kind otherKind : NodeKind} {payload otherPayload : Payload}
    {text : List Char} (leaf : LeafText kind payload text)
    (other : LeafText otherKind otherPayload text) : kind = otherKind ∧ payload = otherPayload := by
  obtain ⟨_, _, classified, alone⟩ := leaf_text_classified leaf
  obtain ⟨_, _, otherClassified, otherAlone⟩ := leaf_text_classified other
  obtain ⟨rfl, rfl⟩ := classified_unique classified otherClassified
  rw [alone] at otherAlone
  cases otherAlone
  exact ⟨rfl, rfl⟩

theorem leaf_text_is_run {kind : NodeKind} {payload : Payload} {text : List Char}
    (leaf : LeafText kind payload text) : IsRun isWordPart text := by
  cases leaf with
  | @number value _ =>
      obtain ⟨some, digits⟩ := digits_are_run value
      refine ⟨some, ?_⟩
      intro character member
      simp [isWordPart, digits character member]
  | name named =>
      obtain ⟨first, others, shape, letter, parts, _⟩ := named
      rw [shape]
      refine ⟨by simp, List.forall_mem_cons.mpr ⟨?_, parts⟩⟩
      simp [isWordPart, letter]
  | pi => exact ⟨by simp, List.all_eq_true.mp rfl⟩
  | infinity => exact ⟨by simp, List.all_eq_true.mp rfl⟩

theorem leaf_is_same {kind : NodeKind} {payload : Payload} {text : List Char}
    (leaf : LeafText kind payload text) (span place : Span) :
    (Node.mk kind payload [] span).same (.mk kind payload [] place) = true := by
  cases leaf <;> simp [Node.same, Node.sameLists, Payload.same]

inductive Printed : Node → List Char → Prop where
  | leaf {kind : NodeKind} {payload : Payload} {span : Span} {text : List Char}
      (content : LeafText kind payload text) :
      Printed (.mk kind payload [] span) ('(' :: (text ++ [')']))
  | vector {span : Span} (parts : List (Node × List Char))
      (items : ∀ part ∈ parts, Printed part.1 part.2) :
      Printed (.mk .vector .none (parts.map Prod.fst) span)
        ('[' :: ([' '].intercalate (parts.map Prod.snd) ++ [']']))
  | negation {operand : Node} {span : Span} {text : List Char} (inner : Printed operand text) :
      Printed (.mk .unary (.text TokenKind.subtract.code) [operand] span)
        ('(' :: '\'' :: '-' :: '\'' :: ' ' :: (text ++ [')']))
  | pair {joint : Joint} {left right : Node} {span : Span} {first second : List Char}
      (isKnown : joint ∈ Joint.known) (before : Printed left first) (after : Printed right second) :
      Printed (joint.node left right span)
        ('(' :: (first ++ ' ' :: (joint.mark ++ (second ++ [')']))))

theorem printed_opens {tree : Node} {text : List Char} (printed : Printed tree text) :
    Opens text := by
  cases printed <;> exact ⟨_, _, rfl, by simp⟩

inductive Shape where
  | leaf
  | vector
  | negation
  | pair

/-- The first two characters of a printed form say what it is. -/
def Shape.ofText : List Char → Shape
  | '[' :: _ => .vector
  | '(' :: '\'' :: _ => .negation
  | '(' :: '(' :: _ => .pair
  | '(' :: '[' :: _ => .pair
  | _ => .leaf

def Shape.ofKind : NodeKind → Shape
  | .vector => .vector
  | .unary => .negation
  | .binary => .pair
  | .assign => .pair
  | .call => .pair
  | _ => .leaf

theorem joint_shape (joint : Joint) (left right : Node) (span : Span) :
    Shape.ofKind (joint.node left right span).kind = .pair := by
  cases joint <;> rfl

theorem leaf_shape {kind : NodeKind} {payload : Payload} {text : List Char}
    (leaf : LeafText kind payload text) (span : Span) :
    Shape.ofKind (Node.mk kind payload [] span).kind = .leaf := by
  cases leaf <;> rfl

theorem printed_shape {tree : Node} {text : List Char} (printed : Printed tree text)
    (rest : List Char) : Shape.ofText (text ++ rest) = Shape.ofKind tree.kind := by
  cases printed with
  | @leaf kind payload span text content =>
      obtain ⟨some, parts⟩ := leaf_text_is_run content
      obtain ⟨first, others, rfl⟩ := List.exists_cons_of_ne_nil some
      have part : isWordPart first = true := parts first List.mem_cons_self
      rw [leaf_shape content]
      change Shape.ofText ('(' :: first :: _) = .leaf
      unfold Shape.ofText
      split
      · next same => cases same
      · next same =>
          cases same
          cases part
      · next same =>
          cases same
          cases part
      · next same =>
          cases same
          cases part
      · rfl
  | vector parts items => rfl
  | negation inner => rfl
  | @pair joint left right span first second isKnown before after =>
      obtain ⟨bracket, others, rfl, opens⟩ := printed_opens before
      rw [joint_shape]
      simp only [List.mem_cons, List.not_mem_nil, or_false] at opens
      rcases opens with rfl | rfl <;> rfl

/-- What comes after an item of a vector: the next items, each after a space, and the closing
bracket. -/
def itemsAfter : List (List Char) → List Char
  | [] => [']']
  | text :: texts => ' ' :: (text ++ itemsAfter texts)

theorem items_after_first (text : List Char) (texts : List (List Char)) :
    [' '].intercalate (text :: texts) ++ [']'] = text ++ itemsAfter texts := by
  induction texts generalizing text with
  | nil => simp [itemsAfter]
  | cons next texts induction =>
      rw [List.intercalate_cons_cons, List.append_assoc, induction next, List.append_assoc]
      rfl

/-- The tree is told by its printed form, whatever comes after it. -/
def Determined (tree : Node) (text : List Char) : Prop :=
  ∀ {other : Node} {otherText rest more : List Char}, Printed other otherText →
    text ++ rest = otherText ++ more → tree.same other = true ∧ rest = more

theorem items_after_determined {parts others : List (Node × List Char)} {rest more : List Char}
    (each : ∀ part ∈ parts, Determined part.1 part.2)
    (items : ∀ part ∈ others, Printed part.1 part.2)
    (same : itemsAfter (parts.map Prod.snd) ++ rest = itemsAfter (others.map Prod.snd) ++ more) :
    Node.sameLists (parts.map Prod.fst) (others.map Prod.fst) = true ∧ rest = more := by
  induction parts generalizing others with
  | nil =>
      cases others with
      | nil => exact ⟨rfl, (List.cons.inj same).2⟩
      | cons other others => cases (List.cons.inj same).1
  | cons part parts induction =>
      cases others with
      | nil => cases (List.cons.inj same).1
      | cons other others =>
          obtain ⟨here, later⟩ := List.forall_mem_cons.mp each
          obtain ⟨printed, rests⟩ := List.forall_mem_cons.mp items
          simp only [List.map_cons, itemsAfter, List.cons_append, List.append_assoc,
            List.cons.injEq, true_and] at same
          obtain ⟨alike, ends⟩ := here printed same
          obtain ⟨lists, final⟩ := induction later rests ends
          exact ⟨by rw [List.map_cons, List.map_cons, Node.sameLists, alike, lists]; rfl, final⟩

theorem printed_shapes {left right : Node} {leftText rightText rest more : List Char}
    (first : Printed left leftText) (second : Printed right rightText)
    (same : leftText ++ rest = rightText ++ more) :
    Shape.ofKind left.kind = Shape.ofKind right.kind := by
  rw [← printed_shape first rest, same, printed_shape second more]

theorem leaf_determined {kind : NodeKind} {payload : Payload} {text : List Char} (span : Span)
    (content : LeafText kind payload text) :
    Determined (.mk kind payload [] span) ('(' :: (text ++ [')'])) := by
  have closes {otherKind : NodeKind} {otherPayload : Payload} {otherText : List Char}
      (leaf : LeafText otherKind otherPayload otherText) : ')' ∉ otherText := by
    intro member
    cases (leaf_text_is_run leaf).2 ')' member
  intro other otherText rest more printed same
  have here : Printed (.mk kind payload [] span) _ := .leaf content
  have shapes := printed_shapes here printed same
  rw [leaf_shape content] at shapes
  cases printed with
  | @leaf otherKind otherPayload place otherText otherContent =>
      simp only [List.cons_append, List.append_assoc, List.cons.injEq, true_and] at same
      obtain ⟨texts, ends⟩ := parts_before_delimiter (closes content) (closes otherContent) same
      subst texts
      obtain ⟨rfl, rfl⟩ := leaf_text_determines_leaf content otherContent
      exact ⟨leaf_is_same content span place, ends⟩
  | vector _ _ => cases shapes
  | negation _ => cases shapes
  | pair _ _ _ =>
      rw [joint_shape] at shapes
      cases shapes

theorem items_determined {parts others : List (Node × List Char)} {rest more : List Char}
    (items : ∀ part ∈ parts, Printed part.1 part.2)
    (each : ∀ part ∈ parts, Determined part.1 part.2)
    (otherItems : ∀ part ∈ others, Printed part.1 part.2)
    (same : [' '].intercalate (parts.map Prod.snd) ++ [']'] ++ rest =
      [' '].intercalate (others.map Prod.snd) ++ [']'] ++ more) :
    Node.sameLists (parts.map Prod.fst) (others.map Prod.fst) = true ∧ rest = more := by
  have noItem {text rest more : List Char} (opens : Opens text) : ']' :: rest ≠ text ++ more := by
    obtain ⟨bracket, remaining, rfl, bracketed⟩ := opens
    intro closes
    rw [← (List.cons.inj closes).1] at bracketed
    exact absurd bracketed (by decide)
  cases parts with
  | nil =>
      cases others with
      | nil => exact ⟨rfl, (List.cons.inj same).2⟩
      | cons other others =>
          have opens := printed_opens (otherItems other List.mem_cons_self)
          rw [List.map_cons, items_after_first] at same
          exact absurd same (noItem (opens.append _))
  | cons part parts =>
      cases others with
      | nil =>
          have opens := printed_opens (items part List.mem_cons_self)
          rw [List.map_cons, items_after_first] at same
          exact absurd same.symm (noItem (opens.append _))
      | cons other others =>
          obtain ⟨here, later⟩ := List.forall_mem_cons.mp each
          obtain ⟨printed, rests⟩ := List.forall_mem_cons.mp otherItems
          rw [List.map_cons, List.map_cons, items_after_first, items_after_first,
            List.append_assoc, List.append_assoc] at same
          obtain ⟨alike, ends⟩ := here printed same
          obtain ⟨lists, final⟩ := items_after_determined later rests ends
          exact ⟨by rw [List.map_cons, List.map_cons, Node.sameLists, alike, lists]; rfl, final⟩

theorem vector_determined {parts : List (Node × List Char)} (span : Span)
    (items : ∀ part ∈ parts, Printed part.1 part.2)
    (each : ∀ part ∈ parts, Determined part.1 part.2) :
    Determined (.mk .vector .none (parts.map Prod.fst) span)
      ('[' :: ([' '].intercalate (parts.map Prod.snd) ++ [']'])) := by
  intro other otherText rest more printed same
  have here : Printed (.mk .vector .none (parts.map Prod.fst) span) _ := .vector parts items
  have shapes := printed_shapes here printed same
  cases printed with
  | @vector place others otherItems =>
      have lists := items_determined items each otherItems (List.cons.inj same).2
      refine ⟨?_, lists.2⟩
      rw [Node.same, lists.1]
      rfl
  | leaf content =>
      rw [leaf_shape content] at shapes
      cases shapes
  | negation _ => cases shapes
  | pair _ _ _ =>
      rw [joint_shape] at shapes
      cases shapes

theorem negation_determined {operand : Node} {text : List Char} (span : Span)
    (printed : Printed operand text) (inner : Determined operand text) :
    Determined (.mk .unary (.text TokenKind.subtract.code) [operand] span)
      ('(' :: '\'' :: '-' :: '\'' :: ' ' :: (text ++ [')'])) := by
  intro other otherText rest more otherPrinted same
  have here : Printed (.mk .unary (.text TokenKind.subtract.code) [operand] span) _ :=
    .negation printed
  have shapes := printed_shapes here otherPrinted same
  cases otherPrinted with
  | negation otherInner =>
      simp only [List.cons_append, List.append_assoc, List.cons.injEq, true_and] at same
      obtain ⟨alike, ends⟩ := inner otherInner same
      refine ⟨?_, (List.cons.inj ends).2⟩
      rw [Node.same, Node.sameLists, Node.sameLists, alike]
      rfl
  | leaf content =>
      rw [leaf_shape content] at shapes
      cases shapes
  | vector _ _ => cases shapes
  | pair _ _ _ =>
      rw [joint_shape] at shapes
      cases shapes

theorem joint_is_same (joint : Joint) {left right first second : Node}
    (before : left.same first = true) (after : right.same second = true) (span place : Span) :
    (joint.node left right span).same (joint.node first second place) = true := by
  cases joint <;> exact same_of_pair (by simp [Payload.same]) before after _ _

theorem pair_determined {joint : Joint} {left right : Node} {first second : List Char}
    (span : Span) (isKnown : joint ∈ Joint.known) (before : Printed left first)
    (after : Printed right second) (leftDetermined : Determined left first)
    (rightDetermined : Determined right second) :
    Determined (joint.node left right span)
      ('(' :: (first ++ ' ' :: (joint.mark ++ (second ++ [')'])))) := by
  intro other otherText rest more printed same
  have here : Printed (joint.node left right span) _ := .pair isKnown before after
  have shapes := printed_shapes here printed same
  rw [joint_shape] at shapes
  cases printed with
  | @pair otherJoint otherLeft otherRight place otherFirst otherSecond otherKnown otherBefore
      otherAfter =>
      simp only [List.cons_append, List.append_assoc, List.cons.injEq, true_and] at same
      obtain ⟨leftAlike, marks⟩ := leftDetermined otherBefore same
      obtain ⟨rfl, seconds⟩ := Joint.mark_determines_joint isKnown otherKnown
        ((printed_opens after).append _) ((printed_opens otherAfter).append _)
        (List.cons.inj marks).2
      obtain ⟨rightAlike, ends⟩ := rightDetermined otherAfter seconds
      exact ⟨joint_is_same joint leftAlike rightAlike span place, (List.cons.inj ends).2⟩
  | leaf content =>
      rw [leaf_shape content] at shapes
      cases shapes
  | vector _ _ => cases shapes
  | negation _ => cases shapes

/-- Every printed form tells its tree and where it ends. -/
theorem printed_determined {tree : Node} {text : List Char} (printed : Printed tree text) :
    Determined tree text := by
  induction printed with
  | leaf content => exact leaf_determined _ content
  | vector parts items each => exact vector_determined _ items each
  | negation inner induction => exact negation_determined _ inner induction
  | pair isKnown before after leftInduction rightInduction =>
      exact pair_determined _ isKnown before after leftInduction rightInduction

theorem items_are_printed {items : List Node}
    (each : ∀ item ∈ items, ∃ shown, item.text = .ok shown ∧ Printed item shown.toList) :
    ∃ texts : List String, Node.listTexts items = .ok texts ∧
      ∃ parts : List (Node × List Char), parts.map Prod.fst = items ∧
        parts.map Prod.snd = texts.map String.toList ∧ ∀ part ∈ parts, Printed part.1 part.2 := by
  induction items with
  | nil => exact ⟨[], by rw [Node.listTexts], [], rfl, rfl, by simp⟩
  | cons item items induction =>
      obtain ⟨⟨first, shown, printed⟩, others⟩ := List.forall_mem_cons.mp each
      obtain ⟨texts, rest, parts, nodes, contents, all⟩ := induction others
      refine ⟨first :: texts, by rw [Node.listTexts, shown, rest]; rfl,
        (item, first.toList) :: parts, ?_, ?_, List.forall_mem_cons.mpr ⟨printed, all⟩⟩
      · rw [List.map_cons, nodes]
      · rw [List.map_cons, contents, List.map_cons]

theorem natural_text (value : Nat) :
    Text.integerText value = String.ofList (Nat.toDigits 10 value) := by
  rw [integer_text_shape, signText, if_neg (by omega), Int.natAbs_natCast]
  rfl

/-- A well-formed tree without doubles is printed. -/
theorem well_formed_is_printed {tree : Node} (formed : tree.WellFormed)
    (plain : ∀ part, tree.Part part → part.kind ≠ .float) :
    ∃ shown, tree.text = .ok shown ∧ Printed tree shown.toList := by
  induction formed with
  | @int value span small =>
      refine ⟨_, by rw [Node.text], ?_⟩
      have printed : Printed (.mk .int (.int value) [] span) _ := .leaf (.number small)
      simpa [Payload.plain, natural_text] using printed
  | float => exact absurd rfl (plain _ (.self _))
  | infinity => exact ⟨_, by rw [Node.text], .leaf .infinity⟩
  | pi => exact ⟨_, by rw [Node.text], .leaf .pi⟩
  | @name name span named =>
      refine ⟨_, by rw [Node.text], ?_⟩
      have printed : Printed (.mk .variable (.text name) [] span) _ := .leaf (.name named)
      simpa [Payload.plain] using printed
  | @vector items span formed induction =>
      obtain ⟨_, inside⟩ := forall_parts_iff.mp plain
      obtain ⟨texts, shown, parts, rfl, contents, all⟩ :=
        items_are_printed fun item member => induction item member (inside item member)
      refine ⟨_, by rw [Node.text, shown]; rfl, ?_⟩
      have printed : Printed (.mk .vector .none (parts.map Prod.fst) span) _ := .vector parts all
      rw [contents] at printed
      simpa [String.toList_intercalate] using printed
  | @binary operator left right span _ _ _ first second =>
      obtain ⟨_, inside⟩ := forall_parts_iff.mp plain
      obtain ⟨leftText, leftShown, before⟩ := first (inside left (by simp))
      obtain ⟨rightText, rightShown, after⟩ := second (inside right (by simp))
      obtain ⟨title, titled⟩ := binary_operator_has_title operator
      have named : Node.operatorTitle (.text operator.kind.code) = .ok title := by
        have code : Node.operatorOf? (.text operator.kind.code) = some operator.kind :=
          congrArg some (binary_kind_of_code (operator_is_binary operator))
        unfold Node.operatorTitle
        rw [code, Option.bind_some, titled]
      have isKnown : Joint.operation operator.kind ∈ Joint.known := by
        simp [Joint.known, operator_is_binary]
      refine ⟨_, by rw [Node.text, leftShown, named, rightShown]; rfl, ?_⟩
      have whole : Printed ((Joint.operation operator.kind).node left right span) _ :=
        .pair isKnown before after
      simpa [Joint.node, Joint.mark, Joint.word, titled] using whole
  | @unary operand span _ induction =>
      obtain ⟨_, inside⟩ := forall_parts_iff.mp plain
      obtain ⟨operandText, shown, printed⟩ := induction (inside operand (by simp))
      have named : Node.operatorTitle (.text TokenKind.subtract.code) = .ok "'-'" := rfl
      refine ⟨_, by rw [Node.text, named, shown]; rfl, ?_⟩
      have whole : Printed (.mk .unary (.text TokenKind.subtract.code) [operand] span) _ :=
        .negation printed
      simpa using whole
  | @assign target value span _ _ _ first second =>
      obtain ⟨_, inside⟩ := forall_parts_iff.mp plain
      obtain ⟨targetText, targetShown, before⟩ := first (inside target (by simp))
      obtain ⟨valueText, valueShown, after⟩ := second (inside value (by simp))
      refine ⟨_, by rw [Node.text, targetShown, valueShown]; rfl, ?_⟩
      have whole : Printed (Joint.assignment.node target value span) _ :=
        .pair (by decide) before after
      simpa [Joint.node, Joint.mark, Joint.word] using whole
  | @call callee argument span _ _ first second =>
      obtain ⟨_, inside⟩ := forall_parts_iff.mp plain
      obtain ⟨calleeText, calleeShown, before⟩ := first (inside callee (by simp))
      obtain ⟨argumentText, argumentShown, after⟩ := second (inside argument (by simp))
      refine ⟨_, by rw [Node.text, calleeShown, argumentShown]; rfl, ?_⟩
      have whole : Printed (Joint.call.node callee argument span) _ :=
        .pair (by decide) before after
      simpa [Joint.node, Joint.mark, Joint.word] using whole

theorem same_items_print_alike {items others : List Node}
    (each : ∀ item ∈ items, ∀ other ∈ others, item.same other = true → item.text = other.text)
    (same : Node.sameLists items others = true) : Node.listTexts items = Node.listTexts others := by
  induction items generalizing others with
  | nil => rw [Node.same_nothing same]
  | cons item items induction =>
      obtain ⟨other, rest, rfl, here, later⟩ := Node.same_more same
      have first := each item List.mem_cons_self other List.mem_cons_self here
      have others := induction (fun item member other inside =>
        each item (List.mem_cons_of_mem _ member) other (List.mem_cons_of_mem _ inside)) later
      rw [Node.listTexts, Node.listTexts, first, others]

theorem same_trees_print_alike {left right : Node} (formed : left.WellFormed)
    (rightFormed : right.WellFormed) (plain : ∀ part, left.Part part → part.kind ≠ .float)
    (same : left.same right = true) : left.text = right.text := by
  induction formed generalizing right with
  | int small =>
      obtain ⟨other, parts, place, rfl, payloads, _⟩ := Node.same_shape same
      cases rightFormed with
      | int _ =>
          have values := by simpa [Payload.same] using payloads
          rw [Node.text, Node.text, values]
  | float => exact absurd rfl (plain _ (.self _))
  | infinity =>
      obtain ⟨_, _, _, rfl, _⟩ := Node.same_shape same
      rw [Node.text, Node.text]
  | pi =>
      obtain ⟨_, _, _, rfl, _⟩ := Node.same_shape same
      rw [Node.text, Node.text]
  | name named =>
      obtain ⟨_, _, _, rfl, payloads, _⟩ := Node.same_shape same
      rw [Node.text, Node.text, same_text payloads]
  | @vector items span _ induction =>
      obtain ⟨other, parts, place, rfl, _, lists⟩ := Node.same_shape same
      obtain ⟨_, inside⟩ := forall_parts_iff.mp plain
      have texts : Node.listTexts items = Node.listTexts parts :=
        same_items_print_alike (fun item member part among alike =>
          induction item member (Node.child_well_formed rightFormed among) (inside item member)
            alike) lists
      rw [Node.text, Node.text, texts]
  | @binary operator left right span _ _ _ first second =>
      obtain ⟨other, parts, place, rfl, payloads, lists⟩ := Node.same_shape same
      obtain ⟨one, two, rfl, here, there⟩ := Node.same_pair lists
      obtain ⟨_, inside⟩ := forall_parts_iff.mp plain
      have before := first (Node.child_well_formed rightFormed (by simp [Node.children]))
        (inside left (by simp)) here
      have after := second (Node.child_well_formed rightFormed (by simp [Node.children]))
        (inside right (by simp)) there
      rw [Node.text, Node.text, same_text payloads, before, after]
  | @unary operand span _ induction =>
      obtain ⟨other, parts, place, rfl, payloads, lists⟩ := Node.same_shape same
      obtain ⟨one, rfl, here⟩ := Node.same_single lists
      obtain ⟨_, inside⟩ := forall_parts_iff.mp plain
      have operandText := induction
        (Node.child_well_formed rightFormed (by simp [Node.children]))
        (inside operand (by simp)) here
      rw [Node.text, Node.text, same_text payloads, operandText]
  | @assign target value span _ _ _ first second =>
      obtain ⟨other, parts, place, rfl, _, lists⟩ := Node.same_shape same
      obtain ⟨one, two, rfl, here, there⟩ := Node.same_pair lists
      obtain ⟨_, inside⟩ := forall_parts_iff.mp plain
      have before := first (Node.child_well_formed rightFormed (by simp [Node.children]))
        (inside target (by simp)) here
      have after := second (Node.child_well_formed rightFormed (by simp [Node.children]))
        (inside value (by simp)) there
      rw [Node.text, Node.text, before, after]
  | @call callee argument span _ _ first second =>
      obtain ⟨other, parts, place, rfl, _, lists⟩ := Node.same_shape same
      obtain ⟨one, two, rfl, here, there⟩ := Node.same_pair lists
      obtain ⟨_, inside⟩ := forall_parts_iff.mp plain
      have before := first (Node.child_well_formed rightFormed (by simp [Node.children]))
        (inside callee (by simp)) here
      have after := second (Node.child_well_formed rightFormed (by simp [Node.children]))
        (inside argument (by simp)) there
      rw [Node.text, Node.text, before, after]

/-- Two trees without doubles that are read from texts are printed, and what is printed is the same
exactly when the trees are alike, wherever they stood. -/
theorem tree_text_determines_tree (first second : String) (left right : Node)
    (leftRead : parseText first = .ok left) (rightRead : parseText second = .ok right)
    (leftPlain : ∀ part, left.Part part → part.kind ≠ .float)
    (rightPlain : ∀ part, right.Part part → part.kind ≠ .float) :
    ∃ leftText rightText, left.text = .ok leftText ∧ right.text = .ok rightText ∧
      (leftText = rightText ↔ left.same right = true) := by
  have leftFormed := parse_text_well_formed leftRead
  have rightFormed := parse_text_well_formed rightRead
  obtain ⟨leftText, leftShown, leftPrinted⟩ := well_formed_is_printed leftFormed leftPlain
  obtain ⟨rightText, rightShown, rightPrinted⟩ := well_formed_is_printed rightFormed rightPlain
  refine ⟨leftText, rightText, leftShown, rightShown, ?_, ?_⟩
  · rintro rfl
    have alone : leftText.toList ++ [] = leftText.toList ++ [] := rfl
    exact (printed_determined leftPrinted rightPrinted alone).1
  · intro same
    have texts := same_trees_print_alike leftFormed rightFormed leftPlain same
    rw [leftShown, rightShown] at texts
    exact Except.ok.inj texts

/-- A call is not printed as the vector of its parts. -/
theorem loose_argument_is_printed_apart :
    ∃ call items callText itemsText,
      parseText "[f(x)]" = .ok call ∧ parseText "[f (x)]" = .ok items ∧
        call.text = .ok callText ∧ items.text = .ok itemsText ∧ callText ≠ itemsText := by
  let callee : Node := .mk .variable (.text "f") [] ⟨1, 2, 0, 0, 1, 2⟩
  let argument : Node := .mk .variable (.text "x") [] ⟨3, 4, 0, 0, 3, 4⟩
  let loose : Node := .mk .variable (.text "x") [] ⟨4, 5, 0, 0, 4, 5⟩
  let call : Node :=
    .mk .vector .none [.mk .call .none [callee, argument] ⟨1, 5, 0, 0, 1, 5⟩] ⟨0, 6, 0, 0, 0, 6⟩
  let items : Node := .mk .vector .none [callee, loose] ⟨0, 7, 0, 0, 0, 7⟩
  have callRead : parseText "[f(x)]" = .ok call := rfl
  have itemsRead : parseText "[f (x)]" = .ok items := rfl
  have callPlain : ∀ part, call.Part part → part.kind ≠ .float := by
    simp [call, callee, argument, forall_parts_iff, Node.kind]
  have itemsPlain : ∀ part, items.Part part → part.kind ≠ .float := by
    simp [items, callee, loose, forall_parts_iff, Node.kind]
  obtain ⟨callText, itemsText, callShown, itemsShown, alike⟩ :=
    tree_text_determines_tree _ _ call items callRead itemsRead callPlain itemsPlain
  refine ⟨call, items, callText, itemsText, callRead, itemsRead, callShown, itemsShown, ?_⟩
  intro same
  have differs : call.same items = false := by decide
  rw [alike.mp same] at differs
  cases differs

end VectorCalc

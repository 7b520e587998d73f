import VectorCalc.Proofs.Formation
import VectorCalc.Proofs.Tiling

/-!
Where the nodes of a tree stand in its text. No token of an expression holds a line feed or a
character of more than one byte, and no line end stands between two of them; so an expression lies
on one line, on which columns and offsets differ by a constant. Every span of a tree starts with one
token and stops with another, and is only ever widened over what comes later. On such spans it does
no harm that widening takes the largest line, column and offset each on its own.
-/
namespace VectorCalc

set_option autoImplicit false

/-- The span is not empty and lies on one line, whose columns are the offsets less the margin. -/
structure Span.OnLine (line margin : Int) (span : Span) : Prop where
  lineStart : span.lineStart = line
  lineStop : span.lineStop = line
  columnStart : span.columnStart = span.start - margin
  columnStop : span.columnStop = span.stop - margin
  nonempty : span.start < span.stop

structure Aligned (line margin : Int) (tokens : List Token) : Prop where
  onLine : ∀ token ∈ tokens, token.span.OnLine line margin
  ordered : tokens.Pairwise fun first second => first.span.stop ≤ second.span.start

theorem Aligned.sublist {line margin : Int} {tokens others : List Token}
    (aligned : Aligned line margin tokens) (within : others.Sublist tokens) :
    Aligned line margin others :=
  ⟨fun token member => aligned.onLine token (within.subset member),
    aligned.ordered.sublist within⟩

/-- The span lies on the line and runs from the start of one of the tokens to the end of one. -/
structure Span.Drawn (line margin : Int) (tokens : List Token) (span : Span) : Prop where
  onLine : span.OnLine line margin
  starts : ∃ token ∈ tokens, token.span.start = span.start
  stops : ∃ token ∈ tokens, token.span.stop = span.stop

namespace Span

variable {line margin : Int} {tokens others : List Token} {first second : Span}

theorem Drawn.mono (drawn : first.Drawn line margin tokens)
    (within : ∀ token ∈ tokens, token ∈ others) : first.Drawn line margin others := by
  obtain ⟨onLine, ⟨start, starting, starts⟩, ⟨stop, stopping, stops⟩⟩ := drawn
  exact ⟨onLine, ⟨start, within start starting, starts⟩, ⟨stop, within stop stopping, stops⟩⟩

theorem drawn_token {token : Token} (onLine : token.span.OnLine line margin) :
    token.span.Drawn line margin [token] :=
  ⟨onLine, ⟨token, List.mem_singleton_self token, rfl⟩, ⟨token, List.mem_singleton_self token, rfl⟩⟩

theorem Drawn.before (left : first.Drawn line margin tokens)
    (right : second.Drawn line margin others)
    (apart : ∀ token ∈ tokens, ∀ other ∈ others, token.span.stop ≤ other.span.start) :
    first.stop ≤ second.start := by
  obtain ⟨stop, stopping, stops⟩ := left.stops
  obtain ⟨start, starting, starts⟩ := right.starts
  rw [← stops, ← starts]
  exact apart stop stopping start starting

theorem extend_later (left : first.OnLine line margin) (right : second.OnLine line margin)
    (before : first.stop ≤ second.start) :
    (first.extend second).stop = second.stop ∧ (first.extend second).OnLine line margin := by
  have longer : first.stop ≤ second.stop := by
    have nonempty := right.nonempty
    omega
  have stop : (first.extend second).stop = second.stop := Int.max_eq_right longer
  refine ⟨stop, left.lineStart, ?_, left.columnStart, ?_, ?_⟩
  · change max first.lineStop second.lineStop = line
    rw [left.lineStop, right.lineStop]
    exact Int.max_self line
  · rw [stop]
    change max first.columnStop second.columnStop = second.stop - margin
    rw [left.columnStop, right.columnStop]
    omega
  · rw [stop]
    have nonempty := left.nonempty
    change first.start < second.stop
    omega

theorem Drawn.extend (left : first.Drawn line margin tokens)
    (right : second.Drawn line margin tokens) (before : first.stop ≤ second.start) :
    (first.extend second).Drawn line margin tokens := by
  obtain ⟨stop, onLine⟩ := extend_later left.onLine right.onLine before
  refine ⟨onLine, left.starts, ?_⟩
  rw [stop]
  exact right.stops

theorem extend_all {limit : Int} (spans : List Span)
    (all : ∀ span ∈ first :: spans, span.OnLine line margin)
    (ordered : (first :: spans).Pairwise fun left right => left.stop ≤ right.start)
    (within : ∀ span ∈ first :: spans, span.stop ≤ limit) :
    (spans.foldl Span.extend first).start = first.start ∧
      (spans.foldl Span.extend first).stop ≤ limit ∧
      (spans.foldl Span.extend first).OnLine line margin := by
  induction spans generalizing first with
  | nil => exact ⟨rfl, within first (by simp), all first (by simp)⟩
  | cons span spans induction =>
      rw [List.forall_mem_cons, List.forall_mem_cons] at all within
      rw [List.pairwise_cons, List.pairwise_cons] at ordered
      obtain ⟨before, laterBefore, rest⟩ := ordered
      obtain ⟨stop, onLine⟩ := extend_later all.1 all.2.1 (before span (by simp))
      apply induction
      · exact List.forall_mem_cons.mpr ⟨onLine, all.2.2⟩
      · rw [List.pairwise_cons, stop]
        exact ⟨laterBefore, rest⟩
      · rw [List.forall_mem_cons, stop]
        exact within.2

end Span

structure Node.Nested (node : Node) : Prop where
  covers : ∀ child ∈ node.children,
    node.span.start ≤ child.span.start ∧ child.span.stop ≤ node.span.stop
  ordered : node.children.Pairwise fun first second => first.span.stop ≤ second.span.start

def Node.Drawn (line margin : Int) (tokens : List Token) (tree : Node) : Prop :=
  ∀ part, tree.Part part → part.span.Drawn line margin tokens ∧ part.Nested

namespace Node

variable {line margin : Int} {tokens others : List Token}

theorem Drawn.mono {tree : Node} (drawn : tree.Drawn line margin tokens)
    (within : ∀ token ∈ tokens, token ∈ others) : tree.Drawn line margin others := by
  intro part inside
  obtain ⟨span, nested⟩ := drawn part inside
  exact ⟨span.mono within, nested⟩

theorem Drawn.here {tree : Node} (drawn : tree.Drawn line margin tokens) :
    tree.span.Drawn line margin tokens :=
  (drawn tree (.self tree)).1

theorem drawn_of_children {kind : NodeKind} {payload : Payload} {children : List Node}
    {span : Span} (here : span.Drawn line margin tokens)
    (inside : ∀ child ∈ children, child.Drawn line margin tokens)
    (covers : ∀ child ∈ children, span.start ≤ child.span.start ∧ child.span.stop ≤ span.stop)
    (ordered : children.Pairwise fun first second => first.span.stop ≤ second.span.start) :
    (Node.mk kind payload children span).Drawn line margin tokens :=
  forall_parts_iff.mpr ⟨⟨here, covers, ordered⟩, inside⟩

theorem drawn_pair {kind : NodeKind} {payload : Payload} {left right : Node} {last : Span}
    (first : left.Drawn line margin tokens) (second : right.Drawn line margin tokens)
    (final : last.Drawn line margin tokens) (before : left.span.stop ≤ right.span.start)
    (after : right.span.stop ≤ last.stop) (beyond : left.span.stop ≤ last.start) :
    (Node.mk kind payload [left, right] (left.span.extend last)).Drawn line margin tokens := by
  have stop := (Span.extend_later first.here.onLine final.onLine beyond).1
  have leftSize := first.here.onLine.nonempty
  have rightSize := second.here.onLine.nonempty
  have start : (left.span.extend last).start = left.span.start := rfl
  apply drawn_of_children (first.here.extend final beyond)
  · simp [first, second]
  · simp only [List.forall_mem_cons, List.not_mem_nil, false_implies, implies_true, and_true]
    rw [stop, start]
    omega
  · simpa using before

end Node

def outsideKinds : List TokenKind := [.lineEnd, .fileEnd, .bad]

theorem operator_is_inside {level : Level} {kind : TokenKind} (operator : kind ∈ level.operators) :
    kind ∉ outsideKinds := by
  have inside : ∀ kind ∈ binaryKinds, kind ∉ outsideKinds := by decide
  exact inside kind (operator_is_binary_kind operator)

theorem derived_kinds {strict : Bool} {phrase : Phrase} {tokens : List Token} {tree : Node}
    (derived : Derives strict phrase tokens tree) :
    ∀ token ∈ tokens, token.kind ∉ outsideKinds := by
  induction derived with
  | @leaf token tree alone =>
      rw [List.forall_mem_singleton]
      unfold Token.leaf? at alone
      split at alone
      all_goals simp_all [outsideKinds]
  | group opens closes _ within =>
      simp only [List.forall_mem_cons, List.forall_mem_append, opens, closes]
      exact ⟨by decide, within, by decide, by simp⟩
  | vector parts opens closes _ items =>
      simp only [List.forall_mem_cons, List.forall_mem_append, opens, closes, List.mem_flatten,
        List.mem_map]
      refine ⟨by decide, ?_, by decide, by simp⟩
      rintro token ⟨_, ⟨part, inside, rfl⟩, member⟩
      exact items part inside token member
  | bare _ induction => exact induction
  | apply _ _ opens _ _ closes function within =>
      simp only [List.forall_mem_cons, List.forall_mem_append, opens, closes]
      exact ⟨function, by decide, within, by decide, by simp⟩
  | negate minus _ induction =>
      rw [List.forall_mem_cons, minus]
      exact ⟨by decide, induction⟩
  | plain _ induction => exact induction
  | single _ induction => exact induction
  | step _ operator _ _ left right =>
      rw [List.forall_mem_append, List.forall_mem_cons]
      exact ⟨left, operator_is_inside operator, right⟩
  | compare _ induction => exact induction
  | assign _ _ equals _ target value =>
      rw [List.forall_mem_append, List.forall_mem_cons, equals]
      exact ⟨target, by decide, value⟩

theorem leaf_span {token : Token} {tree : Node} (alone : token.leaf? = some tree) :
    tree.children = [] ∧ tree.span = token.span := by
  unfold Token.leaf? at alone
  split at alone <;> cases alone <;> exact ⟨rfl, rfl⟩

section Derived

variable {line margin : Int}

theorem signed_drawn {sign : Token} {tokens : List Token} {operand : Node} {kind : NodeKind}
    {payload : Payload} (aligned : Aligned line margin (sign :: tokens))
    (inner : operand.Drawn line margin tokens) :
    (Node.mk kind payload [operand] (sign.span.extend operand.span)).Drawn line margin
      (sign :: tokens) := by
  have onLine := aligned.onLine sign (by simp)
  have before : sign.span.stop ≤ operand.span.start := by
    apply (Span.drawn_token onLine).before inner.here
    simpa using (List.pairwise_cons.mp aligned.ordered).1
  have signed : sign.span.Drawn line margin (sign :: tokens) :=
    (Span.drawn_token onLine).mono (by simp)
  have operandDrawn : operand.Drawn line margin (sign :: tokens) :=
    inner.mono fun _ => List.mem_cons_of_mem sign
  have stop := (Span.extend_later onLine inner.here.onLine before).1
  have start : (sign.span.extend operand.span).start = sign.span.start := rfl
  apply Node.drawn_of_children (signed.extend operandDrawn.here before)
  · simpa using operandDrawn
  · have nonempty := onLine.nonempty
    simp only [List.forall_mem_singleton]
    rw [stop, start]
    omega
  · simp

theorem joined_drawn {sign : Token} {tokens others : List Token} {left right : Node}
    {kind : NodeKind} {payload : Payload} (aligned : Aligned line margin (tokens ++ sign :: others))
    (first : left.Drawn line margin tokens) (second : right.Drawn line margin others) :
    (Node.mk kind payload [left, right] (left.span.extend right.span)).Drawn line margin
      (tokens ++ sign :: others) := by
  have before : left.span.stop ≤ right.span.start := by
    apply first.here.before second.here
    intro token member other later
    exact (List.pairwise_append.mp aligned.ordered).2.2 token member other (by simp [later])
  have leftDrawn : left.Drawn line margin (tokens ++ sign :: others) :=
    first.mono fun _ => List.mem_append_left _
  have rightDrawn : right.Drawn line margin (tokens ++ sign :: others) :=
    second.mono fun _ later => List.mem_append_right _ (List.mem_cons_of_mem sign later)
  exact Node.drawn_pair leftDrawn rightDrawn rightDrawn.here before (Int.le_refl _) before

theorem application_drawn {opening closing : Token} {tokens inner : List Token}
    {callee argument : Node}
    (aligned : Aligned line margin (tokens ++ opening :: (inner ++ [closing])))
    (function : callee.Drawn line margin tokens) (within : argument.Drawn line margin inner) :
    (Node.call callee argument (callee.span.extend closing.span)).Drawn line margin
      (tokens ++ opening :: (inner ++ [closing])) := by
  obtain ⟨_, bracketed, apart⟩ := List.pairwise_append.mp aligned.ordered
  obtain ⟨_, _, inside⟩ := List.pairwise_append.mp (List.pairwise_cons.mp bracketed).2
  have last := Span.drawn_token (aligned.onLine closing (by simp))
  have before : callee.span.stop ≤ argument.span.start := by
    apply function.here.before within.here
    intro token member other later
    exact apart token member other (by simp [later])
  have after : argument.span.stop ≤ closing.span.start := within.here.before last inside
  have nonempty := last.onLine.nonempty
  have length := within.here.onLine.nonempty
  apply Node.drawn_pair
  · exact function.mono fun _ => List.mem_append_left _
  · exact within.mono fun _ member => by simp [member]
  · exact last.mono (by simp)
  · exact before
  · omega
  · omega

/-- Items between brackets. The span starts as that of the opening bracket and is widened over the
items, which all end before the closing bracket starts. -/
theorem vector_drawn {opening closing : Token} (parts : List (List Token × Node))
    (aligned : Aligned line margin (opening :: ((parts.map Prod.fst).flatten ++ [closing])))
    (items : ∀ part ∈ parts, part.2.Drawn line margin part.1) :
    (Node.vector (parts.map Prod.snd) (vectorSpan opening closing (parts.map Prod.snd))).Drawn
      line margin (opening :: ((parts.map Prod.fst).flatten ++ [closing])) := by
  obtain ⟨opened, bracketed⟩ := List.pairwise_cons.mp aligned.ordered
  obtain ⟨flattened, _, inside⟩ := List.pairwise_append.mp bracketed
  obtain ⟨_, apart⟩ := List.pairwise_flatten.mp flattened
  have first := Span.drawn_token (aligned.onLine opening (by simp))
  have last := Span.drawn_token (aligned.onLine closing (by simp))
  have among (part : List Token × Node) (member : part ∈ parts) (token : Token)
      (here : token ∈ part.1) : token ∈ (parts.map Prod.fst).flatten :=
    List.mem_flatten.mpr ⟨part.1, List.mem_map_of_mem member, here⟩
  have afterOpening (part : List Token × Node) (member : part ∈ parts) :
      opening.span.stop ≤ part.2.span.start := by
    apply first.before (items part member).here
    intro token same other here
    rw [List.mem_singleton.mp same]
    exact opened other (List.mem_append_left _ (among part member other here))
  have beforeClosing (part : List Token × Node) (member : part ∈ parts) :
      part.2.span.stop ≤ closing.span.start := by
    apply (items part member).here.before last
    intro token here
    exact inside token (among part member token here)
  have ordered : parts.Pairwise fun left right => left.2.span.stop ≤ right.2.span.start := by
    apply List.Pairwise.imp_of_mem _ (List.pairwise_map.mp apart)
    intro left right leftMember rightMember before
    exact (items left leftMember).here.before (items right rightMember).here before
  have closingAfter : opening.span.stop ≤ closing.span.start := opened closing (by simp)
  obtain ⟨start, stop, onLine⟩ := Span.extend_all (parts.map fun part => part.2.span)
    (List.forall_mem_cons.mpr ⟨first.onLine,
      List.forall_mem_map.mpr fun part member => (items part member).here.onLine⟩)
    (List.pairwise_cons.mpr ⟨List.forall_mem_map.mpr afterOpening, List.pairwise_map.mpr ordered⟩)
    (List.forall_mem_cons.mpr ⟨closingAfter, List.forall_mem_map.mpr beforeClosing⟩)
  have shape : vectorSpan opening closing (parts.map Prod.snd) =
      ((parts.map fun part => part.2.span).foldl Span.extend opening.span).extend closing.span := by
    unfold vectorSpan
    rw [List.foldl_map, List.foldl_map]
  obtain ⟨final, whole⟩ := Span.extend_later onLine last.onLine stop
  rw [← shape] at final whole
  have begins : (vectorSpan opening closing (parts.map Prod.snd)).start = opening.span.start := by
    rw [shape]
    exact start
  apply Node.drawn_of_children
  · exact ⟨whole, ⟨opening, by simp, begins.symm⟩, ⟨closing, by simp, final.symm⟩⟩
  · rw [List.forall_mem_map]
    intro part member
    refine (items part member).mono fun token here => ?_
    exact List.mem_cons_of_mem _ (List.mem_append_left _ (among part member token here))
  · rw [List.forall_mem_map, begins, final]
    intro part member
    have before := afterOpening part member
    have after := beforeClosing part member
    have opens := first.onLine.nonempty
    have closes := last.onLine.nonempty
    omega
  · exact List.pairwise_map.mpr ordered

/-- A derivation from aligned tokens assigns a tree that is drawn from them. -/
theorem derived_tree_drawn {strict : Bool} {phrase : Phrase} {tokens : List Token} {tree : Node}
    (derived : Derives strict phrase tokens tree) (aligned : Aligned line margin tokens) :
    tree.Drawn line margin tokens := by
  induction derived with
  | @leaf token tree alone =>
      obtain ⟨childless, span⟩ := leaf_span alone
      have here : tree.span.Drawn line margin [token] := by
        rw [span]
        exact Span.drawn_token (aligned.onLine token (by simp))
      obtain ⟨kind, payload, children, place⟩ := tree
      cases childless
      exact Node.drawn_of_children here (by simp) (by simp) List.Pairwise.nil
  | @group opening closing inner tree _ _ _ within =>
      have drawn := within (aligned.sublist
        ((List.sublist_append_left inner [closing]).trans (List.sublist_cons_self opening _)))
      exact drawn.mono fun _ member => List.mem_cons_of_mem _ (List.mem_append_left _ member)
  | @vector opening closing parts _ _ _ items =>
      apply vector_drawn parts aligned
      intro part member
      have inside : part.1.Sublist (parts.map Prod.fst).flatten :=
        List.sublist_flatten_of_mem (List.mem_map_of_mem member)
      exact items part member (aligned.sublist ((inside.trans (List.sublist_append_left _ _)).trans
        (List.sublist_cons_self opening _)))
  | bare _ induction => exact induction aligned
  | @apply tokens inner previous opening closing callee argument _ _ _ _ _ _ function within =>
      apply application_drawn aligned
      · exact function (aligned.sublist (List.sublist_append_left _ _))
      · have inside : inner.Sublist (opening :: (inner ++ [closing])) :=
          (List.sublist_append_left inner [closing]).trans (List.sublist_cons_self opening _)
        exact within (aligned.sublist (inside.trans (List.sublist_append_right tokens _)))
  | @negate sign tokens operand _ _ induction =>
      exact signed_drawn aligned (induction (aligned.sublist (List.sublist_cons_self sign tokens)))
  | plain _ induction => exact induction aligned
  | single _ induction => exact induction aligned
  | @step level tokens others sign left right _ _ _ _ first second =>
      apply joined_drawn aligned
      · exact first (aligned.sublist (List.sublist_append_left _ _))
      · exact second (aligned.sublist
          ((List.sublist_cons_self sign others).trans (List.sublist_append_right tokens _)))
  | compare _ induction => exact induction aligned
  | @assign tokens others sign target value _ _ _ _ first second =>
      apply joined_drawn aligned
      · exact first (aligned.sublist (List.sublist_append_left _ _))
      · exact second (aligned.sublist
          ((List.sublist_cons_self sign others).trans (List.sublist_append_right tokens _)))

end Derived

def Plain (character : Char) : Prop :=
  character.utf8Size = 1 ∧ character ≠ '\n'

instance : DecidablePred Plain := fun character =>
  inferInstanceAs (Decidable (character.utf8Size = 1 ∧ character ≠ '\n'))

theorem alphanumeric_is_plain {character : Char} (alphanumeric : character.isAlphanum = true) :
    Plain character := by
  constructor
  · change ((decide ('A'.val ≤ character.val ∧ character.val ≤ 'Z'.val) ||
      (decide ('a'.val ≤ character.val) && decide (character.val ≤ 'z'.val))) ||
        (decide ('0'.val ≤ character.val) && decide (character.val ≤ '9'.val))) = true
      at alphanumeric
    simp only [Bool.or_eq_true, Bool.and_eq_true, decide_eq_true_eq] at alphanumeric
    have most : character.val.toNat ≤ 122 := by
      rcases alphanumeric with (upper | lower) | digit
      · have bound : character.val.toNat ≤ 90 := upper.2
        omega
      · exact lower.2
      · have bound : character.val.toNat ≤ 57 := digit.2
        omega
    rw [Char.utf8Size_eq_one_iff]
    change character.val.toNat ≤ 127
    omega
  · rintro rfl
    cases alphanumeric

theorem digit_is_plain {character : Char} (digit : character.isDigit = true) :
    Plain character :=
  alphanumeric_is_plain (by simp [Char.isAlphanum, digit])

theorem space_is_plain {character : Char} (space : isSpace character = true) :
    Plain character := by
  have blanks : [' ', '\t', '\r', '\x0c'].all (fun blank => decide (Plain blank)) = true := by
    decide
  have member := (blank_iff character).mpr space
  exact of_decide_eq_true (List.all_eq_true.mp blanks character member)

theorem classified_is_plain {lexeme : List Char} {kind : TokenKind} {payload : Payload}
    (classified : Classified lexeme kind payload) (other : kind ≠ .lineEnd) :
    ∀ character ∈ lexeme, Plain character := by
  cases classified with
  | lineBreaks _ => exact absurd rfl other
  | float wholeRun fractionRun =>
      rw [List.forall_mem_append, List.forall_mem_cons]
      exact ⟨fun _ member => digit_is_plain (wholeRun.2 _ member), by decide,
        fun _ member => digit_is_plain (fractionRun.2 _ member)⟩
  | int run => exact fun _ member => digit_is_plain (run.2 _ member)
  | word letter parts =>
      rw [List.forall_mem_cons]
      refine ⟨alphanumeric_is_plain (by simp [Char.isAlphanum, letter]), ?_⟩
      intro character member
      rcases parts character member with alphanumeric | underscore
      · exact alphanumeric_is_plain alphanumeric
      · rw [underscore]
        decide
  | symbol member =>
      have plain : fixedSymbols.all (fun entry =>
          entry.1.all fun character => decide (Plain character)) = true := by decide
      have all := List.all_eq_true.mp plain _ member
      intro character inside
      exact of_decide_eq_true (List.all_eq_true.mp all character inside)

/-- The offset at which the line of a place would start if it were plain up to there. -/
def Place.margin (place : Place) : Int :=
  place.offset - place.column

theorem after_plain (before : List Char) {plain : List Char}
    (all : ∀ character ∈ plain, Plain character) :
    (Place.after (before ++ plain)).line = (Place.after before).line ∧
      (Place.after (before ++ plain)).margin = (Place.after before).margin := by
  induction plain generalizing before with
  | nil => simp
  | cons character plain induction =>
      obtain ⟨⟨size, noLine⟩, rest⟩ := List.forall_mem_cons.mp all
      obtain ⟨line, margin⟩ := induction (before ++ [character]) rest
      rw [List.append_assoc, List.singleton_append, Place.after_step] at line margin
      rw [line, margin]
      unfold Place.step Place.margin
      rw [if_neg noLine, size]
      refine ⟨rfl, ?_⟩
      push_cast
      omega

namespace Lexeme

theorem inside_token {lexeme : Lexeme} {rest : List Char} {token : Token} {first last : Place}
    (cut : cut? (lexeme.text ++ rest) = some lexeme) (made : lexeme.token first last = .ok token)
    (inside : token.kind ∉ outsideKinds) :
    (∀ character ∈ lexeme.text, Plain character) ∧ token.span = first.spanTo last := by
  have noLine : token.kind ≠ .lineEnd := fun same => inside (by simp [same, outsideKinds])
  have good : token.kind ≠ .bad := fun same => inside (by simp [same, outsideKinds])
  constructor
  · cases cut_matches cut with
    | token taken _ _ result =>
        obtain ⟨span, same⟩ := result first last
        rw [made] at same
        cases same
        exact classified_is_plain taken.classified noLine
    | whole taken => exact classified_is_plain taken.classified (by simp)
    | stray _ _ =>
        cases made
        exact absurd rfl good
  · obtain ⟨kind, text⟩ := lexeme
    cases kind with
    | lineBreaks =>
        cases made
        exact absurd rfl noLine
    | stray =>
        cases made
        exact absurd rfl good
    | whole =>
        change integerToken _ _ _ = _ at made
        unfold integerToken at made
        dsimp only at made
        split_ifs at made
        · cases made
          exact absurd rfl good
        · cases made
          rfl
    | _ =>
        cases made
        rfl

end Lexeme

theorem span_on_line {before lexeme : List Char} (nonempty : lexeme ≠ [])
    (plain : ∀ character ∈ lexeme, Plain character) :
    ((Place.after before).spanTo (Place.after (before ++ lexeme))).OnLine
      (Place.after before).line (Place.after before).margin := by
  obtain ⟨line, margin⟩ := after_plain before plain
  have grows := offset_grows before nonempty
  refine ⟨rfl, ?_, ?_, ?_, ?_⟩
  · exact congrArg Int.ofNat line
  · change ((Place.after before).column : Int) = (Place.after before).offset - _
    unfold Place.margin
    omega
  · rw [← margin]
    change ((Place.after (before ++ lexeme)).column : Int) =
      (Place.after (before ++ lexeme)).offset - _
    unfold Place.margin
    omega
  · change ((Place.after before).offset : Int) < (Place.after (before ++ lexeme)).offset
    omega

theorem scan_on_line {before rest : List Char} {steps : List (Token × Source)}
    {broken : Option Breakdown} (scans : Scans before rest steps broken) {body back : List Token}
    (shape : steps.map Prod.fst = body ++ back)
    (inside : ∀ token ∈ body, token.kind ∉ outsideKinds) :
    ∀ token ∈ body,
      token.span.OnLine (Place.after before).line (Place.after before).margin := by
  induction scans generalizing body with
  | ended spaces =>
      cases body with
      | nil => simp
      | cons first body =>
          obtain ⟨same, _⟩ := List.cons_eq_cons.mp shape
          exact absurd (by simp [← same, outsideKinds]) (inside first (by simp))
  | @token before gap rest lexeme token steps broken spaces stops cut made _ induction =>
      cases body with
      | nil => simp
      | cons first body =>
          obtain ⟨same, others⟩ := List.cons_eq_cons.mp shape
          dsimp only at same
          subst same
          obtain ⟨here, later⟩ := List.forall_mem_cons.mp inside
          obtain ⟨plain, span⟩ := Lexeme.inside_token cut made here
          obtain ⟨gapLine, gapMargin⟩ :=
            after_plain before fun character member => space_is_plain (spaces character member)
          obtain ⟨line, margin⟩ := after_plain (before ++ gap) plain
          rw [List.forall_mem_cons, ← gapLine, ← gapMargin]
          constructor
          · rw [span]
            exact span_on_line (Lexeme.cut_sound cut).1 plain
          · rw [← line, ← margin]
            exact induction others later
  | broken =>
      obtain ⟨empty, _⟩ := List.nil_eq_append_iff.mp shape
      simp [empty]

/-- Tokens of an expression that follow each other in a scan lie on one line, wherever they
start. -/
theorem scan_aligned {before rest : List Char} {steps : List (Token × Source)}
    {broken : Option Breakdown} (scans : Scans before rest steps broken)
    {front body back : List Token} (shape : steps.map Prod.fst = front ++ (body ++ back))
    (inside : ∀ token ∈ body, token.kind ∉ outsideKinds) :
    ∃ line margin, ∀ token ∈ body, token.span.OnLine line margin := by
  induction scans generalizing front with
  | ended spaces =>
      cases front with
      | nil => exact ⟨_, _, scan_on_line (.ended spaces) shape inside⟩
      | cons first front =>
          obtain ⟨_, others⟩ := List.cons_eq_cons.mp shape
          have empty := (List.append_eq_nil_iff.mp (List.nil_eq_append_iff.mp others).2).1
          exact ⟨0, 0, by simp [empty]⟩
  | token spaces stops cut made others induction =>
      cases front with
      | nil => exact ⟨_, _, scan_on_line (.token spaces stops cut made others) shape inside⟩
      | cons first front => exact induction (List.cons_eq_cons.mp shape).2
  | broken =>
      have empty := (List.append_eq_nil_iff.mp (List.nil_eq_append_iff.mp shape).2).1
      exact ⟨0, 0, by simp [empty]⟩

structure Node.Located (text : String) (node : Node) : Prop where
  start : 0 ≤ node.span.start
  nonempty : node.span.start < node.span.stop
  inside : node.span.stop ≤ text.utf8ByteSize
  line : node.span.lineStart = node.span.lineStop
  width : node.span.columnStop - node.span.columnStart = node.span.stop - node.span.start
  place : ∃ before, before <+: text.toList ∧ node.span.start = (Place.after before).offset ∧
    node.span.lineStart = (Place.after before).line ∧
    node.span.columnStart = (Place.after before).column
  covers : ∀ child ∈ node.children,
    node.span.start ≤ child.span.start ∧ child.span.stop ≤ node.span.stop
  ordered : node.children.Pairwise fun first second => first.span.stop ≤ second.span.start

/-- A span that is drawn from tokens of the text has its start in common with one of them and its
end with another, and on their line that is enough to know the rest. -/
theorem located_of_drawn {text : String} {line margin : Int} {tokens : List Token} {node : Node}
    (drawn : node.span.Drawn line margin tokens) (nested : node.Nested)
    (onLine : ∀ token ∈ tokens, token.span.OnLine line margin)
    (covered : ∀ token ∈ tokens, ∃ before lexeme, before ++ lexeme <+: text.toList ∧
      token.Covers before lexeme) : node.Located text := by
  obtain ⟨here, ⟨first, starting, starts⟩, ⟨last, stopping, stops⟩⟩ := drawn
  obtain ⟨before, lexeme, within, covers⟩ := covered first starting
  obtain ⟨front, ending, final, finalCovers⟩ := covered last stopping
  have firstLine := onLine first starting
  have bounded := offset_mono final
  have size : (Place.after text.toList).offset = text.utf8ByteSize := by simp [Place.after]
  have start := covers.start
  have stop := finalCovers.stop
  refine ⟨by omega, here.nonempty, by omega, ?_, ?_, ?_, nested.covers, nested.ordered⟩
  · rw [here.lineStart, here.lineStop]
  · rw [here.columnStart, here.columnStop]
    omega
  · refine ⟨before, (List.prefix_append before lexeme).trans within, ?_, ?_, ?_⟩
    · rw [← starts, start]
    · rw [here.lineStart, ← firstLine.lineStart, covers.line]
    · rw [here.columnStart, ← starts, ← firstLine.columnStart, covers.column]

/-- Every node of a tree that is read from a text has a span within the text that is not empty, that
stays on one line and is as wide in columns as in bytes. The spans of its children lie within it,
one after the other. -/
theorem read_spans_are_nested {text : String} {tree : Node} (read : parseText text = .ok tree) :
    ∀ node, tree.Part node → node.Located text := by
  obtain ⟨tokens, front, body, back, scanned, whole, derived⟩ := read_expression read
  have scans := Source.scan_of_text text
  have shape : (Source.ofText text).scan.steps.map Prod.fst = front ++ (body ++ back) :=
    (tokenize_scan scanned).1.trans whole
  obtain ⟨line, margin, onLine⟩ := scan_aligned scans shape (derived_kinds derived)
  have ordered : body.Pairwise fun first second => first.span.stop ≤ second.span.start := by
    have all : ((Source.ofText text).scan.steps.map Prod.fst).Pairwise
        fun first second => first.span.stop ≤ second.span.start := by
      rw [List.pairwise_map]
      exact List.pairwise_map.mp (scan_is_ordered scans)
    rw [shape] at all
    exact all.sublist
      ((List.sublist_append_left body back).trans (List.sublist_append_right front _))
  have covered : ∀ token ∈ body, ∃ before lexeme, before ++ lexeme <+: text.toList ∧
      token.Covers before lexeme := by
    intro token member
    have among : token ∈ (Source.ofText text).scan.steps.map Prod.fst := by
      rw [shape]
      simp [member]
    obtain ⟨step, inside, same⟩ := List.mem_map.mp among
    obtain ⟨before, lexeme, tail, found⟩ := scan_covers scans step inside
    rw [← same]
    exact ⟨before, lexeme, ⟨tail, found.shape.symm⟩, found.covers⟩
  intro node within
  obtain ⟨drawn, nested⟩ := derived_tree_drawn derived ⟨onLine, ordered⟩ node within
  exact located_of_drawn drawn nested onLine covered

/-- On the second line a grouped function is applied twice inside of a vector. -/
theorem grouped_call_is_located :
    ∃ tree, parseText "\n [ -x (f)( 1 )([]) ]" = .ok tree ∧
      tree.span = ⟨2, 21, 1, 1, 1, 20⟩ ∧ ∀ node, tree.Part node →
        node.Located "\n [ -x (f)( 1 )([]) ]" := by
  obtain ⟨tree, read, span⟩ : ∃ tree, parseText "\n [ -x (f)( 1 )([]) ]" = .ok tree ∧
      tree.span = ⟨2, 21, 1, 1, 1, 20⟩ := ⟨_, rfl, rfl⟩
  exact ⟨tree, read, span, read_spans_are_nested read⟩

end VectorCalc

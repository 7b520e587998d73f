import VectorCalc.Proofs.Operands

/-!
Arithmetic on nested vectors. Two values are followed together along a path of indices: into both
as long as both are vectors, and into the left one alone once the right one is none. Arithmetic
gives a result exactly when everything that meets on such a path can be combined, and then the
result has the shape of the left value as far as the two go together, with the results for numbers
in the places where numbers meet. What is cut off by the shorter of two vectors is never looked at.
-/
namespace VectorCalc

set_option autoImplicit false

namespace Value

/-- A value of the language: a number of 64 bits, a vector of such values to any depth, or a
function. -/
inductive Proper : Value → Prop where
  | number {value : Value} (plain : value.IsNumber) : Proper value
  | vector {items : List Value} (inner : ∀ item ∈ items, Proper item) : Proper (.vector items)
  | function {parameter : Payload} {body : Node} : Proper (.function parameter body)

@[simp] theorem int_is_proper_iff {value : Int} : (Value.int value).Proper ↔ Word.Fits value := by
  constructor
  · rintro ⟨⟨fits⟩⟩
    exact fits
  · exact fun fits => .number (.int fits)

@[simp] theorem vector_is_proper_iff {items : List Value} :
    (Value.vector items).Proper ↔ ∀ item ∈ items, item.Proper := by
  constructor
  · intro proper
    cases proper with
    | number plain => cases plain
    | vector inner => exact inner
  · exact .vector

def isVector : Value → Bool
  | .vector _ => true
  | _ => false

def part? : List Nat → Value → Option Value
  | [], value => some value
  | index :: path, .vector items => items[index]?.bind (part? path)
  | _ :: _, _ => none

/-- The parts of two values that meet at a path of indices. A right side that is no vector meets
every item of the left one. -/
def compared? : List Nat → Value → Value → Option (Value × Value)
  | [], left, right => some (left, right)
  | index :: path, .vector items, .vector others =>
      match items[index]?, others[index]? with
      | some left, some right => compared? path left right
      | _, _ => none
  | index :: path, .vector items, right =>
      match items[index]? with
      | some left => compared? path left right
      | none => none
  | _ :: _, _, _ => none

def width (items : List Value) : Value → Nat
  | .vector others => min items.length others.length
  | _ => items.length

def partners (items : List Value) : Value → List (Value × Value)
  | .vector others => items.zip others
  | right => items.map fun item => (item, right)

theorem partners_length (items : List Value) (right : Value) :
    (partners items right).length = width items right := by
  cases right <;> simp [partners, width]

theorem compared_vector (index : Nat) (path : List Nat) (items : List Value) (right : Value) :
    compared? (index :: path) (.vector items) right =
      (partners items right)[index]?.bind fun pair => compared? path pair.1 pair.2 := by
  cases right with
  | vector others =>
      simp only [compared?, partners, List.zip, List.getElem?_zipWith]
      cases items[index]? <;> cases others[index]? <;> rfl
  | _ =>
      simp only [compared?, partners, List.getElem?_map]
      cases items[index]? <;> rfl

theorem compared_single {left : Value} (single : left.isVector = false) (right : Value)
    (path : List Nat) :
    compared? path left right = if path = [] then some (left, right) else none := by
  cases path with
  | nil => rfl
  | cons index path =>
      cases left with
      | vector items => cases single
      | _ => rfl

theorem part_single {value : Value} (single : value.isVector = false) (path : List Nat) :
    value.part? path = if path = [] then some value else none := by
  cases path with
  | nil => rfl
  | cons index path =>
      cases value with
      | vector items => cases single
      | _ => rfl

theorem number_is_no_vector {value : Value} (plain : value.IsNumber) : value.isVector = false := by
  cases plain <;> rfl

theorem number_is_scalar {value : Value} (plain : value.IsNumber) : value.isScalar = true := by
  cases plain <;> rfl

theorem proper_scalar {value : Value} (proper : value.Proper) (scalar : value.isScalar = true) :
    value.IsNumber := by
  cases proper with
  | number plain => exact plain
  | vector _ => cases scalar
  | function => cases scalar

theorem partners_proper {items : List Value} {right : Value} {pair : Value × Value}
    (rightProper : right.Proper) (member : pair ∈ partners items right) :
    pair.1 ∈ items ∧ pair.2.Proper := by
  cases right with
  | vector others =>
      have both := List.of_mem_zip member
      exact ⟨both.1, vector_is_proper_iff.mp rightProper _ both.2⟩
  | _ =>
      obtain ⟨item, inside, same⟩ := List.mem_map.mp member
      rw [← same]
      exact ⟨inside, rightProper⟩

end Value

def Rejection.IsOfOperands : Rejection → Prop
  | .operands _ => True
  | .moduloByZero => True
  | .broken _ => False

/-- Either every operand gives a result or some operand is the reason why there are none. -/
theorem map_results_cases {α : Type} (operate : α → Except Rejection Value) (operands : List α) :
    (∃ values : List Value, operands.map operate = values.map .ok ∧
      operands.mapM operate = .ok values) ∨
    ∃ operand ∈ operands, ∃ rejection, operate operand = .error rejection ∧
      operands.mapM operate = .error rejection := by
  induction operands with
  | nil => exact .inl ⟨[], rfl, rfl⟩
  | cons operand operands induction =>
      rw [List.map_cons, List.mapM_cons]
      cases first : operate operand with
      | error rejection => exact .inr ⟨operand, by simp, rejection, first, rfl⟩
      | ok value =>
          rcases induction with ⟨values, all, rest⟩ | ⟨other, member, rejection, failed, rest⟩
          · exact .inl ⟨value :: values, by rw [all]; rfl, by rw [rest]; rfl⟩
          · exact .inr ⟨other, by simp [member], rejection, failed, by rw [rest]; rfl⟩

namespace Arithmetic

theorem apply_each_eq (operation : Arithmetic) (items : List Value) (right : Value) :
    operation.applyEach items right = items.mapM fun item => operation.apply item right := by
  induction items with
  | nil => rw [applyEach]; rfl
  | cons item items induction =>
      rw [applyEach, List.mapM_cons, induction]
      cases operation.apply item right with
      | error rejection => rfl
      | ok first => cases items.mapM fun item => operation.apply item right <;> rfl

theorem apply_pairwise_eq (operation : Arithmetic) (items others : List Value) :
    operation.applyPairwise items others =
      (items.zip others).mapM fun pair => operation.apply pair.1 pair.2 := by
  induction items generalizing others with
  | nil => simp [applyPairwise, pure, Except.pure]
  | cons item items induction =>
      cases others with
      | nil => simp [applyPairwise, pure, Except.pure]
      | cons other others =>
          rw [applyPairwise, List.zip_cons_cons, List.mapM_cons, induction]
          cases operation.apply item other with
          | error rejection => rfl
          | ok first =>
              cases (items.zip others).mapM fun pair => operation.apply pair.1 pair.2 <;> rfl

theorem vector_of_results (results : Except Rejection (List Value)) :
    (match results with
      | .ok values => .ok (.vector values)
      | .error rejection => .error rejection) = results.map Value.vector := by
  cases results <;> rfl

theorem apply_vector (operation : Arithmetic) (items : List Value) {right : Value}
    (meets : right.isVector = true ∨ right.isScalar = true) :
    operation.apply (.vector items) right =
      ((Value.partners items right).mapM fun pair =>
        operation.apply pair.1 pair.2).map .vector := by
  rcases meets with vector | scalar
  · cases right with
    | vector others =>
        rw [apply, apply_pairwise_eq]
        exact vector_of_results _
    | _ => cases vector
  · have each : Value.partners items right = items.map fun item => (item, right) := by
      cases right with
      | vector others => cases scalar
      | _ => rfl
    rw [apply, if_pos scalar, apply_each_eq, each, List.mapM_map]
    · exact vector_of_results _
    · intro others same
      rw [same] at scalar
      cases scalar

theorem apply_single (operation : Arithmetic) {left : Value} (single : left.isVector = false)
    (right : Value) : operation.apply left right = operation.onScalars left right := by
  cases left with
  | vector items => cases single
  | _ => rw [apply] <;> simp

theorem on_scalars_rejects (operation : Arithmetic) {left right : Value}
    (leftProper : left.Proper) (rightProper : right.Proper)
    (unfit : ¬(left.isScalar = true ∧ right.isScalar = true)) :
    operation.onScalars left right = .error (.operands operation.kind) := by
  cases leftProper with
  | vector _ => rfl
  | function => rfl
  | number leftPlain =>
      cases rightProper with
      | vector _ => cases leftPlain <;> rfl
      | function => cases leftPlain <;> rfl
      | number rightPlain =>
          exact absurd ⟨Value.number_is_scalar leftPlain, Value.number_is_scalar rightPlain⟩ unfit

/-- What can meet at a path: a vector meets a vector or a number, a number meets a number, and
there is a remainder only by a number that is not zero. -/
def Combinable (operation : Arithmetic) (left right : Value) : Prop :=
  (left.isVector = true ∧ (right.isVector = true ∨ right.isScalar = true)) ∨
    (left.isScalar = true ∧ right.isScalar = true ∧
      ¬(operation = .modulo ∧ right.isZero = true))

inductive Holds (operation : Arithmetic) : Value → Value → Value → Prop where
  | vector {items results : List Value} {right : Value}
      (sized : results.length = Value.width items right) :
      Holds operation (.vector items) right (.vector results)
  | number {left right result : Value} (single : left.isVector = false)
      (plain : result.isVector = false) (combined : operation.onScalars left right = .ok result) :
      Holds operation left right result

/-- The result holds something at exactly the paths at which two parts meet. -/
structure Follows (operation : Arithmetic) (left right result : Value) : Prop where
  inside : ∀ path first second, Value.compared? path left right = some (first, second) →
    ∃ part, result.part? path = some part ∧ operation.Holds first second part
  outside : ∀ path, Value.compared? path left right = none → result.part? path = none

theorem Follows.lengths {operation : Arithmetic} {left right result : Value}
    (follows : operation.Follows left right result) (path : List Nat) (items : List Value)
    (second : Value) (meet : Value.compared? path left right = some (.vector items, second)) :
    ∃ results, result.part? path = some (.vector results) ∧
      results.length = Value.width items second := by
  obtain ⟨part, here, holds⟩ := follows.inside path _ second meet
  cases holds with
  | @vector _ results _ sized => exact ⟨results, here, sized⟩
  | number single _ _ => cases single

theorem Follows.numbers {operation : Arithmetic} {left right result : Value}
    (follows : operation.Follows left right result) (path : List Nat) (first second : Value)
    (meet : Value.compared? path left right = some (first, second))
    (single : first.isVector = false) :
    ∃ value, result.part? path = some value ∧ operation.onScalars first second = .ok value := by
  obtain ⟨part, here, holds⟩ := follows.inside path first second meet
  cases holds with
  | vector _ => cases single
  | number _ _ combined => exact ⟨part, here, combined⟩

theorem Follows.vectors {operation : Arithmetic} {left right result : Value}
    (follows : operation.Follows left right result) (path : List Nat) :
    (∃ items, result.part? path = some (.vector items)) ↔
      ∃ items second, Value.compared? path left right = some (.vector items, second) := by
  constructor
  · rintro ⟨items, here⟩
    cases meet : Value.compared? path left right with
    | none =>
        rw [follows.outside path meet] at here
        cases here
    | some pair =>
        obtain ⟨first, second⟩ := pair
        obtain ⟨part, found, holds⟩ := follows.inside path first second meet
        rw [found] at here
        cases here
        cases holds with
        | vector _ => exact ⟨_, second, rfl⟩
        | number _ plain _ => cases plain
  · rintro ⟨items, second, meet⟩
    obtain ⟨results, here, _⟩ := follows.lengths path items second meet
    exact ⟨results, here⟩

/-- Either everything that meets can be combined and the result follows it, or something that
meets cannot and the operands are rejected. -/
inductive Pointwise (operation : Arithmetic) (left right : Value) :
    Except Rejection Value → Prop where
  | value {result : Value}
      (combinable : ∀ path first second, Value.compared? path left right = some (first, second) →
        operation.Combinable first second)
      (follows : operation.Follows left right result) :
      Pointwise operation left right (.ok result)
  | rejected {rejection : Rejection} {path : List Nat} {first second : Value}
      (ofOperands : rejection.IsOfOperands)
      (meet : Value.compared? path left right = some (first, second))
      (unfit : ¬operation.Combinable first second) :
      Pointwise operation left right (.error rejection)

theorem rejected_here {operation : Arithmetic} {left right : Value} {rejection : Rejection}
    (ofOperands : rejection.IsOfOperands) (unfit : ¬operation.Combinable left right) :
    operation.Pointwise left right (.error rejection) :=
  .rejected ofOperands (rfl : Value.compared? [] left right = some (left, right)) unfit

/-- Where the left side is no vector, only the two values themselves meet. -/
theorem single_pointwise (operation : Arithmetic) {left right : Value}
    (single : left.isVector = false) (leftProper : left.Proper) (rightProper : right.Proper) :
    operation.Pointwise left right (operation.apply left right) := by
  rw [apply_single operation single]
  by_cases numbers : left.isScalar = true ∧ right.isScalar = true
  · have computes := on_scalars_compute operation (Value.proper_scalar leftProper numbers.1)
      (Value.proper_scalar rightProper numbers.2)
    cases combined : operation.onScalars left right with
    | error rejection =>
        rw [combined] at computes
        cases computes with
        | zero undefined => exact rejected_here trivial (by simp [Combinable, single, undefined])
    | ok result =>
        rw [combined] at computes
        cases computes with
        | value defined plain =>
            have plainResult := Value.number_is_no_vector plain
            refine .value ?_ ⟨?_, ?_⟩
            · intro path first second meet
              rw [Value.compared_single single] at meet
              split_ifs at meet
              cases meet
              exact .inr ⟨numbers.1, numbers.2, defined⟩
            · intro path first second meet
              rw [Value.compared_single single] at meet
              split_ifs at meet with here
              cases meet
              rw [Value.part_single plainResult, if_pos here]
              exact ⟨result, rfl, .number single plainResult combined⟩
            · intro path apart
              rw [Value.compared_single single] at apart
              split_ifs at apart with here
              rw [Value.part_single plainResult, if_neg here]
  · rw [on_scalars_rejects operation leftProper rightProper numbers]
    refine rejected_here trivial ?_
    rintro (⟨vector, _⟩ | ⟨leftScalar, rightScalar, _⟩)
    · rw [single] at vector
      cases vector
    · exact numbers ⟨leftScalar, rightScalar⟩

theorem vector_combinable {operation : Arithmetic} {items : List Value} {right : Value}
    (meets : right.isVector = true ∨ right.isScalar = true)
    (each : ∀ pair ∈ Value.partners items right, ∀ path first second,
      Value.compared? path pair.1 pair.2 = some (first, second) →
        operation.Combinable first second)
    (path : List Nat) (first second : Value)
    (meet : Value.compared? path (.vector items) right = some (first, second)) :
    operation.Combinable first second := by
  cases path with
  | nil =>
      cases meet
      exact .inl ⟨rfl, meets⟩
  | cons index path =>
      rw [Value.compared_vector, Option.bind_eq_some_iff] at meet
      obtain ⟨pair, found, deeper⟩ := meet
      exact each pair (List.mem_of_getElem? found) path first second deeper

theorem vector_follows {operation : Arithmetic} {items values : List Value} {right : Value}
    (sized : values.length = Value.width items right)
    (each : ∀ (index : Nat) (pair : Value × Value),
      (Value.partners items right)[index]? = some pair →
        ∃ value, values[index]? = some value ∧ operation.Follows pair.1 pair.2 value) :
    operation.Follows (.vector items) right (.vector values) := by
  constructor
  · intro path first second meet
    cases path with
    | nil =>
        cases meet
        exact ⟨.vector values, rfl, .vector sized⟩
    | cons index path =>
        rw [Value.compared_vector, Option.bind_eq_some_iff] at meet
        obtain ⟨pair, found, deeper⟩ := meet
        obtain ⟨value, here, follows⟩ := each index pair found
        rw [Value.part?, here]
        exact follows.inside path first second deeper
  · intro path apart
    cases path with
    | nil => cases apart
    | cons index path =>
        rw [Value.compared_vector] at apart
        cases found : (Value.partners items right)[index]? with
        | none =>
            have beyond : values[index]? = none := by
              rw [List.getElem?_eq_none_iff, Value.partners_length] at found
              rw [List.getElem?_eq_none_iff, sized]
              exact found
            rw [Value.part?, beyond]
            rfl
        | some pair =>
            rw [found] at apart
            obtain ⟨value, here, follows⟩ := each index pair found
            rw [Value.part?, here]
            exact follows.outside path apart

/-- A vector is combined item by item, so that a path leads into one of the pairs that meet. -/
theorem vector_pointwise (operation : Arithmetic) {items : List Value} {right : Value}
    (meets : right.isVector = true ∨ right.isScalar = true)
    (each : ∀ pair ∈ Value.partners items right,
      operation.Pointwise pair.1 pair.2 (operation.apply pair.1 pair.2)) :
    operation.Pointwise (.vector items) right (operation.apply (.vector items) right) := by
  rw [apply_vector operation items meets]
  rcases map_results_cases (fun pair => operation.apply pair.1 pair.2)
    (Value.partners items right) with
    ⟨values, all, gathers⟩ | ⟨pair, inside, rejection, failed, gathers⟩
  · rw [gathers]
    have sized := congrArg List.length all
    rw [List.length_map, List.length_map, Value.partners_length] at sized
    refine .value (vector_combinable meets ?_) (vector_follows sized.symm ?_)
    · intro pair inside
      have succeeds : operation.apply pair.1 pair.2 ∈ values.map .ok := by
        rw [← all]
        exact List.mem_map_of_mem inside
      obtain ⟨value, _, applied⟩ := List.mem_map.mp succeeds
      have pointwise := each pair inside
      rw [← applied] at pointwise
      cases pointwise with
      | value combinable _ => exact combinable
    · intro index pair found
      have result := congrArg (fun results => results[index]?) all
      rw [List.getElem?_map, List.getElem?_map, found, Option.map_some, eq_comm,
        Option.map_eq_some_iff] at result
      obtain ⟨value, here, applied⟩ := result
      have pointwise := each pair (List.mem_of_getElem? found)
      rw [← applied] at pointwise
      cases pointwise with
      | value _ follows => exact ⟨value, here, follows⟩
  · rw [gathers]
    obtain ⟨index, found⟩ := List.getElem?_of_mem inside
    have pointwise := each pair inside
    rw [failed] at pointwise
    cases pointwise with
    | @rejected _ path first second ofOperands meet unfit =>
        have reached : Value.compared? (index :: path) (.vector items) right =
            some (first, second) := by
          rw [Value.compared_vector, found]
          exact meet
        exact .rejected ofOperands reached unfit

/-- The induction goes over the items of the left side; what they meet may be anything. -/
theorem apply_pointwise (operation : Arithmetic) {left right : Value} (leftProper : left.Proper)
    (rightProper : right.Proper) :
    operation.Pointwise left right (operation.apply left right) := by
  induction leftProper generalizing right with
  | number plain =>
      exact single_pointwise operation (Value.number_is_no_vector plain) (.number plain) rightProper
  | function => exact single_pointwise operation rfl .function rightProper
  | @vector items inner induction =>
      have each (pair : Value × Value) (member : pair ∈ Value.partners items right) :
          operation.Pointwise pair.1 pair.2 (operation.apply pair.1 pair.2) := by
        obtain ⟨inside, meetsProper⟩ := Value.partners_proper rightProper member
        exact induction pair.1 inside meetsProper
      cases rightProper with
      | number plain =>
          exact vector_pointwise operation (.inr (Value.number_is_scalar plain)) each
      | vector _ => exact vector_pointwise operation (.inl rfl) each
      | @function parameter body =>
          have rejected : operation.apply (.vector items) (.function parameter body) =
              .error (.operands operation.kind) := by
            rw [apply]
            · rfl
            · simp
          rw [rejected]
          exact rejected_here trivial (by simp [Combinable, Value.isVector, Value.isScalar])

theorem apply_binary_eq (operation : Arithmetic) (left right : Value) :
    applyBinary operation.kind left right = operation.apply left right := by
  cases operation <;> rfl

/-- Arithmetic gives a result exactly when everything that meets can be combined. The result has a
vector at the paths at which the left side has one and something meets it, as long as what meets,
and the combined numbers at all other paths at which something meets, and nothing anywhere else.
Otherwise the operands are rejected. The operands are values of the language: all integers in them
have 64 bits. -/
theorem arithmetic_is_pointwise (operation : Arithmetic) (left right : Value)
    (leftProper : left.Proper) (rightProper : right.Proper) :
    ((∃ result, applyBinary operation.kind left right = .ok result) ↔
      ∀ path first second, Value.compared? path left right = some (first, second) →
        operation.Combinable first second) ∧
    (∀ result, applyBinary operation.kind left right = .ok result →
      (∀ path, (∃ items, result.part? path = some (.vector items)) ↔
        ∃ items second, Value.compared? path left right = some (.vector items, second)) ∧
      (∀ path items second, Value.compared? path left right = some (.vector items, second) →
        ∃ results, result.part? path = some (.vector results) ∧
          results.length = Value.width items second) ∧
      (∀ path first second, Value.compared? path left right = some (first, second) →
        first.isVector = false →
          ∃ value, result.part? path = some value ∧ operation.onScalars first second = .ok value) ∧
      (∀ path, Value.compared? path left right = none → result.part? path = none)) ∧
    ∀ rejection, applyBinary operation.kind left right = .error rejection →
      rejection.IsOfOperands := by
  have pointwise := apply_pointwise operation leftProper rightProper
  rw [apply_binary_eq]
  generalize operation.apply left right = outcome at pointwise ⊢
  cases pointwise with
  | @value result combinable follows =>
      refine ⟨⟨fun _ => combinable, fun _ => ⟨result, rfl⟩⟩, ?_, by simp⟩
      intro other same
      cases same
      exact ⟨follows.vectors, follows.lengths, follows.numbers, follows.outside⟩
  | @rejected rejection path first second ofOperands meet unfit =>
      refine ⟨⟨by simp, ?_⟩, by simp, ?_⟩
      · intro combinable
        exact absurd (combinable path first second meet) unfit
      · intro other same
        cases same
        exact ofOperands

/-- The remainders of `[7 [8 9 1]]` by `[4 [3 -2] 0]`: nothing is divided by the zero, and the last
of the inner items meets nothing. -/
theorem nested_remainders_are_pointwise :
    ∃ left right result : Value,
      left = .vector [.int 7, .vector [.int 8, .int 9, .int 1]] ∧ left.Proper ∧
      right = .vector [.int 4, .vector [.int 3, .int (-2)], .int 0] ∧ right.Proper ∧
      result = .vector [.int 3, .vector [.int 2, .int (-1)]] ∧
      applyBinary .modulo left right = .ok result ∧
      (∀ path first second, Value.compared? path left right = some (first, second) →
        Combinable .modulo first second) ∧
      ∀ path, Value.compared? path left right = none → result.part? path = none := by
  have leftProper : (Value.vector [.int 7, .vector [.int 8, .int 9, .int 1]]).Proper := by
    simp [Word.Fits]
  have rightProper : (Value.vector [.int 4, .vector [.int 3, .int (-2)], .int 0]).Proper := by
    simp [Word.Fits]
  have combined : applyBinary .modulo (.vector [.int 7, .vector [.int 8, .int 9, .int 1]])
      (.vector [.int 4, .vector [.int 3, .int (-2)], .int 0]) =
        .ok (.vector [.int 3, .vector [.int 2, .int (-1)]]) := rfl
  obtain ⟨defined, shaped, _⟩ := arithmetic_is_pointwise .modulo _ _ leftProper rightProper
  exact ⟨_, _, _, rfl, leftProper, rfl, rightProper, rfl, combined, defined.mp ⟨_, combined⟩,
    (shaped _ combined).2.2.2⟩

end Arithmetic

end VectorCalc

import Mathlib.Algebra.Order.Field.Basic
import Mathlib.Data.Rat.Cast.Order
import Mathlib.Tactic.FieldSimp
import Mathlib.Tactic.Linarith
import Mathlib.Tactic.NormNum
import Mathlib.Tactic.Positivity
import Mathlib.Tactic.Ring
import VectorCalc.Decimal.Read

/-!
The nearest double. The bits of a double without its sign stand for a rational number, and greater
bits stand for a greater one. The bits next to each other around a quotient are found from its last
bit, and rounding chooses the nearer of the two, a tie going to the even bits. Decimal numerals
are read this way at any length, since the cut-offs lie outside the range of doubles.
-/
namespace VectorCalc.Decimal

set_option autoImplicit false

def infinityBits : Nat := 0x7FF0000000000000

/-- The number that bits without a sign stand for. Infinity stands for the number that would come
after the greatest double: a number rounds to infinity when it is as near to that one. -/
def magnitude (bits : Nat) : ℚ :=
  let field := bits / twoTo 52
  let fraction := bits % twoTo 52
  if field = 0 then fraction * 2 ^ (-1074 : Int)
  else (twoTo 52 + fraction : Nat) * 2 ^ ((field : Int) - 1075)

/-- Of all doubles that are not negative, the one with these bits is nearest to the number, and
when another one is as near, the bits are even. -/
structure IsNearest (number : ℚ) (bits : Nat) : Prop where
  bounded : bits ≤ infinityBits
  nearest : ∀ other ≤ infinityBits, |number - magnitude bits| ≤ |number - magnitude other|
  even : ∀ other ≤ infinityBits, other ≠ bits →
    |number - magnitude other| = |number - magnitude bits| → bits % 2 = 0

theorem two_to_52 : twoTo 52 = 4503599627370496 := by decide

theorem two_to_53 : twoTo 53 = 9007199254740992 := by decide

theorem two_to_63 : twoTo 63 = 9223372036854775808 := by decide

theorem cast_two_to (exponent : Nat) : ((twoTo exponent : Nat) : ℚ) = 2 ^ exponent :=
  Nat.cast_pow 2 exponent

/-- A mantissa of 53 bits counts units of its last bit, and so does the next power of two. -/
theorem magnitude_at (place mantissa : Nat) (small : mantissa ≤ twoTo 53)
    (normal : place = 0 ∨ twoTo 52 ≤ mantissa) :
    magnitude (place * twoTo 52 + mantissa) = mantissa * 2 ^ ((place : Int) - 1074) := by
  rw [two_to_52] at normal ⊢
  rw [two_to_53] at small
  unfold magnitude
  rw [two_to_52]
  dsimp only
  by_cases subnormal : mantissa < 4503599627370496
  · obtain rfl : place = 0 := by omega
    have field : (0 * 4503599627370496 + mantissa) / 4503599627370496 = 0 := by omega
    have fraction : (0 * 4503599627370496 + mantissa) % 4503599627370496 = mantissa := by omega
    rw [field, fraction, if_pos rfl, Nat.cast_zero, zero_sub]
  by_cases full : mantissa = 9007199254740992
  · have field : (place * 4503599627370496 + mantissa) / 4503599627370496 = place + 2 := by omega
    have fraction : (place * 4503599627370496 + mantissa) % 4503599627370496 = 0 := by omega
    have power : ((place + 2 : Nat) : Int) - 1075 = (place - 1074) + 1 := by omega
    rw [field, fraction, if_neg (by omega), power, full, zpow_add_one₀ (by norm_num)]
    push_cast
    ring
  · have field : (place * 4503599627370496 + mantissa) / 4503599627370496 = place + 1 := by omega
    have fraction : 4503599627370496 + (place * 4503599627370496 + mantissa) % 4503599627370496 =
        mantissa := by omega
    have power : ((place + 1 : Nat) : Int) - 1075 = place - 1074 := by omega
    rw [field, fraction, if_neg (by omega), power]

theorem magnitude_strict_mono : StrictMono magnitude := by
  refine strictMono_nat_of_lt_succ fun bits => ?_
  -- All bits have a mantissa below 53 bits with room for one more.
  obtain ⟨place, mantissa, rfl, small, normal⟩ : ∃ place mantissa,
      bits = place * twoTo 52 + mantissa ∧ mantissa < twoTo 53 ∧
        (place = 0 ∨ twoTo 52 ≤ mantissa) := by
    rw [two_to_52, two_to_53]
    by_cases low : bits < 4503599627370496
    · exact ⟨0, bits, by omega, by omega, .inl rfl⟩
    · exact ⟨bits / 4503599627370496 - 1, 4503599627370496 + bits % 4503599627370496,
        by omega, by omega, .inr (by omega)⟩
  have unit : (0 : ℚ) < 2 ^ ((place : Int) - 1074) := zpow_pos (by norm_num) _
  rw [Nat.add_assoc, magnitude_at _ _ small.le normal, magnitude_at _ _ small (by omega)]
  push_cast
  linarith

theorem magnitude_zero : magnitude 0 = 0 := by
  have zero := magnitude_at 0 0 (Nat.zero_le _) (.inl rfl)
  simpa using zero

theorem magnitude_one : magnitude 1 = 2 ^ (-1074 : Int) := by
  have one := magnitude_at 0 1 (by decide) (.inl rfl)
  simpa using one

theorem magnitude_infinity : magnitude infinityBits = 2 ^ (1024 : Int) := by
  have top := magnitude_at 2046 (twoTo 52) (by decide) (.inr le_rfl)
  have bits : 2046 * twoTo 52 + twoTo 52 = infinityBits := by decide
  have power : (1024 : Int) = (52 : Nat) + (2046 - 1074) := by norm_num
  rw [bits] at top
  rw [top, power, zpow_add₀ (by norm_num), zpow_natCast]
  norm_num [twoTo]

/-- The exact form of a finite double is the number that its bits without the sign stand for. -/
theorem decoded_magnitude {number : Float} {exact : Binary64}
    (decoded : Binary64.ofFloat? number = some exact) :
    (exact.mantissa : ℚ) * 2 ^ exact.exponent = magnitude (number.toBits.toNat % twoTo 63) := by
  have field : number.toBits.toNat % twoTo 63 / twoTo 52 =
      number.toBits.toNat / twoTo 52 % twoTo 11 := by
    have width : twoTo 11 = 2048 := by decide
    rw [two_to_52, two_to_63, width]
    omega
  have fraction : number.toBits.toNat % twoTo 63 % twoTo 52 = number.toBits.toNat % twoTo 52 := by
    rw [two_to_52, two_to_63]
    omega
  unfold Binary64.ofFloat? at decoded
  unfold magnitude
  dsimp only at decoded ⊢
  rw [field, fraction]
  split_ifs at decoded with infinite subnormal
  · obtain rfl := Option.some.inj decoded
    rw [if_pos subnormal]
  · obtain rfl := Option.some.inj decoded
    rw [if_neg subnormal]
    rfl

theorem IsNearest.unique {number : ℚ} {bits other : Nat} (first : IsNearest number bits)
    (second : IsNearest number other) : bits = other := by
  wlog ordered : bits < other generalizing bits other
  · rcases Nat.lt_trichotomy bits other with less | same | more
    · exact absurd less ordered
    · exact same
    · exact (this second first more).symm
  exfalso
  have equal := le_antisymm (first.nearest other second.bounded)
    (second.nearest bits first.bounded)
  have evenFirst := first.even other second.bounded ordered.ne' equal.symm
  have evenSecond := second.even bits first.bounded ordered.ne equal
  -- Two even bits have other bits between them, which are nearer than either.
  have between := first.nearest (bits + 1) (Nat.le_trans ordered second.bounded)
  have left := magnitude_strict_mono (show bits < bits + 1 by omega)
  have right := magnitude_strict_mono (show bits + 1 < other by omega)
  rcases abs_cases (number - magnitude bits) with ⟨_, _⟩ | ⟨_, _⟩ <;>
    rcases abs_cases (number - magnitude other) with ⟨_, _⟩ | ⟨_, _⟩ <;>
    rcases abs_cases (number - magnitude (bits + 1)) with ⟨_, _⟩ | ⟨_, _⟩ <;>
    linarith

/-- Of two neighbours, given by their distances, the nearer one is chosen, or the even one. -/
inductive Chosen (left right : ℚ) (below : Nat) : Nat → Prop where
  | lower (nearer : left < right ∨ left = right ∧ below % 2 = 0) : Chosen left right below below
  | upper (nearer : right < left ∨ left = right ∧ below % 2 = 1) :
      Chosen left right below (below + 1)

theorem Chosen.scale {left right : ℚ} {below bits : Nat} (chosen : Chosen left right below bits)
    {unit : ℚ} (positive : 0 < unit) : Chosen (left * unit) (right * unit) below bits := by
  have order : ∀ first second : ℚ, first < second → first * unit < second * unit :=
    fun _ _ less => mul_lt_mul_of_pos_right less positive
  cases chosen with
  | lower nearer => exact .lower (nearer.imp (order _ _) (And.imp_left (congrArg (· * unit))))
  | upper nearer => exact .upper (nearer.imp (order _ _) (And.imp_left (congrArg (· * unit))))

theorem Chosen.shift {left right : ℚ} {below bits : Nat} (chosen : Chosen left right below bits)
    {offset : Nat} (even : offset % 2 = 0) :
    Chosen left right (offset + below) (offset + bits) := by
  have parity : (offset + below) % 2 = below % 2 := by omega
  cases chosen with
  | lower nearer => exact .lower (by rwa [parity])
  | upper nearer => exact .upper (by rwa [parity])

theorem rounded_quotient_chosen (numerator denominator : Nat) :
    Chosen (numerator % denominator : Nat) (denominator - (numerator % denominator : Nat))
      (numerator / denominator) (roundedQuotient numerator denominator) := by
  unfold roundedQuotient
  dsimp only
  generalize numerator / denominator = quotient
  generalize numerator % denominator = rest
  split_ifs with less same
  · have nearer : (2 * rest : ℚ) < denominator := by exact_mod_cast less
    exact .lower (.inl (by linarith))
  · have double : (2 * rest : ℚ) = denominator := by exact_mod_cast same
    have equal : (rest : ℚ) = denominator - rest := by linarith
    rcases Nat.mod_two_eq_zero_or_one quotient with even | odd
    · rw [even]
      exact .lower (.inr ⟨equal, even⟩)
    · rw [odd]
      exact .upper (.inr ⟨equal, odd⟩)
  · have more : denominator < 2 * rest := by omega
    have nearer : (denominator : ℚ) < 2 * rest := by exact_mod_cast more
    exact .upper (.inl (by linarith))

theorem IsNearest.of_rivals {number : ℚ} {bits : Nat} (bounded : bits ≤ infinityBits)
    (rivals : ∀ other ≤ infinityBits, other ≠ bits →
      |number - magnitude bits| < |number - magnitude other| ∨
      |number - magnitude bits| = |number - magnitude other| ∧ bits % 2 = 0) :
    IsNearest number bits where
  bounded := bounded
  nearest other within := by
    by_cases same : other = bits
    · rw [same]
    · exact (rivals other within same).elim le_of_lt fun tie => le_of_eq tie.1
  even other within different tie :=
    ((rivals other within different).resolve_left tie.le.not_gt).2

theorem IsNearest.of_chosen {number : ℚ} {below bits : Nat} (room : below < infinityBits)
    (low : magnitude below ≤ number) (high : number ≤ magnitude (below + 1))
    (chosen : Chosen (number - magnitude below) (magnitude (below + 1) - number) below bits) :
    IsNearest number bits := by
  have atBelow : |number - magnitude below| = number - magnitude below :=
    abs_of_nonneg (by linarith)
  have atAbove : |number - magnitude (below + 1)| = magnitude (below + 1) - number := by
    rw [abs_sub_comm]
    exact abs_of_nonneg (by linarith)
  have fartherBelow : ∀ other < below,
      number - magnitude below < |number - magnitude other| := by
    intro other less
    have order := magnitude_strict_mono less
    exact lt_of_lt_of_le (by linarith) (le_abs_self _)
  have fartherAbove : ∀ other > below + 1,
      magnitude (below + 1) - number < |number - magnitude other| := by
    intro other more
    have order := magnitude_strict_mono more
    exact lt_of_lt_of_le (by linarith) (neg_le_abs _)
  have position : ∀ other, other < below ∨ other = below ∨ other = below + 1 ∨
      other > below + 1 := fun other => by omega
  cases chosen with
  | lower nearer =>
      have ordered : number - magnitude below ≤ magnitude (below + 1) - number :=
        nearer.elim le_of_lt fun tie => le_of_eq tie.1
      refine .of_rivals room.le fun other _ different => ?_
      rw [atBelow]
      rcases position other with less | same | rfl | more
      · exact .inl (fartherBelow other less)
      · exact absurd same different
      · rwa [atAbove]
      · exact .inl (lt_of_le_of_lt ordered (fartherAbove other more))
  | upper nearer =>
      have ordered : magnitude (below + 1) - number ≤ number - magnitude below :=
        nearer.elim le_of_lt fun tie => le_of_eq tie.1.symm
      refine .of_rivals room fun other _ different => ?_
      rw [atAbove]
      rcases position other with less | rfl | same | more
      · exact .inl (lt_of_le_of_lt ordered (fartherBelow other less))
      · rw [atBelow]
        exact nearer.imp id fun tie => ⟨tie.1.symm, by omega⟩
      · exact absurd same different
      · exact .inl (fartherAbove other more)

theorem IsNearest.infinity {number : ℚ} (beyond : magnitude infinityBits ≤ number) :
    IsNearest number infinityBits := by
  have distance : |number - magnitude infinityBits| = number - magnitude infinityBits :=
    abs_of_nonneg (by linarith)
  refine ⟨le_rfl, fun other bounded => ?_, fun _ _ _ _ => by decide⟩
  have order := magnitude_strict_mono.monotone bounded
  rw [distance]
  exact le_trans (by linarith) (le_abs_self _)

/-- A quotient in units of its last bit is rounded to the nearest double: the quotient without its
rest and the next natural are mantissas of neighbours. -/
theorem nearest_at_place (place top bottom : Nat) (nonzero : 0 < bottom)
    (small : top / bottom < twoTo 53) (normal : place = 0 ∨ twoTo 52 ≤ top / bottom) :
    IsNearest ((top / bottom : ℚ) * 2 ^ ((place : Int) - 1074))
      (min (place * twoTo 52 + roundedQuotient top bottom) infinityBits) := by
  have chosen := rounded_quotient_chosen top bottom
  have lower := magnitude_at place (top / bottom) small.le normal
  have upper := magnitude_at place (top / bottom + 1) small (by omega)
  rw [← Nat.add_assoc] at upper
  have division : (top : ℚ) = bottom * (top / bottom : Nat) + (top % bottom : Nat) := by
    exact_mod_cast (Nat.div_add_mod top bottom).symm
  have rest : ((top % bottom : Nat) : ℚ) < bottom := by
    exact_mod_cast Nat.mod_lt top nonzero
  generalize roundedQuotient top bottom = rounded at chosen ⊢
  generalize top / bottom = quotient at lower upper division chosen
  generalize top % bottom = remainder at division rest chosen
  have positive : (0 : ℚ) < bottom := by exact_mod_cast nonzero
  have unit : (0 : ℚ) < 2 ^ ((place : Int) - 1074) := zpow_pos (by norm_num) _
  generalize (2 : ℚ) ^ ((place : Int) - 1074) = last at lower upper unit ⊢
  have left : (top / bottom : ℚ) * last - magnitude (place * twoTo 52 + quotient) =
      remainder * (last / bottom) := by
    rw [lower, division]
    field_simp
    ring
  have right : magnitude (place * twoTo 52 + quotient + 1) - (top / bottom : ℚ) * last =
      (bottom - remainder) * (last / bottom) := by
    rw [upper, division]
    push_cast
    field_simp
    ring
  have low : 0 ≤ (remainder : ℚ) * (last / bottom) := by positivity
  have high : 0 ≤ (bottom - remainder : ℚ) * (last / bottom) :=
    mul_nonneg (by linarith) (by positivity)
  have even : place * twoTo 52 % 2 = 0 := by
    rw [two_to_52]
    omega
  by_cases room : place * twoTo 52 + quotient < infinityBits
  · have scaled := (chosen.scale (div_pos unit positive)).shift even
    rw [← left, ← right] at scaled
    have nearest := IsNearest.of_chosen room (by linarith) (by linarith) scaled
    rwa [min_eq_left nearest.bounded]
  · have least : quotient ≤ rounded := by cases chosen <;> omega
    rw [min_eq_right (by omega)]
    have beyond := magnitude_strict_mono.monotone (Nat.le_of_not_lt room)
    exact .infinity (by linarith)

theorem quotient_lt_iff (top : Nat) {bottom : Nat} (nonzero : 0 < bottom) (width : Nat) :
    top / bottom < twoTo width ↔ (top / bottom : ℚ) < 2 ^ width := by
  have positive : (0 : ℚ) < bottom := by exact_mod_cast nonzero
  rw [Nat.div_lt_iff_lt_mul nonzero, div_lt_iff₀ positive, ← cast_two_to]
  norm_cast

/-- A quotient in units of a power of two is the quotient of naturals that is rounded. -/
theorem scaled_quotient (numerator denominator : Nat) (positive : 0 < denominator)
    (exponent : Int) : ∃ top bottom : Nat, 0 < bottom ∧
      (top / bottom : ℚ) * 2 ^ exponent = numerator / denominator ∧
      ∀ round : Nat → Nat → Nat,
        (if exponent < 0 then round (numerator * twoTo (-exponent).toNat) denominator
          else round numerator (denominator * twoTo exponent.toNat)) = round top bottom := by
  have nonzero : (denominator : ℚ) ≠ 0 := by exact_mod_cast positive.ne'
  by_cases fraction : exponent < 0
  · refine ⟨_, _, positive, ?_, fun round => if_pos fraction⟩
    obtain ⟨shift, rfl⟩ : ∃ shift : Nat, exponent = -shift := ⟨exponent.natAbs, by omega⟩
    rw [neg_neg, Int.toNat_natCast, zpow_neg, zpow_natCast, Nat.cast_mul, cast_two_to]
    field_simp
  · refine ⟨numerator, denominator * twoTo exponent.toNat, Nat.mul_pos positive (Nat.two_pow_pos _),
      ?_, fun round => if_neg fraction⟩
    obtain ⟨shift, rfl⟩ : ∃ shift : Nat, exponent = shift := ⟨exponent.natAbs, by omega⟩
    rw [Int.toNat_natCast, zpow_natCast, Nat.cast_mul, cast_two_to]
    field_simp

theorem guess_bounds (numerator denominator : Nat) (some : numerator ≠ 0)
    (positive : 0 < denominator) :
    2 ^ 52 * 2 ^ ((numerator.log2 : Int) - denominator.log2 - 53) ≤
      (numerator / denominator : ℚ) ∧
    (numerator / denominator : ℚ) <
      2 ^ 54 * 2 ^ ((numerator.log2 : Int) - denominator.log2 - 53) := by
  have topLow : ((2 : ℚ) ^ numerator.log2) ≤ numerator := by
    exact_mod_cast Nat.log2_self_le some
  have topHigh : (numerator : ℚ) < 2 ^ (numerator.log2 + 1) := by
    exact_mod_cast Nat.lt_log2_self
  have bottomLow : ((2 : ℚ) ^ denominator.log2) ≤ denominator := by
    exact_mod_cast Nat.log2_self_le positive.ne'
  have bottomHigh : (denominator : ℚ) < 2 ^ (denominator.log2 + 1) := by
    exact_mod_cast Nat.lt_log2_self
  have nonzero : (0 : ℚ) < denominator := by exact_mod_cast positive
  have unit : (2 : ℚ) ^ ((numerator.log2 : Int) - denominator.log2 - 53) =
      2 ^ numerator.log2 / (2 ^ denominator.log2 * 2 ^ 53) := by
    rw [zpow_sub₀ (by norm_num), zpow_sub₀ (by norm_num), zpow_natCast, zpow_natCast, div_div]
    rfl
  have positiveSecond : (0 : ℚ) < 2 ^ denominator.log2 := by positivity
  rw [pow_succ] at topHigh bottomHigh
  rw [unit]
  constructor
  · calc
      2 ^ 52 * ((2 : ℚ) ^ numerator.log2 / (2 ^ denominator.log2 * 2 ^ 53)) =
          2 ^ numerator.log2 / (2 ^ denominator.log2 * 2) := by
        field_simp
      _ ≤ numerator / denominator :=
        div_le_div₀ (by positivity) topLow nonzero bottomHigh.le
  · calc
      (numerator / denominator : ℚ) < 2 ^ numerator.log2 * 2 / 2 ^ denominator.log2 :=
        div_lt_div₀ topHigh bottomLow (by positivity) positiveSecond
      _ = 2 ^ 54 * (2 ^ numerator.log2 / (2 ^ denominator.log2 * 2 ^ 53)) := by
        field_simp

/-- In units of its last bit a quotient has at most 53 bits, and at least as many unless it lies
among the smallest doubles. -/
theorem last_bit_exponent_bounds (numerator denominator : Nat) (some : numerator ≠ 0)
    (positive : 0 < denominator) :
    -1074 ≤ lastBitExponent numerator denominator ∧
    (numerator / denominator : ℚ) < 2 ^ 53 * 2 ^ lastBitExponent numerator denominator ∧
    (lastBitExponent numerator denominator = -1074 ∨
      2 ^ 52 * 2 ^ lastBitExponent numerator denominator ≤ (numerator / denominator : ℚ)) := by
  obtain ⟨low, high⟩ := guess_bounds numerator denominator some positive
  unfold lastBitExponent
  simp only [Int.ofNat_eq_natCast]
  generalize (numerator.log2 : Int) - denominator.log2 - 53 = guess at low high ⊢
  obtain ⟨top, bottom, nonzero, value, scaled⟩ :=
    scaled_quotient numerator denominator positive guess
  rw [scaled fun first second => first / second]
  generalize (numerator / denominator : ℚ) = number at low high value ⊢
  have unit : (0 : ℚ) < 2 ^ guess := zpow_pos (by norm_num) _
  -- The exponent is right before the smallest doubles are considered.
  have exponent_bounds : ∃ exponent : Int,
      (if top / bottom < twoTo 53 then guess else guess + 1) = exponent ∧
      number < 2 ^ 53 * 2 ^ exponent ∧ 2 ^ 52 * 2 ^ exponent ≤ number := by
    split_ifs with fits
    · have less := (quotient_lt_iff top nonzero 53).mp fits
      refine ⟨guess, rfl, ?_, low⟩
      rw [← value]
      exact mul_lt_mul_of_pos_right less unit
    · have more := not_lt.mp (mt (quotient_lt_iff top nonzero 53).mpr fits)
      have above := mul_le_mul_of_nonneg_right more unit.le
      rw [value] at above
      refine ⟨guess + 1, rfl, ?_, ?_⟩
      · rw [zpow_add_one₀ (by norm_num)]
        linarith
      · rw [zpow_add_one₀ (by norm_num)]
        linarith
  obtain ⟨exponent, chosen, below, above⟩ := exponent_bounds
  rw [chosen]
  rcases le_total (-1074) exponent with normal | subnormal
  · rw [max_eq_left normal]
    exact ⟨normal, below, .inr above⟩
  · rw [max_eq_right subnormal]
    have grows : (2 : ℚ) ^ exponent ≤ 2 ^ (-1074 : Int) :=
      zpow_le_zpow_right₀ (by norm_num) subnormal
    exact ⟨le_rfl, by linarith, .inl rfl⟩

theorem magnitude_bits_nearest (numerator denominator : Nat) (positive : 0 < denominator) :
    IsNearest (numerator / denominator) (magnitudeBits numerator denominator) := by
  unfold magnitudeBits
  split_ifs with none
  · subst none
    refine ⟨Nat.zero_le _, fun other _ => ?_, fun _ _ _ _ => rfl⟩
    simp [magnitude_zero]
  · obtain ⟨least, below, above⟩ := last_bit_exponent_bounds numerator denominator none positive
    dsimp only
    generalize lastBitExponent numerator denominator = exponent at least below above ⊢
    obtain ⟨top, bottom, nonzero, value, rounded⟩ :=
      scaled_quotient numerator denominator positive exponent
    rw [rounded roundedQuotient, ← value]
    rw [← value] at below above
    have unit : (0 : ℚ) < 2 ^ exponent := zpow_pos (by norm_num) _
    have small : top / bottom < twoTo 53 :=
      (quotient_lt_iff top nonzero 53).mpr (lt_of_mul_lt_mul_right below unit.le)
    have normal : (exponent + 1074).toNat = 0 ∨ twoTo 52 ≤ top / bottom := by
      refine above.imp (fun least => by omega) fun above => ?_
      have more := not_lt.mpr (le_of_mul_le_mul_right above unit)
      exact Nat.le_of_not_lt (mt (quotient_lt_iff top nonzero 52).mp more)
    have place : exponent = ((exponent + 1074).toNat : Int) - 1074 := by omega
    have nearest := nearest_at_place _ top bottom nonzero small normal
    rwa [← place] at nearest

theorem IsNearest.zero {number : ℚ} (positive : 0 ≤ number)
    (small : number < 2 ^ (-1075 : Int)) : IsNearest number 0 := by
  have half : (2 : ℚ) ^ (-1074 : Int) = 2 ^ (-1075 : Int) * 2 := by
    rw [← zpow_add_one₀ (by norm_num)]
    norm_num
  have next : magnitude (0 + 1) = 2 ^ (-1075 : Int) * 2 := magnitude_one.trans half
  have order : (0 : ℚ) < 2 ^ (-1075 : Int) := zpow_pos (by norm_num) _
  refine .of_chosen (by decide) ?_ ?_ (.lower (.inl ?_))
  · rwa [magnitude_zero]
  · rw [next]
    linarith
  · rw [magnitude_zero, next]
    linarith

theorem size_bounds (digits : Nat) (some : digits ≠ 0) (exponent : Int) :
    (10 : ℚ) ^ (Int.ofNat (Text.naturalText digits).length + exponent - 1) ≤
      digits * 10 ^ exponent ∧
    (digits : ℚ) * 10 ^ exponent <
      10 ^ (Int.ofNat (Text.naturalText digits).length + exponent) := by
  have unit : (0 : ℚ) < 10 ^ exponent := zpow_pos (by norm_num) _
  have length := @Nat.length_toDigits_le_iff 10 digits
  unfold Text.naturalText
  obtain ⟨more, count⟩ : ∃ more, (Nat.toDigits 10 digits).length = more + 1 :=
    Nat.exists_eq_add_one.mpr Nat.length_toDigits_pos
  rw [count] at length ⊢
  have high : digits < 10 ^ (more + 1) := (length (by decide) (Nat.succ_pos _)).mp le_rfl
  have low : 10 ^ more ≤ digits := by
    rcases Nat.eq_zero_or_pos more with rfl | positive
    · exact Nat.pos_of_ne_zero some
    · exact Nat.le_of_not_lt fun less => absurd ((length (by decide) positive).mpr less) (by omega)
  constructor
  · have power : Int.ofNat (more + 1) + exponent - 1 = more + exponent := by
      simp only [Int.ofNat_eq_natCast]
      omega
    rw [power, zpow_add₀ (by norm_num), zpow_natCast]
    exact mul_le_mul_of_nonneg_right (by exact_mod_cast low) unit.le
  · rw [zpow_add₀ (by norm_num), Int.ofNat_eq_natCast, zpow_natCast]
    exact mul_lt_mul_of_pos_right (by exact_mod_cast high) unit

theorem eight_le_ten (exponent : Nat) : (2 : ℚ) ^ (3 * exponent) ≤ 10 ^ exponent := by
  rw [pow_mul]
  exact pow_le_pow_left₀ (by norm_num) (by norm_num) exponent

theorem IsNearest.of_small_size {digits : Nat} {exponent : Int}
    (small : digits = 0 ∨ Int.ofNat (Text.naturalText digits).length + exponent < -400) :
    IsNearest (digits * 10 ^ exponent) 0 := by
  have unit : (0 : ℚ) < 10 ^ exponent := zpow_pos (by norm_num) _
  refine .zero (by positivity) ?_
  by_cases none : digits = 0
  · subst none
    rw [Nat.cast_zero, zero_mul]
    exact zpow_pos (by norm_num) _
  · have size := small.resolve_left none
    calc
      (digits : ℚ) * 10 ^ exponent <
          10 ^ (Int.ofNat (Text.naturalText digits).length + exponent) :=
        (size_bounds digits none exponent).2
      _ ≤ 10 ^ (-(401 : Nat) : Int) := zpow_le_zpow_right₀ (by norm_num) (by omega)
      _ ≤ 2 ^ (-(3 * 401 : Nat) : Int) := by
        rw [zpow_neg, zpow_neg, zpow_natCast, zpow_natCast]
        exact inv_anti₀ (by positivity) (eight_le_ten 401)
      _ ≤ 2 ^ (-1075 : Int) := zpow_le_zpow_right₀ (by norm_num) (by norm_num)

theorem IsNearest.of_large_size {digits : Nat} {exponent : Int} (some : digits ≠ 0)
    (large : 400 < Int.ofNat (Text.naturalText digits).length + exponent) :
    IsNearest (digits * 10 ^ exponent) infinityBits := by
  apply IsNearest.infinity
  rw [magnitude_infinity]
  calc
    (2 : ℚ) ^ (1024 : Int) ≤ 2 ^ ((3 * 400 : Nat) : Int) :=
      zpow_le_zpow_right₀ (by norm_num) (by norm_num)
    _ ≤ 10 ^ ((400 : Nat) : Int) := by
      rw [zpow_natCast, zpow_natCast]
      exact eight_le_ten 400
    _ ≤ 10 ^ (Int.ofNat (Text.naturalText digits).length + exponent - 1) :=
      zpow_le_zpow_right₀ (by norm_num) (by omega)
    _ ≤ digits * 10 ^ exponent := (size_bounds digits some exponent).1

def signed (negative : Bool) (bits : Nat) : Float :=
  Float.ofBits (UInt64.ofNat (if negative then twoTo 63 + bits else bits))

/-- A numeral with a decimal exponent is read as the double nearest to it. The cut-offs for numbers
far outside the range of doubles agree with this. -/
theorem of_scaled_nearest (negative : Bool) (digits : Nat) (exponent : Int) :
    ∃ bits, IsNearest (digits * 10 ^ exponent) bits ∧
      ofScaled negative digits exponent = signed negative bits := by
  unfold ofScaled
  dsimp only
  by_cases small : digits = 0 ∨ Int.ofNat (Text.naturalText digits).length + exponent < -400
  · rw [if_pos small]
    exact ⟨_, .of_small_size small, rfl⟩
  rw [if_neg small]
  split_ifs with large
  · have huge : magnitude infinityBits ≤ ((twoTo 2000 : Nat) / (1 : Nat) : ℚ) := by
      rw [magnitude_infinity, Nat.cast_one, div_one, cast_two_to, ← zpow_natCast]
      exact zpow_le_zpow_right₀ (by norm_num) (by norm_num)
    have same := (magnitude_bits_nearest (twoTo 2000) 1 Nat.one_pos).unique (.infinity huge)
    exact ⟨_, .of_large_size (fun none => small (.inl none)) large,
      congrArg (signed negative) same⟩
  · have value : (digits : ℚ) * 10 ^ exponent =
        (digits * tenTo exponent.toNat : Nat) / (tenTo (-exponent).toNat : Nat) := by
      have power : ∀ count : Nat, ((tenTo count : Nat) : ℚ) = 10 ^ count := Nat.cast_pow 10
      have split : exponent = exponent.toNat - (-exponent).toNat := by omega
      rw [Nat.cast_mul, power, power, mul_div_assoc, ← zpow_natCast, ← zpow_natCast,
        ← zpow_sub₀ (by norm_num), ← split]
    refine ⟨_, ?_, rfl⟩
    rw [value]
    exact magnitude_bits_nearest _ _ (Nat.pow_pos (by decide))

/-- A numeral with a point is read as the double nearest to the number that it denotes. -/
theorem of_digits_nearest (whole fraction : List Char) :
    ∃ bits, IsNearest (Text.digitsValue 0 (whole ++ fraction) / 10 ^ fraction.length) bits ∧
      ofDigits whole fraction = signed false bits := by
  obtain ⟨bits, nearest, read⟩ := of_scaled_nearest false
    (Text.digitsValue (Text.digitsValue 0 whole) fraction) (-(Int.ofNat fraction.length))
  refine ⟨bits, ?_, read⟩
  rw [Int.ofNat_eq_natCast, zpow_neg, zpow_natCast, ← div_eq_mul_inv] at nearest
  unfold Text.digitsValue at nearest ⊢
  rwa [List.foldl_append]

theorem of_integer_nearest (value : Int) :
    ∃ bits, IsNearest value.natAbs bits ∧
      ofInteger value = signed (decide (value < 0)) bits := by
  have nearest := magnitude_bits_nearest value.natAbs 1 Nat.one_pos
  rw [Nat.cast_one, div_one] at nearest
  exact ⟨_, nearest, rfl⟩

end VectorCalc.Decimal

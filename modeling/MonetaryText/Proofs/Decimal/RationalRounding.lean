import Mathlib.Algebra.Order.Floor.Ring
import Mathlib.Algebra.Ring.Int.Parity
import Mathlib.Data.Rat.Floor
import Mathlib.Tactic.FieldSimp
import MonetaryText.Proofs.Decimal.Value

/-!
What rounding does to values. Each mode is given on rational numbers by the integers next to them, and a
decimal that is rescaled has the value that this rounding demands (`toRat_rescale`). A rounding only
compares a number with the multiples of a half, so two numbers that none of them tells apart are rounded
alike.
-/

namespace MonetaryText

namespace RoundingMode

/-- The integer that a mode finds next to a rational number. Next to a tie, `⌊q + 1 / 2⌋` is the integer
above and `⌈q - 1 / 2⌉` the one below; anywhere else both are the nearest one. -/
def round : RoundingMode → ℚ → ℤ
  | halfUp, q => if 0 ≤ q then ⌊q + 1 / 2⌋ else ⌈q - 1 / 2⌉
  | halfEven, q => if Even ⌊q + 1 / 2⌋ then ⌊q + 1 / 2⌋ else ⌈q - 1 / 2⌉
  | halfDown, q => if 0 ≤ q then ⌈q - 1 / 2⌉ else ⌊q + 1 / 2⌋
  | up, q => if 0 ≤ q then ⌈q⌉ else ⌊q⌋
  | down, q => if 0 ≤ q then ⌊q⌋ else ⌈q⌉
  | ceiling, q => ⌈q⌉
  | floor, q => ⌊q⌋

@[simp] theorem round_intCast (mode : RoundingMode) (n : ℤ) : mode.round n = n := by
  have below : ⌊(n : ℚ) + 1 / 2⌋ = n := by
    rw [Int.floor_eq_iff]
    constructor <;> linarith
  have above : ⌈(n : ℚ) - 1 / 2⌉ = n := by
    rw [Int.ceil_eq_iff]
    constructor <;> linarith
  cases mode <;> simp only [round, below, above, Int.floor_intCast, Int.ceil_intCast, ite_self]

@[simp] theorem round_zero (mode : RoundingMode) : mode.round 0 = 0 := by
  exact_mod_cast mode.round_intCast 0

/-! ### What decides -/

/-- No multiple of a half tells the two numbers apart. -/
def Alike (x y : ℚ) : Prop :=
  ∀ k : ℤ, ((k : ℚ) / 2 ≤ x ↔ (k : ℚ) / 2 ≤ y) ∧ (x ≤ (k : ℚ) / 2 ↔ y ≤ (k : ℚ) / 2)

theorem round_congr (mode : RoundingMode) {x y : ℚ} (alike : Alike x y) :
    mode.round x = mode.round y := by
  have floor : ⌊x⌋ = ⌊y⌋ := eq_of_forall_le_iff fun k => by
    have compared := (alike (2 * k)).1
    push_cast at compared
    rw [mul_div_cancel_left₀ _ (by norm_num : (2 : ℚ) ≠ 0)] at compared
    rw [Int.le_floor, Int.le_floor, compared]
  have ceiling : ⌈x⌉ = ⌈y⌉ := eq_of_forall_ge_iff fun k => by
    have compared := (alike (2 * k)).2
    push_cast at compared
    rw [mul_div_cancel_left₀ _ (by norm_num : (2 : ℚ) ≠ 0)] at compared
    rw [Int.ceil_le, Int.ceil_le, compared]
  have nearestBelow : ⌊x + 1 / 2⌋ = ⌊y + 1 / 2⌋ := eq_of_forall_le_iff fun k => by
    have compared := (alike (2 * k - 1)).1
    push_cast at compared
    rw [Int.le_floor, Int.le_floor]
    constructor <;> intro le
    · linarith [compared.mp (by linarith)]
    · linarith [compared.mpr (by linarith)]
  have nearestAbove : ⌈x - 1 / 2⌉ = ⌈y - 1 / 2⌉ := eq_of_forall_ge_iff fun k => by
    have compared := (alike (2 * k + 1)).2
    push_cast at compared
    rw [Int.ceil_le, Int.ceil_le]
    constructor <;> intro le
    · linarith [compared.mp (by linarith)]
    · linarith [compared.mpr (by linarith)]
  have sign : 0 ≤ x ↔ 0 ≤ y := by simpa using (alike 0).1
  cases mode <;> simp only [round, floor, ceiling, nearestBelow, nearestAbove, sign]

theorem Alike.neg {x y : ℚ} (alike : Alike x y) : Alike (-x) (-y) := by
  intro k
  have mirrored := alike (-k)
  rw [Int.cast_neg, neg_div] at mirrored
  exact ⟨by rw [le_neg, mirrored.2, le_neg], by rw [neg_le, mirrored.1, neg_le]⟩

/-- What is close to a number that stays away from the multiples of a half is rounded alike. -/
theorem Alike.of_close {x y gap : ℚ} (close : |x - y| < gap)
    (apart : ∀ k : ℤ, x = (k : ℚ) / 2 ∨ gap ≤ |x - (k : ℚ) / 2|)
    (kept : ∀ k : ℤ, x = (k : ℚ) / 2 → y = x) : Alike x y := by
  intro k
  rcases apart k with same | far
  · rw [kept k same]
    exact ⟨.rfl, .rfl⟩
  · rw [abs_lt] at close
    rcases le_abs.mp far with above | below
    · constructor <;> constructor <;> intro le <;> linarith
    · constructor <;> constructor <;> intro le <;> linarith

/-- A fraction is a multiple of a half or stays away from all of them. -/
theorem half_or_far {m n : ℤ} {bound : ℚ} (nonzero : n ≠ 0) (small : |(n : ℚ)| < bound) (k : ℤ) :
    (m : ℚ) / n = k / 2 ∨ 1 / (2 * bound) ≤ |(m : ℚ) / n - k / 2| := by
  have divisor : (n : ℚ) ≠ 0 := by exact_mod_cast nonzero
  have positive : 0 < |(n : ℚ)| := abs_pos.mpr divisor
  have gap : (m : ℚ) / n - k / 2 = (2 * m - k * n : ℤ) / (2 * n) := by
    push_cast
    field_simp
  by_cases same : 2 * m - k * n = 0
  · left
    rw [← sub_eq_zero, gap, same]
    simp
  · right
    have one : (1 : ℚ) ≤ |((2 * m - k * n : ℤ) : ℚ)| := by
      rw [← Int.cast_abs]
      exact_mod_cast Int.one_le_abs same
    rw [gap, abs_div, abs_mul, abs_two]
    exact div_le_div₀ (abs_nonneg _) one (by positivity) (by linarith)

/-- The number lies strictly between a multiple of the unit and the next one. -/
def IsWithin (n : Nat) (unit x : ℚ) : Prop := n * unit < x ∧ x < (n + 1) * unit

theorem IsWithin.compare {n : Nat} {unit x : ℚ} (within : IsWithin n unit x) (pos : 0 < unit) (j : ℤ) :
    (j * unit ≤ x ↔ j ≤ n) ∧ (x ≤ j * unit ↔ n < j) := by
  obtain ⟨low, high⟩ := within
  by_cases below : j ≤ n
  · have least : (j : ℚ) * unit ≤ n * unit :=
      mul_le_mul_of_nonneg_right (by exact_mod_cast below) pos.le
    exact ⟨iff_of_true (by linarith) below, iff_of_false (by linarith) (by omega)⟩
  · have next : (n : ℤ) + 1 ≤ j := by omega
    have greatest : ((n : ℚ) + 1) * unit ≤ j * unit :=
      mul_le_mul_of_nonneg_right (by exact_mod_cast next) pos.le
    exact ⟨iff_of_false (by linarith) below, iff_of_true (by linarith) (by omega)⟩

/-- Halves of a scale that are points of the grid do not tell what lies between two points. -/
theorem IsWithin.alike {n : Nat} {unit scale x y : ℚ} {half : ℤ} (first : IsWithin n unit x)
    (second : IsWithin n unit y) (pos : 0 < unit) (positive : 0 < scale)
    (point : scale = 2 * (half * unit)) : Alike (x / scale) (y / scale) := by
  intro k
  have onGrid : (k : ℚ) / 2 * scale = (k * half : ℤ) * unit := by
    rw [point]
    push_cast
    ring
  rw [le_div_iff₀ positive, le_div_iff₀ positive, div_le_iff₀ positive, div_le_iff₀ positive, onGrid]
  exact ⟨(first.compare pos _).1.trans (second.compare pos _).1.symm,
    (first.compare pos _).2.trans (second.compare pos _).2.symm⟩

/-! ### Signs -/

/-- The mode that does above zero what a mode does below. -/
def mirrored : RoundingMode → RoundingMode
  | ceiling => floor
  | floor => ceiling
  | mode => mode

theorem floor_add_half_cases (q : ℚ) :
    ⌊q + 1 / 2⌋ = ⌈q - 1 / 2⌉ ∨ ⌊q + 1 / 2⌋ = ⌈q - 1 / 2⌉ + 1 := by
  have low := Int.floor_le (q + 1 / 2)
  have high := Int.lt_floor_add_one (q + 1 / 2)
  have above := Int.le_ceil (q - 1 / 2)
  have below := Int.ceil_lt_add_one (q - 1 / 2)
  generalize ⌊q + 1 / 2⌋ = n at *
  generalize ⌈q - 1 / 2⌉ = m at *
  have least : (m : ℚ) < n + 1 := by linarith
  have greatest : (n : ℚ) ≤ m + 1 := by linarith
  have least : m < n + 1 := by exact_mod_cast least
  have greatest : n ≤ m + 1 := by exact_mod_cast greatest
  omega

theorem round_neg (mode : RoundingMode) (q : ℚ) : mode.round (-q) = -mode.mirrored.round q := by
  have floor : ⌊-q + 1 / 2⌋ = -⌈q - 1 / 2⌉ := by
    rw [show -q + 1 / 2 = -(q - 1 / 2) by ring, Int.floor_neg]
  have ceiling : ⌈-q - 1 / 2⌉ = -⌊q + 1 / 2⌋ := by
    rw [show -q - 1 / 2 = -(q + 1 / 2) by ring, Int.ceil_neg]
  rcases eq_or_ne q 0 with rfl | nonzero
  · simp
  · have sign : 0 ≤ -q ↔ ¬0 ≤ q := by
      rw [not_le, neg_nonneg]
      exact ⟨fun le => lt_of_le_of_ne le nonzero, le_of_lt⟩
    cases mode with
    | halfEven =>
      have neighbours := floor_add_half_cases q
      simp only [round, mirrored, floor, ceiling, even_neg]
      generalize ⌊q + 1 / 2⌋ = n at *
      generalize ⌈q - 1 / 2⌉ = m at *
      rcases neighbours with rfl | rfl
      · split <;> rfl
      · by_cases even : Even m
        · rw [if_pos even, if_neg (by rwa [Int.even_add_one, not_not])]
        · rw [if_neg even, if_pos (Int.even_add_one.mpr even)]
    | _ =>
      simp only [round, mirrored, floor, ceiling, sign, Int.floor_neg, Int.ceil_neg, ite_not]
      try (split <;> rfl)

/-- A mode treats negative magnitudes as its mirror image treats the others. -/
theorem quotient_true (mode : RoundingMode) (n divisor : Nat) :
    mode.quotient true n divisor = mode.mirrored.quotient false n divisor := by
  cases mode <;> simp [quotient, goesAway, mirrored]

/-! ### Quotients of natural numbers -/

section Fraction

variable {t : ℚ} (k : ℤ) (nonneg : 0 ≤ t) (small : t < 1)

include nonneg small

theorem floor_add_fraction : ⌊(k : ℚ) + t⌋ = k := by
  rw [Int.floor_eq_iff]
  constructor <;> linarith

theorem ceil_add_fraction : ⌈(k : ℚ) + t⌉ = if 0 < t then k + 1 else k := by
  split <;> rw [Int.ceil_eq_iff] <;> push_cast <;> constructor <;> linarith

theorem floor_add_fraction_half : ⌊(k : ℚ) + t + 1 / 2⌋ = if 1 / 2 ≤ t then k + 1 else k := by
  split <;> rw [Int.floor_eq_iff] <;> push_cast <;> constructor <;> linarith

theorem ceil_add_fraction_half : ⌈(k : ℚ) + t - 1 / 2⌉ = if 1 / 2 < t then k + 1 else k := by
  split <;> rw [Int.ceil_eq_iff] <;> push_cast <;> constructor <;> linarith

end Fraction

/-- The mode decides on a remainder as on the fraction that it stands for. -/
theorem round_add_remainder (mode : RoundingMode) {k remainder divisor : Nat}
    (below : remainder < divisor) :
    mode.round ((k : ℤ) + (remainder : ℚ) / divisor) =
      if mode.goesAway false k remainder divisor then (k : ℤ) + 1 else k := by
  have positive : (0 : ℚ) < divisor := by exact_mod_cast Nat.zero_lt_of_lt below
  have nonneg : 0 ≤ (remainder : ℚ) / divisor := by positivity
  have small : (remainder : ℚ) / divisor < 1 := by
    rw [div_lt_one positive]
    exact_mod_cast below
  have rest : 0 < (remainder : ℚ) / divisor ↔ 0 < remainder := by
    rw [div_pos_iff_of_pos_right positive, Nat.cast_pos]
  have tie : 1 / 2 ≤ (remainder : ℚ) / divisor ↔ divisor ≤ 2 * remainder := by
    rw [div_le_div_iff₀ (by norm_num) positive, one_mul, mul_comm]
    exact_mod_cast Iff.rfl
  have beyond : 1 / 2 < (remainder : ℚ) / divisor ↔ divisor < 2 * remainder := by
    rw [div_lt_div_iff₀ (by norm_num) positive, one_mul, mul_comm]
    exact_mod_cast Iff.rfl
  have whole : 0 ≤ ((k : ℤ) : ℚ) + (remainder : ℚ) / divisor := by positivity
  have parity : Even ((k : ℤ) + 1) ↔ k % 2 = 1 := by
    rw [Int.even_add_one, Int.even_coe_nat, Nat.even_iff]
    omega
  cases mode with
  | halfEven =>
    simp only [round, goesAway, floor_add_fraction_half _ nonneg small,
      ceil_add_fraction_half _ nonneg small, tie, beyond]
    rcases Nat.lt_trichotomy divisor (2 * remainder) with more | rfl | less
    · simp [more, more.le]
    · simp [parity]
    · simp [not_le.mpr less, not_lt.mpr less.le, ne_of_gt less]
  | _ =>
    simp only [round, goesAway, floor_add_fraction _ nonneg small, ceil_add_fraction _ nonneg small,
      floor_add_fraction_half _ nonneg small, ceil_add_fraction_half _ nonneg small, rest, tie, beyond,
      if_pos whole]
    simp

/-- A quotient is rounded as the rational number, with the sign that the mode looks at. -/
theorem round_div (mode : RoundingMode) (negative : Bool) (n : Nat) {divisor : Nat}
    (pos : 0 < divisor) :
    mode.round ((if negative then -1 else 1) * ((n : ℚ) / divisor)) =
      (if negative then -1 else 1) * mode.quotient negative n divisor := by
  have positive : (divisor : ℚ) ≠ 0 := by exact_mod_cast pos.ne'
  have unsigned (mode : RoundingMode) :
      mode.round ((n : ℚ) / divisor) = mode.quotient false n divisor := by
    have parts : (n : ℚ) = divisor * (n / divisor : Nat) + (n % divisor : Nat) := by
      exact_mod_cast (Nat.div_add_mod n divisor).symm
    have fraction : (n : ℚ) / divisor = ((n / divisor : Nat) : ℤ) + (n % divisor : Nat) / divisor := by
      rw [Int.cast_natCast]
      conv_lhs => rw [parts, add_div, mul_div_cancel_left₀ _ positive]
    rw [fraction, round_add_remainder mode (Nat.mod_lt n pos), quotient]
    split <;> simp
  cases negative with
  | false => simpa using unsigned mode
  | true =>
    rw [if_pos rfl, if_pos rfl, neg_one_mul, neg_one_mul, round_neg, unsigned, quotient_true]

/-- Rounding half to even finds a nearest integer. -/
theorem abs_round_halfEven_sub_le (q : ℚ) : |(halfEven.round q : ℚ) - q| ≤ 1 / 2 := by
  have low := Int.floor_le (q + 1 / 2)
  have high := Int.lt_floor_add_one (q + 1 / 2)
  have above := Int.le_ceil (q - 1 / 2)
  have below := Int.ceil_lt_add_one (q - 1 / 2)
  rw [abs_le]
  simp only [round]
  split <;> constructor <;> linarith

/-- Numbers below a half are rounded alike, if neither or both are zero. -/
theorem Alike.of_small {x y : ℚ} (left : 0 ≤ x) (right : 0 ≤ y) (small : x < 1 / 2)
    (other : y < 1 / 2) (zero : x = 0 ↔ y = 0) : Alike x y := by
  intro k
  rcases lt_trichotomy k 0 with below | rfl | above
  · have low : (k : ℚ) ≤ -1 := by exact_mod_cast Int.le_sub_one_of_lt below
    exact ⟨iff_of_true (by linarith) (by linarith), iff_of_false (by linarith) (by linarith)⟩
  · rw [Int.cast_zero, zero_div, left.ge_iff_eq', right.ge_iff_eq']
    exact ⟨iff_of_true left right, zero⟩
  · have high : (1 : ℚ) ≤ k := by exact_mod_cast above
    exact ⟨iff_of_false (by linarith) (by linarith), iff_of_true (by linarith) (by linarith)⟩

theorem Alike.sign_mul {x y : ℚ} (alike : Alike x y) (negative : Bool) :
    Alike ((if negative then -1 else 1) * x) ((if negative then -1 else 1) * y) := by
  cases negative with
  | false => simpa using alike
  | true => simpa using alike.neg

/-- What rounding to a unit makes of a number: at most half a unit is lost, and nothing of a multiple. -/
theorem abs_sub_rounded_le {q unit : ℚ} (pos : 0 < unit) :
    |q - halfEven.round (q / unit) * unit| ≤ unit / 2 := by
  have error := abs_round_halfEven_sub_le (q / unit)
  have scaled : q - halfEven.round (q / unit) * unit =
      -((halfEven.round (q / unit) - q / unit) * unit) := by
    rw [sub_mul, div_mul_cancel₀ _ pos.ne']
    ring
  rw [scaled, abs_neg, abs_mul, abs_of_pos pos]
  calc _ ≤ 1 / 2 * unit := mul_le_mul_of_nonneg_right error pos.le
    _ = unit / 2 := by ring

end RoundingMode

namespace Decimal

open RoundingMode (Alike)

/-- Where all digits are cut off, it does not matter how far behind the new last place they are. -/
theorem alike_of_cut {d : Decimal} {places : Nat} (beyond : d.digitCount + 1 ≤ places) :
    Alike ((d.coefficient : ℚ) / tenPow places) (d.coefficient / tenPow (d.digitCount + 1)) := by
  have small {k : Nat} (far : d.digitCount + 1 ≤ k) : (d.coefficient : ℚ) / tenPow k < 1 / 2 := by
    have bound : 2 * d.coefficient < tenPow k := by
      have digits : d.coefficient < tenPow d.digitCount := Digits.lt_tenPow_count _
      have ten : tenPow (d.digitCount + 1) = tenPow d.digitCount * 10 := tenPow_add _ 1
      have more := tenPow_le_tenPow far
      omega
    have positive : (0 : ℚ) < tenPow k := by exact_mod_cast tenPow_pos k
    have bound : (2 : ℚ) * d.coefficient < tenPow k := by exact_mod_cast bound
    rw [div_lt_div_iff₀ positive (by norm_num)]
    linarith
  have zero (k : Nat) : (d.coefficient : ℚ) / tenPow k = 0 ↔ d.coefficient = 0 := by
    have positive : (tenPow k : ℚ) ≠ 0 := by exact_mod_cast (tenPow_pos k).ne'
    rw [div_eq_zero_iff, Nat.cast_eq_zero, or_iff_left positive]
  exact .of_small (by positivity) (by positivity) (small beyond) (small (Nat.le_refl _))
    ((zero _).trans (zero _).symm)

/-- Rescaling rounds the value to a multiple of the power of ten, once. -/
theorem toRat_rescale (mode : RoundingMode) (d : Decimal) (exponent : Int) :
    (d.rescale mode exponent).toRat = mode.round (d.toRat / 10 ^ exponent) * 10 ^ exponent := by
  have unit : (10 : ℚ) ^ exponent ≠ 0 := (ten_zpow_pos exponent).ne'
  by_cases le : exponent ≤ d.exponent
  · rw [toRat_of_spells (spells_rescale le) (negative_rescale mode d exponent),
      toRat_eq_signedAt le, mul_div_cancel_right₀ _ unit, RoundingMode.round_intCast]
  · obtain ⟨places, rfl⟩ : ∃ places : Nat, exponent = d.exponent + places :=
      ⟨(exponent - d.exponent).toNat, by omega⟩
    have scaled : d.toRat / 10 ^ (d.exponent + (places : Int)) =
        (if d.negative then -1 else 1) * ((d.coefficient : ℚ) / tenPow places) := by
      rw [toRat, zpow_add₀ (by norm_num), zpow_natCast, ← cast_tenPow, mul_comm (10 ^ d.exponent),
        mul_div_mul_right _ _ (ten_zpow_pos d.exponent).ne', mul_div_assoc]
    have cut : (d.exponent + (places : Int) - d.exponent).toNat = places := by omega
    have kept : mode.round ((if d.negative then -1 else 1) * ((d.coefficient : ℚ) / tenPow places)) =
        (if d.negative then -1 else 1) * mode.quotient d.negative d.coefficient
          (tenPow (min places (d.digitCount + 1))) := by
      rw [← RoundingMode.round_div _ _ _ (tenPow_pos _)]
      rcases Nat.le_total places (d.digitCount + 1) with few | many
      · rw [Nat.min_eq_left few]
      · rw [Nat.min_eq_right many]
        exact mode.round_congr ((alike_of_cut many).sign_mul d.negative)
    rw [scaled, kept, rescale, if_neg le, cut]
    simp [toRat]

end Decimal

end MonetaryText

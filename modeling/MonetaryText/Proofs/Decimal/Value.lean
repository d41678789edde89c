import Mathlib.Algebra.Order.Field.Power
import Mathlib.Data.Rat.Cast.Order
import Mathlib.Tactic.Linarith
import Mathlib.Tactic.Positivity
import Mathlib.Tactic.Ring
import MonetaryText.Decimal.Arithmetic
import MonetaryText.Proofs.Decimal.Rounding

/-!
The rational numbers that decimals stand for. Exact sums, products and powers of decimals are those of their
values, and a bound on the digits is one on the value.
-/

namespace MonetaryText

theorem cast_tenPow (places : Nat) : ((tenPow places : Nat) : ℚ) = 10 ^ places := by
  simp [tenPow]

theorem ten_zpow_pos (exponent : Int) : (0 : ℚ) < 10 ^ exponent := zpow_pos (by norm_num) exponent

namespace Decimal

/-- The value of a decimal. Zero has one value, whatever its sign and its exponent. -/
def toRat (d : Decimal) : ℚ := (if d.negative then -1 else 1) * d.coefficient * 10 ^ d.exponent

variable {a b d m : Decimal}

theorem toRat_eq_signedAt {exponent : Int} (below : exponent ≤ d.exponent) :
    d.toRat = d.signedAt exponent * 10 ^ exponent := by
  have split : d.exponent = ((d.exponent - exponent).toNat : Int) + exponent := by omega
  have power : (10 : ℚ) ^ d.exponent =
      ((tenPow (d.exponent - exponent).toNat : Nat) : ℚ) * 10 ^ exponent := by
    rw [cast_tenPow, ← zpow_natCast, ← zpow_add₀ (by norm_num), ← split]
  unfold toRat signedAt
  rw [power]
  cases d.negative <;> simp <;> ring

theorem abs_toRat (d : Decimal) : |d.toRat| = d.coefficient * 10 ^ d.exponent := by
  have positive := ten_zpow_pos d.exponent
  unfold toRat
  rw [abs_mul, abs_mul, abs_of_pos positive, Nat.abs_cast]
  cases d.negative <;> simp

theorem toRat_eq_zero_iff : d.toRat = 0 ↔ d.isZero = true := by
  have positive := ten_zpow_pos d.exponent
  rw [← abs_eq_zero, abs_toRat, isZero, beq_iff_eq, mul_eq_zero, Nat.cast_eq_zero]
  exact or_iff_left (ne_of_gt positive)

/-- The sign is that of the value, except for zero, whose sign no value tells. -/
theorem toRat_eq_abs (d : Decimal) : d.toRat = (if d.negative then -1 else 1) * |d.toRat| := by
  rw [abs_toRat, toRat, mul_assoc]

theorem toRat_neg_iff {d : Decimal} : d.toRat < 0 ↔ d.isNegative = true := by
  rw [toRat_eq_abs, isNegative]
  cases d.negative with
  | false => simp
  | true => simp [toRat_eq_zero_iff]

@[simp] theorem toRat_negate (d : Decimal) : d.negate.toRat = -d.toRat := by
  unfold toRat negate
  cases d.negative <;> simp

theorem toRat_signed (n : Int) (zeroSign : Bool) (exponent : Int) :
    toRat ⟨if n = 0 then zeroSign else n < 0, n.natAbs, exponent⟩ = n * 10 ^ exponent := by
  unfold toRat
  rcases lt_trichotomy n 0 with below | rfl | above
  · have magnitude : ((n.natAbs : Nat) : ℚ) = -(n : ℚ) := by
      rw [Nat.cast_natAbs, abs_of_neg below, Int.cast_neg]
    simp [below, ne_of_lt below, magnitude]
  · simp
  · have magnitude : ((n.natAbs : Nat) : ℚ) = (n : ℚ) := by
      rw [Nat.cast_natAbs, abs_of_pos above]
    simp [not_lt_of_gt above, ne_of_gt above, magnitude]

theorem toRat_exactSum (a b : Decimal) : (a.exactSum b).toRat = a.toRat + b.toRat := by
  rw [toRat_eq_signedAt (show min a.exponent b.exponent ≤ a.exponent by omega),
    toRat_eq_signedAt (show min a.exponent b.exponent ≤ b.exponent by omega), ← add_mul,
    ← Int.cast_add]
  exact toRat_signed _ _ _

theorem toRat_exactProduct (a b : Decimal) : (a.exactProduct b).toRat = a.toRat * b.toRat := by
  unfold exactProduct toRat
  simp only [Nat.cast_mul]
  rw [zpow_add₀ (by norm_num)]
  cases a.negative <;> cases b.negative <;> simp <;> ring

/-- The exact power, with all digits and at the exponent of as many factors. -/
def pow (d : Decimal) (n : Nat) : Decimal :=
  ⟨d.negative && n % 2 == 1, d.coefficient ^ n, d.exponent * n⟩

theorem toRat_pow (d : Decimal) (n : Nat) : (d.pow n).toRat = d.toRat ^ n := by
  have sign : (if (d.pow n).negative then (-1 : ℚ) else 1) = (if d.negative then -1 else 1) ^ n := by
    unfold pow
    cases d.negative with
    | false => simp
    | true =>
      rcases Nat.even_or_odd n with even | odd
      · simp [even.neg_one_pow, Nat.even_iff.mp even]
      · simp [odd.neg_one_pow, Nat.odd_iff.mp odd]
  rw [toRat, sign]
  simp only [pow, toRat, mul_pow, Nat.cast_pow, zpow_mul, zpow_natCast]

protected theorem pow_zero (d : Decimal) : d.pow 0 = ofNat 1 := by
  simp [pow, ofNat]

theorem exactProduct_pow (d : Decimal) (i j : Nat) :
    (d.pow i).exactProduct (d.pow j) = d.pow (i + j) := by
  have sign : ((d.negative && i % 2 == 1) != (d.negative && j % 2 == 1)) =
      (d.negative && (i + j) % 2 == 1) := by
    cases d.negative with
    | false => rfl
    | true =>
      simp only [Bool.true_and]
      rcases Nat.mod_two_eq_zero_or_one i with first | first <;>
        rcases Nat.mod_two_eq_zero_or_one j with second | second <;>
        simp [Nat.add_mod, first, second]
  unfold exactProduct pow
  simp only [sign, Nat.pow_add, Nat.cast_add, Int.mul_add]

theorem sameValue_iff_toRat : a.sameValue b = true ↔ a.toRat = b.toRat := by
  have positive := ten_zpow_pos (min a.exponent b.exponent)
  rw [sameValue_iff (show min a.exponent b.exponent ≤ a.exponent by omega)
      (show min a.exponent b.exponent ≤ b.exponent by omega),
    toRat_eq_signedAt (show min a.exponent b.exponent ≤ a.exponent by omega),
    toRat_eq_signedAt (show min a.exponent b.exponent ≤ b.exponent by omega),
    mul_left_inj' (ne_of_gt positive), Int.cast_inj]

theorem toRat_of_spells (spells : a.Spells m) (signs : a.negative = m.negative) :
    a.toRat = m.toRat :=
  sameValue_iff_toRat.mp (sameValue_of_spells spells (.refl m) (.inl signs))

/-- A decimal is known from its value and its exponent, a zero also from its sign. -/
theorem eq_of_toRat (value : a.toRat = b.toRat) (exponent : a.exponent = b.exponent)
    (sign : a.isZero = true → a.negative = b.negative) : a = b := by
  obtain ⟨negative, coefficient, place⟩ := a
  obtain ⟨otherNegative, otherCoefficient, otherPlace⟩ := b
  obtain rfl : place = otherPlace := exponent
  have positive := ten_zpow_pos place
  have magnitudes : (coefficient : ℚ) * 10 ^ place = otherCoefficient * 10 ^ place := by
    rw [← abs_toRat ⟨negative, coefficient, place⟩, value, abs_toRat]
  obtain rfl : coefficient = otherCoefficient := by
    exact_mod_cast (mul_left_inj' (ne_of_gt positive)).mp magnitudes
  by_cases zero : coefficient = 0
  · obtain rfl := sign (by simp [isZero, zero])
    rfl
  · have some : (0 : ℚ) < coefficient * 10 ^ place := by positivity
    cases negative <;> cases otherNegative <;> simp only [toRat] at value ⊢ <;>
      norm_num at value <;> linarith

/-- The value as a fraction of whole numbers. -/
theorem abs_toRat_eq_div (d : Decimal) :
    |d.toRat| = (d.coefficient * tenPow d.exponent.toNat : Nat) / (tenPow (-d.exponent).toNat : Nat) := by
  have split : d.exponent = (d.exponent.toNat : Int) - ((-d.exponent).toNat : Int) := by omega
  rw [abs_toRat]
  conv => lhs; rw [split]
  rw [zpow_sub₀ (by norm_num), zpow_natCast, zpow_natCast, ← cast_tenPow, ← cast_tenPow,
    Nat.cast_mul, mul_div_assoc]

/-- What has an integer as its value is one, and the integer is what truncating leaves. -/
theorem isInteger_of_toRat {k : Int} (value : d.toRat = k) :
    d.isInteger = true ∧ d.truncate = k := by
  have scaled : (d.coefficient * tenPow d.exponent.toNat : Nat) =
      k.natAbs * tenPow (-d.exponent).toNat := by
    have magnitude := abs_toRat_eq_div d
    have some : (tenPow (-d.exponent).toNat : ℚ) ≠ 0 := by
      exact_mod_cast (tenPow_pos _).ne'
    rw [value, ← Int.cast_abs, Int.abs_eq_natAbs, eq_div_iff some] at magnitude
    exact_mod_cast magnitude.symm
  have whole : d.wholePart = k.natAbs := by
    rw [wholePart, scaled, Nat.mul_div_cancel _ (tenPow_pos _)]
  constructor
  · rw [isInteger, Bool.or_eq_true, decide_eq_true_eq, beq_iff_eq]
    rcases Int.le_total 0 d.exponent with above | below
    · exact .inl above
    · right
      have none : d.exponent.toNat = 0 := by omega
      rw [none, show tenPow 0 = 1 from rfl, Nat.mul_one] at scaled
      rw [scaled, Nat.mul_mod_left]
  · have signed := toRat_eq_abs d
    rw [value] at signed
    rw [truncate, whole, Int.natCast_natAbs]
    cases negative : d.negative with
    | false =>
      rw [negative, if_neg (by decide), one_mul] at signed
      exact_mod_cast signed.symm
    | true =>
      rw [negative, if_pos rfl, neg_one_mul] at signed
      exact_mod_cast signed.symm

/-! ### Digits -/

theorem digitCount_le_iff {kept : Nat} (pos : 0 < kept) :
    d.digitCount ≤ kept ↔ |d.toRat| < 10 ^ (kept + d.exponent) := by
  have positive := ten_zpow_pos d.exponent
  rw [digitCount, Digits.count_le_iff pos, abs_toRat, zpow_add₀ (by norm_num), zpow_natCast,
    ← cast_tenPow, mul_lt_mul_iff_left₀ positive, Nat.cast_lt]

/-- The leading digit stands where the value begins. -/
theorem leadingExponent_lt_iff {n : Int} (nonzero : d.isZero = false) :
    d.leadingExponent < n ↔ |d.toRat| < 10 ^ n := by
  have some : 1 ≤ d.coefficient := Nat.pos_of_ne_zero (by simpa [isZero] using nonzero)
  have digits : 0 < d.digitCount := Digits.count_pos _
  by_cases low : n ≤ d.exponent
  · have unit : (10 : ℚ) ^ n ≤ 10 ^ d.exponent := zpow_le_zpow_right₀ (by norm_num) low
    have reached : (10 : ℚ) ^ d.exponent ≤ |d.toRat| := by
      rw [abs_toRat]
      exact le_mul_of_one_le_left (ten_zpow_pos _).le (by exact_mod_cast some)
    refine iff_of_false ?_ (by linarith)
    unfold leadingExponent
    omega
  · have place : n = ((n - d.exponent).toNat : Int) + d.exponent := by omega
    rw [place, ← digitCount_le_iff (by omega)]
    unfold leadingExponent
    omega

/-- A zero is below every power of ten, wherever its digit stands. -/
theorem abs_toRat_lt_iff {n : Int} :
    |d.toRat| < 10 ^ n ↔ d.isZero = true ∨ d.leadingExponent < n := by
  cases zero : d.isZero with
  | true =>
    rw [toRat_eq_zero_iff.mpr zero, abs_zero]
    exact iff_of_true (ten_zpow_pos n) (.inl rfl)
  | false => simp [leadingExponent_lt_iff zero]

theorem isBelow_iff_toRat {n : Nat} : d.IsBelow n ↔ |d.toRat| < 10 ^ (n : ℤ) := by
  rw [abs_toRat_lt_iff, IsBelow]

end Decimal

end MonetaryText

import Mathlib.Data.Nat.Cast.Field
import MonetaryText.Proofs.Decimal.RationalRounding

/-!
Division is the exact quotient, rounded once. The digits of a quotient that does not end are cut, and a
last digit that is not zero stands for the rest. No point halfway between two results tells such a
decimal from the quotient itself, so the rounding to the precision decides as on the quotient
(`exists_div`).
-/

namespace MonetaryText

namespace Decimal

open RoundingMode (Alike IsWithin)

variable (context : Context) {a b : Decimal}

/-! ### The wide quotient -/

theorem toRat_dropZeros (places : Nat) (d : Decimal) : (dropZeros places d).toRat = d.toRat := by
  induction places generalizing d with
  | zero => rfl
  | succ places ih =>
    unfold dropZeros
    split
    · rename_i last
      have whole : (d.coefficient : ℚ) = 10 * (d.coefficient / 10 : Nat) := by
        exact_mod_cast (Nat.mul_div_cancel' (Nat.dvd_of_mod_eq_zero last)).symm
      rw [ih]
      unfold toRat
      simp only
      rw [whole, zpow_add_one₀ (by norm_num)]
      ring
    · rfl

@[simp] theorem negative_dropZeros (places : Nat) (d : Decimal) :
    (dropZeros places d).negative = d.negative := by
  induction places generalizing d with
  | zero => rfl
  | succ places ih =>
    unfold dropZeros
    split
    · rw [ih]
    · rfl

/-- The sign of a quotient is known from those of its parts. -/
theorem toRat_div_eq_abs (a b : Decimal) :
    a.toRat / b.toRat = (if a.negative != b.negative then -1 else 1) * |a.toRat / b.toRat| := by
  rw [abs_div, toRat_eq_abs a, toRat_eq_abs b]
  cases a.negative <;> cases b.negative <;> simp [neg_div, div_neg]

/-- Zeros behind the dividend or the divisor move the quotient on its grid. -/
theorem abs_div_eq_shifted (a b : Decimal) (shift : Int) :
    |a.toRat / b.toRat| =
      ((a.coefficient * tenPow shift.toNat : Nat) : ℚ) / (b.coefficient * tenPow (-shift).toNat : Nat) *
        10 ^ (a.exponent - b.exponent - shift) := by
  have split : shift = (shift.toNat : Int) - ((-shift).toNat : Int) := by omega
  have place : (10 : ℚ) ^ (a.exponent - b.exponent - shift) =
      10 ^ a.exponent * 10 ^ (-shift).toNat / (10 ^ b.exponent * 10 ^ shift.toNat) := by
    conv_lhs => rw [split]
    rw [zpow_sub₀ (by norm_num), zpow_sub₀ (by norm_num), zpow_sub₀ (by norm_num), zpow_natCast,
      zpow_natCast]
    field_simp
  have left : (10 : ℚ) ^ shift.toNat ≠ 0 := by positivity
  have right : (10 : ℚ) ^ (-shift).toNat ≠ 0 := by positivity
  rw [abs_div, abs_toRat, abs_toRat, place]
  push_cast
  rw [cast_tenPow, cast_tenPow]
  generalize (10 : ℚ) ^ shift.toNat = p at *
  generalize (10 : ℚ) ^ (-shift).toNat = m at *
  field_simp

/-- The shift makes the quotient of the coefficients longer than the precision. -/
theorem precision_le_quotient (dividend : a.isZero = false) :
    let shift : Int := b.digitCount - a.digitCount + context.precision + 1
    tenPow context.precision * (b.coefficient * tenPow (-shift).toNat) ≤
      a.coefficient * tenPow shift.toNat := by
  intro shift
  have some : 0 < a.coefficient := Nat.pos_of_ne_zero (by simpa [isZero] using dividend)
  have digits : 0 < a.digitCount := Digits.count_pos _
  have low : tenPow (a.digitCount - 1) ≤ a.coefficient :=
    (Digits.tenPow_le_iff some).mpr (by unfold digitCount at *; omega)
  have high : b.coefficient ≤ tenPow b.digitCount := (Digits.lt_tenPow_count _).le
  calc tenPow context.precision * (b.coefficient * tenPow (-shift).toNat)
      ≤ tenPow context.precision * (tenPow b.digitCount * tenPow (-shift).toNat) :=
        Nat.mul_le_mul_left _ (Nat.mul_le_mul_right _ high)
    _ = tenPow (a.digitCount - 1) * tenPow shift.toNat := by
        rw [← tenPow_add, ← tenPow_add, ← tenPow_add]
        congr 1
        omega
    _ ≤ a.coefficient * tenPow shift.toNat := Nat.mul_le_mul_right _ low

/-- The wide quotient is the quotient itself, or it is one place longer than a grid on which the
quotient lies between two points. -/
theorem wideQuotient_cases (dividend : a.isZero = false) (divisor : b.isZero = false) :
    (wideQuotient context a b).negative = (a.negative != b.negative) ∧
      ((wideQuotient context a b).toRat = a.toRat / b.toRat ∨
        ∃ n place, tenPow context.precision ≤ n ∧
          wideQuotient context a b = ⟨a.negative != b.negative, 10 * n + 1, place - 1⟩ ∧
          IsWithin n (10 ^ place) |a.toRat / b.toRat|) := by
  have shifted := abs_div_eq_shifted a b (b.digitCount - a.digitCount + context.precision + 1)
  have enough := @precision_le_quotient context a b dividend
  have some (k : Nat) : 0 < b.coefficient * tenPow k :=
    Nat.mul_pos (Nat.pos_of_ne_zero (by simpa [isZero] using divisor)) (tenPow_pos k)
  unfold wideQuotient
  simp only at enough ⊢
  generalize (b.digitCount - a.digitCount + context.precision + 1 : Int) = shift at *
  replace some := some (-shift).toNat
  generalize a.coefficient * tenPow shift.toNat = upper at *
  generalize b.coefficient * tenPow (-shift).toNat = lower at *
  have unit := ten_zpow_pos (a.exponent - b.exponent - shift)
  have positive : (0 : ℚ) < lower := by exact_mod_cast some
  split
  · rename_i exact
    refine ⟨negative_dropZeros _ _, .inl ?_⟩
    rw [toRat_dropZeros, toRat_div_eq_abs, shifted, toRat,
      Nat.cast_div (Nat.dvd_of_mod_eq_zero exact) positive.ne', mul_assoc]
  · rename_i inexact
    refine ⟨rfl, .inr ⟨upper / lower, a.exponent - b.exponent - shift,
      (Nat.le_div_iff_mul_le some).mpr enough, rfl, ?_⟩⟩
    have parts : (upper : ℚ) = lower * (upper / lower : Nat) + (upper % lower : Nat) := by
      exact_mod_cast (Nat.div_add_mod upper lower).symm
    have rest : (0 : ℚ) < (upper % lower : Nat) := by exact_mod_cast Nat.pos_of_ne_zero inexact
    have below : ((upper % lower : Nat) : ℚ) < lower := by exact_mod_cast Nat.mod_lt upper some
    rw [shifted]
    constructor
    · refine mul_lt_mul_of_pos_right ?_ unit
      rw [lt_div_iff₀ positive]
      linarith
    · refine mul_lt_mul_of_pos_right ?_ unit
      rw [div_lt_iff₀ positive]
      linarith

/-- The value of a decimal and that of another number, which no rounding to the digits of the precision
tells apart, and which begin with the same place. -/
structure StandsFor (d : Decimal) (q : ℚ) : Prop where
  nonzero : d.isZero = false
  alike : Alike (d.toRat / 10 ^ (d.leadingExponent - context.precision + 1))
    (q / 10 ^ (d.leadingExponent - context.precision + 1))
  low : 10 ^ d.leadingExponent ≤ |q|
  high : |q| < 10 ^ (d.leadingExponent + 1)

theorem leading_bounds {d : Decimal} (nonzero : d.isZero = false) :
    10 ^ d.leadingExponent ≤ |d.toRat| ∧ |d.toRat| < 10 ^ (d.leadingExponent + 1) := by
  refine ⟨?_, (leadingExponent_lt_iff nonzero).mp (by omega)⟩
  rw [← not_lt, ← leadingExponent_lt_iff nonzero]
  exact lt_irrefl _

variable {context}

theorem StandsFor.self {d : Decimal} (nonzero : d.isZero = false) : StandsFor context d d.toRat :=
  ⟨nonzero, fun _ => ⟨.rfl, .rfl⟩, (leading_bounds nonzero).1, (leading_bounds nonzero).2⟩

/-- A last digit behind the grid stands for whatever the quotient has there. -/
theorem StandsFor.of_within {n : Nat} {place : Int} {negative : Bool} {q : ℚ}
    (many : tenPow context.precision ≤ n) (within : IsWithin n (10 ^ place) |q|)
    (sign : q = (if negative then -1 else 1) * |q|) :
    StandsFor context ⟨negative, 10 * n + 1, place - 1⟩ q := by
  generalize known : (⟨negative, 10 * n + 1, place - 1⟩ : Decimal) = d
  have nonzero : d.isZero = false := by rw [← known]; simp [isZero]
  have unit := ten_zpow_pos place
  have magnitude : |d.toRat| = (n + 1 / 10) * 10 ^ place := by
    rw [← known, abs_toRat, zpow_sub_one₀ (by norm_num)]
    push_cast
    ring
  have inside : IsWithin n (10 ^ place) |d.toRat| := by
    rw [magnitude]
    constructor <;> refine mul_lt_mul_of_pos_right ?_ unit <;> linarith
  -- Two digits and more behind the precision: the last one, and that of the grid.
  have long : place + context.precision ≤ d.leadingExponent := by
    have digits : context.precision + 1 < d.digitCount := by
      rw [← known, digitCount, ← Digits.tenPow_le_iff (by simp)]
      have ten : tenPow (context.precision + 1) = tenPow context.precision * 10 := tenPow_add _ 1
      simp only
      omega
    rw [leadingExponent, ← known] at *
    simp only at *
    omega
  have power {k : Int} (above : place ≤ k) :
      (10 : ℚ) ^ k = ((10 ^ (k - place).toNat : Nat) : ℤ) * 10 ^ place := by
    have split : k = ((k - place).toNat : Int) + place := by omega
    conv_lhs => rw [split, zpow_add₀ (by norm_num), zpow_natCast]
    push_cast
    rfl
  have compared {k : Int} (above : place ≤ k) : (10 : ℚ) ^ k ≤ |d.toRat| ↔ (10 : ℚ) ^ k ≤ |q| := by
    rw [power above]
    exact (inside.compare unit _).1.trans (within.compare unit _).1.symm
  have bounds := leading_bounds nonzero
  refine ⟨nonzero, ?_, ?_, ?_⟩
  · -- A half of the last place that is kept is a point of the grid.
    have point : (10 : ℚ) ^ (d.leadingExponent - context.precision + 1) =
        2 * ((5 * (10 ^ (d.leadingExponent - context.precision - place).toNat : Nat) : ℤ) *
          10 ^ place) := by
      rw [zpow_add_one₀ (by norm_num), power (by omega)]
      push_cast
      ring
    have signed : d.negative = negative := by rw [← known]
    rw [sign, toRat_eq_abs d, signed, mul_div_assoc, mul_div_assoc]
    exact (inside.alike within unit (ten_zpow_pos _) point).sign_mul negative
  · exact (compared (by omega)).mp bounds.1
  · rw [← not_le, ← compared (by omega), not_le]
    exact bounds.2

theorem standsFor_wideQuotient (dividend : a.isZero = false) (divisor : b.isZero = false) :
    StandsFor context (wideQuotient context a b) (a.toRat / b.toRat) := by
  obtain ⟨_, exact | ⟨n, place, many, known, within⟩⟩ := wideQuotient_cases context dividend divisor
  · rw [← exact]
    refine .self ?_
    have value : a.toRat / b.toRat ≠ 0 := by
      rw [div_ne_zero_iff, Ne, Ne, toRat_eq_zero_iff, toRat_eq_zero_iff]
      simp [dividend, divisor]
    rw [← exact, Ne, toRat_eq_zero_iff] at value
    simpa using value
  · rw [known]
    exact .of_within many within (toRat_div_eq_abs a b)

end Decimal

/-! ### One rounding -/

namespace Context

variable {context : Context} {d : Decimal} {q : ℚ}

/-- What stands for a number within the range of exponents is rounded as the number. -/
theorem exists_finish_of_standsFor (pos : 0 < context.precision)
    (stands : Decimal.StandsFor context d q) (low : 10 ^ minExponent ≤ |q|)
    (high : |q| < 10 ^ maxExponent) :
    ∃ m : Decimal, context.finish d = .ok m ∧ m.negative = d.negative ∧
      m.toRat = RoundingMode.halfEven.round (q / 10 ^ (d.leadingExponent - context.precision + 1)) *
        10 ^ (d.leadingExponent - context.precision + 1) := by
  have least : minExponent < d.leadingExponent + 1 := by
    rw [← zpow_lt_zpow_iff_right₀ (by norm_num : (1 : ℚ) < 10)]
    exact low.trans_lt stands.high
  have greatest : d.leadingExponent < maxExponent := by
    rw [← zpow_lt_zpow_iff_right₀ (by norm_num : (1 : ℚ) < 10)]
    exact stands.low.trans_lt high
  have above : context.tiny ≤ d.leadingExponent - context.precision + 1 := by
    unfold tiny
    omega
  rw [← RoundingMode.halfEven.round_congr stands.alike, ← Decimal.toRat_rescale]
  by_cases few : d.digitCount ≤ context.precision
  · have le : d.leadingExponent - context.precision + 1 ≤ d.exponent := by
      unfold Decimal.leadingExponent
      omega
    exact ⟨d, finish_of_fits few (above.trans le) greatest.le, rfl,
      (Decimal.toRat_of_spells (Decimal.spells_rescale le) (Decimal.negative_rescale _ _ _)).symm⟩
  · obtain ⟨m, sign, _, _, lead, spells, finished⟩ := exists_finish pos (by omega) above
    refine ⟨m, ?_, sign, ?_⟩
    · rw [finished, if_neg (by omega)]
    · rw [Decimal.toRat_of_spells spells (by rw [Decimal.negative_rescale, sign])]

end Context

namespace Decimal

/-- A quotient within the range of exponents is the exact one, rounded half to even to the digits of the
precision. -/
theorem exists_div {context : Context} (pos : 0 < context.precision) {a b : Decimal}
    (dividend : a.isZero = false) (divisor : b.isZero = false)
    (low : 10 ^ Context.minExponent ≤ |a.toRat / b.toRat|)
    (high : |a.toRat / b.toRat| < 10 ^ Context.maxExponent) :
    ∃ (m : Decimal) (lead : Int), a.div context b = .ok m ∧ m.negative = (a.negative != b.negative) ∧
      10 ^ lead ≤ |a.toRat / b.toRat| ∧ |a.toRat / b.toRat| < 10 ^ (lead + 1) ∧
      m.toRat = RoundingMode.halfEven.round (a.toRat / b.toRat / 10 ^ (lead - context.precision + 1)) *
        10 ^ (lead - context.precision + 1) := by
  have stands : StandsFor context (wideQuotient context a b) (a.toRat / b.toRat) :=
    standsFor_wideQuotient dividend divisor
  obtain ⟨m, finished, sign, value⟩ := Context.exists_finish_of_standsFor pos stands low high
  refine ⟨m, _, ?_, ?_, stands.low, stands.high, value⟩
  · simpa [div, dividend, divisor] using finished
  · rw [sign, (wideQuotient_cases context dividend divisor).1]

theorem exists_div_of_isZero (context : Context) {a b : Decimal} (zero : a.isZero = true)
    (nonzero : b.isZero = false) :
    ∃ place, a.div context b = .ok ⟨a.negative != b.negative, 0, place⟩ := by
  refine ⟨max context.tiny (min (a.exponent - b.exponent) Context.maxExponent), ?_⟩
  unfold div
  simp only [nonzero, zero, Bool.false_eq_true, if_false, if_true]
  rfl

end Decimal

end MonetaryText

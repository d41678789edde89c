import MonetaryText.Proofs.Amount.RoundTrip
import MonetaryText.Proofs.Decimal.Quotient

/-!
The quotient of an expression is rounded twice, to the precision and then to the fraction digits. For
numbers of the size of amounts the first rounding does not show: a quotient that is not halfway between
two results stays away from there, by more than the first rounding can move it
(`divide_rounds_once`).
-/

namespace MonetaryText

namespace Decimal

open RoundingMode (Alike)

/-- At most 28 digits, at most ten of them behind the point. -/
structure IsAmountSized (d : Decimal) : Prop where
  digits : d.digitCount ≤ 28
  low : -10 ≤ d.exponent
  high : d.exponent ≤ 0

namespace IsAmountSized

variable {d : Decimal}

theorem abs_toRat_lt (sized : d.IsAmountSized) : |d.toRat| < 10 ^ (28 : Int) :=
  ((digitCount_le_iff (by decide)).mp sized.digits).trans_le
    (zpow_le_zpow_right₀ (by norm_num) (by have := sized.high; omega))

theorem le_abs_toRat (sized : d.IsAmountSized) (nonzero : d.isZero = false) :
    10 ^ (-10 : Int) ≤ |d.toRat| := by
  rw [← not_lt, ← leadingExponent_lt_iff nonzero]
  have low := sized.low
  have digits : 0 < d.digitCount := Digits.count_pos _
  unfold leadingExponent
  omega

/-- Counted in the tenth place behind the point, an integer of at most 38 digits. -/
theorem exists_int (sized : d.IsAmountSized) :
    ∃ n : ℤ, d.toRat = n * 10 ^ (-10 : Int) ∧ |(n : ℚ)| < 10 ^ (38 : Int) := by
  refine ⟨d.signedAt (-10), toRat_eq_signedAt sized.low, ?_⟩
  have value : d.toRat = d.signedAt (-10) * 10 ^ (-10 : Int) := toRat_eq_signedAt sized.low
  have small := sized.abs_toRat_lt
  rw [value, abs_mul, abs_of_pos (ten_zpow_pos _)] at small
  norm_num at small ⊢
  linarith

end IsAmountSized

section Quotient

variable {a b m : Decimal} {precision : Nat} {lead : Int}

/-- The quotient of two integers of at most 38 digits. -/
theorem IsAmountSized.exists_quotient (dividend : a.IsAmountSized) (divisor : b.IsAmountSized)
    (nonzero : b.isZero = false) :
    ∃ n k : ℤ, a.toRat / b.toRat = n / k ∧ k ≠ 0 ∧ |(n : ℚ)| < 10 ^ (38 : Int) ∧
      |(k : ℚ)| < 10 ^ (38 : Int) := by
  obtain ⟨n, upper, small⟩ := dividend.exists_int
  obtain ⟨k, lower, other⟩ := divisor.exists_int
  refine ⟨n, k, ?_, ?_, small, other⟩
  · rw [upper, lower, mul_div_mul_right _ _ (ten_zpow_pos _).ne']
  · rintro rfl
    rw [Int.cast_zero, zero_mul, toRat_eq_zero_iff, nonzero] at lower
    cases lower

theorem IsAmountSized.abs_div_lt (dividend : a.IsAmountSized) (divisor : b.IsAmountSized)
    (nonzero : b.isZero = false) : |a.toRat / b.toRat| < 10 ^ (38 : Int) := by
  obtain ⟨n, k, quotient, divisible, small, _⟩ := dividend.exists_quotient divisor nonzero
  have one : (1 : ℚ) ≤ |(k : ℚ)| := by
    rw [← Int.cast_abs]
    exact_mod_cast Int.one_le_abs divisible
  rw [quotient, abs_div]
  exact (div_le_self (abs_nonneg _) one).trans_lt small

theorem IsAmountSized.le_abs_div (dividend : a.IsAmountSized) (divisor : b.IsAmountSized)
    (some : a.isZero = false) (nonzero : b.isZero = false) :
    10 ^ (-38 : Int) ≤ |a.toRat / b.toRat| := by
  have positive : 0 < |b.toRat| := (ten_zpow_pos _).trans_le (divisor.le_abs_toRat nonzero)
  rw [abs_div, le_div_iff₀ positive]
  calc (10 : ℚ) ^ (-38 : Int) * |b.toRat| ≤ 10 ^ (-38 : Int) * 10 ^ (28 : Int) :=
        mul_le_mul_of_nonneg_left divisor.abs_toRat_lt.le (ten_zpow_pos _).le
    _ = 10 ^ (-10 : Int) := by rw [← zpow_add₀ (by norm_num)]; rfl
    _ ≤ |a.toRat| := dividend.le_abs_toRat some

/-- A number halfway between two results has no digits behind the precision. -/
theorem rounded_of_halfway {q : ℚ} {unit : Int} {places : Nat} {j : ℤ} (fine : unit + places < 0)
    (halfway : q * 10 ^ places = j / 2) :
    RoundingMode.halfEven.round (q / 10 ^ unit) * 10 ^ unit = q := by
  obtain ⟨t, far⟩ : ∃ t : Nat, unit + t + places = -1 := ⟨(-places - 1 - unit).toNat, by omega⟩
  have half : (1 : ℚ) / 2 = 5 * (10 ^ unit * 10 ^ t * 10 ^ places) := by
    rw [← zpow_natCast, ← zpow_natCast, ← zpow_add₀ (by norm_num), ← zpow_add₀ (by norm_num), far]
    norm_num
  have multiple : q = (j * 5 * 10 ^ t : ℤ) * 10 ^ unit := by
    have positive : (10 : ℚ) ^ places ≠ 0 := by positivity
    rw [← mul_left_inj' positive, halfway, div_eq_mul_one_div, half]
    push_cast
    ring
  rw [multiple, mul_div_cancel_right₀ _ (ten_zpow_pos unit).ne', RoundingMode.round_intCast]

/-- Behind the 62nd place, rounding moves a number less than two different halves are apart. -/
theorem abs_sub_rounded_lt {q : ℚ} {unit : Int} {places : Nat} (few : places ≤ 10)
    (fine : unit ≤ -62) :
    |q * 10 ^ places - RoundingMode.halfEven.round (q / 10 ^ unit) * 10 ^ unit * 10 ^ places| <
      1 / (2 * 10 ^ (38 : Int)) := by
  have error := RoundingMode.abs_sub_rounded_le (q := q) (ten_zpow_pos unit)
  have scale : (10 : ℚ) ^ places ≤ 10 ^ 10 := pow_le_pow_right₀ (by norm_num) few
  have place : (10 : ℚ) ^ unit ≤ 10 ^ (-62 : Int) := zpow_le_zpow_right₀ (by norm_num) fine
  rw [← sub_mul, abs_mul, abs_of_pos (by positivity : (0 : ℚ) < 10 ^ places)]
  calc _ ≤ (10 : ℚ) ^ (-62 : Int) / 2 * 10 ^ 10 :=
        mul_le_mul (error.trans (div_le_div_of_nonneg_right place (by norm_num))) scale
          (by positivity) (by positivity)
    _ < 1 / (2 * 10 ^ (38 : Int)) := by norm_num

/-- The quotient at the digits of the precision, and the exact one, are rounded alike. Halfway between
two results the first rounding loses nothing, and elsewhere it is too fine to lead there. -/
theorem IsAmountSized.alike_quotient (dividend : a.IsAmountSized) (divisor : b.IsAmountSized)
    (nonzero : b.isZero = false) {places : Nat} (few : places ≤ 10) (precise : 100 ≤ precision)
    (leading : 10 ^ lead ≤ |a.toRat / b.toRat|)
    (value : m.toRat = RoundingMode.halfEven.round (a.toRat / b.toRat / 10 ^ (lead - precision + 1)) *
      10 ^ (lead - precision + 1)) :
    Alike (a.toRat / b.toRat * 10 ^ places) (m.toRat * 10 ^ places) := by
  have below : lead < 38 := by
    rw [← zpow_lt_zpow_iff_right₀ (by norm_num : (1 : ℚ) < 10)]
    exact leading.trans_lt (dividend.abs_div_lt divisor nonzero)
  obtain ⟨n, k, quotient, divisible, _, small⟩ := dividend.exists_quotient divisor nonzero
  rw [value]
  refine .of_close (abs_sub_rounded_lt few (by omega)) (fun j => ?_) (fun j halfway => ?_)
  · have scaled : a.toRat / b.toRat * 10 ^ places = (n * 10 ^ places : ℤ) / k := by
      rw [quotient]
      push_cast
      ring
    rw [scaled]
    exact RoundingMode.half_or_far divisible small j
  · rw [rounded_of_halfway (by omega) halfway]

/-- What is rounded behind its first place is not zero, and not much greater. -/
theorem bounds_of_rounded {q : ℚ} (precise : 1 ≤ precision) (leading : 10 ^ lead ≤ |q|)
    (value : m.toRat = RoundingMode.halfEven.round (q / 10 ^ (lead - precision + 1)) *
      10 ^ (lead - precision + 1)) :
    m.isZero = false ∧ |m.toRat| < 2 * |q| := by
  have error := RoundingMode.abs_sub_rounded_le (q := q) (ten_zpow_pos (lead - precision + 1))
  have fine : (10 : ℚ) ^ (lead - precision + 1) ≤ 10 ^ lead :=
    zpow_le_zpow_right₀ (by norm_num) (by omega)
  have positive := ten_zpow_pos lead
  have upper := abs_sub_abs_le_abs_sub m.toRat q
  have lower := abs_sub_abs_le_abs_sub q m.toRat
  rw [← value] at error
  rw [abs_sub_comm] at upper
  refine ⟨?_, by linarith⟩
  have some : m.toRat ≠ 0 := by
    rw [← abs_pos]
    linarith
  rw [Ne, toRat_eq_zero_iff] at some
  simpa using some

end Quotient

end Decimal

namespace Expression

variable {style : NumeralStyle} {context : Context} {unit : Int} {a b m : Decimal}

theorem unit_in_range {places : Nat} (few : places ≤ 10) :
    context.tiny ≤ -places ∧ -(places : Int) ≤ Context.maxExponent := by
  unfold Context.tiny Context.minExponent Context.maxExponent
  omega

/-- Quotients of amounts have room for the fraction digits. -/
theorem quantize_of_quotient {mode : RoundingMode} {places : Nat} (few : places ≤ 10)
    (precise : 100 ≤ context.precision) (nonzero : m.isZero = false)
    (small : |m.toRat| < 10 ^ (39 : Int)) :
    context.quantize mode m (-places) = .ok (m.rescale mode (-places)) := by
  obtain ⟨low, high⟩ : context.tiny ≤ -places ∧ -(places : Int) ≤ Context.maxExponent :=
    unit_in_range few
  have lead : m.leadingExponent < 39 := (Decimal.leadingExponent_lt_iff nonzero).mpr small
  have digits := m.digitCount_rescale_le mode (-places)
  have place := m.exponent_rescale mode (-places)
  have kept : (m.rescale mode (-places)).leadingExponent ≤ Context.maxExponent := by
    rw [Decimal.leadingExponent, place]
    unfold Context.maxExponent
    omega
  refine Context.quantize_of_fits low high (.inr ⟨?_, kept⟩) (by omega)
  unfold Context.maxExponent
  omega

theorem divide_eq_ok {position : Nat} {result : Decimal} (nonzero : b.isZero = false)
    (divided : a.div context b = .ok m)
    (quantized : context.quantize style.rounding m unit = .ok result) :
    divide style context unit position (.finite a) (.finite b) = .ok (.finite result) := by
  simp only [divide, Extended.isZero, nonzero, Bool.false_eq_true, if_false, Extended.div, divided]
  change ofSignal ((context.quantize style.rounding m unit).map Extended.finite) = _
  rw [quantized]
  rfl

/-- A quotient of numbers of the size of amounts is rounded once. The result has exactly the fraction
digits of the style and the value of the exact quotient, rounded by the mode of the style; the quotient
at the digits of the precision, which the arithmetic takes on the way there, is rounded alike. -/
theorem divide_rounds_once (style : NumeralStyle) (few : style.fractionDigits ≤ 10)
    (context : Context) (precise : 100 ≤ context.precision) (position : Nat) (a b : Decimal)
    (dividend : a.IsAmountSized) (divisor : b.IsAmountSized) (nonzero : b.isZero = false) :
    ∃ (unit : Int) (quotient result : Decimal),
      context.unitExponent style.fractionDigits = .ok unit ∧
      a.div context b = .ok quotient ∧
      divide style context unit position (.finite a) (.finite b) = .ok (.finite result) ∧
      result.exponent = -style.fractionDigits ∧
      result.negative = (a.negative != b.negative) ∧
      result.toRat = style.rounding.round (a.toRat / b.toRat * 10 ^ style.fractionDigits) /
        10 ^ style.fractionDigits ∧
      style.rounding.round (quotient.toRat * 10 ^ style.fractionDigits) =
        style.rounding.round (a.toRat / b.toRat * 10 ^ style.fractionDigits) := by
  have formed := Amount.unitExponent_of_few context few
  have positive : 0 < context.precision := by omega
  cases zero : a.isZero with
  | true =>
    obtain ⟨place, divided⟩ := Decimal.exists_div_of_isZero context zero nonzero
    have none : a.toRat = 0 := Decimal.toRat_eq_zero_iff.mpr zero
    have zeroValue (place : Int) : Decimal.toRat ⟨a.negative != b.negative, 0, place⟩ = 0 :=
      Decimal.toRat_eq_zero_iff.mpr rfl
    obtain ⟨low, high⟩ : context.tiny ≤ -style.fractionDigits ∧
        -(style.fractionDigits : Int) ≤ Context.maxExponent := unit_in_range few
    refine ⟨_, _, _, formed, divided, divide_eq_ok nonzero divided
      (Context.quantize_of_isZero rfl low high), rfl, rfl, ?_, ?_⟩
    · simp [none, zeroValue]
    · simp [none, zeroValue]
  | false =>
    have low : 10 ^ Context.minExponent ≤ |a.toRat / b.toRat| :=
      (zpow_le_zpow_right₀ (by norm_num) (by decide)).trans
        (dividend.le_abs_div divisor zero nonzero)
    have high : |a.toRat / b.toRat| < 10 ^ (38 : Int) := dividend.abs_div_lt divisor nonzero
    obtain ⟨quotient, lead, divided, sign, leading, _, value⟩ := Decimal.exists_div positive zero
      nonzero low (high.trans_le (zpow_le_zpow_right₀ (by norm_num) (by decide)))
    obtain ⟨some, close⟩ := Decimal.bounds_of_rounded (by omega) leading value
    have small : |quotient.toRat| < 10 ^ (39 : Int) := by
      norm_num at high ⊢
      linarith
    have alike := style.rounding.round_congr
      (dividend.alike_quotient divisor nonzero few precise leading value)
    refine ⟨_, quotient, _, formed, divided,
      divide_eq_ok nonzero divided (quantize_of_quotient few precise some small),
      Decimal.exponent_rescale _ _ _, ?_, ?_, alike.symm⟩
    · rw [Decimal.negative_rescale, sign]
    · rw [Decimal.toRat_rescale, alike, zpow_neg, zpow_natCast, div_inv_eq_mul, ← div_eq_mul_inv]

/-- A quotient of `-2.5`, and one more in the 27th place behind the point, goes away from the tie. -/
theorem divide_rounds_once_beside_tie :
    Decimal.IsAmountSized ⟨false, 2500000000000000000000000001, -2⟩ ∧
      Decimal.IsAmountSized ⟨true, 1000000000000000000000000000, -2⟩ ∧
      divide (.western "en_US" 0 .halfEven) ⟨100⟩ 0 0
        (.finite ⟨false, 2500000000000000000000000001, -2⟩)
        (.finite ⟨true, 1000000000000000000000000000, -2⟩) = .ok (.finite ⟨true, 3, 0⟩) ∧
      (RoundingMode.halfEven.round (Decimal.toRat ⟨false, 2500000000000000000000000001, -2⟩ /
        Decimal.toRat ⟨true, 1000000000000000000000000000, -2⟩) : ℚ) = -3 := by
  have dividend : Decimal.IsAmountSized ⟨false, 2500000000000000000000000001, -2⟩ :=
    ⟨by decide, by decide, by decide⟩
  have divisor : Decimal.IsAmountSized ⟨true, 1000000000000000000000000000, -2⟩ :=
    ⟨by decide, by decide, by decide⟩
  have worth : divide (.western "en_US" 0 .halfEven) ⟨100⟩ 0 0
      (.finite ⟨false, 2500000000000000000000000001, -2⟩)
      (.finite ⟨true, 1000000000000000000000000000, -2⟩) = .ok (.finite ⟨true, 3, 0⟩) := by
    decide +kernel
  obtain ⟨unit, quotient, result, formed, _, divided, _, _, value, _⟩ :=
    divide_rounds_once (.western "en_US" 0 .halfEven) (by decide) ⟨100⟩ (by decide) 0 _ _ dividend
      divisor rfl
  cases formed
  obtain rfl : (⟨true, 3, 0⟩ : Decimal) = result := by
    exact Extended.finite.inj (Except.ok.inj (worth.symm.trans divided))
  refine ⟨dividend, divisor, worth, ?_⟩
  have three : Decimal.toRat ⟨true, 3, 0⟩ = -3 := by norm_num [Decimal.toRat]
  have whole : (10 : ℚ) ^ (NumeralStyle.western "en_US" 0 .halfEven).fractionDigits = 1 := pow_zero _
  rw [three, whole, mul_one, div_one] at value
  exact value.symm

end Expression

end MonetaryText

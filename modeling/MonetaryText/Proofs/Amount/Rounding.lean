import MonetaryText.Amount.Rounding
import MonetaryText.Proofs.Decimal.Modes
import MonetaryText.Proofs.Outcome

/-!
The rounding of amounts. It is quantizing to the last fraction digit at a precision that always suffices,
so the result is the value rounded once, however many digits the amount has (`round_correct`). The one
amount without a result is a zero with an exponent so large that there is no such precision.
-/

namespace MonetaryText.Amount

variable {style : NumeralStyle} {d : Decimal}

/-- The last of few fraction digits has its unit in every arithmetic. -/
theorem unitExponent_of_few (context : Context) {places : Nat} (few : places ≤ 10) :
    context.unitExponent places = .ok (-places) := by
  have tiny : context.tiny ≤ -places := by
    simp only [Context.tiny, Context.minExponent]
    omega
  unfold Context.unitExponent
  rw [if_neg (by omega)]
  congr 1
  omega

theorem precisionFor_eq (d : Decimal) (places : Nat) :
    precisionFor d places = max 28 (d.leadingExponent + places + 2) := rfl

/-- Rounding is quantizing to the last fraction digit, at the precision that this takes. -/
theorem round_eq_ok_iff (few : style.fractionDigits ≤ 10) {rounded : Decimal} :
    round style d = .ok rounded ↔
      precisionFor d style.fractionDigits ≤ Context.maxPrecision ∧
        Context.quantize ⟨(precisionFor d style.fractionDigits).toNat⟩ style.rounding d
          (-style.fractionDigits) = .ok rounded := by
  unfold round
  rw [unitExponent_of_few Context.standard few]
  by_cases fits : precisionFor d style.fractionDigits ≤ Context.maxPrecision
  · have within : ¬Context.maxPrecision < precisionFor d style.fractionDigits := by omega
    simp only [fits, true_and]
    change (if (Context.maxPrecision : Int) < precisionFor d style.fractionDigits then
      throw .precisionOutOfRange else ofSignal (Context.quantize _ _ _ _)) = _ ↔ _
    rw [if_neg within]
    exact Outcome.mapError_eq_ok_iff
  · have beyond : Context.maxPrecision < precisionFor d style.fractionDigits := by omega
    simp only [fits, false_and, iff_false]
    change (if (Context.maxPrecision : Int) < precisionFor d style.fractionDigits then
      throw .precisionOutOfRange else ofSignal (Context.quantize _ _ _ _)) ≠ _
    rw [if_pos beyond]
    rintro ⟨⟩

theorem eq_rescale_of_round (few : style.fractionDigits ≤ 10) {rounded : Decimal}
    (given : round style d = .ok rounded) :
    rounded = d.rescale style.rounding (-style.fractionDigits) :=
  Context.quantize_eq_ok ((round_eq_ok_iff few).mp given).2

theorem exponent_of_round (few : style.fractionDigits ≤ 10) {rounded : Decimal}
    (rounds : round style d = .ok rounded) : rounded.exponent = -style.fractionDigits := by
  rw [eq_rescale_of_round few rounds, Decimal.exponent_rescale]

/-- Rounding is possible as long as the precision that it takes is one. -/
theorem round_of_fits (few : style.fractionDigits ≤ 10)
    (range : d.isZero = true ∨ d.leadingExponent ≤ Context.maxExponent ∧
      (d.rescale style.rounding (-style.fractionDigits)).leadingExponent ≤ Context.maxExponent)
    (fits : precisionFor d style.fractionDigits ≤ Context.maxPrecision) :
    round style d = .ok (d.rescale style.rounding (-style.fractionDigits)) := by
  refine (round_eq_ok_iff few).mpr ⟨fits, Context.quantize_of_fits ?_ ?_ range ?_⟩
  · simp only [Context.tiny, Context.minExponent, precisionFor_eq]
    omega
  · simp only [Context.maxExponent]
    omega
  · simp only [precisionFor_eq]
    omega

/-- Rounding looks at nothing of a style but the fraction digits and the mode. -/
theorem round_congr {other : NumeralStyle}
    (places : style.fractionDigits = other.fractionDigits) (mode : style.rounding = other.rounding)
    (d : Decimal) : round style d = round other d := by
  simp only [round, places, mode]

/-- Only finite amounts are rounded. -/
theorem exists_finite_of_roundNumber {amount : Extended} {rounded : Decimal}
    (rounds : roundNumber style amount.toNumber = .ok rounded) :
    ∃ d, amount = .finite d ∧ round style d = .ok rounded := by
  cases amount with
  | finite d => exact ⟨d, rfl, rounds⟩
  | infinite negative => cases rounds

/-- A rounded amount is not changed by rounding it again. -/
theorem round_of_round (few : style.fractionDigits ≤ 10) {rounded : Decimal}
    (given : round style d = .ok rounded) : round style rounded = .ok rounded := by
  have place := exponent_of_round few given
  have same : rounded.rescale style.rounding (-style.fractionDigits) = rounded := by
    rw [← place]
    exact Decimal.rescale_of_spells (.refl rounded)
  have bound := Context.leadingExponent_le_of_quantize ((round_eq_ok_iff few).mp given).2
  have fits : precisionFor rounded style.fractionDigits ≤ Context.maxPrecision := by
    simp only [precisionFor_eq, Context.maxPrecision]
    rcases bound with zero | below
    · rw [Decimal.leadingExponent_of_isZero zero]
      omega
    · simp only [Context.maxExponent] at below
      omega
  have rounds := round_of_fits few
    (bound.imp_right fun below => ⟨below, by rw [same]; exact below⟩) fits
  rwa [same] at rounds

/-- Only zeros with enormous exponents take a precision that there is not. -/
theorem precisionFor_le_iff (few : style.fractionDigits ≤ 10)
    (range : d.isZero = true ∨ d.leadingExponent ≤ Context.maxExponent) :
    precisionFor d style.fractionDigits ≤ Context.maxPrecision ↔
      (d.isZero = true → d.exponent + style.fractionDigits + 2 ≤ Context.maxPrecision) := by
  have lead : d.isZero = true → d.leadingExponent = d.exponent :=
    Decimal.leadingExponent_of_isZero
  rw [precisionFor_eq]
  simp only [Context.maxPrecision]
  simp only [Context.maxExponent] at range
  constructor
  · intro fits zero
    rw [lead zero] at fits
    omega
  · intro bound
    rcases range with zero | below
    · have held := bound zero
      rw [lead zero]
      omega
    · omega

/-- Rounding carries at most into one new digit. -/
theorem leadingExponent_rescale_le (few : style.fractionDigits ≤ 10) (bounded : d.IsBelow 999998) :
    (d.rescale style.rounding (-style.fractionDigits)).leadingExponent ≤ 999998 := by
  have digits := d.digitCount_rescale_le style.rounding (-style.fractionDigits)
  have place := d.exponent_rescale style.rounding (-style.fractionDigits)
  rcases bounded with zero | below
  · have still : Decimal.isZero { d with exponent := -style.fractionDigits } = true := zero
    rw [Decimal.rescale_of_isZero zero, Decimal.leadingExponent_of_isZero still]
    simp only
    omega
  · unfold Decimal.leadingExponent at below digits ⊢
    omega

/-- An amount that is not too large is rounded, unless it is a zero with an enormous exponent. -/
theorem exists_round_iff (few : style.fractionDigits ≤ 10) (bounded : d.IsBelow 999998) :
    (∃ rounded, round style d = .ok rounded) ↔
      (d.isZero = true → d.exponent + style.fractionDigits + 2 ≤ Context.maxPrecision) := by
  have lead := leadingExponent_rescale_le few bounded
  have range : d.isZero = true ∨ d.leadingExponent ≤ Context.maxExponent := by
    refine bounded.imp_right fun below => ?_
    simp only [Context.maxExponent]
    omega
  rw [← precisionFor_le_iff few range]
  constructor
  · rintro ⟨rounded, rounds⟩
    exact ((round_eq_ok_iff few).mp rounds).1
  · intro fits
    exact ⟨_, round_of_fits few
      (range.imp_right fun inside => ⟨inside, by simp only [Context.maxExponent]; omega⟩) fits⟩

/-- The result has the sign of the amount, and is the multiple of its last digit that the mode picks. -/
theorem picks_of_round (few : style.fractionDigits ≤ 10) {rounded : Decimal}
    (rounds : round style d = .ok rounded) :
    rounded.negative = d.negative ∧
      ∃ n : ℤ, style.rounding.Picks (d.toRat / 10 ^ (-(style.fractionDigits : ℤ))) n ∧
        rounded.toRat = n * 10 ^ (-(style.fractionDigits : ℤ)) := by
  rw [eq_rescale_of_round few rounds]
  exact ⟨Decimal.negative_rescale _ _ _, _, style.rounding.picks_round _, Decimal.toRat_rescale _ _ _⟩

/-- An amount that is not too large is rounded correctly, if it is not a zero with an enormous exponent:
once, to the last fraction digit, as the mode promises. The result stays when it is rounded again,
depends on the value and the sign of the amount only, and grows with the value. -/
theorem round_correct (style : NumeralStyle) (few : style.fractionDigits ≤ 10) (d : Decimal)
    (bounded : d.IsBelow 999998) :
    ((∃ rounded, round style d = .ok rounded) ↔
      (d.isZero = true → d.exponent + style.fractionDigits + 2 ≤ Context.maxPrecision)) ∧
    ∀ rounded, round style d = .ok rounded →
      (rounded.exponent = -style.fractionDigits ∧ rounded.negative = d.negative ∧
        ∃ n : ℤ, style.rounding.Picks (d.toRat / 10 ^ (-(style.fractionDigits : ℤ))) n ∧
          rounded.toRat = n * 10 ^ (-(style.fractionDigits : ℤ))) ∧
      round style rounded = .ok rounded ∧
      ∀ other result, round style other = .ok result →
        (other.toRat = d.toRat → other.negative = d.negative → result = rounded) ∧
        (d.toRat ≤ other.toRat → rounded.toRat ≤ result.toRat) := by
  refine ⟨exists_round_iff few bounded, fun rounded rounds => ?_⟩
  have unit := ten_zpow_pos (-(style.fractionDigits : ℤ))
  have place := exponent_of_round few rounds
  obtain ⟨sign, n, picks, value⟩ := picks_of_round few rounds
  refine ⟨⟨place, sign, n, picks, value⟩, round_of_round few rounds, ?_⟩
  intro other result given
  obtain ⟨otherSign, m, otherPicks, otherValue⟩ := picks_of_round few given
  constructor
  · intro same signs
    rw [same] at otherPicks
    obtain rfl := otherPicks.unique picks
    refine Decimal.eq_of_toRat ?_ ?_ fun _ => ?_
    · rw [otherValue, value]
    · rw [exponent_of_round few given, place]
    · rw [otherSign, signs, sign]
  · intro le
    have ordered : n ≤ m := picks.mono otherPicks (div_le_div_of_nonneg_right le unit.le)
    rw [value, otherValue]
    exact mul_le_mul_of_nonneg_right (by exact_mod_cast ordered) unit.le

/-- The amount is a tie that rounds up to a new digit, also when it is written with one more zero. -/
theorem round_correct_of_carry :
    (NumeralStyle.western "en_US" 2 .halfUp).fractionDigits ≤ 10 ∧
      Decimal.IsBelow 999998 ⟨true, 99995, -3⟩ ∧
      ∃ rounded, round (.western "en_US" 2 .halfUp) ⟨true, 99995, -3⟩ = .ok rounded ∧
        (rounded.exponent = -2 ∧ rounded.negative = true ∧
          ∃ n : ℤ, RoundingMode.halfUp.Picks (Decimal.toRat ⟨true, 99995, -3⟩ / 10 ^ (-2 : ℤ)) n ∧
            rounded.toRat = n * 10 ^ (-2 : ℤ)) ∧
        round (.western "en_US" 2 .halfUp) rounded = .ok rounded ∧
        round (.western "en_US" 2 .halfUp) ⟨true, 999950, -4⟩ = .ok rounded := by
  have few : (NumeralStyle.western "en_US" 2 .halfUp).fractionDigits ≤ 10 := by decide
  have bounded : Decimal.IsBelow 999998 ⟨true, 99995, -3⟩ := .inr (by decide)
  obtain ⟨succeeds, correct⟩ := round_correct _ few ⟨true, 99995, -3⟩ bounded
  obtain ⟨rounded, rounds⟩ := succeeds.mpr (by decide)
  obtain ⟨value, again, others⟩ := correct rounded rounds
  have longer : round (.western "en_US" 2 .halfUp) ⟨true, 999950, -4⟩ = .ok ⟨true, 10000, -2⟩ := rfl
  have same : Decimal.toRat ⟨true, 999950, -4⟩ = Decimal.toRat ⟨true, 99995, -3⟩ := by
    norm_num [Decimal.toRat]
  obtain rfl := (others _ _ longer).1 same rfl
  exact ⟨few, bounded, _, rounds, value, again, longer⟩

end MonetaryText.Amount

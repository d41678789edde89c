import MonetaryText.Decimal.Context
import MonetaryText.Proofs.Decimal.Digits

/-!
What rounding does to digits and exponents. A decimal with more digits than the precision keeps exactly
that many, also where rounding up carries into a new one, and a result that was rounded once is not
changed by rounding it again, however it is written (`finish_of_spells`).
-/

namespace MonetaryText

namespace Decimal

/-! ### Values -/

/-- The first decimal has the magnitude of the second, at the same exponent or a lower one. -/
def Spells (a m : Decimal) : Prop :=
  ∃ k : Nat, a.coefficient = m.coefficient * tenPow k ∧ a.exponent = m.exponent - k

theorem Spells.refl (m : Decimal) : m.Spells m := ⟨0, by simp [tenPow], by simp⟩

theorem Spells.trans {a b m : Decimal} (first : a.Spells b) (second : b.Spells m) : a.Spells m := by
  obtain ⟨j, firstCoefficient, firstExponent⟩ := first
  obtain ⟨k, secondCoefficient, secondExponent⟩ := second
  refine ⟨k + j, ?_, by omega⟩
  rw [firstCoefficient, secondCoefficient, tenPow_add, Nat.mul_assoc]

theorem Spells.isZero_iff {a m : Decimal} (spells : a.Spells m) :
    a.isZero = true ↔ m.isZero = true := by
  obtain ⟨k, coefficient, _⟩ := spells
  have pos := tenPow_pos k
  simp only [isZero, beq_iff_eq, coefficient, Nat.mul_eq_zero]
  omega

theorem signedAt_of_spells {a m : Decimal} {exponent : Int} (spells : a.Spells m)
    (below : exponent ≤ a.exponent) :
    a.signedAt exponent =
      if a.negative then -((m.coefficient * tenPow (m.exponent - exponent).toNat : Nat) : Int)
      else (m.coefficient * tenPow (m.exponent - exponent).toNat : Nat) := by
  obtain ⟨k, coefficient, shifted⟩ := spells
  have split : (m.exponent - exponent).toNat = k + (a.exponent - exponent).toNat := by omega
  simp only [signedAt, coefficient, split, tenPow_add, Nat.mul_assoc]

/-- Lower exponents only bring zeros. -/
theorem signedAt_sub {d : Decimal} {exponent : Int} (below : exponent ≤ d.exponent) (k : Nat) :
    d.signedAt (exponent - k) = d.signedAt exponent * (tenPow k : Int) := by
  have split : (d.exponent - (exponent - k)).toNat = (d.exponent - exponent).toNat + k := by omega
  simp only [signedAt, split, tenPow_add, ← Nat.mul_assoc, Int.natCast_mul]
  cases d.negative with
  | false => rfl
  | true => exact (Int.neg_mul _ _).symm

theorem signedAt_eq_iff {a b : Decimal} {exponent : Int} (signs : a.negative = b.negative) :
    a.signedAt exponent = b.signedAt exponent ↔
      a.coefficient * tenPow (a.exponent - exponent).toNat =
        b.coefficient * tenPow (b.exponent - exponent).toNat := by
  simp only [signedAt, signs]
  cases b.negative <;> simp only [Bool.false_eq_true, if_false, if_true] <;> omega

/-- Values are compared at any exponent that both can be written at. -/
theorem sameValue_iff {a b : Decimal} {exponent : Int} (first : exponent ≤ a.exponent)
    (second : exponent ≤ b.exponent) :
    a.sameValue b = true ↔ a.signedAt exponent = b.signedAt exponent := by
  have pos : (tenPow (min a.exponent b.exponent - exponent).toNat : Int) ≠ 0 := by
    exact_mod_cast Nat.ne_of_gt (tenPow_pos _)
  have lower : exponent =
      min a.exponent b.exponent - ((min a.exponent b.exponent - exponent).toNat : Int) := by omega
  rw [lower, signedAt_sub (by omega), signedAt_sub (by omega), Int.mul_eq_mul_right_iff pos]
  simp [sameValue]

theorem sameValue_congr_left {a b : Decimal} (same : a.sameValue b = true) (c : Decimal) :
    a.sameValue c = b.sameValue c := by
  have bound : min a.exponent (min b.exponent c.exponent) ≤ a.exponent := by omega
  have middle : min a.exponent (min b.exponent c.exponent) ≤ b.exponent := by omega
  have last : min a.exponent (min b.exponent c.exponent) ≤ c.exponent := by omega
  rw [Bool.eq_iff_iff, sameValue_iff bound last, sameValue_iff middle last,
    (sameValue_iff bound middle).mp same]

/-- Two spellings of one magnitude are the same number if their signs agree. Zero has none. -/
theorem sameValue_of_spells {a b m : Decimal} (first : a.Spells m) (second : b.Spells m)
    (signs : a.negative = b.negative ∨ m.coefficient = 0) : a.sameValue b = true := by
  simp only [sameValue, beq_iff_eq]
  rw [signedAt_of_spells first (by omega), signedAt_of_spells second (by omega)]
  rcases signs with same | zero
  · rw [same]
  · simp [zero]

/-- Spellings at one exponent have one coefficient. -/
theorem Spells.coefficient_eq {a b m : Decimal} (first : a.Spells m) (second : b.Spells m)
    (same : a.exponent = b.exponent) : a.coefficient = b.coefficient := by
  obtain ⟨j, firstCoefficient, firstExponent⟩ := first
  obtain ⟨k, secondCoefficient, secondExponent⟩ := second
  obtain rfl : j = k := by omega
  rw [firstCoefficient, secondCoefficient]

theorem digitCount_of_spells {a m : Decimal} (spells : a.Spells m) (nonzero : m.coefficient ≠ 0) :
    a.leadingExponent = m.leadingExponent ∧
      (a.digitCount : Int) = m.digitCount + (m.exponent - a.exponent) := by
  obtain ⟨k, coefficient, shifted⟩ := spells
  have count : a.digitCount = m.digitCount + k := by
    unfold digitCount
    rw [coefficient]
    exact Digits.count_mul_tenPow (Nat.pos_of_ne_zero nonzero) k
  unfold leadingExponent
  omega

/-- Zero has one digit. -/
theorem coefficient_ne_zero_of_digitCount {d : Decimal} (many : 1 < d.digitCount) :
    d.coefficient ≠ 0 := by
  intro zero
  have one : Digits.count 0 = 1 := rfl
  rw [digitCount, zero] at many
  omega

/-! ### Rescaling -/

theorem rescale_of_le {mode : RoundingMode} {d : Decimal} {exponent : Int}
    (le : exponent ≤ d.exponent) :
    d.rescale mode exponent =
      ⟨d.negative, d.coefficient * tenPow (d.exponent - exponent).toNat, exponent⟩ := by
  rw [rescale, if_pos le]

theorem spells_rescale {mode : RoundingMode} {d : Decimal} {exponent : Int}
    (le : exponent ≤ d.exponent) : (d.rescale mode exponent).Spells d := by
  rw [rescale_of_le le]
  exact ⟨(d.exponent - exponent).toNat, rfl, by simp only; omega⟩

@[simp] theorem negative_rescale (mode : RoundingMode) (d : Decimal) (exponent : Int) :
    (d.rescale mode exponent).negative = d.negative := by
  unfold rescale
  split <;> rfl

/-- Rescaling to where a spelling came from finds it again. -/
theorem rescale_of_spells {mode : RoundingMode} {a m : Decimal} (spells : a.Spells m) :
    a.rescale mode m.exponent = ⟨a.negative, m.coefficient, m.exponent⟩ := by
  obtain ⟨k, coefficient, shifted⟩ := spells
  cases k with
  | zero =>
    have same : a.exponent = m.exponent := by omega
    rw [rescale_of_le (by omega), coefficient, same]
    simp [tenPow]
  | succ k =>
    unfold rescale
    rw [if_neg (by omega)]
    simp only
    have places : (m.exponent - a.exponent).toNat = k + 1 := by omega
    by_cases zero : m.coefficient = 0
    · have none : a.coefficient = 0 := by rw [coefficient, zero, Nat.zero_mul]
      rw [none, RoundingMode.quotient_of_dvd _ _ _ (tenPow_pos _) (Nat.dvd_zero _), zero,
        Nat.zero_div]
    · have many : k + 1 ≤ a.digitCount := by
        unfold digitCount
        rw [coefficient, Digits.count_mul_tenPow (Nat.pos_of_ne_zero zero)]
        omega
      have all : min (k + 1) (a.digitCount + 1) = k + 1 := by omega
      rw [places, all, coefficient,
        RoundingMode.quotient_of_dvd _ _ _ (tenPow_pos _) (Nat.dvd_mul_left _ _),
        Nat.mul_div_cancel _ (tenPow_pos _)]

theorem rescale_of_isZero {mode : RoundingMode} {d : Decimal} (zero : d.isZero = true)
    (exponent : Int) : d.rescale mode exponent = { d with exponent } := by
  obtain ⟨negative, coefficient, before⟩ := d
  obtain rfl : coefficient = 0 := by simpa [isZero] using zero
  unfold rescale
  split
  · simp
  · simp only
    rw [RoundingMode.quotient_of_dvd _ _ _ (tenPow_pos _) (Nat.dvd_zero _), Nat.zero_div]

/-- Rounding adds at most one digit to those in front of the new last place. -/
theorem digitCount_rescale_le (mode : RoundingMode) (d : Decimal) (exponent : Int) :
    ((d.rescale mode exponent).digitCount : Int) ≤ max 1 (d.leadingExponent - exponent + 2) := by
  have one : Digits.count 0 = 1 := rfl
  by_cases le : exponent ≤ d.exponent
  · rw [rescale_of_le le]
    unfold digitCount leadingExponent digitCount
    rcases Nat.eq_zero_or_pos d.coefficient with zero | pos
    · simp only [zero, Nat.zero_mul]
      omega
    · simp only [Digits.count_mul_tenPow pos]
      omega
  · unfold rescale
    rw [if_neg le]
    simp only [leadingExponent, digitCount]
    generalize known : Digits.count d.coefficient = count
    generalize places : (exponent - d.exponent).toNat = k
    have either := mode.quotient_eq_or_eq_succ d.negative d.coefficient (tenPow (min k (count + 1)))
    generalize mode.quotient d.negative d.coefficient (tenPow (min k (count + 1))) = q at *
    by_cases all : count ≤ k
    · have short : d.coefficient < tenPow (min k (count + 1)) := by
        refine Nat.lt_of_lt_of_le (Digits.lt_tenPow_count _) (tenPow_le_tenPow ?_)
        omega
      rw [Nat.div_eq_of_lt short] at either
      have few : Digits.count q ≤ 1 := (Digits.count_le_iff (by decide)).mpr (by
        change q < 10
        omega)
      omega
    · have cut : min k (count + 1) = k := by omega
      rw [cut] at either
      have high := Digits.lt_tenPow_count (d.coefficient / tenPow k)
      rw [Digits.count_div_tenPow (by omega), known] at high
      have longer : Digits.count q ≤ count - k + 1 := by
        rw [Digits.count_le_iff (by omega)]
        have ten : tenPow (count - k + 1) = tenPow (count - k) * 10 := tenPow_add _ 1
        have pos := tenPow_pos (count - k)
        omega
      omega

/-- At the exponent that leaves `kept` digits there are as many, unless rounding carries to the next
power of ten. -/
theorem digitCount_rescale_leading (mode : RoundingMode) {d : Decimal} {kept : Nat} (pos : 0 < kept)
    (many : kept < d.digitCount) :
    (d.rescale mode (d.leadingExponent - kept + 1)).digitCount = kept ∨
      (d.rescale mode (d.leadingExponent - kept + 1)).coefficient = tenPow kept := by
  have places : (d.leadingExponent - kept + 1 - d.exponent).toNat = d.digitCount - kept := by
    unfold leadingExponent
    omega
  unfold rescale
  rw [if_neg (by unfold leadingExponent; omega), places]
  have cut : min (d.digitCount - kept) (d.digitCount + 1) = d.digitCount - kept := by omega
  simp only [cut]
  simp only [digitCount] at many ⊢
  have either := mode.quotient_eq_or_eq_succ d.negative d.coefficient
    (tenPow (Digits.count d.coefficient - kept))
  generalize mode.quotient d.negative d.coefficient
    (tenPow (Digits.count d.coefficient - kept)) = q at *
  have count : Digits.count
      (d.coefficient / tenPow (Digits.count d.coefficient - kept)) = kept := by
    rw [Digits.count_div_tenPow (by omega)]
    omega
  have high := Digits.lt_tenPow_count (d.coefficient / tenPow (Digits.count d.coefficient - kept))
  rw [count] at high
  by_cases carry : q = tenPow kept
  · exact .inr carry
  · left
    have upper : Digits.count q ≤ kept := (Digits.count_le_iff pos).mpr (by omega)
    have positive : 0 < d.coefficient / tenPow (Digits.count d.coefficient - kept) := by
      refine Nat.div_pos ?_ (tenPow_pos _)
      rw [Digits.tenPow_le_iff]
      · omega
      · exact Nat.pos_of_ne_zero (coefficient_ne_zero_of_digitCount (by unfold digitCount; omega))
    have lower : kept - 1 < Digits.count q := by
      rw [← Digits.tenPow_le_iff (by omega)]
      have reached := (Digits.tenPow_le_iff positive).mpr (by rw [count]; omega : kept - 1 < _)
      omega
    omega

/-- After a carry to the next power of ten the last digit is a zero, which can be dropped. -/
theorem spells_of_carry {r : Decimal} {kept : Nat} (pos : 0 < kept)
    (carry : r.coefficient = tenPow kept) :
    kept < r.digitCount ∧
      digitCount ⟨r.negative, r.coefficient / 10, r.exponent + 1⟩ = kept ∧
      r.Spells ⟨r.negative, r.coefficient / 10, r.exponent + 1⟩ := by
  have ten : tenPow kept = tenPow (kept - 1) * 10 := by
    conv => lhs; rw [← Nat.sub_add_cancel pos]
    exact tenPow_add _ 1
  have tenth : r.coefficient / 10 = tenPow (kept - 1) := by
    rw [carry, ten, Nat.mul_div_cancel _ (by decide)]
  refine ⟨?_, ?_, 1, ?_, ?_⟩
  · rw [digitCount, carry, Digits.count_tenPow]
    omega
  · rw [digitCount, tenth, Digits.count_tenPow]
    omega
  · rw [tenth, carry, ten]
    rfl
  · simp only
    omega

theorem leadingExponent_of_isZero {d : Decimal} (zero : d.isZero = true) :
    d.leadingExponent = d.exponent := by
  have none : d.coefficient = 0 := by simpa [isZero] using zero
  have one : Digits.count 0 = 1 := rfl
  rw [leadingExponent, digitCount, none, one]
  omega

/-- Ties to even do not look at the sign. -/
theorem coefficient_rescale_magnitude (d : Decimal) (exponent : Int) :
    (d.magnitude.rescale .halfEven exponent).coefficient =
      (d.rescale .halfEven exponent).coefficient := by
  unfold rescale
  split
  · rename_i le
    rw [if_pos (show exponent ≤ d.exponent from le)]
    rfl
  · rename_i gt
    rw [if_neg (show ¬exponent ≤ d.exponent from gt)]
    rfl

/-- At most `kept` digits of a decimal, rounded half to even. -/
def significant (kept : Nat) (d : Decimal) : Decimal :=
  if d.digitCount ≤ kept then d else d.rescale .halfEven (d.leadingExponent - kept + 1)

@[simp] theorem negative_significant (kept : Nat) (d : Decimal) :
    (d.significant kept).negative = d.negative := by
  unfold significant
  split
  · rfl
  · exact negative_rescale _ _ _

/-- Nothing is lost in exactly the decimals whose further digits are zeros. -/
theorem sameValue_significant_iff (kept : Nat) (d : Decimal) :
    (d.significant kept).sameValue d = true ↔ tenPow (d.digitCount - kept) ∣ d.coefficient := by
  unfold significant
  split
  · rename_i few
    have all : d.digitCount - kept = 0 := by omega
    rw [all, sameValue_iff (Int.le_refl _) (Int.le_refl _)]
    simp [tenPow]
  · rename_i many
    have place : d.leadingExponent - kept + 1 = d.exponent + (d.digitCount - kept : Nat) := by
      unfold leadingExponent
      omega
    have cut : (d.exponent + (d.digitCount - kept : Nat) - d.exponent).toNat = d.digitCount - kept := by
      omega
    have all : min (d.digitCount - kept) (d.digitCount + 1) = d.digitCount - kept := by omega
    rw [place, rescale, if_neg (by omega), cut, all]
    generalize d.digitCount - kept = n
    simp only
    rw [sameValue_iff (show d.exponent ≤ d.exponent + n by omega) (Int.le_refl _),
      signedAt_eq_iff (by rfl)]
    have shift : (d.exponent + n - d.exponent).toNat = n := by omega
    have none : (d.exponent - d.exponent).toNat = 0 := by omega
    simp only [shift, none]
    constructor
    · intro same
      exact ⟨_, by rw [Nat.mul_comm, same]; simp [tenPow]⟩
    · intro exact
      rw [RoundingMode.quotient_of_dvd _ _ _ (tenPow_pos _) exact, Nat.div_mul_cancel exact]
      simp [tenPow]

/-- The magnitude is below the power of ten. -/
def IsBelow (n : Nat) (d : Decimal) : Prop := d.isZero = true ∨ d.leadingExponent < n

end Decimal

/-! ### Arithmetic of a precision -/

namespace Context

variable {context : Context} {d m : Decimal}

/-- What has few enough digits is left as it is. -/
theorem finish_of_fits (few : d.digitCount ≤ context.precision) (low : context.tiny ≤ d.exponent)
    (high : d.leadingExponent ≤ maxExponent) : context.finish d = .ok d := by
  unfold finish
  by_cases zero : d.isZero = true
  · obtain ⟨negative, coefficient, exponent⟩ := d
    rw [Decimal.leadingExponent_of_isZero zero] at high
    simp only at low high
    rw [if_pos zero]
    have same : max context.tiny (min exponent maxExponent) = exponent := by omega
    simp only [same]
  · have quantum : context.quantumOf d ≤ d.exponent := by
      unfold quantumOf Decimal.leadingExponent
      omega
    rw [if_neg zero, if_neg (by omega)]
    simp only [quantum, if_true]

/-- What has more digits than the precision keeps exactly that many. -/
theorem exists_finish (pos : 0 < context.precision) (many : context.precision < d.digitCount)
    (low : context.tiny ≤ d.leadingExponent - context.precision + 1) :
    ∃ m : Decimal, m.negative = d.negative ∧ m.digitCount = context.precision ∧
      d.exponent < m.exponent ∧ m.leadingExponent ≤ d.leadingExponent + 1 ∧
      (d.rescale .halfEven (d.leadingExponent - context.precision + 1)).Spells m ∧
      context.finish d = if maxExponent < m.leadingExponent then .error .overflow else .ok m := by
  have nonzero : d.isZero = false := by
    rw [Decimal.isZero, beq_eq_false_iff_ne]
    exact Decimal.coefficient_ne_zero_of_digitCount (by omega)
  have quantum : context.quantumOf d = d.leadingExponent - context.precision + 1 := by
    unfold quantumOf
    omega
  have above : d.exponent < d.leadingExponent - context.precision + 1 := by
    unfold Decimal.leadingExponent
    omega
  have kept := d.digitCount_rescale_leading .halfEven pos many
  have sign := Decimal.negative_rescale .halfEven d (d.leadingExponent - context.precision + 1)
  have place := Decimal.exponent_rescale .halfEven d (d.leadingExponent - context.precision + 1)
  unfold finish
  simp only [nonzero, Bool.false_eq_true, if_false, quantum, if_neg (Int.not_le.mpr above)]
  generalize d.rescale .halfEven (d.leadingExponent - context.precision + 1) = rounded at *
  by_cases carry : rounded.coefficient = tenPow context.precision
  · obtain ⟨longer, count, spells⟩ := Decimal.spells_of_carry pos carry
    rw [place] at count spells
    have lead : Decimal.leadingExponent ⟨rounded.negative, rounded.coefficient / 10,
        d.leadingExponent - context.precision + 1 + 1⟩ = d.leadingExponent + 1 := by
      rw [Decimal.leadingExponent, count]
      simp only
      omega
    have higher : d.exponent < d.leadingExponent - context.precision + 1 + 1 := by omega
    refine ⟨⟨rounded.negative, rounded.coefficient / 10, d.leadingExponent - context.precision + 1 + 1⟩,
      sign, count, higher, Int.le_of_eq lead, spells, ?_⟩
    rw [if_neg (Nat.not_le.mpr longer)]
    unfold withinRange
    rw [lead]
    by_cases beyond : maxExponent < d.leadingExponent
    · rw [if_pos beyond, if_pos (by omega)]
    · rw [if_neg beyond]
  · have count : rounded.digitCount = context.precision := kept.resolve_right carry
    have lead : rounded.leadingExponent = d.leadingExponent := by
      rw [Decimal.leadingExponent, place, count]
      omega
    refine ⟨rounded, sign, count, by omega, by omega, .refl _, ?_⟩
    rw [lead, if_pos (Nat.le_of_eq count)]

/-- What comes out of a rounding, for a decimal within the range of exponents. -/
theorem finish_cases (pos : 0 < context.precision) (low : context.tiny ≤ d.exponent)
    (high : d.exponent ≤ maxExponent) (given : context.finish d = .ok m) :
    m.negative = d.negative ∧ m.leadingExponent ≤ maxExponent ∧
      ((d.digitCount ≤ context.precision ∧ m = d) ∨
        (context.precision < d.digitCount ∧ m.digitCount = context.precision ∧
          d.exponent < m.exponent ∧
          (d.rescale .halfEven (d.leadingExponent - context.precision + 1)).Spells m)) := by
  by_cases few : d.digitCount ≤ context.precision
  · have lead : d.leadingExponent ≤ maxExponent := by
      by_cases zero : d.isZero = true
      · rw [Decimal.leadingExponent_of_isZero zero]
        exact high
      · unfold finish at given
        rw [if_neg zero] at given
        split at given
        · cases given
        · omega
    rw [finish_of_fits few low lead] at given
    cases given
    exact ⟨rfl, lead, .inl ⟨few, rfl⟩⟩
  · obtain ⟨r, sign, count, above, _, spells, finished⟩ := exists_finish pos (by omega)
      (by unfold Decimal.leadingExponent; omega : context.tiny ≤ d.leadingExponent - context.precision + 1)
    rw [finished] at given
    split at given
    · cases given
    · cases given
      exact ⟨sign, by omega, .inr ⟨by omega, count, above, spells⟩⟩

/-- No result leaves the range of exponents. -/
theorem range_of_finish (given : context.finish d = .ok m) :
    context.tiny ≤ m.exponent ∧ (m.isZero = true ∨ m.leadingExponent ≤ maxExponent) := by
  unfold finish at given
  split at given
  · rename_i zero
    cases given
    have same : Decimal.isZero
        { d with exponent := max context.tiny (min d.exponent maxExponent) } = true := zero
    exact ⟨Int.le_max_left _ _, .inl same⟩
  · split at given
    · cases given
    · rename_i inside
      have low : context.tiny ≤ context.quantumOf d := Int.le_max_left _ _
      simp only at given
      split at given
      · rename_i coarse
        cases given
        exact ⟨Int.le_trans low coarse, .inr (Int.not_lt.mp inside)⟩
      · have place := d.exponent_rescale .halfEven (context.quantumOf d)
        generalize d.rescale .halfEven (context.quantumOf d) = rounded at *
        split at given
        · rename_i few
          cases given
          refine ⟨Int.le_trans low (Int.le_of_eq place.symm), .inr ?_⟩
          have quantum : context.quantumOf d = max (-999999 - ((context.precision : Int) - 1))
              (d.leadingExponent - context.precision + 1) := rfl
          rw [Decimal.leadingExponent, place, quantum]
          simp only [maxExponent] at *
          omega
        · unfold withinRange at given
          split at given
          · cases given
          · rename_i within
            cases given
            exact ⟨Int.le_trans low (Int.le_add_one (Int.le_refl _)), .inr (Int.not_lt.mp within)⟩

/-- A result is not rounded again when it is written at a lower exponent. -/
theorem finish_of_spells {a : Decimal} (spells : a.Spells m)
    (full : m.exponent = a.exponent ∧ m.digitCount ≤ context.precision ∨
      m.coefficient ≠ 0 ∧ m.digitCount = context.precision)
    (low : context.tiny ≤ a.exponent) (high : m.leadingExponent ≤ maxExponent) :
    context.finish a = .ok { m with negative := a.negative } := by
  by_cases same : m.exponent = a.exponent
  · have coefficient := spells.coefficient_eq (.refl m) same.symm
    have equal : a = { m with negative := a.negative } := by
      rw [← coefficient, same]
    have few : m.digitCount ≤ context.precision := by
      rcases full with ⟨_, few⟩ | ⟨_, count⟩ <;> omega
    have count : a.digitCount = m.digitCount := by
      rw [Decimal.digitCount, coefficient]
      rfl
    rw [← equal]
    refine finish_of_fits (by omega) low ?_
    unfold Decimal.leadingExponent at high ⊢
    omega
  · obtain ⟨nonzero, count⟩ := full.resolve_left fun left => same left.1
    obtain ⟨lead, digits⟩ := Decimal.digitCount_of_spells spells nonzero
    have under : a.exponent ≤ m.exponent := by
      obtain ⟨k, _, shifted⟩ := spells
      omega
    have notZero : ¬a.isZero = true := by
      obtain ⟨k, coefficient, _⟩ := spells
      rw [Decimal.isZero, beq_iff_eq, coefficient]
      exact Nat.mul_ne_zero nonzero (Nat.ne_of_gt (tenPow_pos k))
    have quantum : context.quantumOf a = m.exponent := by
      unfold quantumOf Decimal.leadingExponent
      omega
    unfold finish
    rw [if_neg notZero, if_neg (by omega)]
    simp only [quantum, if_neg (show ¬m.exponent ≤ a.exponent by omega),
      Decimal.rescale_of_spells spells]
    rw [if_pos]
    exact Nat.le_of_eq count

/-- Quantizing is rescaling, where it is possible at all. -/
theorem quantize_eq_ok {mode : RoundingMode} {exponent : Int}
    (given : context.quantize mode d exponent = .ok m) : m = d.rescale mode exponent := by
  unfold quantize at given
  split at given
  · cases given
  · split at given
    · rename_i zero
      cases given
      exact (Decimal.rescale_of_isZero zero exponent).symm
    · split at given
      · cases given
      · simp only at given
        split at given
        · cases given
        · cases given
          rfl

theorem leadingExponent_le_of_quantize {mode : RoundingMode} {exponent : Int}
    (given : context.quantize mode d exponent = .ok m) :
    m.isZero = true ∨ m.leadingExponent ≤ maxExponent := by
  unfold quantize at given
  split at given
  · cases given
  · split at given
    · rename_i zero
      cases given
      exact .inl zero
    · split at given
      · cases given
      · simp only at given
        split at given
        · cases given
        · rename_i inside
          cases given
          simp only [Bool.or_eq_true, decide_eq_true_eq, not_or] at inside
          exact .inr (Int.not_lt.mp inside.2)

/-- A zero only has its exponent changed. -/
theorem quantize_of_isZero {mode : RoundingMode} {exponent : Int} (zero : d.isZero = true)
    (low : context.tiny ≤ exponent) (high : exponent ≤ maxExponent) :
    context.quantize mode d exponent = .ok { d with exponent } := by
  unfold quantize
  simp only [Int.not_lt.mpr high, Int.not_lt.mpr low, decide_false, Bool.or_self, Bool.false_eq_true,
    if_false, zero, if_true]

/-- Quantizing is possible where neither the digits nor the exponents go out of range. -/
theorem quantize_of_fits {mode : RoundingMode} {exponent : Int} (low : context.tiny ≤ exponent)
    (high : exponent ≤ maxExponent)
    (room : d.isZero = true ∨ d.leadingExponent ≤ maxExponent ∧
      (d.rescale mode exponent).leadingExponent ≤ maxExponent)
    (precise : max 1 (d.leadingExponent - exponent + 2) ≤ context.precision) :
    context.quantize mode d exponent = .ok (d.rescale mode exponent) := by
  have digits := d.digitCount_rescale_le mode exponent
  have range : (decide (maxExponent < exponent) || decide (exponent < context.tiny)) = false := by
    simp only [Bool.or_eq_false_iff, decide_eq_false_iff_not]
    omega
  unfold quantize
  simp only [range, Bool.false_eq_true, if_false]
  by_cases zero : d.isZero = true
  · rw [if_pos zero, Decimal.rescale_of_isZero zero]
  · obtain ⟨below, kept⟩ := room.resolve_left zero
    have few : (decide ((context.precision : Int) < d.digitCount + (d.exponent - exponent)) ||
        decide (maxExponent < d.leadingExponent)) = false := by
      simp only [Bool.or_eq_false_iff, decide_eq_false_iff_not]
      unfold Decimal.leadingExponent at below precise ⊢
      omega
    have inside : (decide (context.precision < (d.rescale mode exponent).digitCount) ||
        decide (maxExponent < (d.rescale mode exponent).leadingExponent)) = false := by
      simp only [Bool.or_eq_false_iff, decide_eq_false_iff_not]
      omega
    rw [if_neg zero]
    simp only [few, inside, Bool.false_eq_true, if_false]

end Context

end MonetaryText

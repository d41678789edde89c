import Mathlib.Algebra.Order.Floor.Semifield
import MonetaryText.Proofs.Amount.Grouping
import MonetaryText.Proofs.Amount.RoundTrip
import MonetaryText.Proofs.Decimal.Value

/-!
The shape of the text of an amount: a minus sign below zero, the digits of the integer part in groups,
and behind the point exactly the fraction digits of the style. An amount of at most 28 digits has this
shape with all its digits (`format_canonical`).
-/

namespace MonetaryText

namespace Decimal

theorem floor_abs_toRat (d : Decimal) : ⌊|d.toRat|⌋₊ = d.wholePart := by
  rw [abs_toRat_eq_div, Nat.floor_div_eq_div]
  rfl

/-- The digits in front of the point and behind it make up the value. -/
theorem abs_toRat_eq_value {d : Decimal} (below : d.exponent ≤ 0) :
    |d.toRat| = (Digits.value (d.wholeDigits ++ d.fractionDigits) : ℚ) / 10 ^ (-d.exponent).toNat := by
  have none : d.exponent.toNat = 0 := by omega
  have whole : Digits.value d.wholeDigits = d.coefficient / tenPow (-d.exponent).toNat := by
    rw [wholeDigits, Digits.value_text, wholePart, none]
    simp [tenPow]
  rw [abs_toRat_eq_div, none, Digits.value_append, whole, fractionDigits, Digits.value_padded,
    Digits.length_padded, Nat.div_add_mod', cast_tenPow]
  simp [tenPow]

end Decimal

namespace Amount

variable {style : NumeralStyle} {d : Decimal}

/-- The sign, the groups of the integer part and the places behind the point make up a text of an
amount. -/
def assembled (style : NumeralStyle) (negative : Bool) (groups : List Text) (places : Text) : Text :=
  (if negative then ['-'] else []) ++ [style.group].intercalate groups ++
    if 0 < style.fractionDigits then style.point :: places else []

/-- The groups and the places that a value has in a style. -/
structure IsCanonical (style : NumeralStyle) (value : ℚ) (groups : List Text) (places : Text) :
    Prop where
  grouped : IsGroupedBy style.groupLengths groups
  whole : groups.flatten = Digits.text ⌊|value|⌋₊
  leading : groups.flatten.head? = some '0' → groups.flatten = ['0']
  width : places.length = style.fractionDigits
  digits : ∀ c ∈ places, c.isDigit = true
  worth : |value| = Digits.value (groups.flatten ++ places) / 10 ^ style.fractionDigits

theorem layout_eq_assembled (style : NumeralStyle) (negative : Bool) {magnitude : Decimal}
    (place : magnitude.exponent = -style.fractionDigits) :
    layout style negative magnitude = assembled style negative
      (groups style.groupLengths magnitude.wholeDigits) magnitude.fractionDigits := by
  have width : magnitude.fractionDigits.length = style.fractionDigits := by
    rw [Decimal.fractionDigits, Digits.length_padded]
    omega
  unfold layout assembled grouped
  rw [← width]
  cases magnitude.fractionDigits <;> simp

theorem isCanonical_of_round (few : style.fractionDigits ≤ 10) {rounded : Decimal}
    (rounds : round style d = .ok rounded) :
    IsCanonical style rounded.toRat (groups style.groupLengths rounded.wholeDigits)
      rounded.fractionDigits := by
  have place := exponent_of_round few rounds
  have whole := flatten_groups style.groupLengths rounded.wholeDigits style.lengths_pos
  have places : (-rounded.exponent).toNat = style.fractionDigits := by omega
  refine ⟨isGroupedBy_groups style.lengths_pos _, ?_, ?_, ?_, ?_, ?_⟩
  · rw [whole, Decimal.floor_abs_toRat]
    rfl
  · rw [whole]
    intro zero
    rw [Decimal.wholeDigits, Digits.eq_zero_of_head?_text zero]
    rfl
  · rw [Decimal.fractionDigits, Digits.length_padded, places]
  · exact fun c member => Digits.isDigit_of_mem_padded member
  · rw [whole, Decimal.abs_toRat_eq_value (by omega), places]

/-- An amount of at most 28 digits is laid out with all of them, and the layout is its text. -/
theorem format_of_short (conventional : style.IsConventional) {rounded : Decimal}
    (rounds : round style d = .ok rounded) (short : rounded.digitCount ≤ 28) :
    format style d = .ok (layout style rounded.isNegative rounded.magnitude) := by
  have few := conventional.few_places
  have place : rounded.exponent = -style.fractionDigits := exponent_of_round few rounds
  have low : Context.standard.tiny ≤ rounded.exponent := by
    simp only [Context.tiny, Context.minExponent, Context.standard]
    omega
  have high : rounded.leadingExponent ≤ Context.maxExponent := by
    simp only [Decimal.leadingExponent, Context.maxExponent]
    omega
  have fits : Context.standard.finish rounded.magnitude = .ok rounded.magnitude :=
    Context.finish_of_fits short low high
  exact (format_eq_ok_iff conventional).mpr ⟨rounded, _, rounds, fits, rfl⟩

/-- The text of an amount of at most 28 digits is a minus sign exactly below zero, the digits of the
integer part with a separator between the groups, and behind the point, if the style has fraction
digits, exactly these. Dropping what a currency adds takes nothing from it. -/
theorem format_canonical (style : NumeralStyle) (conventional : style.IsConventional) (d rounded : Decimal)
    (rounds : round style d = .ok rounded) (short : rounded.digitCount ≤ 28) :
    ∃ groups places, IsCanonical style rounded.toRat groups places ∧
      layout style rounded.isNegative rounded.magnitude =
        assembled style (rounded.toRat < 0) groups places ∧
      bareText style (assembled style (rounded.toRat < 0) groups places) =
        assembled style (rounded.toRat < 0) groups places ∧
      format style d = .ok (assembled style (rounded.toRat < 0) groups places) := by
  have sign : decide (rounded.toRat < 0) = rounded.isNegative := by
    rw [Bool.eq_iff_iff, decide_eq_true_eq, Decimal.toRat_neg_iff]
  have few := conventional.few_places
  have place : rounded.magnitude.exponent = -style.fractionDigits :=
    show rounded.exponent = _ from exponent_of_round few rounds
  have nonnegative : rounded.magnitude.negative = false := rfl
  have shape := layout_eq_assembled style rounded.isNegative place
  have bare := bareText_layout conventional rounded.isNegative nonnegative
  have text := format_of_short conventional rounds short
  rw [shape] at bare text
  refine ⟨_, _, isCanonical_of_round few rounds, ?_⟩
  rw [sign]
  exact ⟨shape, bare, text⟩

/-- The amount carries into a new digit, which begins a group of two. -/
theorem format_canonical_of_carry :
    (NumeralStyle.ofConventions "en_IN" { point := '.', group := ',', groupLengths := [3, 2] } 2
        .halfUp).IsConventional ∧
      round (.ofConventions "en_IN" { point := '.', group := ',', groupLengths := [3, 2] } 2 .halfUp)
        ⟨true, 99999995, -3⟩ = .ok ⟨true, 10000000, -2⟩ ∧
      Decimal.digitCount ⟨true, 10000000, -2⟩ ≤ 28 ∧
      ∃ groups places,
        IsCanonical (.ofConventions "en_IN" { point := '.', group := ',', groupLengths := [3, 2] } 2
          .halfUp) (Decimal.toRat ⟨true, 10000000, -2⟩) groups places ∧
        "-1,00,000.00".toList =
          assembled (.ofConventions "en_IN" { point := '.', group := ',', groupLengths := [3, 2] } 2
            .halfUp) true groups places := by
  have conventional : (NumeralStyle.ofConventions "en_IN"
      { point := '.', group := ',', groupLengths := [3, 2] } 2 .halfUp).IsConventional := by decide
  have rounds : round (.ofConventions "en_IN" { point := '.', group := ',', groupLengths := [3, 2] } 2
      .halfUp) ⟨true, 99999995, -3⟩ = .ok ⟨true, 10000000, -2⟩ := rfl
  have short : Decimal.digitCount ⟨true, 10000000, -2⟩ ≤ 28 := by decide
  have negative : Decimal.toRat ⟨true, 10000000, -2⟩ < 0 := by norm_num [Decimal.toRat]
  obtain ⟨groups, places, canonical, _, _, text⟩ := format_canonical _ conventional _ _ rounds short
  rw [decide_eq_true negative] at text
  exact ⟨conventional, rounds, short, groups, places, canonical, Except.ok.inj text⟩

end Amount

end MonetaryText

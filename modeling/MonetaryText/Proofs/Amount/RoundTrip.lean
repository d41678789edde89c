import MonetaryText.Proofs.Amount.Layout
import MonetaryText.Proofs.Amount.Rounding
import MonetaryText.Proofs.Expression.Reading
import MonetaryText.Proofs.Expression.Tokens

/-!
From amounts to texts and back. A text of an amount is read as the rounded amount, which has at most as
many digits as the standard precision (`read_format`). The number that is read has the same text again,
and the text is in order both as a plain amount and as an expression (`format_fixed`).
-/

namespace MonetaryText.Amount

variable {style : NumeralStyle} {d : Decimal}

/-! ### Magnitudes -/

/-- The magnitude that is laid out for a rounded amount: at most 28 digits, and all of them if digits
were dropped. -/
structure IsFinished (style : NumeralStyle) (rounded magnitude : Decimal) : Prop where
  nonnegative : magnitude.negative = false
  low : -style.fractionDigits ≤ magnitude.exponent
  high : magnitude.leadingExponent ≤ Context.maxExponent
  full : magnitude.exponent = -style.fractionDigits ∧ magnitude.digitCount ≤ 28 ∨
    magnitude.isZero = false ∧ magnitude.digitCount = 28
  spelled : (rounded.significant 28).Spells magnitude
  isZero_eq : magnitude.isZero = rounded.isZero

theorem isFinished_of_finish {rounded magnitude : Decimal} (few : style.fractionDigits ≤ 10)
    (place : rounded.exponent = -style.fractionDigits)
    (given : Context.standard.finish rounded.magnitude = .ok magnitude) :
    IsFinished style rounded magnitude := by
  have tiny : Context.standard.tiny ≤ rounded.magnitude.exponent := by
    change Context.standard.tiny ≤ rounded.exponent
    rw [place]
    simp only [Context.tiny, Context.minExponent, Context.standard]
    omega
  have range : rounded.magnitude.exponent ≤ Context.maxExponent := by
    change rounded.exponent ≤ Context.maxExponent
    rw [place]
    simp only [Context.maxExponent]
    omega
  have nonzero {x : Decimal} (many : 1 < x.digitCount) : x.isZero = false := by
    rw [Decimal.isZero, beq_eq_false_iff_ne]
    exact Decimal.coefficient_ne_zero_of_digitCount many
  obtain ⟨sign, high, ⟨short, rfl⟩ | ⟨long, count, above, spelled⟩⟩ :=
    Context.finish_cases (by decide) tiny range given
  · have digits : rounded.digitCount ≤ 28 := short
    refine ⟨rfl, Int.le_of_eq place.symm, high, .inl ⟨place, digits⟩, ?_, rfl⟩
    rw [Decimal.significant, if_pos digits]
    exact ⟨0, by simp [tenPow, Decimal.magnitude], by simp [Decimal.magnitude]⟩
  · have digits : 28 < rounded.digitCount := long
    have higher : rounded.exponent < magnitude.exponent := above
    have all : magnitude.digitCount = 28 := count
    refine ⟨sign, by omega, high, .inr ⟨nonzero (by omega), all⟩, ?_, ?_⟩
    · rw [Decimal.significant, if_neg (by omega)]
      obtain ⟨k, coefficient, exponent⟩ := spelled
      rw [Decimal.coefficient_rescale_magnitude] at coefficient
      rw [Decimal.exponent_rescale] at exponent
      exact ⟨k, coefficient, by rw [Decimal.exponent_rescale]; exact exponent⟩
    · rw [nonzero (show 1 < magnitude.digitCount by omega),
        nonzero (show 1 < rounded.digitCount by omega)]

theorem spells_inFull (d : Decimal) : (inFull d).Spells d :=
  ⟨d.exponent.toNat, rfl, by simp only [inFull]; omega⟩

/-- The text of an amount is the layout of its rounded magnitude at the standard precision. -/
theorem format_eq_ok_iff (conventional : style.IsConventional) {text : Text} :
    format style d = .ok text ↔
      ∃ rounded magnitude, round style d = .ok rounded ∧
        Context.standard.finish rounded.magnitude = .ok magnitude ∧
        text = layout style rounded.isNegative magnitude := by
  have bare {rounded magnitude : Decimal} (rounds : round style d = .ok rounded)
      (finished : Context.standard.finish rounded.magnitude = .ok magnitude) :
      bareText style (layout style rounded.isNegative magnitude) =
        layout style rounded.isNegative magnitude := by
    have place := exponent_of_round conventional.few_places rounds
    exact bareText_layout conventional _
      (isFinished_of_finish conventional.few_places place finished).nonnegative
  unfold format
  constructor
  · intro given
    obtain ⟨rounded, rounds, given⟩ := Outcome.bind_eq_ok_iff.mp given
    obtain ⟨magnitude, finished, given⟩ := Outcome.bind_eq_ok_iff.mp given
    cases given
    have finished := Outcome.mapError_eq_ok_iff.mp finished
    exact ⟨rounded, magnitude, rounds, finished, bare rounds finished⟩
  · rintro ⟨rounded, magnitude, rounds, finished, rfl⟩
    refine Outcome.bind_eq_ok_iff.mpr ⟨rounded, rounds, ?_⟩
    refine Outcome.bind_eq_ok_iff.mpr ⟨magnitude, Outcome.mapError_eq_ok_iff.mpr finished, ?_⟩
    exact congrArg Except.ok (bare rounds finished)

/-- An amount has the text of what it is rounded to. -/
theorem format_of_round (conventional : style.IsConventional) {rounded : Decimal}
    (given : round style d = .ok rounded) : format style rounded = format style d := by
  unfold format
  rw [given, round_of_round conventional.few_places given]

/-- What is behind the text of an amount. -/
theorem exists_finished_of_format (conventional : style.IsConventional) {text : Text}
    (formatted : format style d = .ok text) :
    ∃ rounded magnitude, round style d = .ok rounded ∧ IsFinished style rounded magnitude ∧
      text = layout style rounded.isNegative magnitude := by
  obtain ⟨rounded, magnitude, rounds, finished, rfl⟩ := (format_eq_ok_iff conventional).mp formatted
  have place := exponent_of_round conventional.few_places rounds
  exact ⟨rounded, magnitude, rounds,
    isFinished_of_finish conventional.few_places place finished, rfl⟩

/-- The standard precision takes every rounded amount that leaves room for one more digit. -/
theorem exists_finish_standard {rounded : Decimal} {places : Nat} (few : places ≤ 10)
    (place : rounded.exponent = -places) (lead : rounded.leadingExponent ≤ 999998) :
    ∃ magnitude, Context.standard.finish rounded.magnitude = .ok magnitude := by
  have place : rounded.magnitude.exponent = -places := place
  have lead : rounded.magnitude.leadingExponent ≤ 999998 := lead
  have tiny : Context.standard.tiny ≤ -places := by
    simp only [Context.tiny, Context.minExponent, Context.standard]
    omega
  by_cases short : rounded.magnitude.digitCount ≤ Context.standard.precision
  · refine ⟨_, Context.finish_of_fits short (by omega) ?_⟩
    simp only [Context.maxExponent]
    omega
  · have above : Context.standard.tiny ≤
        rounded.magnitude.leadingExponent - Context.standard.precision + 1 := by
      unfold Decimal.leadingExponent
      omega
    obtain ⟨magnitude, _, _, _, high, _, finished⟩ :=
      Context.exists_finish (by decide) (by omega) above
    refine ⟨magnitude, ?_⟩
    rw [finished, if_neg]
    simp only [Context.maxExponent]
    omega

/-- An amount that is not too large has a text, unless it is a zero with an enormous exponent. -/
theorem exists_format_iff (conventional : style.IsConventional) (bounded : d.IsBelow 999998) :
    (∃ text, format style d = .ok text) ↔
      (d.isZero = true → d.exponent + style.fractionDigits + 2 ≤ Context.maxPrecision) := by
  have few := conventional.few_places
  rw [← exists_round_iff few bounded]
  constructor
  · rintro ⟨text, formatted⟩
    obtain ⟨rounded, _, rounds, _, _⟩ := (format_eq_ok_iff conventional).mp formatted
    exact ⟨rounded, rounds⟩
  · rintro ⟨rounded, rounds⟩
    have lead : rounded.leadingExponent ≤ 999998 := by
      rw [eq_rescale_of_round few rounds]
      exact leadingExponent_rescale_le few bounded
    obtain ⟨magnitude, finished⟩ := exists_finish_standard few (exponent_of_round few rounds) lead
    exact ⟨_, (format_eq_ok_iff conventional).mpr ⟨rounded, magnitude, rounds, finished, rfl⟩⟩

/-- Reading undoes formatting, up to the digits that an amount keeps. An amount has a text unless it is
a zero with an enormous exponent. -/
theorem read_format (style : NumeralStyle) (conventional : style.IsConventional) (d : Decimal)
    (bounded : d.IsBelow 999998) :
    ((∃ text, format style d = .ok text) ↔
      (d.isZero = true → d.exponent + style.fractionDigits + 2 ≤ Context.maxPrecision)) ∧
    ∀ text, format style d = .ok text → ∃ rounded number, round style d = .ok rounded ∧
      Numeral.read style text = .ok number ∧
      number.sameValue (rounded.significant 28) = true := by
  refine ⟨exists_format_iff conventional bounded, ?_⟩
  intro text formatted
  obtain ⟨rounded, magnitude, rounds, finished, rfl⟩ :=
    exists_finished_of_format conventional formatted
  have accepted := read_layout conventional rounded.isNegative finished.nonnegative
  refine ⟨rounded, _, rounds, accepted, ?_⟩
  refine Decimal.sameValue_of_spells (spells_inFull magnitude) finished.spelled ?_
  rw [Decimal.negative_significant]
  cases zero : rounded.isZero with
  | true =>
    right
    have none := finished.isZero_eq
    rw [zero] at none
    simpa [Decimal.isZero] using none
  | false =>
    left
    simp [Decimal.isNegative, zero]

/-- What is read is the rounded amount with the digits that an amount keeps. -/
theorem IsFinished.sameValue_significant {rounded magnitude : Decimal}
    (finished : IsFinished style rounded magnitude) :
    Decimal.sameValue { inFull magnitude with negative := rounded.isNegative }
      (rounded.significant 28) = true := by
  have signs : rounded.isNegative = (rounded.significant 28).negative ∨
      magnitude.coefficient = 0 := by
    have zero := finished.isZero_eq
    rw [Decimal.negative_significant]
    unfold Decimal.isNegative
    cases none : rounded.isZero with
    | true =>
      rw [none] at zero
      exact .inr (by simpa [Decimal.isZero] using zero)
    | false => exact .inl (by simp)
  exact Decimal.sameValue_of_spells (spells_inFull magnitude) finished.spelled signs

/-- What is read is the rounded amount itself in exactly the amounts that keep all their digits. -/
theorem IsFinished.sameValue_iff {rounded magnitude : Decimal}
    (finished : IsFinished style rounded magnitude) :
    Decimal.sameValue { inFull magnitude with negative := rounded.isNegative } rounded = true ↔
      tenPow (rounded.digitCount - 28) ∣ rounded.coefficient := by
  rw [Decimal.sameValue_congr_left finished.sameValue_significant]
  exact rounded.sameValue_significant_iff 28

/-- The amount rounds up to a new digit, and keeps 28 of its 33 digits. -/
theorem read_format_of_long_amount :
    (NumeralStyle.ofConventions "en_IN" { point := '.', group := ',', groupLengths := [3, 2] } 2
        .halfUp).IsConventional ∧
      Decimal.IsBelow 999998 ⟨true, 99999999999999999999999999999999995, -3⟩ ∧
      ∃ rounded number,
        round (.ofConventions "en_IN" { point := '.', group := ',', groupLengths := [3, 2] } 2
          .halfUp) ⟨true, 99999999999999999999999999999999995, -3⟩ = .ok rounded ∧
        Numeral.read (.ofConventions "en_IN" { point := '.', group := ',', groupLengths := [3, 2] } 2
          .halfUp) "-10,00,00,00,00,00,00,00,00,00,00,00,00,00,00,000".toList = .ok number ∧
        number.sameValue (rounded.significant 28) = true := by
  have conventional : (NumeralStyle.ofConventions "en_IN"
      { point := '.', group := ',', groupLengths := [3, 2] } 2 .halfUp).IsConventional := by decide
  have bounded : Decimal.IsBelow 999998 ⟨true, 99999999999999999999999999999999995, -3⟩ :=
    .inr (by decide)
  exact ⟨conventional, bounded, (read_format _ conventional _ bounded).2 _ rfl⟩

/-- The precision follows the exponent, which says nothing about the size of a zero. -/
example : format (.western "en_US" 2 .halfEven) ⟨false, 0, 999999999999999999⟩ =
    .error .precisionOutOfRange := rfl

/-- Whatever has a finished magnitude has its layout. Rounding only writes it at the last fraction digit,
from where the standard precision finds the magnitude again. -/
theorem format_of_spells (conventional : style.IsConventional) {rounded magnitude x : Decimal}
    (finished : IsFinished style rounded magnitude) (spelled : x.Spells magnitude)
    (low : -style.fractionDigits ≤ x.exponent) (high : x.exponent ≤ 0)
    (sign : x.negative = rounded.isNegative) :
    format style x = .ok (layout style rounded.isNegative magnitude) := by
  have few := conventional.few_places
  have whole : (x.rescale style.rounding (-style.fractionDigits)).Spells magnitude :=
    (Decimal.spells_rescale low).trans spelled
  have place := x.exponent_rescale style.rounding (-style.fractionDigits)
  have kept := x.negative_rescale style.rounding (-style.fractionDigits)
  have range : x.isZero = true ∨ x.leadingExponent ≤ Context.maxExponent ∧
      (x.rescale style.rounding (-style.fractionDigits)).leadingExponent ≤ Context.maxExponent := by
    by_cases zero : magnitude.isZero = true
    · exact .inl (spelled.isZero_iff.mpr zero)
    · have nonzero : magnitude.coefficient ≠ 0 := by simpa [Decimal.isZero] using zero
      rw [(Decimal.digitCount_of_spells spelled nonzero).1,
        (Decimal.digitCount_of_spells whole nonzero).1]
      exact .inr ⟨finished.high, finished.high⟩
  have fits : precisionFor x style.fractionDigits ≤ Context.maxPrecision := by
    simp only [Context.maxExponent] at range
    simp only [precisionFor_eq, Context.maxPrecision]
    rcases range with zero | ⟨below, _⟩
    · rw [Decimal.leadingExponent_of_isZero zero]
      omega
    · omega
  have rounds := round_of_fits conventional.few_places range fits
  generalize x.rescale style.rounding (-style.fractionDigits) = y at *
  have zero : y.isZero = rounded.isZero := by
    rw [← finished.isZero_eq, Bool.eq_iff_iff]
    exact whole.isZero_iff
  refine (format_eq_ok_iff conventional).mpr ⟨y, magnitude, rounds, ?_, ?_⟩
  · have full : magnitude.exponent = y.magnitude.exponent ∧ magnitude.digitCount ≤ 28 ∨
        magnitude.coefficient ≠ 0 ∧ magnitude.digitCount = 28 := by
      refine finished.full.imp (fun left => ⟨left.1.trans place.symm, left.2⟩)
        fun right => ⟨?_, right.2⟩
      simpa [Decimal.isZero] using right.1
    have tiny : Context.standard.tiny ≤ y.exponent := by
      simp only [Context.tiny, Context.minExponent, Context.standard]
      omega
    have again : Context.standard.finish y.magnitude = .ok { magnitude with negative := false } :=
      Context.finish_of_spells (show y.magnitude.Spells magnitude from whole) full tiny finished.high
    rw [again, ← finished.nonnegative]
  · have same : y.isNegative = rounded.isNegative := by
      rw [Decimal.isNegative, kept, sign, zero]
      unfold Decimal.isNegative
      cases rounded.negative <;> cases rounded.isZero <;> rfl
    rw [same]

/-- The text of a number is read as a number with the same text. It is in order as a plain amount and
as an expression, and worth this number wherever its arithmetic has a precision. -/
theorem format_fixed (machine : Binary64 → Binary64 → Binary64) (nesting : Nat)
    (style : NumeralStyle) (conventional : style.IsConventional) (settings : Settings) (d : Decimal)
    (text : Text) (formatted : format style d = .ok text) :
    (∀ calculable allowEmpty,
      Expression.isWellFormed style calculable allowEmpty text = true) ∧
    ∃ number, Numeral.read style text = .ok number ∧ format style number = .ok text ∧
      (Expression.evaluate machine nesting style settings text = .ok (.finite number) ↔
        settings.precision ≤ Context.maxPrecision) := by
  obtain ⟨rounded, magnitude, _, finished, rfl⟩ := exists_finished_of_format conventional formatted
  have accepted := read_layout conventional rounded.isNegative finished.nonnegative
  have plain := isPlainAmount_layout conventional rounded.isNegative finished.nonnegative
  have expression := Expression.isWellFormed_of_read accepted
  have solid : Text.isBlankText (layout style rounded.isNegative magnitude) = false :=
    Expression.isBlankText_of_isWellFormed expression
  constructor
  · intro calculable allowEmpty
    cases calculable with
    | false => simpa [Expression.isWellFormed, solid] using plain
    | true => simpa [Expression.isWellFormed, solid] using expression
  · have low : -style.fractionDigits ≤ (inFull magnitude).exponent := by
      have place := finished.low
      simp only [inFull]
      omega
    have again := format_of_spells conventional finished
      (show Decimal.Spells { inFull magnitude with negative := rounded.isNegative } magnitude from
        spells_inFull magnitude) low (by simp only [inFull]; omega) rfl
    exact ⟨_, accepted, again,
      Expression.evaluate_numeral accepted (unitExponent_of_few _ conventional.few_places)⟩

/-- Of more than 28 digits, those behind are zeros when the text is read again. -/
theorem format_fixed_of_long_amount :
    (NumeralStyle.ofConventions "de_DE" { point := ',', group := '.' } 2 .halfEven).IsConventional ∧
      format (.ofConventions "de_DE" { point := ',', group := '.' } 2 .halfEven)
        ⟨true, 1234567890123456789012345678955, -2⟩ =
          .ok "-12.345.678.901.234.567.890.123.456.790".toList ∧
      ∃ number,
        Numeral.read (.ofConventions "de_DE" { point := ',', group := '.' } 2 .halfEven)
          "-12.345.678.901.234.567.890.123.456.790".toList = .ok number ∧
        Expression.evaluate Binary64.machinePower Expression.standardNesting
          (.ofConventions "de_DE" { point := ',', group := '.' } 2 .halfEven) {}
          "-12.345.678.901.234.567.890.123.456.790".toList = .ok (.finite number) := by
  have conventional : (NumeralStyle.ofConventions "de_DE" { point := ',', group := '.' } 2
      .halfEven).IsConventional := by decide
  have formatted : format (.ofConventions "de_DE" { point := ',', group := '.' } 2 .halfEven)
      ⟨true, 1234567890123456789012345678955, -2⟩ =
        .ok "-12.345.678.901.234.567.890.123.456.790".toList := rfl
  obtain ⟨_, number, accepted, _, value⟩ :=
    format_fixed Binary64.machinePower Expression.standardNesting _ conventional {} _ _ formatted
  exact ⟨conventional, formatted, number, accepted, value.mpr (by decide)⟩

end MonetaryText.Amount

import MonetaryText.Proofs.Amount.Grouping
import MonetaryText.Proofs.Amount.RoundTrip
import MonetaryText.Proofs.Decimal.Value

/-!
Decimals that are written with all their digits and without groups. Such a text is read as the decimal it
was written for, at an exponent that is not positive (`read_positional`). It is rounded to what the decimal
itself is rounded to (`RoundsLike`), unless there is no precision for a zero with an enormous exponent.
-/

namespace MonetaryText.Amount

variable {style : NumeralStyle} {d other : Decimal}

/-! ### Texts -/

/-- All digits of a decimal in their places, with the decimal point of the style. -/
def positional (style : NumeralStyle) (d : Decimal) : Text :=
  d.signText ++ d.wholeDigits ++
    match d.fractionDigits with
    | [] => []
    | places => style.point :: places

/-- The style without groups in what is written. -/
def withoutGroups (style : NumeralStyle) : NumeralStyle :=
  { style with groupLengths := [], lengths_pos := lengths_pos_nil }

theorem positional_eq_layout (style : NumeralStyle) (d : Decimal) :
    positional style d = layout (withoutGroups style) d.negative d.magnitude := by
  change _ = (if d.negative then ['-'] else []) ++ grouped [] [style.group] d.wholeDigits ++ _
  rw [grouped_nil]
  rfl

/-- Groups are recognised in what is read, whether or not they are written. -/
theorem read_positional (conventional : style.IsConventional) (d : Decimal) :
    Numeral.read style (positional style d) = .ok (inFull d) := by
  have plain : (withoutGroups style).IsConventional :=
    ⟨conventional.single, conventional.apart, conventional.few_places⟩
  have nonnegative : d.magnitude.negative = false := rfl
  have accepted := read_layout plain d.negative nonnegative
  rw [← positional_eq_layout] at accepted
  exact accepted

/-! ### Values -/

theorem toRat_inFull (d : Decimal) : (inFull d).toRat = d.toRat :=
  Decimal.toRat_of_spells (spells_inFull d) rfl

theorem isBelow_inFull {n : Nat} : (inFull d).IsBelow n ↔ d.IsBelow n := by
  rw [Decimal.isBelow_iff_toRat, Decimal.isBelow_iff_toRat, toRat_inFull]

/-- Whatever rounds a decimal to a number rounds the other one to the same number. -/
def RoundsLike (d other : Decimal) : Prop :=
  ∀ (style : NumeralStyle) (rounded : Decimal), style.fractionDigits ≤ 10 →
    round style d = .ok rounded → round style other = .ok rounded

/-- Value and sign decide what a decimal is rounded to. -/
theorem round_unique (few : style.fractionDigits ≤ 10) {rounded result : Decimal}
    (rounds : round style d = .ok rounded) (given : round style other = .ok result)
    (value : other.toRat = d.toRat) (sign : other.negative = d.negative) : result = rounded := by
  obtain ⟨kept, n, picks, worth⟩ := picks_of_round few rounds
  obtain ⟨otherKept, m, otherPicks, otherWorth⟩ := picks_of_round few given
  rw [value] at otherPicks
  obtain rfl := otherPicks.unique picks
  refine Decimal.eq_of_toRat (otherWorth.trans worth.symm) ?_ fun _ => ?_
  · rw [exponent_of_round few given, exponent_of_round few rounds]
  · rw [otherKept, sign, kept]

/-- The exponent matters only where the other decimal is a zero that takes an enormous precision. -/
theorem RoundsLike.of_toRat (bounded : d.IsBelow 999998) (value : other.toRat = d.toRat)
    (sign : other.negative = d.negative)
    (fits : other.isZero = true → other.exponent + 12 ≤ Context.maxPrecision) :
    RoundsLike d other := by
  intro style rounded few rounds
  have otherBounded : other.IsBelow 999998 := by
    rw [Decimal.isBelow_iff_toRat, value]
    exact Decimal.isBelow_iff_toRat.mp bounded
  obtain ⟨result, given⟩ := (exists_round_iff few otherBounded).mpr fun zero => by
    have small := fits zero
    omega
  rw [given, round_unique few rounds given value sign]

/-- Some precision takes a number that was read, whatever its fraction digits are. -/
theorem inFull_fits (d : Decimal) {places : Nat} (few : places ≤ 10) :
    (inFull d).exponent + places + 2 ≤ Context.maxPrecision := by
  simp only [inFull, Context.maxPrecision]
  omega

/-- A decimal and what is read of its text are rounded to the same number. -/
theorem roundsLike_inFull (bounded : d.IsBelow 999998) : RoundsLike d (inFull d) :=
  .of_toRat bounded (toRat_inFull d) rfl fun _ => by
    have fits := inFull_fits d (Nat.le_refl 10)
    omega

theorem inFull_roundsLike (bounded : d.IsBelow 999998)
    (fits : d.isZero = true → d.exponent + 12 ≤ Context.maxPrecision) : RoundsLike (inFull d) d :=
  .of_toRat (isBelow_inFull.mpr bounded) (toRat_inFull d).symm rfl fits

end MonetaryText.Amount

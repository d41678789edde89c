import MonetaryText.Proofs.Expression.Tokens

/-!
Plain amounts are expressions. What is read as a numeral passes both checks, in every style, and as an
expression it is worth the very decimal that it is read as: sign, digits and exponent are not rounded.
Only the unit of the fraction digits, which every evaluation forms first, can be out of range
(`evaluate_extends_read`).
-/

namespace MonetaryText

/-- How many fraction digits a unit can be formed for. -/
theorem Context.exists_unitExponent_iff {context : Context} {places : Nat} :
    (∃ unit, context.unitExponent places = .ok unit) ↔
      places ≤ 2 * (999999 + context.precision) := by
  unfold unitExponent
  split
  · rename_i beyond
    constructor
    · rintro ⟨unit, ⟨⟩⟩
    · omega
  · rename_i within
    exact iff_of_true ⟨_, rfl⟩ (by omega)

namespace Expression

/-- Reading expressions extends reading numerals. What is read as a numeral passes the check of plain
amounts and that of expressions, and its value as an expression is the same decimal, exactly where the
unit of the fraction digits can be formed. -/
theorem evaluate_extends_read (machine : Binary64 → Binary64 → Binary64) (nesting : Nat)
    (style : NumeralStyle) (settings : Settings) (text : Text) (number : Decimal)
    (accepted : Numeral.read style text = .ok number) :
    (∀ calculable, isWellFormed style calculable false text = true) ∧
      (settings.precision ≤ Context.maxPrecision →
        (evaluate machine nesting style settings text = .ok (.finite number) ↔
          style.fractionDigits ≤ 2 * (999999 + settings.precision))) := by
  have expression := isWellFormed_of_read accepted
  have solid := isBlankText_of_isWellFormed expression
  constructor
  · intro calculable
    cases calculable with
    | true => exact expression
    | false => simpa [isWellFormed, solid] using isPlainAmount_of_read accepted
  · intro precise
    have formable : (∃ unit,
        Context.unitExponent ⟨settings.precision⟩ style.fractionDigits = .ok unit) ↔
          style.fractionDigits ≤ 2 * (999999 + settings.precision) :=
      Context.exists_unitExponent_iff
    rw [← formable]
    constructor
    · intro given
      rw [evaluate_precise text precise] at given
      obtain ⟨unit, formed, _⟩ := Outcome.bind_eq_ok_iff.mp given
      exact ⟨unit, Outcome.mapError_eq_ok_iff.mp formed⟩
    · rintro ⟨unit, formed⟩
      exact (evaluate_numeral accepted formed).mpr precise

/-- The context may take fewer digits than the numeral has, and the sign stays with a zero. -/
theorem evaluate_of_negative_zero :
    Numeral.read (.ofConventions "fr_FR" { point := ',', group := '\u202f' } 2 .halfEven)
        "\u00a0-0 000,00 ".toList = .ok ⟨true, 0, -2⟩ ∧
      isWellFormed (.ofConventions "fr_FR" { point := ',', group := '\u202f' } 2 .halfEven) false
        false "\u00a0-0 000,00 ".toList = true ∧
      evaluate Binary64.machinePower standardNesting
        (.ofConventions "fr_FR" { point := ',', group := '\u202f' } 2 .halfEven) {}
        "\u00a0-0 000,00 ".toList = .ok (.finite ⟨true, 0, -2⟩) := by
  have accepted : Numeral.read
      (.ofConventions "fr_FR" { point := ',', group := '\u202f' } 2 .halfEven)
      "\u00a0-0 000,00 ".toList = .ok ⟨true, 0, -2⟩ := rfl
  obtain ⟨checked, worth⟩ := evaluate_extends_read Binary64.machinePower standardNesting _ {} _ _ accepted
  exact ⟨accepted, checked false, (worth (by decide)).mpr (by decide)⟩

/-- One more fraction digit than a unit can be formed for. -/
theorem evaluate_read_of_unit_out_of_range :
    Numeral.read (.western "en_US" 2000199 .halfEven) "-0.50".toList = .ok ⟨true, 50, -2⟩ ∧
      evaluate Binary64.machinePower standardNesting (.western "en_US" 2000199 .halfEven) {} "-0.50".toList =
        .error (.impossible (.signal .invalidOperation) none) := ⟨rfl, rfl⟩

end Expression

end MonetaryText

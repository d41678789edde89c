import Mathlib.Control.Monad.Basic
import MonetaryText.Proofs.Entry.Step
import MonetaryText.Proofs.Expression.Failures

/-!
Expressions that cannot be evaluated. What is reported about them makes the text of an entry invalid and
changes nothing else; what is not reported breaks the action off (`evaluate_reports_or_escapes`).
-/

namespace MonetaryText.Entry

variable {data : LocaleData} {setup : Setup data} {style : NumeralStyle} {text : Text}
  {failure : Expression.Failure}

/-- A failure that is reported is a matter of the text. -/
theorem Setup.exists_rejected (calculable : setup.calculable = true)
    (fails : Expression.evaluate setup.power setup.nesting style setup.settings text = .error failure)
    (reported : failure.isReported = true) :
    ∃ rejection, setup.understand style text = .rejected rejection := by
  unfold Setup.understand
  split
  · exact ⟨_, rfl⟩
  · rw [fails]
    cases failure with
    | malformed cause position => exact ⟨_, rfl⟩
    | impossible cause position => exact ⟨_, rfl⟩
    | exponentTooLong | exponentInfinite | precisionOutOfRange => cases reported

/-- Else understanding breaks off, unless the text has not passed the check before. -/
theorem Setup.understand_eq_broken (calculable : setup.calculable = true)
    (checked : Expression.isWellFormed style true false text = true)
    (fails : Expression.evaluate setup.power setup.nesting style setup.settings text = .error failure)
    (silent : failure.isReported = false) :
    setup.understand style text = .broken (.evaluation failure) := by
  unfold Setup.understand
  rw [calculable, checked, fails]
  cases failure with
  | malformed cause position => cases silent
  | impossible cause position => cases silent
  | exponentTooLong | exponentInfinite | precisionOutOfRange => rfl

/-- An expression that has no value has a report, unless there is no arithmetic of the precision, or a
power in the text has an exponent that is infinite or too long for a message. With a report the text
makes an entry invalid as it was typed; without one, typing it breaks off. -/
theorem evaluate_reports_or_escapes (machine : Binary64 → Binary64 → Binary64) (nesting : Nat)
    (style : NumeralStyle) (settings : Settings) (text : Text) (failure : Expression.Failure)
    (fails : Expression.evaluate machine nesting style settings text = .error failure) :
    (failure.isReported = true ∨
      (failure = .precisionOutOfRange ∧ Context.maxPrecision < settings.precision) ∨
      ∃ unit, Context.unitExponent ⟨settings.precision⟩ style.fractionDigits = .ok unit ∧
        Expression.HasEscape machine style settings unit text failure) ∧
    ∀ (data : LocaleData) (session : Session data), session.entry.setup.power = machine →
      session.entry.setup.nesting = nesting → session.entry.setup.settings = settings →
      session.entry.setup.calculable = true → session.entry.style = style →
      Text.isBlankText text = false →
      (failure.isReported = true → (session.perform (.typeText text)).1 = .ok () ∧
        (session.perform (.typeText text)).2.entry =
          { session.entry with text, status := .invalid }) ∧
      (failure.isReported = false → Expression.isWellFormed style true false text = true →
        (session.perform (.typeText text)).1 = .error (.evaluation failure) ∧
        (session.perform (.typeText text)).2.entry = { session.entry with text }) := by
  constructor
  · cases reported : failure.isReported with
    | true => exact .inl rfl
    | false => exact .inr (Expression.escapes_of_evaluate fails reported)
  · rintro data session rfl rfl rfl calculable rfl solid
    have understands := understands_typeText session solid
    constructor
    · intro reported
      obtain ⟨rejection, meaning⟩ := Setup.exists_rejected calculable fails reported
      exact understands.of_rejected meaning
    · intro silent checked
      exact understands.of_broken (Setup.understand_eq_broken calculable checked fails silent)

/-- The exponent is a one and five thousand zeros, which is beyond the bound and cannot be shown. -/
theorem evaluate_escapes_of_long_exponent :
    Expression.evaluate Binary64.machinePower Expression.standardNesting
        (.western "en_US" 2 .halfEven) {}
        "2^((10^1000)^5)".toList = .error .exponentTooLong ∧
      ∃ unit, Context.unitExponent ⟨100⟩ 2 = .ok unit ∧
        Expression.HasEscape Binary64.machinePower (.western "en_US" 2 .halfEven) {} unit
          "2^((10^1000)^5)".toList .exponentTooLong := by
  have fails : Expression.evaluate Binary64.machinePower Expression.standardNesting
      (.western "en_US" 2 .halfEven) {} "2^((10^1000)^5)".toList = .error .exponentTooLong := by decide +kernel
  rcases (evaluate_reports_or_escapes _ _ _ _ _ _ fails).1 with reported | ⟨imprecise, _⟩ | escape
  · cases reported
  · cases imprecise
  · exact ⟨fails, escape⟩

end MonetaryText.Entry

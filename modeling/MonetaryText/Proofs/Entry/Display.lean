import MonetaryText.Proofs.Entry.Coherence

/-!
The value of an entry and the amount that its text shows. The text keeps 28 digits of an amount, the
value keeps all of them, so that they differ where further digits are no zeros (`read_shown_text`).
-/

namespace MonetaryText.Entry

variable {data : LocaleData}

/-- The text of a valid entry is read as a number, which is the value of the entry exactly if all
digits of the value behind the first 28 are zeros. An expression has this number where its arithmetic has
a precision. -/
theorem read_shown_text (conventional : data.IsConventional) {setup : Setup data}
    {history : History} {session : Session data}
    (reached : Reached setup history session) (valid : session.entry.status = .valid)
    (code : String) (held : session.entry.currency = some code) :
    ∃ money number, session.entry.value = some money ∧
      Numeral.read session.entry.style session.entry.text = .ok number ∧
      (Expression.evaluate setup.power setup.nesting session.entry.style setup.settings
          session.entry.text = .ok (.finite number) ↔
        setup.settings.precision ≤ Context.maxPrecision) ∧
      (number.sameValue money.amount = true ↔
        tenPow (money.amount.digitCount - 28) ∣ money.amount.coefficient) := by
  obtain ⟨_, coherent⟩ := coherent_of_reached conventional reached
  obtain ⟨amount, exact, formats⟩ := coherent.shown valid
  obtain ⟨shown, money, value, rounds, _⟩ := coherent.priced code amount valid held exact
  rw [shown] at formats
  have style : session.entry.style = session.entry.styleFor (some code) := by
    rw [← held]
    rfl
  replace conventional := isConventional_styleFor conventional session.entry (some code)
  rw [style]
  -- The value and the text come from one rounding; only the text goes on to the standard precision.
  obtain ⟨rounded, magnitude, again, finished, laid⟩ :=
    Amount.exists_finished_of_format conventional formats
  obtain rfl : money.amount = rounded := Except.ok.inj (rounds.symm.trans again)
  have accepted := Amount.read_layout conventional money.amount.isNegative finished.nonnegative
  rw [← laid] at accepted
  have formed := Amount.unitExponent_of_few ⟨setup.settings.precision⟩ conventional.few_places
  exact ⟨money, _, value, accepted, Expression.evaluate_numeral accepted formed,
    finished.sameValue_iff⟩

/-- Of 31 digits, the text rounds the last three away, and the value does not. -/
theorem read_shown_text_of_long_amount :
    LocaleData.excerpt.IsConventional ∧
      ∃ history, ∃ session : Session .excerpt, Reached { settings := {} } history session ∧
      session.entry.status = .valid ∧ session.entry.currency = some "EUR" ∧
      session.entry.text = "12,345,678,901,234,567,890,123,456,790".toList ∧
      ∃ money number, session.entry.value = some money ∧
        money.amount = ⟨false, 1234567890123456789012345678912, -2⟩ ∧
        Numeral.read session.entry.style session.entry.text = .ok number ∧
        number.sameValue money.amount = false := by
  let first : Session .excerpt := (create { settings := {} } { currency := some "EUR" }).2
  let second := (first.perform (.typeText "12345678901234567890123456789.12".toList)).2
  have created : Reached { settings := {} } _ first := .created (eq_of_isOk (by decide))
  have typed : Reached { settings := {} } _ second := created.performed (eq_of_isOk (by decide +kernel))
  have shown : second.entry.status = .valid ∧ second.entry.currency = some "EUR" ∧
      second.entry.text = "12,345,678,901,234,567,890,123,456,790".toList ∧
      second.entry.value.map (·.amount) = some ⟨false, 1234567890123456789012345678912, -2⟩ := by
    decide +kernel
  obtain ⟨valid, held, text, amount⟩ := shown
  have conventional := LocaleData.excerpt_isConventional
  obtain ⟨money, number, value, accepted, _, same⟩ :=
    read_shown_text conventional typed valid "EUR" held
  rw [value] at amount
  have amount : money.amount = ⟨false, 1234567890123456789012345678912, -2⟩ := Option.some.inj amount
  refine ⟨conventional, _, second, typed, valid, held, text, money, number, value, amount, accepted, ?_⟩
  rw [amount] at same ⊢
  exact Bool.eq_false_iff.mpr fun lost => absurd (same.mp lost) (by decide)

end MonetaryText.Entry

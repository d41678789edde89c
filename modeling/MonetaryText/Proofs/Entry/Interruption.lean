import Mathlib.Control.Monad.Basic
import MonetaryText.Proofs.Entry.Run

/-!
What an action leaves behind that breaks off. It has taken over what it was given, and nothing is taken
back. Up to the writing of an amount nothing else has changed; from there on the amount, its text and the
status may have, but not the value (`interruption_keeps_value`).
-/

namespace MonetaryText.Entry

/-- The entry with what an action is given, before anything is made of it. -/
def Action.taken : Action → Entry data → Entry data
  | typeText text, entry => { entry with text }
  | chooseCurrency code, entry => { entry with currency := heldCode code }
  | chooseLocale locale, entry => { entry with locale := locale.normalized }
  | enterMoney (some money), entry => { entry with currency := some money.currency }
  | enterNumber _, entry | enterMoney none, entry | clear, entry | fixCurrency _, entry => entry

/-- Whether an error comes from writing an amount that has been understood. -/
def Error.isOfWriting : Error → Bool
  | amount _ | money _ => true
  | currencyNotAllowed _ | number _ | numeral _ | evaluation _ => false

variable {data : LocaleData} {entry after : Entry data} {action : Action} {error : Error}

theorem Setup.isOfWriting_of_broken {setup : Setup data} {style : NumeralStyle} {text : Text}
    (meaning : setup.understand style text = .broken error) : error.isOfWriting = false := by
  unfold Setup.understand at meaning
  split at meaning
  · cases meaning
  · split at meaning
    · unfold Outcome.ofEvaluation at meaning
      split at meaning <;> cases meaning
      rfl
    · unfold Outcome.ofNumeral at meaning
      split at meaning <;> cases meaning
      rfl

/-- Writing breaks off without a text, or with one that shows the amount, in a currency that is none. -/
theorem Writes.of_error (conventional : data.IsConventional) {amount : Extended}
    (writes : Writes entry amount (.error error) after) :
    ((∃ cause, error = .amount cause) ∧ after = { entry with exact := some amount }) ∨
      ((∃ cause, error = .money cause) ∧ ∃ code d text, entry.currency = some code ∧
        Currency.isCode code = false ∧ amount = .finite d ∧
        Amount.format entry.style d = .ok text ∧
        after = { entry with exact := some amount, text, status := .valid }) := by
  cases writes with
  | unrounded | unwritten => exact .inl ⟨⟨_, rfl⟩, rfl⟩
  | @refused rounded text code violations rounds formats held fails =>
    obtain ⟨d, rfl, rounds⟩ := Amount.exists_finite_of_roundNumber rounds
    rw [Amount.format_of_round (isConventional_style conventional entry) rounds] at formats
    have unknown : Currency.isCode code = false := by
      unfold Money.make at fails
      split at fails
      · cases fails
      · exact Bool.eq_false_iff.mpr ‹_›
    exact .inr ⟨⟨_, rfl⟩, code, d, text, held, unknown, rfl, formats, rfl⟩

theorem Understands.of_error (understands : Understands entry (.error error) after) :
    (error.isOfWriting = false ∧ after = entry) ∨
      ∃ amount, Writes entry amount (.error error) after := by
  cases understands with
  | broken meaning => exact .inl ⟨Setup.isOfWriting_of_broken meaning, rfl⟩
  | written _ writes => exact .inr ⟨_, writes⟩

/-- An action breaks off before it writes, or while it writes. A choice writes the amount that is shown
already. -/
theorem Step.of_error (step : Step entry action (.error error) after) :
    (error.isOfWriting = false ∧ after = action.taken entry) ∨
      ∃ amount, Writes (action.taken entry) amount (.error error) after ∧
        (action.isChoice = true → ∀ shown, entry.shownAmount? = some shown → amount = shown) := by
  cases step with
  | notEntered => exact .inl ⟨rfl, rfl⟩
  | typed _ understands =>
    rcases understands.of_error with unwritten | ⟨amount, writes⟩
    · exact .inl unwritten
    · exact .inr ⟨amount, writes, nofun⟩
  | reread _ hidden _ understands =>
    rcases understands.of_error with unwritten | ⟨amount, writes⟩
    · exact .inl unwritten
    · refine .inr ⟨amount, writes, fun _ shown known => ?_⟩
      cases hidden.symm.trans known
  | entered _ writes | paid writes => exact .inr ⟨_, writes, nofun⟩
  | exchanged _ known writes | moved known writes =>
    exact .inr ⟨_, writes, fun _ shown same => Option.some.inj (known.symm.trans same)⟩

theorem Action.value_taken (action : Action) (entry : Entry data) :
    (action.taken entry).value = entry.value := by
  cases action with
  | enterMoney money => cases money <;> rfl
  | _ => rfl

/-- An action that breaks off leaves the value as it was. It leaves everything else as it was, too, apart
from what it was given, if it breaks off before it writes an amount. Where the amount has no text, only the
amount before rounding may be another one; where the currency is no code, the text is that of the amount.
A choice leaves an amount that was shown before. -/
theorem interruption_keeps_value (conventional : data.IsConventional) {session left : Session data}
    {action : Action} {error : Error} (fails : session.perform action = (.error error, left)) :
    left.entry.value = session.entry.value ∧
    (error.isOfWriting = false → left.entry = action.taken session.entry) ∧
    (∀ cause, error = .amount cause → ∃ exact,
      left.entry = { action.taken session.entry with exact } ∧
      (action.isChoice = true →
        ∀ shown, session.entry.shownAmount? = some shown → exact = some shown)) ∧
    (∀ cause, error = .money cause → ∃ code amount text,
      left.entry = { action.taken session.entry with
        exact := some (.finite amount), text, status := .valid } ∧
      left.entry.currency = some code ∧ Currency.isCode code = false ∧
      Amount.format left.entry.style amount = .ok text ∧
      (action.isChoice = true →
        ∀ shown, session.entry.shownAmount? = some shown → .finite amount = shown)) := by
  have step := step_perform session action
  rw [fails] at step
  rcases step.of_error with ⟨silent, same⟩ | ⟨amount, writes, again⟩
  · refine ⟨?_, fun _ => same, ?_, ?_⟩
    · rw [same]
      exact action.value_taken session.entry
    · rintro cause rfl
      cases silent
    · rintro cause rfl
      cases silent
  · rcases writes.of_error conventional with ⟨⟨cause, rfl⟩, same⟩ | ⟨⟨cause, rfl⟩, refused⟩
    · refine ⟨?_, nofun, fun _ _ => ⟨some amount, same, ?_⟩, nofun⟩
      · rw [same]
        exact action.value_taken session.entry
      · intro choice shown known
        rw [again choice shown known]
    · obtain ⟨code, d, text, held, unknown, rfl, formats, same⟩ := refused
      refine ⟨?_, nofun, nofun, fun _ _ => ⟨code, d, text, same, ?_⟩⟩
      · rw [same]
        exact action.value_taken session.entry
      · rw [same]
        exact ⟨held, unknown, formats, again⟩

/-- A number beyond all that can be written leaves text, status and value, at most not the amount before
rounding. -/
theorem interruption_keeps_value_of_enormous_number :
    LocaleData.excerpt.IsConventional ∧ ∃ session left : Session .excerpt, ∃ error,
      session.perform (.enterNumber (.text "1E+1000000".toList)) = (.error error, left) ∧
      session.entry.status = .valid ∧ session.entry.text = "12.50".toList ∧
      left.entry.value = session.entry.value ∧ ∃ exact, left.entry = { session.entry with exact } := by
  obtain ⟨session, shown, text, error⟩ : ∃ session : Session .excerpt,
      session.entry.status = .valid ∧ session.entry.text = "12.50".toList ∧
      (session.perform (.enterNumber (.text "1E+1000000".toList))).1 =
        .error (.amount (.signal .invalidOperation)) :=
    ⟨((create { settings := {} } { currency := some "EUR" }).2.perform
      (.typeText "12.5".toList)).2, by decide +kernel⟩
  have fails := eq_of_error error
  have conventional := LocaleData.excerpt_isConventional
  obtain ⟨value, _, unwritten, _⟩ := interruption_keeps_value conventional fails
  obtain ⟨exact, same, _⟩ := unwritten _ rfl
  exact ⟨conventional, session, _, _, fails, shown, text, value, exact, same⟩

/-- A currency in small letters is not taken back when it turns out to be none. -/
theorem interruption_keeps_refused_currency :
    ∃ history, ∃ session left : Session .excerpt, ∃ error, Reached { settings := {} } history session ∧
      session.perform (.chooseCurrency (some "eur")) = (.error error, left) ∧
      session.entry.currency = some "EUR" ∧ left.entry.currency = some "eur" := by
  let first : Session .excerpt := (create { settings := {} } { currency := some "EUR" }).2
  let second := (first.perform (.typeText "12.5".toList)).2
  let outcome := second.perform (.chooseCurrency (some "eur"))
  have created : Reached { settings := {} } _ first := .created (eq_of_isOk (by decide))
  have decided : (first.perform (.typeText "12.5".toList)).1.isOk = true ∧
      outcome.1 = .error (.money (.invalid [⟨"currency", .currencyCode⟩])) ∧
      second.entry.currency = some "EUR" ∧ outcome.2.entry.currency = some "eur" := by decide +kernel
  obtain ⟨typed, refused, currencies⟩ := decided
  have reached : Reached { settings := {} } _ second := created.performed (eq_of_isOk typed)
  exact ⟨_, second, outcome.2, _, reached, eq_of_error refused, currencies⟩

end MonetaryText.Entry

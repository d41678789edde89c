import MonetaryText.Proofs.Entry.Value

/-!
An amount that is shown anew, in another locale or another currency. It is always written from the amount
before rounding, so that nothing is lost on the way, and what is shown at the end depends on the last
locale and the last currency only (`choices_are_path_independent`).
-/

namespace MonetaryText

theorem Money.eq_of_amount_of_currency {money other : Money} (amount : money.amount = other.amount)
    (currency : money.currency = other.currency) : money = other := by
  cases money
  cases other
  simp only [Money.mk.injEq]
  exact ⟨amount, currency⟩

namespace Entry

variable {data : LocaleData} {history : History} {entry after : Entry data} {action : Action}
  {amount : Extended}

theorem Writes.shownAmount?_eq (writes : Writes entry amount (.ok ()) after) :
    after.shownAmount? = some amount := by
  cases writes <;> rfl

/-- A choice keeps the amount that is shown, though not its text. -/
theorem Step.shownAmount?_eq (step : Step entry action (.ok ()) after)
    (choice : action.isChoice = true) (shown : entry.shownAmount? = some amount) :
    after.shownAmount? = some amount := by
  cases step with
  | released => exact shown
  | exchanged _ known writes | moved known writes =>
    rw [← shown, known]
    exact writes.shownAmount?_eq
  | chosen _ hidden _ | reread _ hidden _ _ | movedSilently hidden =>
    cases hidden.symm.trans shown
  | _ => cases choice

theorem Runs.shownAmount?_eq {session later : Session data} {actions : List Action}
    (run : Runs session actions later) (choices : ∀ action ∈ actions, action.isChoice = true)
    (shown : session.entry.shownAmount? = some amount) :
    later.entry.shownAmount? = some amount := by
  induction run with
  | nil => exact shown
  | @cons session middle later action actions done rest ih =>
    have kept := (step_of_perform done).shownAmount?_eq (choices action List.mem_cons_self) shown
    exact ih (fun other member => choices other (List.mem_cons_of_mem action member)) kept

/-- What is shown in a currency follows from the amount, the locale and the currency, however it has come
about. -/
theorem Coherent.shows_eq {other : Entry data} {otherHistory : History} {code : String}
    (coherent : Coherent history entry) (otherCoherent : Coherent otherHistory other)
    (setup : entry.setup = other.setup) (locale : entry.locale = other.locale)
    (held : entry.currency = some code) (otherHeld : other.currency = some code)
    (shown : entry.shownAmount? = some amount) (otherShown : other.shownAmount? = some amount) :
    entry.text = other.text ∧ entry.value = other.value := by
  obtain ⟨valid, exact⟩ := shownAmount?_eq_some_iff.mp shown
  obtain ⟨otherValid, otherExact⟩ := shownAmount?_eq_some_iff.mp otherShown
  obtain ⟨d, same, formats⟩ := coherent.shown valid
  obtain ⟨e, otherSame, otherFormats⟩ := otherCoherent.shown otherValid
  obtain rfl : d = e := by
    rw [exact, ← otherExact, otherSame] at same
    exact (Extended.finite.inj (Option.some.inj same)).symm
  obtain ⟨written, money, value, rounds, currency⟩ := coherent.priced code d valid held same
  obtain ⟨otherWritten, otherMoney, otherValue, otherRounds, otherCurrency⟩ :=
    otherCoherent.priced code d otherValid otherHeld otherSame
  have style : entry.styleFor (some code) = other.styleFor (some code) := by
    simp only [styleFor, style, request, setup, locale]
  rw [written, style] at formats
  rw [otherWritten] at otherFormats
  rw [style] at rounds
  refine ⟨Except.ok.inj (formats.symm.trans otherFormats), ?_⟩
  rw [value, otherValue]
  have amounts : money.amount = otherMoney.amount := Except.ok.inj (rounds.symm.trans otherRounds)
  exact congrArg some (Money.eq_of_amount_of_currency amounts (currency.trans otherCurrency.symm))

/-- An amount is rounded to a currency in the same way in every locale. -/
theorem round_eq_of_currency (entry other : Entry data) {code : String}
    (setup : entry.setup = other.setup) (held : entry.currency = some code)
    (otherHeld : other.currency = some code) (known : Currency.isCode code = true) (d : Decimal) :
    Amount.round entry.style d = Amount.round other.style d := by
  apply Amount.round_congr
  · rw [fractionDigits_of_isCode held known, fractionDigits_of_isCode otherHeld known]
  · rw [style, style, NumeralStyle.Request.rounding_style, NumeralStyle.Request.rounding_style]
    exact congrArg (·.settings.rounding) setup

/-- The value does not change with the locale. -/
theorem value_eq_of_moved {locale : String} (coherent : Coherent history entry)
    (shown : entry.shownAmount? = some amount)
    (writes : Writes { entry with locale } amount (.ok ()) after) : after.value = entry.value := by
  cases writes with
  | unpriced => rfl
  | @priced rounded text code money rounds _ held makes =>
    obtain ⟨d, rfl, given⟩ := Amount.exists_finite_of_roundNumber rounds
    obtain ⟨rfl, rfl⟩ := Money.make_eq_ok makes
    obtain ⟨valid, exact⟩ := shownAmount?_eq_some_iff.mp shown
    obtain ⟨_, old, value, rounded, currency⟩ := coherent.priced _ d valid held exact
    have style : entry.styleFor (some money.currency) = entry.style := by
      rw [styleFor, ← held]
    have same := round_eq_of_currency entry { entry with locale } rfl held held money.isCode d
    rw [style, same, given] at rounded
    rw [value]
    exact congrArg some (Money.eq_of_amount_of_currency (Except.ok.inj rounded) currency.symm)

theorem Coherent.keeps_value {locale : LocaleRef} (coherent : Coherent history entry)
    (step : Step entry (.chooseLocale locale) (.ok ()) after) :
    after.status = entry.status ∧ after.currency = entry.currency ∧ after.value = entry.value := by
  cases step with
  | moved shown writes =>
    obtain ⟨valid, _⟩ := shownAmount?_eq_some_iff.mp shown
    exact ⟨writes.status_eq.trans valid.symm, writes.frame.2.2, value_eq_of_moved coherent shown writes⟩
  | movedSilently => exact ⟨rfl, rfl, rfl⟩

/-- Choices of locales and currencies, whatever they pass through, lead to what the last locale and the
last currency show of the amount, which is held without a loss. A locale alone changes neither status nor
currency nor value, with an amount shown or without one. -/
theorem choices_are_path_independent (conventional : data.IsConventional) {setup : Setup data}
    {history : History} {start : Session data} (reached : Reached setup history start) :
    (start.entry.status = .valid → ∀ path other first second code,
      Runs start path first → (∀ action ∈ path, action.isChoice = true) →
      Runs start other second → (∀ action ∈ other, action.isChoice = true) →
      first.entry.locale = second.entry.locale →
      first.entry.currency = some code → second.entry.currency = some code →
      first.entry.text = second.entry.text ∧ first.entry.status = second.entry.status ∧
        first.entry.value = second.entry.value ∧ first.entry.exact = second.entry.exact ∧
        first.entry.exact = start.entry.exact) ∧
    ∀ locale later, start.perform (.chooseLocale locale) = (.ok (), later) →
      later.entry.status = start.entry.status ∧ later.entry.currency = start.entry.currency ∧
        later.entry.value = start.entry.value := by
  obtain ⟨_, coherent⟩ := coherent_of_reached conventional reached
  constructor
  · intro valid path other first second code run choices otherRun otherChoices locale held otherHeld
    obtain ⟨amount, exact, _⟩ := coherent.shown valid
    have shown := shownAmount?_eq_some_iff.mpr ⟨valid, exact⟩
    have firstShown := run.shownAmount?_eq choices shown
    have secondShown := otherRun.shownAmount?_eq otherChoices shown
    obtain ⟨_, firstReached⟩ := run.reached reached
    obtain ⟨_, secondReached⟩ := otherRun.reached reached
    obtain ⟨setup_eq, firstCoherent⟩ := coherent_of_reached conventional firstReached
    obtain ⟨otherSetup_eq, secondCoherent⟩ := coherent_of_reached conventional secondReached
    obtain ⟨text, value⟩ := firstCoherent.shows_eq secondCoherent
      (setup_eq.trans otherSetup_eq.symm) locale held otherHeld firstShown secondShown
    obtain ⟨firstValid, firstExact⟩ := shownAmount?_eq_some_iff.mp firstShown
    obtain ⟨secondValid, secondExact⟩ := shownAmount?_eq_some_iff.mp secondShown
    exact ⟨text, firstValid.trans secondValid.symm, value, firstExact.trans secondExact.symm,
      firstExact.trans exact.symm⟩
  · intro locale later done
    exact coherent.keeps_value (step_of_perform done)

/-- An amount in euros is shown in yen, without a currency in Japan, and in Germany in euros again; or it
goes there at once. -/
theorem choices_are_path_independent_of_detour :
    LocaleData.excerpt.IsConventional ∧
      ∃ history, ∃ start first second : Session .excerpt, Reached { settings := {} } history start ∧
      start.entry.status = .valid ∧
      Runs start [.chooseCurrency (some "JPY"), .chooseLocale (.named "ja-JP"), .chooseCurrency none,
        .chooseLocale (.named "de-DE"), .chooseCurrency (some "EUR")] first ∧
      Runs start [.chooseLocale (.named "de_DE")] second ∧
      first.entry.text = "1.234,57".toList ∧ first.entry.text = second.entry.text ∧
      first.entry.value = second.entry.value ∧ first.entry.exact = start.entry.exact := by
  let opened : Session .excerpt := (create { settings := {} } { currency := some "EUR" }).2
  let start := (opened.perform (.typeText "1234.5678".toList)).2
  let inYen := (start.perform (.chooseCurrency (some "JPY"))).2
  let inJapan := (inYen.perform (.chooseLocale (.named "ja-JP"))).2
  let bare := (inJapan.perform (.chooseCurrency none)).2
  let inGermany := (bare.perform (.chooseLocale (.named "de-DE"))).2
  let first := (inGermany.perform (.chooseCurrency (some "EUR"))).2
  let second := (start.perform (.chooseLocale (.named "de_DE"))).2
  have decided : (opened.perform (.typeText "1234.5678".toList)).1.isOk = true ∧
      (start.perform (.chooseCurrency (some "JPY"))).1.isOk = true ∧
      (inYen.perform (.chooseLocale (.named "ja-JP"))).1.isOk = true ∧
      (inJapan.perform (.chooseCurrency none)).1.isOk = true ∧
      (bare.perform (.chooseLocale (.named "de-DE"))).1.isOk = true ∧
      (inGermany.perform (.chooseCurrency (some "EUR"))).1.isOk = true ∧
      (start.perform (.chooseLocale (.named "de_DE"))).1.isOk = true ∧
      start.entry.status = .valid ∧ first.entry.text = "1.234,57".toList ∧
      first.entry.locale = second.entry.locale ∧ first.entry.currency = some "EUR" ∧
      second.entry.currency = some "EUR" := by decide +kernel
  obtain ⟨typed, yen, japan, free, germany, euro, direct, valid, text, locale, held, otherHeld⟩ :=
    decided
  have created : Reached { settings := {} } _ opened := .created (eq_of_isOk (by decide))
  have reached : Reached { settings := {} } _ start := created.performed (eq_of_isOk typed)
  have detour : Runs start [.chooseCurrency (some "JPY"), .chooseLocale (.named "ja-JP"),
      .chooseCurrency none, .chooseLocale (.named "de-DE"), .chooseCurrency (some "EUR")] first :=
    .cons (eq_of_isOk yen) <| .cons (eq_of_isOk japan) <| .cons (eq_of_isOk free) <|
      .cons (eq_of_isOk germany) <| .cons (eq_of_isOk euro) .nil
  have direct : Runs start [.chooseLocale (.named "de_DE")] second :=
    .cons (eq_of_isOk direct) .nil
  have conventional := LocaleData.excerpt_isConventional
  obtain ⟨same, _, value, _, exact⟩ := (choices_are_path_independent conventional reached).1 valid
    _ _ _ _ "EUR" detour (by decide) direct (by decide) locale held otherHeld
  exact ⟨conventional, _, start, first, second, reached, valid, detour, direct, text, same, value, exact⟩

end Entry

end MonetaryText

import MonetaryText.Proofs.Entry.Run

/-!
The values that an entry emits. Whatever is done to an entry, and whatever of it breaks off, a value is an
amount at exactly the fraction digits of its currency (`value_fits_currency`).
-/

namespace MonetaryText

namespace Entry

/-- A value, if there is one, has as many fraction digits as its currency. -/
def FitsCurrency (data : LocaleData) (value : Option Money) : Prop :=
  ∀ money, value = some money →
    money.amount.exponent = -data.currencyDigits money.currency

theorem fitsCurrency_none (data : LocaleData) : FitsCurrency data none := by
  rintro money ⟨⟩

variable {data : LocaleData} {entry after : Entry data} {action : Action} {result : Except Error Unit}

/-- A currency decides on the fraction digits in every locale. -/
theorem fractionDigits_of_isCode {code : String} (held : entry.currency = some code)
    (known : Currency.isCode code = true) :
    entry.style.fractionDigits = data.currencyDigits code := by
  apply NumeralStyle.Request.fractionDigits_style
  simp only [request, NumeralStyle.Request.of, held]
  exact NumeralStyle.Request.currencyKey_of_isCode known

/-- The value comes last, and from an amount that was rounded in its currency. -/
theorem Writes.fitsCurrency (conventional : data.IsConventional) {amount : Extended}
    (writes : Writes entry amount result after) (fits : FitsCurrency data entry.value) :
    FitsCurrency data after.value := by
  cases writes with
  | unrounded | unwritten | unpriced | refused => exact fits
  | priced rounds _ held makes =>
    rintro money ⟨⟩
    obtain ⟨d, _, rounds⟩ := Amount.exists_finite_of_roundNumber rounds
    have places := Amount.exponent_of_round
      (isConventional_style conventional entry).few_places rounds
    obtain ⟨rfl, rfl⟩ := Money.make_eq_ok makes
    rw [← fractionDigits_of_isCode held (Money.isCode _)]
    exact places

theorem Understands.fitsCurrency (conventional : data.IsConventional)
    (understands : Understands entry result after) (fits : FitsCurrency data entry.value) :
    FitsCurrency data after.value := by
  cases understands with
  | rejected | broken => exact fits
  | written _ writes => exact writes.fitsCurrency conventional fits

/-- An action keeps the value, forgets it, or writes another one, also if it breaks off. -/
theorem Step.fitsCurrency (conventional : data.IsConventional) (step : Step entry action result after)
    (fits : FitsCurrency data entry.value) : FitsCurrency data after.value := by
  cases step with
  | typedBlank | withdrawn | cleared => exact fitsCurrency_none data
  | typedTooLittle | released | chosen | movedSilently | notEntered | fixed => exact fits
  | typed _ understands | reread _ _ _ understands => exact understands.fitsCurrency conventional fits
  | exchanged _ _ writes | moved _ writes | entered _ writes | paid writes =>
    exact writes.fitsCurrency conventional fits

theorem fitsCurrency_of_create (conventional : data.IsConventional) {setup : Setup data}
    {start : Start} {session : Session data}
    (done : create setup start = (.ok (), session)) : FitsCurrency data session.entry.value := by
  unfold create at done
  cases given : start.value with
  | none =>
    rw [given] at done
    cases done
    exact fitsCurrency_none data
  | some money =>
    rw [given] at done
    simp only at done
    split at done
    · have step := step_of_perform
        (show Session.perform { entry := blank setup start } (.enterMoney (some money)) = _ from done)
      exact step.fitsCurrency conventional (fitsCurrency_none data)
    · cases done

theorem fitsCurrency_of_attained (conventional : data.IsConventional) {setup : Setup data}
    {session : Session data} (attained : Attained setup session) :
    FitsCurrency data session.entry.value := by
  induction attained with
  | created done => exact fitsCurrency_of_create conventional done
  | performed _ action ih => exact (step_perform _ action).fitsCurrency conventional ih

/-- A value has three capital letters as its currency, and the fraction digits of this currency, whatever
has been done to the entry and has broken off before. -/
theorem value_fits_currency (conventional : data.IsConventional) {setup : Setup data}
    {session : Session data} (attained : Attained setup session) {money : Money}
    (emitted : session.entry.value = some money) :
    money.currency.length = 3 ∧ (∀ c ∈ money.currency.toList, 'A' ≤ c ∧ c ≤ 'Z') ∧
      money.amount.exponent = -data.currencyDigits money.currency := by
  obtain ⟨three, capitals⟩ := Currency.isCode_iff.mp money.isCode
  exact ⟨three, capitals, fitsCurrency_of_attained conventional attained money emitted⟩

/-- The currency in small letters breaks off what chooses it and what is typed next. The value is still
the one in euros. -/
theorem value_fits_currency_of_small_letters :
    LocaleData.excerpt.IsConventional ∧
      ∃ session : Session .excerpt, ∃ money, Attained { settings := {} } session ∧
      session.entry.status = .valid ∧ session.entry.text = "8.00".toList ∧
      session.entry.currency = some "eur" ∧ session.entry.value = some money ∧
      money.currency.length = 3 ∧ (∀ c ∈ money.currency.toList, 'A' ≤ c ∧ c ≤ 'Z') ∧
      money.amount.exponent = -LocaleData.excerpt.currencyDigits money.currency := by
  let first : Session .excerpt := (create { settings := {} } { currency := some "EUR" }).2
  let second := (first.perform (.typeText "12.5".toList)).2
  let third := (second.perform (.chooseCurrency (some "eur"))).2
  let fourth := (third.perform (.typeText "8".toList)).2
  have created : Attained { settings := {} } first := .created (eq_of_isOk (by decide))
  have attained : Attained { settings := {} } fourth :=
    ((created.performed _).performed _).performed _
  have left : fourth.entry.status = .valid ∧ fourth.entry.text = "8.00".toList ∧
      fourth.entry.currency = some "eur" ∧ fourth.entry.value.isSome = true := by decide +kernel
  obtain ⟨valid, text, currency, emits⟩ := left
  obtain ⟨money, emitted⟩ := Option.isSome_iff_exists.mp emits
  have conventional := LocaleData.excerpt_isConventional
  exact ⟨conventional, fourth, money, attained, valid, text, currency, emitted,
    value_fits_currency conventional attained emitted⟩

end Entry

end MonetaryText

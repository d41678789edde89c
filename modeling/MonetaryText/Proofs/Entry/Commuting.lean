import Mathlib.Control.Monad.Basic
import MonetaryText.Proofs.Entry.Rerendering
import MonetaryText.Proofs.Expression.FractionDigits

/-!
A text and a currency, in either order. The fraction digits of a currency have a say in quotients only, so
that both orders come to the same for a text without one. For a text with one they do exactly if it was
rejected in the earlier currency, or if its amounts in both currencies round to one number in the later one
(`typing_commutes_with_choosing`).
-/

namespace MonetaryText.Entry

variable {data : LocaleData} {entry other after : Entry data} {text : Text} {code : String}

/-- Two entries look the same: they have one status and, if they are valid, one text and one value. -/
def ShowsAs (entry other : Entry data) : Prop :=
  entry.status = other.status ∧
    (entry.status = .valid → entry.text = other.text ∧ entry.value = other.value)

/-! ### Styles -/

@[simp] theorem heldCode_of_isCode (known : Currency.isCode code = true) :
    heldCode (some code) = some code := by
  simp [heldCode, Currency.ne_empty_of_isCode known]

/-- What a text means to an entry under any currency. -/
def meaning (entry : Entry data) (currency : Option String) (text : Text) : Outcome :=
  entry.setup.understand (entry.styleFor currency) text

/-- Setup, locale and currency make the style. -/
theorem style_eq_styleFor (setup : other.setup = entry.setup) (locale : other.locale = entry.locale)
    (held : other.currency = some code) : other.style = entry.styleFor (some code) := by
  simp only [styleFor, style, request, setup, locale, held]

/-- Fraction digits matter to the understanding of quotients only. -/
theorem Setup.understand_fractionDigits (setup : Setup data) {style : NumeralStyle} {places : Nat}
    (few : style.fractionDigits ≤ 10) (otherFew : places ≤ 10)
    (simple : setup.calculable = false ∨ '/' ∉ text) :
    setup.understand { style with fractionDigits := places } text = setup.understand style text := by
  unfold Setup.understand
  rw [Expression.isWellFormed_fractionDigits, Numeral.read_fractionDigits]
  rcases simple with plain | absent
  · simp only [plain, Bool.false_eq_true, if_false]
  · rw [Expression.evaluate_fractionDigits absent (Amount.unitExponent_of_few _ few)
      (Amount.unitExponent_of_few _ otherFew)]

/-- Where no quotient is understood, or all currencies in question have the same fraction digits, a text
means the same under each of them. -/
theorem meaning_eq (conventional : data.IsConventional) (entry : Entry data) (currency : Option String)
    (simple : entry.setup.calculable = false ∨ '/' ∉ text ∨
      (entry.styleFor currency).fractionDigits = entry.style.fractionDigits) :
    entry.meaning currency text = entry.meaning entry.currency text := by
  have exchanged : entry.styleFor currency = { entry.style with
      fractionDigits := (entry.styleFor currency).fractionDigits } := by
    have asked : { entry with currency }.request =
        { entry.request with currency := NumeralStyle.Request.currencyKey currency } := rfl
    rw [styleFor, style, asked]
    exact entry.request.style_exchanged data _
  have few := (isConventional_style conventional entry).few_places
  have otherFew := (isConventional_styleFor conventional entry currency).few_places
  change entry.setup.understand (entry.styleFor currency) text =
    entry.setup.understand entry.style text
  rw [exchanged]
  rcases simple with plain | absent | same
  · exact entry.setup.understand_fractionDigits few otherFew (.inl plain)
  · exact entry.setup.understand_fractionDigits few otherFew (.inr absent)
  · rw [same]

/-! ### Amounts -/

/-- With a currency an amount is written as text and as value, both from one rounded number. -/
theorem Writes.exists_priced {amount : Extended} (writes : Writes entry amount (.ok ()) after)
    (held : entry.currency = some code) :
    ∃ rounded money, Amount.roundNumber entry.style amount.toNumber = .ok rounded ∧
      Amount.format entry.style rounded = .ok after.text ∧
      Money.make rounded code = .ok money ∧ after.value = some money := by
  cases writes with
  | unpriced _ _ free => cases held.symm.trans free
  | priced rounds formats same makes =>
    cases held.symm.trans same
    exact ⟨_, _, rounds, formats, makes, rfl⟩

theorem Writes.showsAs_iff {first second : Entry data} {x y : Extended}
    (writes : Writes entry x (.ok ()) first) (otherWrites : Writes other y (.ok ()) second)
    (held : entry.currency = some code) (otherHeld : other.currency = some code)
    (style : entry.style = other.style) :
    ShowsAs first second ↔
      Amount.roundNumber other.style x.toNumber =
        Amount.roundNumber other.style y.toNumber := by
  obtain ⟨rounded, money, rounds, formats, makes, value⟩ := writes.exists_priced held
  obtain ⟨otherRounded, otherMoney, otherRounds, otherFormats, otherMakes, otherValue⟩ :=
    otherWrites.exists_priced otherHeld
  rw [style] at rounds formats
  rw [rounds, otherRounds]
  constructor
  · rintro ⟨_, same⟩
    obtain ⟨_, values⟩ := same writes.status_eq
    rw [value, otherValue] at values
    cases values
    rw [← (Money.make_eq_ok makes).1, (Money.make_eq_ok otherMakes).1]
  · rintro ⟨⟩
    refine ⟨writes.status_eq.trans otherWrites.status_eq.symm, fun _ => ⟨?_, ?_⟩⟩
    · exact Except.ok.inj (formats.symm.trans otherFormats)
    · cases makes.symm.trans otherMakes
      exact value.trans otherValue.symm

/-- The same text in the same style comes to the same. -/
theorem Understands.showsAs {first second : Entry data} (understands : Understands entry (.ok ()) first)
    (again : Understands other (.ok ()) second) (held : entry.currency = some code)
    (otherHeld : other.currency = some code) (style : entry.style = other.style)
    (same : other.setup.understand other.style other.text =
      entry.setup.understand entry.style entry.text) : ShowsAs first second := by
  cases understands with
  | rejected meaning =>
    obtain ⟨_, rfl⟩ := again.of_rejected (same.trans meaning)
    exact ⟨rfl, nofun⟩
  | written meaning writes =>
    cases again with
    | rejected otherMeaning => cases (same.trans meaning).symm.trans otherMeaning
    | written otherMeaning otherWrites =>
      cases (same.trans meaning).symm.trans otherMeaning
      exact (writes.showsAs_iff otherWrites held otherHeld style).mpr rfl

/-! ### Orders -/

/-- A choice leaves the locale, and the currency that was chosen. -/
theorem Step.frame_of_chooseCurrency {choice : Option String} {result : Except Error Unit}
    (step : Step entry (.chooseCurrency choice) result after) :
    after.setup = entry.setup ∧ after.locale = entry.locale ∧ after.currency = heldCode choice := by
  cases step with
  | released | chosen => exact ⟨rfl, rfl, rfl⟩
  | exchanged _ _ writes => exact writes.frame
  | reread _ _ _ understands => exact understands.frame

/-- The currency first: the text is understood in it. -/
theorem Step.understands_of_chosen {middle : Entry data} (solid : Text.isBlankText text = false)
    (known : Currency.isCode code = true)
    (chosen : Step entry (.chooseCurrency (some code)) (.ok ()) middle)
    (typed : Step middle (.typeText text) (.ok ()) after) :
    ∃ before, before.setup = entry.setup ∧ before.locale = entry.locale ∧
      before.currency = some code ∧ before.text = text ∧ Understands before (.ok ()) after := by
  obtain ⟨setup, locale, held⟩ := chosen.frame_of_chooseCurrency
  rw [heldCode_of_isCode known] at held
  cases typed with
  | typedBlank blank | typedTooLittle blank => cases solid.symm.trans blank
  | typed _ understands => exact ⟨{ middle with text }, setup, locale, held, rfl, understands⟩

/-- The text first: it is understood in the earlier currency, and if it was rejected, again in the later
one. Else its amount is written in the later currency. -/
theorem Step.understands_or_writes {middle : Entry data} (solid : Text.isBlankText text = false)
    (known : Currency.isCode code = true) (typed : Step entry (.typeText text) (.ok ()) middle)
    (chosen : Step middle (.chooseCurrency (some code)) (.ok ()) after) :
    ∃ before, before.setup = entry.setup ∧ before.locale = entry.locale ∧
      before.currency = some code ∧
      ((∃ rejection, entry.meaning entry.currency text = .rejected rejection) ∧
          before.text = text ∧ Understands before (.ok ()) after ∨
        ∃ amount, entry.meaning entry.currency text = .amount amount ∧
          Writes before amount (.ok ()) after) := by
  cases typed with
  | typedBlank blank | typedTooLittle blank => cases solid.symm.trans blank
  | typed _ understands =>
    obtain ⟨setup, locale, _⟩ := understands.frame
    refine ⟨{ middle with currency := heldCode (some code) }, setup, locale,
      heldCode_of_isCode known, ?_⟩
    cases understands with
    | rejected meaning =>
      refine .inl ⟨⟨_, meaning⟩, rfl, ?_⟩
      cases chosen with
      | released free => cases (heldCode_of_isCode known).symm.trans free
      | exchanged _ shown => cases shown
      | chosen _ _ blank => cases solid.symm.trans blank
      | reread _ _ _ again => exact again
    | @written amount _ _ meaning writes =>
      refine .inr ⟨amount, meaning, ?_⟩
      have shown := writes.shownAmount?_eq
      cases chosen with
      | released free => cases (heldCode_of_isCode known).symm.trans free
      | exchanged _ same again =>
        cases shown.symm.trans same
        exact again
      | chosen _ hidden | reread _ hidden => cases shown.symm.trans hidden

/-- Both orders at once: what is left of the first understanding decides. -/
theorem Step.showsAs_iff {typedOnly chosenOnly first second : Entry data}
    (solid : Text.isBlankText text = false) (known : Currency.isCode code = true)
    (typed : Step entry (.typeText text) (.ok ()) typedOnly)
    (thenChosen : Step typedOnly (.chooseCurrency (some code)) (.ok ()) first)
    (chosen : Step entry (.chooseCurrency (some code)) (.ok ()) chosenOnly)
    (thenTyped : Step chosenOnly (.typeText text) (.ok ()) second) :
    ShowsAs first second ↔
      (∃ rejection, entry.meaning entry.currency text = .rejected rejection) ∨
        ∃ x y, entry.meaning entry.currency text = .amount x ∧
          entry.meaning (some code) text = .amount y ∧
          Amount.roundNumber (entry.styleFor (some code)) x.toNumber =
            Amount.roundNumber (entry.styleFor (some code)) y.toNumber := by
  obtain ⟨before, setup, locale, held, early⟩ :=
    Step.understands_or_writes solid known typed thenChosen
  obtain ⟨otherBefore, otherSetup, otherLocale, otherHeld, sameText, late⟩ :=
    Step.understands_of_chosen solid known chosen thenTyped
  have style := style_eq_styleFor setup locale held
  have otherStyle := style_eq_styleFor otherSetup otherLocale otherHeld
  have understood : otherBefore.setup.understand otherBefore.style otherBefore.text =
      entry.meaning (some code) text := by
    rw [otherSetup, otherStyle, sameText, meaning]
  rcases early with ⟨rejected, again, understands⟩ | ⟨x, earlier, writes⟩
  · refine iff_of_true ?_ (.inl rejected)
    refine understands.showsAs late held otherHeld (style.trans otherStyle.symm) ?_
    rw [understood, setup, style, again, meaning]
  · cases late with
    | rejected later =>
      refine iff_of_false ?_ ?_
      · rintro ⟨status, _⟩
        cases writes.status_eq.symm.trans status
      · rintro (⟨_, rejected⟩ | ⟨_, y, _, amount, _⟩)
        · cases earlier.symm.trans rejected
        · cases (understood.trans amount).symm.trans later
    | @written y _ _ later otherWrites =>
      rw [writes.showsAs_iff otherWrites held otherHeld (style.trans otherStyle.symm), otherStyle]
      constructor
      · intro same
        exact .inr ⟨x, y, earlier, understood.symm.trans later, same⟩
      · rintro (⟨_, rejected⟩ | ⟨x, y, amount, otherAmount, same⟩)
        · cases earlier.symm.trans rejected
        · cases earlier.symm.trans amount
          cases (understood.trans otherAmount).symm.trans later
          exact same

/-- Typing a text and choosing a currency come to the same in either order where no quotient is understood,
or where the fraction digits stay. Else they do exactly if the text is rejected in the earlier currency, so
that it is understood in the later one both times, or if its amounts in the two currencies round to the same
number. -/
theorem typing_commutes_with_choosing (conventional : data.IsConventional)
    {session first second : Session data} {text : Text} {code : String}
    (solid : Text.isBlankText text = false) (known : Currency.isCode code = true)
    (typedFirst : Runs session [.typeText text, .chooseCurrency (some code)] first)
    (chosenFirst : Runs session [.chooseCurrency (some code), .typeText text] second) :
    (session.entry.setup.calculable = false ∨ '/' ∉ text ∨
        (session.entry.styleFor (some code)).fractionDigits =
          session.entry.style.fractionDigits →
      ShowsAs first.entry second.entry) ∧
    (ShowsAs first.entry second.entry ↔
      (∃ rejection, session.entry.meaning session.entry.currency text = .rejected rejection) ∨
        ∃ x y, session.entry.meaning session.entry.currency text = .amount x ∧
          session.entry.meaning (some code) text = .amount y ∧
          Amount.roundNumber (session.entry.styleFor (some code)) x.toNumber =
            Amount.roundNumber (session.entry.styleFor (some code)) y.toNumber) := by
  obtain ⟨_, typed, thenChosen⟩ := typedFirst.exists_middle
  obtain ⟨_, chosen, thenTyped⟩ := chosenFirst.exists_middle
  have compared := Step.showsAs_iff solid known (step_of_perform typed) (step_of_perform thenChosen)
    (step_of_perform chosen) (step_of_perform thenTyped)
  refine ⟨fun simple => compared.mpr ?_, compared⟩
  obtain ⟨_, _, _, _, ⟨rejected, _⟩ | ⟨x, earlier, _⟩⟩ := Step.understands_or_writes solid known
    (step_of_perform typed) (step_of_perform thenChosen)
  · exact .inl rejected
  · exact .inr ⟨x, x, earlier, (meaning_eq conventional _ _ simple).trans earlier, rfl⟩

/-- A product in euros, shown in yen. -/
theorem typing_commutes_with_choosing_of_product :
    LocaleData.excerpt.IsConventional ∧ ∃ history, ∃ session first second : Session .excerpt,
      Reached { settings := {}, calculable := true } history session ∧
      Runs session [.typeText "12.5*3".toList, .chooseCurrency (some "JPY")] first ∧
      Runs session [.chooseCurrency (some "JPY"), .typeText "12.5*3".toList] second ∧
      second.entry.status = .valid ∧ second.entry.text = "38".toList ∧
      ShowsAs first.entry second.entry := by
  let session : Session .excerpt :=
    (create { settings := {}, calculable := true } { currency := some "EUR" }).2
  let typed := (session.perform (.typeText "12.5*3".toList)).2
  let first := (typed.perform (.chooseCurrency (some "JPY"))).2
  let chosen := (session.perform (.chooseCurrency (some "JPY"))).2
  let second := (chosen.perform (.typeText "12.5*3".toList)).2
  have decided : (session.perform (.typeText "12.5*3".toList)).1.isOk = true ∧
      (typed.perform (.chooseCurrency (some "JPY"))).1.isOk = true ∧
      (session.perform (.chooseCurrency (some "JPY"))).1.isOk = true ∧
      (chosen.perform (.typeText "12.5*3".toList)).1.isOk = true ∧
      second.entry.status = .valid ∧ second.entry.text = "38".toList := by decide +kernel
  obtain ⟨typing, thenChoosing, choosing, thenTyping, valid, text⟩ := decided
  have created : Reached { settings := {}, calculable := true } _ session :=
    .created (eq_of_isOk (by decide))
  have typedFirst : Runs session [.typeText "12.5*3".toList, .chooseCurrency (some "JPY")] first :=
    .cons (eq_of_isOk typing) <| .cons (eq_of_isOk thenChoosing) .nil
  have chosenFirst : Runs session [.chooseCurrency (some "JPY"), .typeText "12.5*3".toList] second :=
    .cons (eq_of_isOk choosing) <| .cons (eq_of_isOk thenTyping) .nil
  have conventional := LocaleData.excerpt_isConventional
  have same := (typing_commutes_with_choosing conventional (by decide) (by decide) typedFirst
    chosenFirst).1 (.inr (.inl (by decide)))
  exact ⟨conventional, _, session, first, second, created, typedFirst, chosenFirst, valid, text, same⟩

/-- A quotient is rounded in yen when it is typed, and is not rounded again in euros. -/
theorem typing_commutes_with_choosing_not_of_quotient :
    ∃ history, ∃ session first second : Session .excerpt,
      Reached { settings := {}, calculable := true } history session ∧
      Runs session [.typeText "10/4".toList, .chooseCurrency (some "EUR")] first ∧
      Runs session [.chooseCurrency (some "EUR"), .typeText "10/4".toList] second ∧
      first.entry.status = .valid ∧ second.entry.status = .valid ∧
      first.entry.text = "2.00".toList ∧ second.entry.text = "2.50".toList ∧
      first.entry.value ≠ second.entry.value := by
  let session : Session .excerpt :=
    (create { settings := {}, calculable := true } { currency := some "JPY" }).2
  let typed := (session.perform (.typeText "10/4".toList)).2
  let first := (typed.perform (.chooseCurrency (some "EUR"))).2
  let chosen := (session.perform (.chooseCurrency (some "EUR"))).2
  let second := (chosen.perform (.typeText "10/4".toList)).2
  have decided : (session.perform (.typeText "10/4".toList)).1.isOk = true ∧
      (typed.perform (.chooseCurrency (some "EUR"))).1.isOk = true ∧
      (session.perform (.chooseCurrency (some "EUR"))).1.isOk = true ∧
      (chosen.perform (.typeText "10/4".toList)).1.isOk = true ∧
      first.entry.status = .valid ∧ second.entry.status = .valid ∧
      first.entry.text = "2.00".toList ∧ second.entry.text = "2.50".toList ∧
      first.entry.value.map (·.amount) ≠ second.entry.value.map (·.amount) := by decide +kernel
  obtain ⟨typing, thenChoosing, choosing, thenTyping, valid, otherValid, text, otherText, values⟩ :=
    decided
  have created : Reached { settings := {}, calculable := true } _ session :=
    .created (eq_of_isOk (by decide))
  exact ⟨_, session, first, second, created,
    .cons (eq_of_isOk typing) (.cons (eq_of_isOk thenChoosing) .nil),
    .cons (eq_of_isOk choosing) (.cons (eq_of_isOk thenTyping) .nil),
    valid, otherValid, text, otherText, fun same => values (congrArg _ same)⟩

end MonetaryText.Entry

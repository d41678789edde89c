import MonetaryText.Proofs.Amount.RoundTrip
import MonetaryText.Proofs.Entry.Step
import MonetaryText.Proofs.Locale.Excerpt

/-!
Runs in which nothing breaks off. At any time the text, the status, the amount, the currency and the
value of an entry fit together (`coherent_of_reached`): what is shown is the text of the amount that is
held, and invalid text is as it was typed.
-/

namespace MonetaryText

theorem Money.make_eq_ok {amount : Decimal} {code : String} {money : Money}
    (makes : Money.make amount code = .ok money) : money.amount = amount ∧ money.currency = code := by
  unfold Money.make at makes
  split at makes
  · cases makes
    exact ⟨rfl, rfl⟩
  · cases makes

namespace Entry

variable {data : LocaleData}

/-! ### Runs -/

/-- What a run leaves behind beside the entry: the text that was typed last, and the currency in force
when an amount was written last. -/
structure History where
  typed : Option Text := none
  shown : Option String := none

/-- Whether an action that left a valid entry has written the amount, also if anew. It has not where the
currency was only taken away or fixed. -/
def Action.writes : Action → Bool
  | chooseCurrency code => (heldCode code).isSome
  | fixCurrency _ => false
  | _ => true

def History.after (history : History) (action : Action) (entry : Entry data) : History where
  typed :=
    match action with
    | .typeText text => some text
    | _ => history.typed
  shown :=
    if entry.status = .valid ∧ action.writes = true then entry.currency else history.shown

/-- The runs of a session, with their histories. -/
inductive Reached (setup : Setup data) : History → Session data → Prop where
  | created {start : Start} {session : Session data} (done : create setup start = (.ok (), session)) :
      Reached setup { shown := start.value.map (·.currency) } session
  | performed {history : History} {session later : Session data} {action : Action}
      (before : Reached setup history session) (done : session.perform action = (.ok (), later)) :
      Reached setup (history.after action later.entry) later

theorem eq_of_isOk {outcome : Except Error Unit × Session data} (done : outcome.1.isOk = true) :
    outcome = (.ok (), outcome.2) := by
  obtain ⟨_ | _, session⟩ := outcome
  · cases done
  · rfl

/-! ### Coherence -/

/-- How the parts of an entry fit together. With or without a currency, valid text is the one of the
currency in force when it was written; a currency that is selected is this one. -/
structure Coherent (history : History) (entry : Entry data) : Prop where
  empty : entry.status = .empty →
    Text.isBlankText entry.text = true ∧ entry.value = none ∧ entry.exact = none
  shown : entry.status = .valid → ∃ amount, entry.exact = some (.finite amount) ∧
    Amount.format (entry.styleFor history.shown) amount = .ok entry.text
  priced : ∀ code amount, entry.status = .valid → entry.currency = some code →
    entry.exact = some (.finite amount) → history.shown = some code ∧
      ∃ money, entry.value = some money ∧
        Amount.round (entry.styleFor (some code)) amount = .ok money.amount ∧ money.currency = code
  invalid : entry.status = .invalid → history.typed = some entry.text

variable {history : History} {entry after : Entry data} {action : Action}

theorem isConventional_styleFor (conventional : data.IsConventional) (entry : Entry data)
    (currency : Option String) : (entry.styleFor currency).IsConventional :=
  NumeralStyle.Request.isConventional_style conventional ..

theorem isConventional_style (conventional : data.IsConventional) (entry : Entry data) :
    entry.style.IsConventional :=
  isConventional_styleFor conventional entry entry.currency

/-- A written entry is coherent, whatever it was before. -/
theorem coherent_of_writes (conventional : data.IsConventional) {amount : Extended}
    (writes : Writes entry amount (.ok ()) after)
    (shown : history.shown = after.currency) : Coherent history after := by
  cases writes with
  | @unpriced rounded text rounds formats free =>
    obtain ⟨d, rfl, rounds⟩ := Amount.exists_finite_of_roundNumber rounds
    have style : entry.style = entry.styleFor none := by rw [← free]; rfl
    rw [style] at rounds formats
    rw [Amount.format_of_round (isConventional_styleFor conventional ..) rounds] at formats
    refine ⟨nofun, fun _ => ⟨d, rfl, ?_⟩, fun code _ _ held => ?_, nofun⟩
    · rw [shown.trans free]
      exact formats
    · cases free.symm.trans held
  | @priced rounded text code money rounds formats held makes =>
    obtain ⟨d, rfl, rounds⟩ := Amount.exists_finite_of_roundNumber rounds
    obtain ⟨rfl, rfl⟩ := Money.make_eq_ok makes
    have style : entry.style = entry.styleFor (some money.currency) := by rw [← held]; rfl
    rw [style] at rounds formats
    rw [Amount.format_of_round (isConventional_styleFor conventional ..) rounds] at formats
    have shown : history.shown = some money.currency := shown.trans held
    refine ⟨nofun, fun _ => ⟨d, rfl, ?_⟩, fun code amount _ still same => ?_, nofun⟩
    · rw [shown]
      exact formats
    · cases held.symm.trans still
      cases same
      exact ⟨shown, money, rfl, rounds, rfl⟩

/-- Text that is understood is written; other text is invalid as it was typed. -/
theorem coherent_of_understands (conventional : data.IsConventional)
    (understands : Understands entry (.ok ()) after) (typed : history.typed = some entry.text)
    (shown : after.status = .valid → history.shown = after.currency) : Coherent history after := by
  cases understands with
  | rejected meaning => exact ⟨nofun, nofun, nofun, fun _ => typed⟩
  | written meaning writes => exact coherent_of_writes conventional writes (shown writes.status_eq)

theorem coherent_of_emptied (blank : Text.isBlankText entry.text = true) :
    Coherent history entry.emptied :=
  ⟨fun _ => ⟨blank, rfl, rfl⟩, nofun, nofun, nofun⟩

theorem Coherent.status_ne_valid (coherent : Coherent history entry)
    (hidden : entry.shownAmount? = none) : entry.status ≠ .valid := by
  intro valid
  obtain ⟨amount, exact, _⟩ := coherent.shown valid
  cases hidden.symm.trans (shownAmount?_eq_some_iff.mpr ⟨valid, exact⟩)

/-- Text that is neither shown for an amount nor blank was typed. -/
theorem Coherent.typed_eq (coherent : Coherent history entry) (hidden : entry.shownAmount? = none)
    (solid : Text.isBlankText entry.text = false) : history.typed = some entry.text := by
  cases status : entry.status with
  | empty => cases solid.symm.trans (coherent.empty status).1
  | valid => exact absurd status (coherent.status_ne_valid hidden)
  | invalid => exact coherent.invalid status

theorem History.shown_after (silent : entry.status ≠ .valid ∨ action.writes = false) :
    (history.after action entry).shown = history.shown := by
  refine if_neg ?_
  rintro ⟨valid, writes⟩
  rcases silent with hidden | silent
  · exact hidden valid
  · cases silent.symm.trans writes

/-- An action keeps an entry coherent: it writes an amount, empties the entry, marks its text, or leaves
text, status, amount and value alone. -/
theorem coherent_of_step (conventional : data.IsConventional) (coherent : Coherent history entry)
    (step : Step entry action (.ok ()) after) :
    Coherent (history.after action after) after := by
  -- Nothing is needed of the entry before where it is written or emptied. Where it is kept, the history
  -- must not move on: the currency in force is still the one of the last writing.
  cases step with
  | typedBlank blank allowed => exact coherent_of_emptied blank
  | typedTooLittle blank required => exact ⟨nofun, nofun, nofun, fun _ => rfl⟩
  | typed solid understands =>
    exact coherent_of_understands conventional understands rfl fun valid => if_pos ⟨valid, rfl⟩
  | @released code free =>
    have same : (history.after (.chooseCurrency code) { entry with currency := heldCode code }).shown =
        history.shown := History.shown_after (.inr (congrArg Option.isSome free))
    refine ⟨coherent.empty, ?_, ?_, coherent.invalid⟩
    · rw [same]
      exact coherent.shown
    · intro code _ _ held
      cases free.symm.trans held
  | exchanged held shown writes =>
    exact coherent_of_writes conventional writes (if_pos ⟨writes.status_eq, held⟩)
  | reread held hidden solid understands =>
    exact coherent_of_understands conventional understands (coherent.typed_eq hidden solid)
      fun valid => if_pos ⟨valid, held⟩
  | moved shown writes => exact coherent_of_writes conventional writes (if_pos ⟨writes.status_eq, rfl⟩)
  | chosen _ hidden _ | movedSilently hidden =>
    have other := coherent.status_ne_valid hidden
    exact ⟨coherent.empty, fun valid => absurd valid other, fun _ _ valid => absurd valid other,
      coherent.invalid⟩
  | entered reads writes => exact coherent_of_writes conventional writes (if_pos ⟨writes.status_eq, rfl⟩)
  | withdrawn => exact coherent_of_emptied rfl
  | paid writes => exact coherent_of_writes conventional writes (if_pos ⟨writes.status_eq, rfl⟩)
  | cleared => exact coherent_of_emptied rfl
  | fixed =>
    rename_i fixed
    have same : (history.after (.fixCurrency fixed) { entry with currencyReadOnly := fixed }).shown =
        history.shown := History.shown_after (.inr rfl)
    refine ⟨coherent.empty, ?_, ?_, coherent.invalid⟩
    · rw [same]
      exact coherent.shown
    · rw [same]
      exact coherent.priced

theorem step_of_perform {session later : Session data}
    (done : session.perform action = (.ok (), later)) :
    Step session.entry action (.ok ()) later.entry := by
  have step := step_perform session action
  rwa [done] at step

/-- An entry begins empty, or with an amount written. -/
theorem coherent_of_create (conventional : data.IsConventional) {setup : Setup data} {start : Start}
    {session : Session data} (done : create setup start = (.ok (), session)) :
    session.entry.setup = setup ∧
      Coherent { shown := start.value.map (·.currency) } session.entry := by
  unfold create at done
  cases given : start.value with
  | none =>
    rw [given] at done
    cases done
    exact ⟨rfl, fun _ => ⟨rfl, rfl, rfl⟩, nofun, nofun, nofun⟩
  | some money =>
    rw [given] at done
    simp only at done
    split at done
    · have step := step_of_perform
        (show Session.perform { entry := blank setup start } (.enterMoney (some money)) = _ from done)
      cases step with
      | paid writes =>
        exact ⟨writes.frame.1, coherent_of_writes conventional writes writes.frame.2.2.symm⟩
    · cases done

theorem coherent_of_reached (conventional : data.IsConventional) {setup : Setup data}
    {session : Session data} (reached : Reached setup history session) :
    session.entry.setup = setup ∧ Coherent history session.entry := by
  induction reached with
  | created done => exact coherent_of_create conventional done
  | performed _ done ih =>
    have step := step_of_perform done
    exact ⟨step.setup_eq.trans ih.1, coherent_of_step conventional ih.2 step⟩

/-- The parts of an entry at any time of a run in which nothing breaks off. -/
theorem reached_parts_fit (conventional : data.IsConventional) {setup : Setup data}
    {session : Session data} (reached : Reached setup history session) :
    session.entry.setup = setup ∧
    (session.entry.status = .empty → Text.isBlankText session.entry.text = true ∧
      session.entry.value = none ∧ session.entry.exact = none) ∧
    (∀ code, session.entry.status = .valid → session.entry.currency = some code →
      ∃ amount money, session.entry.exact = some (.finite amount) ∧
        Amount.format (session.entry.styleFor (some code)) amount = .ok session.entry.text ∧
        session.entry.value = some money ∧
        Amount.round (session.entry.styleFor (some code)) amount = .ok money.amount ∧
        money.currency = code) ∧
    (session.entry.status = .valid → session.entry.currency = none →
      ∃ amount, session.entry.exact = some (.finite amount) ∧
        Amount.format (session.entry.styleFor history.shown) amount = .ok session.entry.text) ∧
    (session.entry.status = .invalid → history.typed = some session.entry.text) := by
  obtain ⟨setup_eq, coherent⟩ := coherent_of_reached conventional reached
  refine ⟨setup_eq, coherent.empty, ?_, fun valid _ => coherent.shown valid, coherent.invalid⟩
  intro code valid held
  obtain ⟨amount, exact, formats⟩ := coherent.shown valid
  obtain ⟨shown, money, value, rounds, same⟩ := coherent.priced code amount valid held exact
  rw [shown] at formats
  exact ⟨amount, money, exact, formats, value, rounds, same⟩

/-- An amount that is typed in euros, and then shown in yen. -/
theorem reached_parts_fit_of_exchange :
    LocaleData.excerpt.IsConventional ∧
      ∃ history, ∃ session : Session .excerpt, Reached { settings := {} } history session ∧
      session.entry.text = "1,235".toList ∧ session.entry.status = .valid ∧
      session.entry.currency = some "JPY" ∧
      ∃ amount money, session.entry.exact = some (.finite amount) ∧
        Amount.format (session.entry.styleFor (some "JPY")) amount = .ok session.entry.text ∧
        session.entry.value = some money ∧
        Amount.round (session.entry.styleFor (some "JPY")) amount = .ok money.amount ∧
        money.currency = "JPY" := by
  let first : Session .excerpt := (create { settings := {} } { currency := some "EUR" }).2
  let second := (first.perform (.typeText "1234.5678".toList)).2
  let third := (second.perform (.chooseCurrency (some "JPY"))).2
  have created : Reached { settings := {} } _ first := .created (eq_of_isOk (by decide))
  have typed : Reached { settings := {} } _ second := created.performed (eq_of_isOk (by decide +kernel))
  have exchanged : Reached { settings := {} } _ third := typed.performed (eq_of_isOk (by decide +kernel))
  have shown : third.entry.text = "1,235".toList ∧ third.entry.status = .valid ∧
      third.entry.currency = some "JPY" := by decide +kernel
  have conventional := LocaleData.excerpt_isConventional
  exact ⟨conventional, _, third, exchanged, shown.1, shown.2.1, shown.2.2,
    (reached_parts_fit conventional exchanged).2.2.1 "JPY" shown.2.1 shown.2.2⟩

end Entry

end MonetaryText

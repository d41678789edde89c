import MonetaryText.Proofs.Entry.Commuting
import MonetaryText.Proofs.Entry.Interruption

/-!
An entry whose text is invalid. What fails takes nothing but the text and the status: the last value, and the
amount behind it, stay until an amount is understood or forgotten (`invalid_text_keeps_value`). Typing and
choosing can go on meanwhile, and a text is understood again in every currency that is chosen, but never in
another locale.
-/

namespace MonetaryText.Entry

variable {data : LocaleData}

/-- The actions that leave an amount to the text: typing one, and the choices. -/
def Action.isInput : Action → Bool
  | typeText _ => true
  | action => action.isChoice

/-- The text after some actions, if none of them writes one. -/
def lastTyped (text : Text) : List Action → Text
  | [] => text
  | .typeText later :: actions => lastTyped later actions
  | _ :: actions => lastTyped text actions

/-- Actions that are performed in their order, none of which breaks off, while the entry is invalid all
along. -/
inductive RunsInvalid : Session data → List Action → Session data → Prop where
  | nil {session : Session data} (invalid : session.entry.status = .invalid) :
      RunsInvalid session [] session
  | cons {session middle later : Session data} {action : Action} {actions : List Action}
      (invalid : session.entry.status = .invalid)
      (done : session.perform action = (.ok (), middle)) (rest : RunsInvalid middle actions later) :
      RunsInvalid session (action :: actions) later

/-- The ways out of an invalid entry: a text that is understood, also in a currency that is chosen later, a
blank text where none is required, an amount that comes from elsewhere, and forgetting. -/
def Action.Resolves (entry : Entry data) : Action → Prop
  | typeText text =>
    Text.isBlankText text = true ∧ entry.setup.allowEmpty = true ∨
      Text.isBlankText text = false ∧ ∃ amount, entry.meaning entry.currency text = .amount amount
  | chooseCurrency code =>
    ∃ chosen amount, heldCode code = some chosen ∧ Text.isBlankText entry.text = false ∧
      entry.meaning (some chosen) entry.text = .amount amount
  | enterNumber _ | enterMoney _ | clear => True
  | chooseLocale _ | fixCurrency _ => False

variable {entry after : Entry data} {action : Action} {result : Except Error Unit}

/-! ### Steps -/

theorem RunsInvalid.status_eq {session later : Session data} {actions : List Action}
    (run : RunsInvalid session actions later) : session.entry.status = .invalid := by
  cases run with
  | nil invalid => exact invalid
  | cons invalid => exact invalid

/-- Text that is understood leaves a valid entry. -/
theorem Understands.of_invalid (understands : Understands entry (.ok ()) after)
    (invalid : after.status = .invalid) : after = { entry with status := .invalid } := by
  cases understands with
  | rejected => rfl
  | written _ writes => cases writes.status_eq.symm.trans invalid

/-- What leaves an entry invalid has changed only what it was given, and the status. -/
theorem Step.eq_taken_of_invalid (step : Step entry action (.ok ()) after)
    (input : action.isInput = true) (invalid : after.status = .invalid) :
    after = { action.taken entry with status := .invalid } := by
  cases step with
  | typedBlank => cases invalid
  | typedTooLittle => rfl
  | typed _ understands | reread _ _ _ understands => exact understands.of_invalid invalid
  | exchanged _ _ writes | moved _ writes => cases writes.status_eq.symm.trans invalid
  | released | chosen | movedSilently =>
    -- The status is the one from before, so that setting it to invalid changes nothing.
    rw [← invalid]
    rfl
  | entered | withdrawn | paid | cleared | fixed => cases input

theorem Understands.resolves (understands : Understands entry result after)
    (invalid : entry.status = .invalid) (ended : after.status ≠ .invalid) :
    ∃ amount, entry.setup.understand entry.style entry.text = .amount amount := by
  cases understands with
  | rejected => exact absurd rfl ended
  | broken => exact absurd invalid ended
  | written meaning => exact ⟨_, meaning⟩

theorem Understands.status_ne_invalid {amount : Extended}
    (understands : Understands entry (.ok ()) after)
    (meaning : entry.setup.understand entry.style entry.text = .amount amount) :
    after.status ≠ .invalid := by
  cases understands with
  | rejected other => cases meaning.symm.trans other
  | written _ writes =>
    rw [writes.status_eq]
    nofun

theorem shownAmount?_of_invalid (invalid : entry.status = .invalid) : entry.shownAmount? = none :=
  shownAmount?_eq_none fun _ valid _ => by cases invalid.symm.trans valid

/-- Nothing else ends an invalid entry, even if it breaks off. -/
theorem Step.resolves (step : Step entry action result after) (invalid : entry.status = .invalid)
    (ended : after.status ≠ .invalid) : action.Resolves entry := by
  cases step with
  | typedBlank blank allowed => exact .inl ⟨blank, allowed⟩
  | typedTooLittle => exact absurd rfl ended
  | typed solid understands => exact .inr ⟨solid, understands.resolves invalid ended⟩
  | released | chosen | movedSilently | fixed => exact absurd invalid ended
  | exchanged _ shown | moved shown => cases (shownAmount?_of_invalid invalid).symm.trans shown
  | @reread code _ _ held _ solid understands =>
    obtain ⟨chosen, same⟩ := Option.isSome_iff_exists.mp held
    obtain ⟨amount, meaning⟩ := understands.resolves invalid ended
    rw [same] at meaning
    exact ⟨chosen, amount, same, solid, meaning⟩
  | notEntered | entered | withdrawn | paid | cleared => trivial

/-- Each of the ways leads out, unless it breaks off. -/
theorem Step.status_ne_invalid (step : Step entry action (.ok ()) after)
    (resolves : action.Resolves entry) : after.status ≠ .invalid := by
  cases step with
  | typedBlank | withdrawn | cleared => nofun
  | typedTooLittle blank required =>
    rcases resolves with ⟨_, allowed⟩ | ⟨solid, _⟩
    · cases required.symm.trans allowed
    · cases solid.symm.trans blank
  | typed solid understands =>
    rcases resolves with ⟨blank, _⟩ | ⟨_, amount, meaning⟩
    · cases solid.symm.trans blank
    · exact understands.status_ne_invalid meaning
  | released free =>
    obtain ⟨chosen, _, held, _⟩ := resolves
    cases free.symm.trans held
  | chosen _ _ blank =>
    obtain ⟨_, _, _, solid, _⟩ := resolves
    cases solid.symm.trans blank
  | reread _ _ _ understands =>
    obtain ⟨chosen, amount, held, _, meaning⟩ := resolves
    rw [← held] at meaning
    exact understands.status_ne_invalid meaning
  | exchanged _ _ writes | entered _ writes | paid writes =>
    rw [writes.status_eq]
    nofun
  | moved | movedSilently | fixed => cases resolves

/-! ### Runs -/

/-- Along a run the text is the one typed last, and what is behind it stays. -/
theorem RunsInvalid.keeps {session later : Session data} {actions : List Action}
    (run : RunsInvalid session actions later) (inputs : ∀ action ∈ actions, action.isInput = true) :
    later.entry.status = .invalid ∧ later.entry.text = lastTyped session.entry.text actions ∧
      later.entry.value = session.entry.value ∧ later.entry.exact = session.entry.exact := by
  induction run with
  | nil invalid => exact ⟨invalid, rfl, rfl, rfl⟩
  | @cons session middle later action actions invalid done rest ih =>
    have input := inputs action List.mem_cons_self
    obtain ⟨status, text, value, exact⟩ :=
      ih fun other member => inputs other (List.mem_cons_of_mem action member)
    have same := (step_of_perform done).eq_taken_of_invalid input rest.status_eq
    rw [same] at text value exact
    refine ⟨status, ?_, value.trans (action.value_taken session.entry), ?_⟩
    · cases action with
      | typeText | chooseCurrency | chooseLocale => exact text
      | _ => cases input
    · cases action with
      | typeText | chooseCurrency | chooseLocale => exact exact
      | _ => cases input

/-- Text that is refused is kept as it was typed, and changes nothing else but the status. As long as typing and
choosing leave the entry invalid, the text is the one typed last and the value the one from before the first
failure. What ends this is a text that is understood, a blank one that is allowed, an amount from elsewhere, or
forgetting, and never a locale. -/
theorem invalid_text_keeps_value (session : Session data) :
    (∀ text failed, session.perform (.typeText text) = (.ok (), failed) →
      failed.entry.status = .invalid →
      failed.entry = { session.entry with text, status := .invalid } ∧
      ∀ actions later, RunsInvalid failed actions later →
        (∀ action ∈ actions, action.isInput = true) →
        later.entry.text = lastTyped text actions ∧ later.entry.value = session.entry.value ∧
          later.entry.exact = session.entry.exact) ∧
    (session.entry.status = .invalid → ∀ action,
      ((session.perform action).2.entry.status ≠ .invalid → action.Resolves session.entry) ∧
      ((session.perform action).1 = .ok () → action.Resolves session.entry →
        (session.perform action).2.entry.status ≠ .invalid)) := by
  constructor
  · intro text failed done invalid
    have same := (step_of_perform done).eq_taken_of_invalid rfl invalid
    refine ⟨same, fun actions later run inputs => ?_⟩
    obtain ⟨_, typed, value, exact⟩ := run.keeps inputs
    rw [same] at typed value exact
    exact ⟨typed, value, exact⟩
  · intro invalid action
    have step := step_perform session action
    refine ⟨step.resolves invalid, fun done => ?_⟩
    rw [done] at step
    exact step.status_ne_invalid

/-- A German entry stays invalid in yen, in English and with a text that breaks off, and keeps its value in
euros until a number is typed. -/
theorem invalid_text_keeps_value_of_mistyping :
    ∃ session failed later : Session .excerpt, session.entry.text = "12,50".toList ∧
      session.entry.value.isSome = true ∧
      session.perform (.typeText "5..214,12".toList) = (.ok (), failed) ∧
      RunsInvalid failed [.chooseCurrency (some "JPY"), .chooseLocale (.named "en-US"),
        .typeText "7-".toList] later ∧
      failed.entry = { session.entry with text := "5..214,12".toList, status := .invalid } ∧
      later.entry.text = "7-".toList ∧ later.entry.value = session.entry.value ∧
      later.entry.exact = session.entry.exact ∧
      (later.perform (.typeText "7".toList)).2.entry.status ≠ .invalid := by
  let opened : Session .excerpt :=
    (create { settings := {} } { locale := .named "de-DE", currency := some "EUR" }).2
  let session := (opened.perform (.typeText "12,5".toList)).2
  let failed := (session.perform (.typeText "5..214,12".toList)).2
  let inYen := (failed.perform (.chooseCurrency (some "JPY"))).2
  let inEnglish := (inYen.perform (.chooseLocale (.named "en-US"))).2
  let later := (inEnglish.perform (.typeText "7-".toList)).2
  have shown : session.entry.text = "12,50".toList ∧ session.entry.value.isSome = true := by
    decide +kernel
  have done : (session.perform (.typeText "5..214,12".toList)).1.isOk = true ∧
      (failed.perform (.chooseCurrency (some "JPY"))).1.isOk = true ∧
      (inYen.perform (.chooseLocale (.named "en-US"))).1.isOk = true ∧
      (inEnglish.perform (.typeText "7-".toList)).1.isOk = true := by decide +kernel
  have invalid : failed.entry.status = .invalid ∧ inYen.entry.status = .invalid ∧
      inEnglish.entry.status = .invalid ∧ later.entry.status = .invalid := by decide +kernel
  have read : later.entry.meaning later.entry.currency "7".toList = .amount (.finite (.ofNat 7)) ∧
      (later.perform (.typeText "7".toList)).1 = .ok () := by decide +kernel
  have failing : session.perform (.typeText "5..214,12".toList) = (.ok (), failed) :=
    eq_of_isOk done.1
  have exchanged : failed.perform (.chooseCurrency (some "JPY")) = (.ok (), inYen) :=
    eq_of_isOk done.2.1
  have moved : inYen.perform (.chooseLocale (.named "en-US")) = (.ok (), inEnglish) :=
    eq_of_isOk done.2.2.1
  have again : inEnglish.perform (.typeText "7-".toList) = (.ok (), later) := eq_of_isOk done.2.2.2
  have run : RunsInvalid failed [.chooseCurrency (some "JPY"), .chooseLocale (.named "en-US"),
      .typeText "7-".toList] later :=
    .cons invalid.1 exchanged <| .cons invalid.2.1 moved <| .cons invalid.2.2.1 again <|
      .nil invalid.2.2.2
  obtain ⟨same, kept⟩ := (invalid_text_keeps_value session).1 _ _ failing invalid.1
  obtain ⟨text, value, exact⟩ := kept _ later run (by decide)
  have ended := ((invalid_text_keeps_value later).2 invalid.2.2.2 (.typeText "7".toList)).2 read.2
    (.inr ⟨by decide, _, read.1⟩)
  exact ⟨session, failed, later, shown.1, shown.2, failing, run, same, text, value, exact, ended⟩

end MonetaryText.Entry

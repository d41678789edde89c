import MonetaryText.Entry.Action

/-!
What an action does to an entry, one case for each path through it, also where it breaks off
(`step_perform`). The cache and the notices do not matter: a style is the one that the entry asks for
(`run_currentStyle`).
-/

namespace MonetaryText.Entry

variable {data : LocaleData}

/-! ### Runs of operations -/

section Runs

variable {α β : Type} (session : Session data)

theorem run_bind (edit : Edit data α) (next : α → Edit data β) :
    (edit >>= next).run session =
      match edit.run session with
      | (.ok a, later) => (next a).run later
      | (.error error, later) => (.error error, later) := by
  cases known : edit.run session with
  | mk result later =>
    have same : edit session = (result, later) := known
    cases result with
    | ok a =>
      simp [bind, ExceptT.bind, ExceptT.mk, ExceptT.run, StateT.bind, ExceptT.bindCont, same]
    | error error =>
      simp [bind, ExceptT.bind, ExceptT.mk, ExceptT.run, StateT.bind, ExceptT.bindCont, same]
      rfl

@[simp] theorem run_pure (a : α) : (pure a : Edit data α).run session = (.ok a, session) := rfl

@[simp] theorem run_throw (error : Error) :
    (throw error : Edit data α).run session = (.error error, session) := rfl

@[simp] theorem run_get : (get : Edit data (Session data)).run session = (.ok session, session) := rfl

@[simp] theorem run_set (later : Session data) :
    (set later : Edit data Unit).run session = (.ok (), later) := rfl

@[simp] theorem run_change (update : Entry data → Entry data) :
    (change update).run session = (.ok (), { session with entry := update session.entry }) := rfl

@[simp] theorem run_notify (notices : List Notice) :
    (notify notices).run session =
      (.ok (), { session with notices := session.notices ++ notices }) := rfl

theorem run_currentStyle : ∃ later, later.entry = session.entry ∧
    currentStyle.run session = (.ok session.entry.style, later) := by
  unfold currentStyle
  simp only [run_bind, run_get, run_set, run_pure, NumeralStyle.Cache.resolve_style]
  refine ⟨_, ?_, rfl⟩
  rfl

end Runs

/-! ### Effects -/

/-- The style of an entry under any currency. -/
def styleFor (entry : Entry data) (currency : Option String) : NumeralStyle :=
  { entry with currency }.style

/-- The amount behind the text, as long as the text is valid. -/
def shownAmount? (entry : Entry data) : Option Extended :=
  if entry.status = .valid then entry.exact else none

@[simp] theorem shownAmount?_eq_some_iff {entry : Entry data} {amount : Extended} :
    entry.shownAmount? = some amount ↔ entry.status = .valid ∧ entry.exact = some amount := by
  simp [shownAmount?]

theorem shownAmount?_eq_none {entry : Entry data}
    (hidden : ∀ amount, entry.status = .valid → entry.exact = some amount → False) :
    entry.shownAmount? = none := by
  refine Option.eq_none_iff_forall_ne_some.mpr fun amount shown => ?_
  obtain ⟨valid, exact⟩ := shownAmount?_eq_some_iff.mp shown
  exact hidden amount valid exact

def emptied (entry : Entry data) : Entry data :=
  { entry with status := .empty, exact := none, value := none }

/-- What comes of writing an amount. The amount is held before there is a text for it, and the text
is written before there is a value. -/
inductive Writes (entry : Entry data) (amount : Extended) :
    Except Error Unit → Entry data → Prop where
  | unrounded {cause : Amount.Error}
      (fails : Amount.roundNumber entry.style amount.toNumber = .error cause) :
      Writes entry amount (.error (.amount cause)) { entry with exact := some amount }
  | unwritten {rounded : Decimal} {cause : Amount.Error}
      (rounds : Amount.roundNumber entry.style amount.toNumber = .ok rounded)
      (fails : Amount.format entry.style rounded = .error cause) :
      Writes entry amount (.error (.amount cause)) { entry with exact := some amount }
  | unpriced {rounded : Decimal} {text : Text}
      (rounds : Amount.roundNumber entry.style amount.toNumber = .ok rounded)
      (formats : Amount.format entry.style rounded = .ok text)
      (free : entry.currency = none) :
      Writes entry amount (.ok ()) { entry with exact := some amount, text, status := .valid }
  | refused {rounded : Decimal} {text : Text} {code : String} {violations : List Violation}
      (rounds : Amount.roundNumber entry.style amount.toNumber = .ok rounded)
      (formats : Amount.format entry.style rounded = .ok text)
      (held : entry.currency = some code) (fails : Money.make rounded code = .error violations) :
      Writes entry amount (.error (.money (.invalid violations)))
        { entry with exact := some amount, text, status := .valid }
  | priced {rounded : Decimal} {text : Text} {code : String} {money : Money}
      (rounds : Amount.roundNumber entry.style amount.toNumber = .ok rounded)
      (formats : Amount.format entry.style rounded = .ok text)
      (held : entry.currency = some code) (makes : Money.make rounded code = .ok money) :
      Writes entry amount (.ok ())
        { entry with exact := some amount, text, status := .valid, value := some money }

theorem Writes.status_eq {entry after : Entry data} {amount : Extended}
    (writes : Writes entry amount (.ok ()) after) : after.status = .valid := by
  cases writes <;> rfl

/-- Writing leaves everything else as it was. -/
theorem Writes.frame {entry after : Entry data} {amount : Extended} {result : Except Error Unit}
    (writes : Writes entry amount result after) :
    after.setup = entry.setup ∧ after.locale = entry.locale ∧ after.currency = entry.currency := by
  cases writes <;> exact ⟨rfl, rfl, rfl⟩

/-- What comes of understanding the text of an entry. -/
inductive Understands (entry : Entry data) : Except Error Unit → Entry data → Prop where
  | rejected {rejection : Rejection}
      (meaning : entry.setup.understand entry.style entry.text = .rejected rejection) :
      Understands entry (.ok ()) { entry with status := .invalid }
  | broken {error : Error}
      (meaning : entry.setup.understand entry.style entry.text = .broken error) :
      Understands entry (.error error) entry
  | written {amount : Extended} {result : Except Error Unit} {after : Entry data}
      (meaning : entry.setup.understand entry.style entry.text = .amount amount)
      (writes : Writes entry amount result after) : Understands entry result after

theorem Understands.frame {entry after : Entry data} {result : Except Error Unit}
    (understands : Understands entry result after) :
    after.setup = entry.setup ∧ after.locale = entry.locale ∧ after.currency = entry.currency := by
  cases understands with
  | rejected => exact ⟨rfl, rfl, rfl⟩
  | broken => exact ⟨rfl, rfl, rfl⟩
  | written _ writes => exact writes.frame

/-- Text that is rejected stays as it is, and so does everything but the status. -/
theorem Understands.of_rejected {entry after : Entry data} {result : Except Error Unit}
    {rejection : Rejection} (understands : Understands entry result after)
    (meaning : entry.setup.understand entry.style entry.text = .rejected rejection) :
    result = .ok () ∧ after = { entry with status := .invalid } := by
  cases understands with
  | rejected => exact ⟨rfl, rfl⟩
  | broken other | written other => cases meaning.symm.trans other

theorem Understands.of_broken {entry after : Entry data} {result : Except Error Unit} {error : Error}
    (understands : Understands entry result after)
    (meaning : entry.setup.understand entry.style entry.text = .broken error) :
    result = .error error ∧ after = entry := by
  cases understands with
  | broken same =>
    cases meaning.symm.trans same
    exact ⟨rfl, rfl⟩
  | rejected other | written other => cases meaning.symm.trans other

/-- The paths through all actions: what is done, its error if it breaks off, and the entry that it
leaves. -/
inductive Step (entry : Entry data) : Action → Except Error Unit → Entry data → Prop where
  | typedBlank {text : Text} (blank : Text.isBlankText text = true)
      (allowed : entry.setup.allowEmpty = true) :
      Step entry (.typeText text) (.ok ()) { entry with text }.emptied
  | typedTooLittle {text : Text} (blank : Text.isBlankText text = true)
      (required : entry.setup.allowEmpty = false) :
      Step entry (.typeText text) (.ok ()) { entry with text, status := .invalid }
  | typed {text : Text} {result : Except Error Unit} {after : Entry data}
      (solid : Text.isBlankText text = false)
      (understands : Understands { entry with text } result after) :
      Step entry (.typeText text) result after
  | released {code : Option String} (free : heldCode code = none) :
      Step entry (.chooseCurrency code) (.ok ()) { entry with currency := heldCode code }
  | exchanged {code : Option String} {amount : Extended} {result : Except Error Unit}
      {after : Entry data} (held : (heldCode code).isSome = true) (shown : entry.shownAmount? = some amount)
      (writes : Writes { entry with currency := heldCode code } amount result after) :
      Step entry (.chooseCurrency code) result after
  | chosen {code : Option String} (held : (heldCode code).isSome = true)
      (hidden : entry.shownAmount? = none) (blank : Text.isBlankText entry.text = true) :
      Step entry (.chooseCurrency code) (.ok ()) { entry with currency := heldCode code }
  | reread {code : Option String} {result : Except Error Unit} {after : Entry data}
      (held : (heldCode code).isSome = true) (hidden : entry.shownAmount? = none)
      (solid : Text.isBlankText entry.text = false)
      (understands : Understands { entry with currency := heldCode code } result after) :
      Step entry (.chooseCurrency code) result after
  | moved {locale : LocaleRef} {amount : Extended} {result : Except Error Unit} {after : Entry data}
      (shown : entry.shownAmount? = some amount)
      (writes : Writes { entry with locale := locale.normalized } amount result after) :
      Step entry (.chooseLocale locale) result after
  | movedSilently {locale : LocaleRef} (hidden : entry.shownAmount? = none) :
      Step entry (.chooseLocale locale) (.ok ()) { entry with locale := locale.normalized }
  | notEntered {number : PlainNumber} {error : PlainNumber.Error}
      (fails : number.toDecimal = .error error) :
      Step entry (.enterNumber number) (.error (.number error)) entry
  | entered {number : PlainNumber} {d : Decimal} {result : Except Error Unit} {after : Entry data}
      (reads : number.toDecimal = .ok d) (writes : Writes entry (.finite d) result after) :
      Step entry (.enterNumber number) result after
  | withdrawn : Step entry (.enterMoney none) (.ok ()) { entry with text := [] }.emptied
  | paid {money : Money} {result : Except Error Unit} {after : Entry data}
      (writes : Writes { entry with currency := some money.currency } (.finite money.amount) result
        after) :
      Step entry (.enterMoney (some money)) result after
  | cleared : Step entry .clear (.ok ()) { entry with currency := none, text := [] }.emptied
  | fixed {fixed : Bool} :
      Step entry (.fixCurrency fixed) (.ok ()) { entry with currencyReadOnly := fixed }

theorem Step.setup_eq {entry after : Entry data} {action : Action} {result : Except Error Unit}
    (step : Step entry action result after) : after.setup = entry.setup := by
  cases step with
  | typed _ understands => exact understands.frame.1
  | reread _ _ _ understands => exact understands.frame.1
  | exchanged _ _ writes => exact writes.frame.1
  | moved _ writes => exact writes.frame.1
  | entered _ writes => exact writes.frame.1
  | paid writes => exact writes.frame.1
  | _ => rfl

section Paths

variable (session : Session data)

theorem writes_write (amount : Extended) :
    Writes session.entry amount ((write amount).run session).1
      ((write amount).run session).2.entry := by
  obtain ⟨styled, same, style⟩ := run_currentStyle session
  -- The cases follow the order in which `write` can break off.
  unfold write
  simp only [run_bind, style, run_change]
  cases rounds : Amount.roundNumber session.entry.style amount.toNumber with
  | error cause =>
    simp only [attempt, run_throw, same]
    exact .unrounded rounds
  | ok rounded =>
    cases formats : Amount.format session.entry.style rounded with
    | error cause =>
      simp only [attempt, run_pure, run_throw, same, formats]
      exact .unwritten rounds formats
    | ok text =>
      cases held : session.entry.currency with
      | none =>
        simp only [attempt, run_pure, run_get, same, formats, held]
        simpa only [held] using Writes.unpriced rounds formats held
      | some code =>
        cases makes : Money.make rounded code with
        | error violations =>
          simp only [attempt, run_pure, run_get, run_bind, run_throw, same, formats, held, makes]
          simpa only [held, Function.comp] using Writes.refused rounds formats held makes
        | ok money =>
          simp only [attempt, run_pure, run_get, run_bind, run_change, same, formats, held, makes]
          simpa only [held] using Writes.priced rounds formats held makes

theorem understands_understand :
    Understands session.entry (understand.run session).1 (understand.run session).2.entry := by
  obtain ⟨styled, same, style⟩ := run_currentStyle session
  unfold understand
  simp only [run_bind, style, run_get, same]
  cases meaning : session.entry.setup.understand session.entry.style session.entry.text with
  | rejected rejection =>
    simp only [reject, run_bind, run_get, run_notify, run_change, same]
    exact .rejected meaning
  | broken error =>
    simp only [run_throw, same]
    exact .broken meaning
  | amount amount =>
    have writes := writes_write styled amount
    rw [same] at writes
    simp only [run_bind]
    generalize (write amount).run styled = written at *
    obtain ⟨result, later⟩ := written
    cases result with
    | error error => exact .written meaning writes
    | ok done =>
      simp only [run_get, run_notify]
      exact .written meaning writes

/-- Every action takes one of the paths. -/
theorem step_perform (action : Action) :
    Step session.entry action (session.perform action).1 (session.perform action).2.entry := by
  unfold Session.perform
  cases action with
  | typeText text =>
    simp only [Action.edit, typeText, run_bind, run_change]
    cases blank : Text.isBlankText text with
    | true =>
      cases allowed : session.entry.setup.allowEmpty with
      | true =>
        simp only [run_bind, run_get, forget, run_change, allowed, if_true]
        exact .typedBlank blank allowed
      | false =>
        simp only [run_bind, run_get, reject, run_notify, run_change, allowed, if_true,
          Bool.false_eq_true, if_false]
        exact .typedTooLittle blank allowed
    | false =>
      simp only [Bool.false_eq_true, if_false]
      exact .typed blank
        (understands_understand { session with entry := { session.entry with text } })
  | chooseCurrency code =>
    simp only [Action.edit, chooseCurrency, run_bind, run_change, run_get]
    cases held : heldCode code with
    | none =>
      simp only [Option.isNone_none, if_true, run_pure]
      simpa only [held] using Step.released held
    | some chosen =>
      have known : (heldCode code).isSome = true := by rw [held]; rfl
      simp only [Option.isNone_some, Bool.false_eq_true, if_false]
      rw [← held]
      split
      · rename_i amount valid exact
        exact .exchanged known (shownAmount?_eq_some_iff.mpr ⟨valid, exact⟩) (writes_write
          { session with entry := { session.entry with currency := heldCode code } } _)
      · rename_i unshown
        have hidden : session.entry.shownAmount? = none := shownAmount?_eq_none unshown
        cases blank : Text.isBlankText session.entry.text with
        | true =>
          simp only [if_true, run_pure]
          exact .chosen known hidden blank
        | false =>
          simp only [Bool.false_eq_true, if_false]
          exact .reread known hidden blank (understands_understand
            { session with entry := { session.entry with currency := heldCode code } })
  | chooseLocale locale =>
    simp only [Action.edit, chooseLocale, writeAgain, run_bind, run_change, run_get]
    split
    · rename_i amount valid exact
      exact .moved (shownAmount?_eq_some_iff.mpr ⟨valid, exact⟩) (writes_write
        { session with entry := { session.entry with locale := locale.normalized } } _)
    · rename_i unshown
      exact .movedSilently (shownAmount?_eq_none unshown)
  | enterNumber number =>
    simp only [Action.edit, enterNumber, run_bind]
    cases reads : number.toDecimal with
    | error error =>
      simp only [attempt, run_throw]
      exact .notEntered reads
    | ok d =>
      simp only [attempt, run_pure]
      exact .entered reads (writes_write session _)
  | enterMoney money =>
    cases money with
    | none => exact .withdrawn
    | some money =>
      simp only [Action.edit, enterMoney, run_bind, run_change]
      exact .paid (writes_write
        { session with entry := { session.entry with currency := some money.currency } } _)
  | clear => exact .cleared
  | fixCurrency fixed => exact .fixed

/-- Text that is not blank is understood. -/
theorem understands_typeText {text : Text} (solid : Text.isBlankText text = false) :
    Understands { session.entry with text } (session.perform (.typeText text)).1
      (session.perform (.typeText text)).2.entry := by
  have step := step_perform session (.typeText text)
  generalize (session.perform (.typeText text)).1 = result at *
  generalize (session.perform (.typeText text)).2.entry = after at *
  cases step with
  | typedBlank blank | typedTooLittle blank => cases solid.symm.trans blank
  | typed _ understands => exact understands

end Paths

end MonetaryText.Entry

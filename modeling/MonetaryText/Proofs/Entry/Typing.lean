import Mathlib.Control.Monad.Basic
import MonetaryText.Proofs.Amount.Positional
import MonetaryText.Proofs.Entry.Interruption
import MonetaryText.Proofs.Entry.Rerendering

/-!
A number that is entered, and one that is typed with all its digits. Both come to the same entry up to the
amount before rounding, which is held in one case as it was given and in the other as it was read. The two
amounts are rounded to the same number in every style, so that the entries stay alike whatever currencies
and locales are chosen later (`entering_equals_typing`).
-/

namespace MonetaryText.Entry

variable {data : LocaleData} {entry after otherAfter : Entry data} {action : Action}
  {result : Except Error Unit} {d other : Decimal}

/-- Two entries look alike: they are the same up to the amount before rounding. -/
def LooksLike (entry other : Entry data) : Prop := ∃ exact, other = { entry with exact }

/-! ### Writing -/

/-- An amount that is not too large is written if it can be rounded. -/
theorem Writes.succeeds_iff (conventional : data.IsConventional)
    (writes : Writes entry (.finite d) result after) (bounded : d.IsBelow 999998)
    (known : ∀ code, entry.currency = some code → Currency.isCode code = true) :
    result = .ok () ↔
      (d.isZero = true →
        d.exponent + entry.style.fractionDigits + 2 ≤ Context.maxPrecision) := by
  replace conventional := isConventional_style conventional entry
  constructor
  · rintro rfl
    rw [← Amount.exists_round_iff conventional.few_places bounded]
    cases writes with
    | unpriced rounds | priced rounds => exact ⟨_, rounds⟩
  · intro fits
    obtain ⟨rounded, rounds⟩ := (Amount.exists_round_iff conventional.few_places bounded).mpr fits
    obtain ⟨text, formats⟩ := (Amount.exists_format_iff conventional bounded).mpr fits
    rw [← Amount.format_of_round conventional rounds] at formats
    cases writes with
    | unrounded fails => cases rounds.symm.trans fails
    | unwritten again fails =>
      cases rounds.symm.trans again
      cases formats.symm.trans fails
    | unpriced | priced => rfl
    | refused _ _ held fails =>
      rw [Money.make, dif_pos (known _ held)] at fails
      cases fails

/-- Amounts that are rounded to the same number are written alike, whatever text stood there before. -/
theorem Writes.alike (conventional : data.IsConventional) {text : Text} {exact : Option Extended}
    (writes : Writes entry (.finite d) (.ok ()) after)
    (otherWrites : Writes { entry with text, exact } (.finite other) result otherAfter)
    (rounds : Amount.RoundsLike d other) :
    result = .ok () ∧ otherAfter = { after with exact := some (.finite other) } := by
  have few := (isConventional_style conventional entry).few_places
  cases writes with
  | unpriced given formats free =>
    have same := rounds _ _ few given
    cases otherWrites with
    | unrounded fails => cases same.symm.trans fails
    | unwritten again fails =>
      cases same.symm.trans again
      cases formats.symm.trans fails
    | unpriced again otherFormats =>
      cases same.symm.trans again
      cases formats.symm.trans otherFormats
      exact ⟨rfl, rfl⟩
    | refused _ _ held | priced _ _ held => cases free.symm.trans held
  | priced given formats held makes =>
    have same := rounds _ _ few given
    cases otherWrites with
    | unrounded fails => cases same.symm.trans fails
    | unwritten again fails =>
      cases same.symm.trans again
      cases formats.symm.trans fails
    | unpriced _ _ free => cases free.symm.trans held
    | refused again _ otherHeld fails =>
      cases same.symm.trans again
      cases held.symm.trans otherHeld
      cases makes.symm.trans fails
    | priced again otherFormats otherHeld otherMakes =>
      cases same.symm.trans again
      cases formats.symm.trans otherFormats
      cases held.symm.trans otherHeld
      cases makes.symm.trans otherMakes
      exact ⟨rfl, rfl⟩

/-! ### Understanding -/

/-- What is read as a plain number is understood as this number, as an expression if there is an
arithmetic of the precision. -/
theorem Setup.understand_of_read (setup : Setup data) {style : NumeralStyle} {text : Text}
    (few : style.fractionDigits ≤ 10) (accepted : Numeral.read style text = .ok d) :
    setup.understand style text =
      if setup.calculable = true ∧ Context.maxPrecision < setup.settings.precision then
        .broken (.evaluation .precisionOutOfRange)
      else .amount (.finite d) := by
  have expression := Expression.isWellFormed_of_read accepted
  have solid := Expression.isBlankText_of_isWellFormed expression
  unfold Setup.understand
  cases setup.calculable with
  | false =>
    have plain := Expression.isPlainAmount_of_read accepted
    simp [Expression.isWellFormed, solid, plain, accepted, Outcome.ofNumeral]
  | true =>
    have formed := Amount.unitExponent_of_few ⟨setup.settings.precision⟩ few
    by_cases precise : setup.settings.precision ≤ Context.maxPrecision
    · rw [(Expression.evaluate_numeral accepted formed).mpr precise]
      simp [expression, precise, Outcome.ofEvaluation]
    · have beyond : Context.maxPrecision < setup.settings.precision := by omega
      rw [Expression.evaluate_imprecise text beyond]
      simp [expression, beyond, Outcome.ofEvaluation]

/-! ### Choosing -/

/-- A choice writes the amount that is shown, unless it only takes the currency away. -/
theorem Step.of_shown {amount : Extended} (step : Step entry action result after)
    (choice : action.isChoice = true) (shown : entry.shownAmount? = some amount) :
    (action.writes = true → Writes (action.taken entry) amount result after) ∧
      (action.writes = false → result = .ok () ∧ after = action.taken entry) := by
  cases step with
  | released free =>
    refine ⟨fun writes => ?_, fun _ => ⟨rfl, rfl⟩⟩
    rw [Action.writes, free] at writes
    cases writes
  | exchanged held known writes =>
    cases known.symm.trans shown
    refine ⟨fun _ => writes, fun silent => ?_⟩
    cases held.symm.trans silent
  | moved known writes =>
    cases known.symm.trans shown
    exact ⟨fun _ => writes, nofun⟩
  | chosen _ hidden | reread _ hidden | movedSilently hidden => cases hidden.symm.trans shown
  | _ => cases choice

theorem Step.alike (conventional : data.IsConventional) (step : Step entry action (.ok ()) after)
    (choice : action.isChoice = true)
    (shown : entry.shownAmount? = some (.finite d))
    (otherStep : Step { entry with exact := some (.finite other) } action result otherAfter)
    (rounds : Amount.RoundsLike d other) :
    result = .ok () ∧ otherAfter = { after with exact := some (.finite other) } := by
  have valid := (shownAmount?_eq_some_iff.mp shown).1
  obtain ⟨written, kept⟩ := step.of_shown choice shown
  obtain ⟨otherWritten, otherKept⟩ :=
    otherStep.of_shown choice (shownAmount?_eq_some_iff.mpr ⟨valid, rfl⟩)
  have taken : action.taken { entry with exact := some (.finite other) } =
      { action.taken entry with exact := some (.finite other) } := by
    cases action <;> first | rfl | cases choice
  rw [taken] at otherWritten otherKept
  cases writes : action.writes with
  | true => exact (written writes).alike conventional (otherWritten writes) rounds
  | false =>
    obtain ⟨_, rfl⟩ := kept writes
    exact otherKept writes

/-- What looks alike stays alike through all choices, if nothing breaks off for one of the two. -/
theorem Runs.alike (conventional : data.IsConventional) {session later otherSession : Session data}
    {choices : List Action} (run : Runs session choices later)
    (choosing : ∀ action ∈ choices, action.isChoice = true)
    (shown : session.entry.shownAmount? = some (.finite d))
    (same : otherSession.entry = { session.entry with exact := some (.finite other) })
    (rounds : Amount.RoundsLike d other) :
    ∃ otherLater, Runs otherSession choices otherLater ∧
      otherLater.entry = { later.entry with exact := some (.finite other) } := by
  induction run generalizing otherSession with
  | nil => exact ⟨otherSession, .nil, same⟩
  | @cons session middle later action actions done rest ih =>
    have choice := choosing action List.mem_cons_self
    have step := step_of_perform done
    have otherStep := step_perform otherSession action
    rw [same] at otherStep
    obtain ⟨otherDone, alike⟩ := step.alike conventional choice shown otherStep rounds
    obtain ⟨otherLater, otherRest, ended⟩ :=
      ih (fun action member => choosing action (List.mem_cons_of_mem _ member))
        (step.shownAmount?_eq choice shown) alike
    exact ⟨otherLater, .cons (Prod.ext otherDone rfl) otherRest, ended⟩

/-! ### Entering and typing -/

theorem exists_done_iff {outcome : Except Error Unit × Session data} :
    (∃ later, outcome = (.ok (), later)) ↔ outcome.1 = .ok () := by
  constructor
  · rintro ⟨later, rfl⟩
    rfl
  · exact fun done => ⟨_, Prod.ext done rfl⟩

theorem Understands.writes_of_amount {amount : Extended} (understands : Understands entry result after)
    (meaning : entry.setup.understand entry.style entry.text = .amount amount) :
    Writes entry amount result after := by
  cases understands with
  | rejected other | broken other => cases meaning.symm.trans other
  | written same writes =>
    cases meaning.symm.trans same
    exact writes

theorem writes_enterNumber (session : Session data) {number : PlainNumber}
    (reads : number.toDecimal = .ok d) :
    Writes session.entry (.finite d) (session.perform (.enterNumber number)).1
      (session.perform (.enterNumber number)).2.entry := by
  have step := step_perform session (.enterNumber number)
  generalize (session.perform (.enterNumber number)).1 = result at *
  generalize (session.perform (.enterNumber number)).2.entry = after at *
  cases step with
  | notEntered fails => cases reads.symm.trans fails
  | entered same writes =>
    cases reads.symm.trans same
    exact writes

/-- A number that is typed breaks off if it takes an arithmetic that there is not. Else it is written as
it is read. -/
theorem typeText_positional (conventional : data.IsConventional) (session : Session data) (d : Decimal) :
    (session.entry.setup.calculable = true ∧
        Context.maxPrecision < session.entry.setup.settings.precision ∧
        (session.perform (.typeText (Amount.positional session.entry.style d))).1 =
          .error (.evaluation .precisionOutOfRange)) ∨
      ((session.entry.setup.calculable = true →
          session.entry.setup.settings.precision ≤ Context.maxPrecision) ∧
        Writes { session.entry with text := Amount.positional session.entry.style d }
          (.finite (Amount.inFull d))
          (session.perform (.typeText (Amount.positional session.entry.style d))).1
          (session.perform (.typeText (Amount.positional session.entry.style d))).2.entry) := by
  replace conventional := isConventional_style conventional session.entry
  have accepted := Amount.read_positional conventional d
  have solid :=
    Expression.isBlankText_of_isWellFormed (Expression.isWellFormed_of_read accepted)
  have understands := understands_typeText session solid
  have meaning := session.entry.setup.understand_of_read conventional.few_places accepted
  split at meaning
  · rename_i imprecise
    exact .inl ⟨imprecise.1, imprecise.2, (understands.of_broken meaning).1⟩
  · rename_i precise
    refine .inr ⟨fun calculable => ?_, understands.writes_of_amount meaning⟩
    exact Nat.le_of_not_lt fun beyond => precise ⟨calculable, beyond⟩

/-- Entering a number comes to the same as typing it with all its digits, in every representation: text,
status, value and currency are the same then, and after all choices of currencies and locales that do not
break off. A number is not entered if it is a zero with an enormous exponent, and not understood if there
is no arithmetic of the precision. -/
theorem entering_equals_typing (conventional : data.IsConventional) (session : Session data)
    (known : ∀ code, session.entry.currency = some code → Currency.isCode code = true)
    (number : PlainNumber) (d : Decimal) (reads : number.toDecimal = .ok d)
    (bounded : d.IsBelow 999998) :
    ((∃ entered, session.perform (.enterNumber number) = (.ok (), entered)) ↔
      (d.isZero = true → d.exponent + session.entry.style.fractionDigits + 2 ≤
        Context.maxPrecision)) ∧
    ((∃ typed, session.perform
        (.typeText (Amount.positional session.entry.style d)) = (.ok (), typed)) ↔
      (session.entry.setup.calculable = true →
        session.entry.setup.settings.precision ≤ Context.maxPrecision)) ∧
    ∀ entered typed, session.perform (.enterNumber number) = (.ok (), entered) →
      session.perform (.typeText (Amount.positional session.entry.style d)) =
        (.ok (), typed) →
      LooksLike entered.entry typed.entry ∧
      ∀ choices, (∀ action ∈ choices, action.isChoice = true) →
        (∀ later, Runs entered choices later →
          ∃ other, Runs typed choices other ∧ LooksLike later.entry other.entry) ∧
        ((d.isZero = true → d.exponent + 12 ≤ Context.maxPrecision) →
          ∀ other, Runs typed choices other →
            ∃ later, Runs entered choices later ∧ LooksLike later.entry other.entry) := by
  have writes := writes_enterNumber session reads
  have typing := typeText_positional conventional session d
  refine ⟨?_, ?_, ?_⟩
  · rw [exists_done_iff]
    exact writes.succeeds_iff conventional bounded known
  · rw [exists_done_iff]
    rcases typing with ⟨calculable, beyond, fails⟩ | ⟨precise, otherWrites⟩
    · rw [fails]
      refine iff_of_false nofun fun precise => ?_
      have within := precise calculable
      omega
    · have few := (isConventional_style conventional session.entry).few_places
      have succeeds := otherWrites.succeeds_iff conventional (Amount.isBelow_inFull.mpr bounded) known
      exact iff_of_true (succeeds.mpr fun _ => Amount.inFull_fits d few) precise
  · intro entered typed done otherDone
    rw [done] at writes
    rw [otherDone] at typing
    rcases typing with ⟨_, _, fails⟩ | ⟨_, otherWrites⟩
    · cases fails
    have rounds := Amount.roundsLike_inFull bounded
    obtain ⟨_, same⟩ := writes.alike conventional otherWrites rounds
    refine ⟨⟨_, same⟩, fun choices choosing => ⟨fun later run => ?_, fun fits other run => ?_⟩⟩
    · obtain ⟨other, otherRun, ended⟩ := run.alike conventional choosing writes.shownAmount?_eq same rounds
      exact ⟨other, otherRun, _, ended⟩
    · have exact := (shownAmount?_eq_some_iff.mp writes.shownAmount?_eq).2
      have back : entered.entry = { typed.entry with exact := some (.finite d) } := by
        rw [same, ← exact]
      obtain ⟨later, otherRun, ended⟩ := run.alike conventional choosing otherWrites.shownAmount?_eq back
        (Amount.inFull_roundsLike bounded fits)
      exact ⟨later, otherRun, other.entry.exact, by rw [ended]⟩

/-- A number in scientific notation is held at another exponent than when it is typed. It is shown in euros,
then in yen, then in another locale. -/
theorem entering_equals_typing_of_exponent :
    LocaleData.excerpt.IsConventional ∧
      ∃ history, ∃ session entered typed later other : Session .excerpt,
      Reached { settings := {}, calculable := true } history session ∧
      session.perform (.enterNumber (.text "-1.2345E+6".toList)) = (.ok (), entered) ∧
      session.perform (.typeText "-1234500".toList) = (.ok (), typed) ∧
      entered.entry.text = "-1.234.500,00".toList ∧ entered.entry.exact ≠ typed.entry.exact ∧
      LooksLike entered.entry typed.entry ∧
      Runs entered [.chooseCurrency (some "JPY"), .chooseLocale (.named "en-US")] later ∧
      Runs typed [.chooseCurrency (some "JPY"), .chooseLocale (.named "en-US")] other ∧
      later.entry.text = "-1,234,500".toList ∧ LooksLike later.entry other.entry := by
  let session : Session .excerpt := (create { settings := {}, calculable := true }
    { locale := .named "de-DE", currency := some "EUR" }).2
  let entered := (session.perform (.enterNumber (.text "-1.2345E+6".toList))).2
  let typed := (session.perform (.typeText "-1234500".toList)).2
  let inYen := (entered.perform (.chooseCurrency (some "JPY"))).2
  let later := (inYen.perform (.chooseLocale (.named "en-US"))).2
  have decided : (session.perform (.enterNumber (.text "-1.2345E+6".toList))).1.isOk = true ∧
      (session.perform (.typeText "-1234500".toList)).1.isOk = true ∧
      (entered.perform (.chooseCurrency (some "JPY"))).1.isOk = true ∧
      (inYen.perform (.chooseLocale (.named "en-US"))).1.isOk = true ∧
      session.entry.currency = some "EUR" ∧
      Amount.positional session.entry.style ⟨true, 12345, 2⟩ = "-1234500".toList ∧
      entered.entry.text = "-1.234.500,00".toList ∧ entered.entry.exact ≠ typed.entry.exact ∧
      later.entry.text = "-1,234,500".toList := by decide +kernel
  obtain ⟨entering, typing, choosing, moving, held, text, shown, exact, laterShown⟩ := decided
  have created : Reached { settings := {}, calculable := true } _ session :=
    .created (eq_of_isOk (by decide))
  have known : ∀ code, session.entry.currency = some code → Currency.isCode code = true := by
    intro code same
    cases held.symm.trans same
    decide
  have run : Runs entered [.chooseCurrency (some "JPY"), .chooseLocale (.named "en-US")] later :=
    .cons (eq_of_isOk choosing) (.cons (eq_of_isOk moving) .nil)
  have entering := eq_of_isOk entering
  have typing := eq_of_isOk typing
  have bounded : Decimal.IsBelow 999998 ⟨true, 12345, 2⟩ := .inr (by decide)
  have conventional := LocaleData.excerpt_isConventional
  obtain ⟨_, _, compared⟩ := entering_equals_typing conventional session known
    (.text "-1.2345E+6".toList) ⟨true, 12345, 2⟩ rfl bounded
  rw [text] at compared
  obtain ⟨alike, choices⟩ := compared _ _ entering typing
  obtain ⟨other, otherRun, still⟩ := (choices _ (by decide)).1 later run
  exact ⟨conventional, _, session, entered, typed, later, other, created, entering, typing, shown, exact,
    alike, run, otherRun, laterShown, still⟩

end MonetaryText.Entry

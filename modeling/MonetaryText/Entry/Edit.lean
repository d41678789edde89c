import MonetaryText.Entry.Basic

/-!
Operations on an entry. Each runs one cycle of understanding, rounding and writing where there is
something to write. What an operation has changed before it breaks off stays changed.
-/

namespace MonetaryText.Entry

/-- An entry at work, with the styles it has asked for and the notices it has given. -/
structure Session (data : LocaleData) where
  entry : Entry data
  cache : NumeralStyle.Cache data := .empty
  notices : List Notice := []

/-- An operation; its error, if any, comes together with the session it leaves. -/
abbrev Edit (data : LocaleData) := ExceptT Error (StateM (Session data))

variable {data : LocaleData}

def change (update : Entry data → Entry data) : Edit data Unit :=
  modify fun session => { session with entry := update session.entry }

/-- Breaks off where a result is an error. -/
def attempt {ε α : Type} (cause : ε → Error) : Except ε α → Edit data α
  | .ok a => return a
  | .error error => throw (cause error)

def notify (notices : List Notice) : Edit data Unit :=
  modify fun session => { session with notices := session.notices ++ notices }

/-- The style of the entry as it is now. -/
def currentStyle : Edit data NumeralStyle := do
  let session ← get
  let (style, notices, cache) := session.cache.resolve session.entry.request
  set { session with cache, notices := session.notices ++ notices }
  return style

/-- Writes an amount in the style of the entry. With a currency it also becomes the value. -/
def write (amount : Extended) : Edit data Unit := do
  let style ← currentStyle
  change fun entry => { entry with exact := some amount }
  let rounded ← attempt .amount (Amount.roundNumber style amount.toNumber)
  let text ← attempt .amount (Amount.format style rounded)
  change fun entry => { entry with text, status := .valid }
  match (← get).entry.currency with
  | none => return
  | some code =>
    let money ← attempt (.money ∘ .invalid) (Money.make rounded code)
    change fun entry => { entry with value := some money }

/-- Invalid text changes nothing but the status. -/
def reject (rejection : Rejection) : Edit data Unit := do
  let entry := (← get).entry
  notify [.amountInvalid rejection.code rejection.message entry.locale entry.setup.calculable]
  change fun entry => { entry with status := .invalid }

/-- Forgets the amount; the text is left to the caller. -/
def forget : Edit data Unit :=
  change fun entry => { entry with status := .empty, exact := none, value := none }

/-- Understands the text of the entry and writes the amount anew. -/
def understand : Edit data Unit := do
  let style ← currentStyle
  let entry := (← get).entry
  match entry.setup.understand style entry.text with
  | .rejected rejection => reject rejection
  | .broken error => throw error
  | .amount amount =>
    write amount
    let entry := (← get).entry
    notify [.amountEvaluated style.locale amount entry.text entry.currency]

/-- Takes a text as it was typed. -/
def typeText (text : Text) : Edit data Unit := do
  change fun entry => { entry with text }
  if Text.isBlankText text then
    if (← get).entry.setup.allowEmpty then forget else reject .required
  else understand

/-- Writes a valid amount anew from what it was before rounding. -/
def writeAgain : Edit data Unit := do
  let entry := (← get).entry
  match entry.status, entry.exact with
  | .valid, some amount => write amount
  | _, _ => return

/-- Chooses a currency, or none. A valid amount is written anew; other text is understood again. -/
def chooseCurrency (code : Option String) : Edit data Unit := do
  change fun entry => { entry with currency := heldCode code }
  let entry := (← get).entry
  if entry.currency.isNone then return
  match entry.status, entry.exact with
  | .valid, some amount => write amount
  | _, _ => if Text.isBlankText entry.text then return else understand

/-- Chooses a locale. Only a valid amount is written anew. -/
def chooseLocale (locale : LocaleRef) : Edit data Unit := do
  change fun entry => { entry with locale := locale.normalized }
  writeAgain

/-- Writes a plain number as if it had been typed. -/
def enterNumber (number : PlainNumber) : Edit data Unit := do
  let d ← attempt .number number.toDecimal
  write (.finite d)

/-- Writes an amount of money in its currency; no money leaves the currency as it is. -/
def enterMoney : Option Money → Edit data Unit
  | none => do
    change fun entry => { entry with text := [] }
    forget
  | some money => do
    change fun entry => { entry with currency := some money.currency }
    write (.finite money.amount)

/-- Forgets amount and currency. -/
def clear : Edit data Unit := do
  change fun entry => { entry with currency := none, text := [] }
  forget

/-- What an entry begins with. -/
structure Start where
  locale : LocaleRef := .named ""
  value : Option Money := none
  currency : Option String := none
  currencyReadOnly : Bool := false

/-- The entry before an initial value is written. -/
def blank (setup : Setup data) (start : Start) : Entry data where
  setup := setup
  locale :=
    if start.locale.isEmpty then Locale.normalize setup.settings.defaultLocale
    else start.locale.normalized
  currencyReadOnly := start.currencyReadOnly
  currency := heldCode start.currency

/-- A new entry. The currency of an initial value must be among the codes. -/
def create (setup : Setup data) (start : Start) : Except Error Unit × Session data :=
  let session : Session data := { entry := blank setup start }
  match start.value with
  | none => (.ok (), session)
  | some money =>
    if setup.codes.contains money.currency then (enterMoney (some money)).run session
    else (.error (.currencyNotAllowed money.currency), session)

end MonetaryText.Entry

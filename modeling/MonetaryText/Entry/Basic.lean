import MonetaryText.Amount.Format
import MonetaryText.Expression.Evaluate
import MonetaryText.Expression.WellFormed
import MonetaryText.Money
import MonetaryText.NumeralStyle.Cache

/-!
The entry of an amount: a text that is typed, a currency, a locale, and the amount that the text
was last understood as. An entry is empty, valid or invalid; invalid text stays as it was typed and
leaves the last amount alone.
-/

namespace MonetaryText

/-- What stays the same for an entry. -/
structure Entry.Setup (data : LocaleData) where
  settings : Settings
  /-- Whether expressions are understood, or plain amounts only. -/
  calculable : Bool := false
  /-- Whether blank text means "no value". -/
  allowEmpty : Bool := true
  codes : List String := data.availableCodes
  power : Binary64 → Binary64 → Binary64 := Binary64.machinePower
  nesting : Nat := Expression.standardNesting

inductive Entry.Status where
  | empty | valid | invalid
  deriving DecidableEq, Repr

def Entry.Status.name : Entry.Status → String
  | empty => "empty"
  | valid => "valid"
  | invalid => "invalid"

structure Entry (data : LocaleData) where
  setup : Entry.Setup data
  locale : String
  currencyReadOnly : Bool
  text : Text := []
  status : Entry.Status := .empty
  /-- The amount before it was rounded to the currency. -/
  exact : Option Extended := none
  currency : Option String := none
  value : Option Money := none

namespace Entry

variable {data : LocaleData}

/-- Why the text of an entry is invalid. -/
inductive Rejection where
  | required
  | notWellFormed (text : Text)
  | numeral (error : Numeral.Error)
  | malformed (cause : Expression.Malformation)
  | impossible (cause : Expression.Impossibility)
  deriving DecidableEq, Repr

namespace Rejection

def code : Rejection → String
  | required => "EMPTY_NOT_ALLOWED"
  | notWellFormed _ => "LEXICAL_INVALID"
  | numeral _ => "PARSE_FAILED"
  | malformed _ => "PARSE_FAILED"
  | impossible _ => "ARITHMETIC_FAILED"

def message : Rejection → String
  | required => "Amount is required"
  | notWellFormed text => "Not a well-formed amount: " ++ Text.quoted text
  | numeral error => error.message
  | malformed cause => cause.message
  | impossible cause => cause.message

end Rejection

/-- What breaks an operation off. The entry keeps what was changed before. -/
inductive Error where
  | currencyNotAllowed (code : String)
  | number (error : PlainNumber.Error)
  | money (error : Money.Error)
  | numeral (error : Numeral.Error)
  | evaluation (failure : Expression.Failure)
  | amount (error : Amount.Error)
  deriving DecidableEq, Repr

def notAllowedMessage (code : String) : String :=
  "The initial value's currency code '" ++ code ++ "' is not in the list of currency codes."

/-- How a text is understood: as an amount, as invalid, or not at all because understanding breaks
off. -/
inductive Outcome where
  | amount (value : Extended)
  | rejected (rejection : Rejection)
  | broken (error : Error)
  deriving DecidableEq, Repr

/-- An unexpected lack of digits is no matter of the text. -/
def Outcome.ofNumeral : Except Numeral.Error Decimal → Outcome
  | .ok d => amount (.finite d)
  | .error .noDigits => broken (.numeral .noDigits)
  | .error error => rejected (.numeral error)

def Outcome.ofEvaluation : Except Expression.Failure Extended → Outcome
  | .ok x => amount x
  | .error (.malformed cause _) => rejected (.malformed cause)
  | .error (.impossible cause _) => rejected (.impossible cause)
  | .error failure => broken (.evaluation failure)

/-- Understands a text that is not blank. -/
def Setup.understand (setup : Setup data) (style : NumeralStyle) (text : Text) : Outcome :=
  if !Expression.isWellFormed style setup.calculable false text then
    .rejected (.notWellFormed text)
  else if setup.calculable then
    .ofEvaluation (Expression.evaluate setup.power setup.nesting style setup.settings text)
  else .ofNumeral (Numeral.read style text)

/-- The symbol shown in front of the amount when the currency cannot be chosen. -/
def currencyPrefix? (entry : Entry data) : Option String :=
  if entry.currencyReadOnly then
    entry.currency.map fun code => data.symbol code (.named entry.locale)
  else none

/-- The request for the style of an entry. -/
def request (entry : Entry data) : NumeralStyle.Request :=
  .of entry.setup.settings (.named entry.locale) entry.currency entry.setup.settings.rounding

def style (entry : Entry data) : NumeralStyle := entry.request.style data

/-- A currency code as an entry holds it; the empty code is none. -/
def heldCode (code : Option String) : Option String := code.filter (!·.isEmpty)

end Entry

end MonetaryText

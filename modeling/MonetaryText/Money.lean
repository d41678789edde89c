import MonetaryText.Binary64.Shortest
import MonetaryText.Decimal.Notation
import MonetaryText.Decimal.Reading
import MonetaryText.Text.Quoted
import MonetaryText.Validation

/-!
Amounts of money, and the plain numbers that can be given for an amount.
-/

namespace MonetaryText

/-- A number from outside. -/
inductive PlainNumber where
  | nothing
  | truth (value : Bool)
  | integer (value : Int)
  | binary (value : Binary64)
  | text (value : Text)
  | decimal (value : Number)

namespace PlainNumber

/-- Why a number from outside is no amount; the text is the number as a message shows it. -/
inductive Error where
  | nothing
  | notANumber (shown : String)
  | notFinite (shown : String)
  deriving DecidableEq, Repr

def Error.message : Error → String
  | nothing => "conversion from NoneType to Decimal is not supported"
  | notANumber shown => "Not a number: " ++ shown
  | notFinite shown => "Amount must be finite: " ++ shown

/-- A decimal inside a message. -/
def shownNumber (n : Number) : String := "Decimal('" ++ n.toString ++ "')"

/-- The names of the binary numbers that are not finite. -/
def binaryName : Binary64 → Text
  | .infinite false => "inf".toList
  | .infinite true => "-inf".toList
  | _ => "nan".toList

/-- The finite decimal of the same value. A binary number stands for the shortest decimal that
leads back to it. -/
def toDecimal : PlainNumber → Except Error Decimal
  | nothing => .error .nothing
  | truth value => .ok (.ofNat value.toNat)
  | integer value => .ok (.ofInt value)
  | binary (.finite negative significand power) =>
    .ok (Binary64.written negative significand power)
  | binary value => .error (.notFinite (Text.quoted (binaryName value)))
  | text value =>
    match Number.read value with
    | .error _ => .error (.notANumber (Text.quoted value))
    | .ok (.finite d) => .ok d
    | .ok _ => .error (.notFinite (Text.quoted value))
  | decimal (.finite d) => .ok d
  | decimal n => .error (.notFinite (shownNumber n))

end PlainNumber

/-- Three capital letters of the Latin alphabet. -/
def Currency.isCode (code : String) : Bool := code.length == 3 && code.toList.all Char.isUpper

/-- An exact amount in a currency. -/
structure Money where
  amount : Decimal
  currency : String
  isCode : Currency.isCode currency = true
  deriving DecidableEq, Repr

namespace Money

inductive Error where
  | amount (error : PlainNumber.Error)
  | invalid (violations : List Violation)
  deriving DecidableEq, Repr

def make (amount : Decimal) (currency : String) : Checked Money :=
  if isCode : Currency.isCode currency = true then .ok ⟨amount, currency, isCode⟩
  else .broken "currency" .currencyCode

/-- The amount is looked at before the currency. -/
def ofNumber (number : PlainNumber) (currency : String) : Except Error Money := do
  let amount ← number.toDecimal.mapError .amount
  (make amount currency).mapError .invalid

end Money

end MonetaryText

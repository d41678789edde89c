import MonetaryText.Decimal.Arithmetic
import MonetaryText.Decimal.Notation
import MonetaryText.NumeralStyle.Basic

/-!
Rounding an amount to the fraction digits of a numeral style, at whatever precision the amount
takes.
-/

namespace MonetaryText.Amount

/-- Why an amount cannot be rounded or written. -/
inductive Error where
  | notFinite (amount : Number)
  | precisionOutOfRange
  | signal (signal : Signal)
deriving DecidableEq, Repr

def Error.message : Error → String
  | notFinite amount => "Cannot round non-finite amount: " ++ amount.toString
  | precisionOutOfRange => Context.precisionMessage
  | signal s => s.name

def ofSignal {α : Type} (result : Except Signal α) : Except Error α := result.mapError .signal

/-- Enough digits for the amount and its fraction, and one for a carry. -/
def precisionFor (d : Decimal) (places : Nat) : Int :=
  max Context.standard.precision (d.leadingExponent + places + 2)

/-- The amount at exactly the fraction digits of the style. -/
def round (style : NumeralStyle) (d : Decimal) : Except Error Decimal := do
  let unit ← ofSignal (Context.standard.unitExponent style.fractionDigits)
  let precision := precisionFor d style.fractionDigits
  if Context.maxPrecision < precision then throw .precisionOutOfRange
  ofSignal (Context.quantize ⟨precision.toNat⟩ style.rounding d unit)

/-- Only finite numbers are amounts. -/
def roundNumber (style : NumeralStyle) : Number → Except Error Decimal
  | .finite d => round style d
  | amount => .error (.notFinite amount)

end MonetaryText.Amount

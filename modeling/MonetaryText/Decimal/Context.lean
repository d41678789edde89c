import MonetaryText.Decimal.Rounding

/-!
Arithmetic of a given precision. A result is rounded half to even, to the digits of the precision
and never below the least exponent; what lies beyond the greatest exponent is an overflow.
-/

namespace MonetaryText

/-- Why an operation on decimals has no result. -/
inductive Signal where
  | invalidOperation
  | divisionByZero
  | overflow
deriving DecidableEq, Repr

def Signal.name : Signal → String
  | .invalidOperation => "InvalidOperation"
  | .divisionByZero => "DivisionByZero"
  | .overflow => "Overflow"

structure Context where
  precision : Nat
deriving DecidableEq, Repr

namespace Context

/-- The precision where nothing else is asked for. -/
def standard : Context := ⟨28⟩

/-- The greatest precision there is. -/
def maxPrecision : Nat := 999999999999999999

/-- What is said of a greater precision. -/
def precisionMessage : String := "valid range for prec is [1, MAX_PREC]"

/-- The greatest exponent of a leading digit. -/
def maxExponent : Int := 999999

/-- The least exponent of a leading digit at full precision. -/
def minExponent : Int := -999999

/-- The least exponent of all. -/
def tiny (context : Context) : Int := minExponent - (context.precision - 1)

/-- The exponent at which a nonzero decimal keeps at most the digits of the precision. -/
def quantumOf (context : Context) (d : Decimal) : Int :=
  max context.tiny (d.leadingExponent - context.precision + 1)

def withinRange (d : Decimal) : Except Signal Decimal :=
  if maxExponent < d.leadingExponent then .error .overflow else .ok d

/-- The result of an operation whose exact outcome is `d`. A zero only has its exponent moved into
range. Rounding up to the next power of ten costs one digit, which is a zero. -/
def finish (context : Context) (d : Decimal) : Except Signal Decimal :=
  if d.isZero then .ok { d with exponent := max context.tiny (min d.exponent maxExponent) }
  else if maxExponent < d.leadingExponent then .error .overflow
  else
    let quantum := context.quantumOf d
    if quantum ≤ d.exponent then .ok d
    else
      let rounded := d.rescale .halfEven quantum
      if rounded.digitCount ≤ context.precision then .ok rounded
      else withinRange { rounded with
        coefficient := rounded.coefficient / 10, exponent := quantum + 1 }

/-- The decimal at exactly this exponent. It is an error when that takes more digits than the
precision or lies outside the range of exponents. -/
def quantize (context : Context) (mode : RoundingMode) (d : Decimal) (exponent : Int) :
    Except Signal Decimal :=
  if maxExponent < exponent || exponent < context.tiny then .error .invalidOperation
  else if d.isZero then .ok { d with exponent }
  else if (context.precision : Int) < d.digitCount + (d.exponent - exponent) ||
      maxExponent < d.leadingExponent then .error .invalidOperation
  else
    let rounded := d.rescale mode exponent
    if context.precision < rounded.digitCount || maxExponent < rounded.leadingExponent then
      .error .invalidOperation
    else .ok rounded

/-- The exponent of the unit in the last of `places` fraction digits. -/
def unitExponent (context : Context) (places : Nat) : Except Signal Int :=
  if 2 * (999999 + context.precision) < places then .error .invalidOperation
  else .ok (max context.tiny (-places))

end Context

end MonetaryText

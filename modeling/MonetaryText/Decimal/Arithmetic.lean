import MonetaryText.Decimal.Context

/-!
Sum, difference, product and quotient. Each operation is the exact one followed by one rounding;
infinities follow the usual limits.
-/

namespace MonetaryText

namespace Decimal

/-- The exact sum, at the smaller exponent. A zero sum is negative only if both terms are. -/
def exactSum (a b : Decimal) : Decimal :=
  let exponent := min a.exponent b.exponent
  let sum := a.signedAt exponent + b.signedAt exponent
  let negative := if sum = 0 then a.negative && b.negative else sum < 0
  ⟨negative, sum.natAbs, exponent⟩

def exactProduct (a b : Decimal) : Decimal :=
  ⟨a.negative != b.negative, a.coefficient * b.coefficient, a.exponent + b.exponent⟩

/-- Removes up to `places` zeros at the end of the coefficient. -/
def dropZeros : Nat → Decimal → Decimal
  | 0, d => d
  | places + 1, d =>
    if d.coefficient % 10 = 0 then
      dropZeros places { d with coefficient := d.coefficient / 10, exponent := d.exponent + 1 }
    else d

/-- The quotient of nonzero decimals to more digits than the precision. An exact quotient is
written as close to the difference of the exponents as its digits allow; an inexact one ends in a
digit that stands for the rest, so that a later rounding decides as on the exact quotient. -/
def wideQuotient (context : Context) (a b : Decimal) : Decimal :=
  let ideal := a.exponent - b.exponent
  let shift : Int := b.digitCount - a.digitCount + context.precision + 1
  let dividend := a.coefficient * tenPow shift.toNat
  let divisor := b.coefficient * tenPow (-shift).toNat
  let negative := a.negative != b.negative
  if dividend % divisor = 0 then
    dropZeros shift.toNat ⟨negative, dividend / divisor, ideal - shift⟩
  else ⟨negative, 10 * (dividend / divisor) + 1, ideal - shift - 1⟩

def add (context : Context) (a b : Decimal) : Except Signal Decimal :=
  context.finish (a.exactSum b)

def mul (context : Context) (a b : Decimal) : Except Signal Decimal :=
  context.finish (a.exactProduct b)

def div (context : Context) (a b : Decimal) : Except Signal Decimal :=
  if b.isZero then .error (if a.isZero then .invalidOperation else .divisionByZero)
  else if a.isZero then
    context.finish ⟨a.negative != b.negative, 0, a.exponent - b.exponent⟩
  else context.finish (wideQuotient context a b)

end Decimal

namespace Extended

def isZero : Extended → Bool
  | finite d => d.isZero
  | infinite _ => false

def isFinite : Extended → Bool
  | finite _ => true
  | infinite _ => false

def negative : Extended → Bool
  | finite d => d.negative
  | infinite negative => negative

def negate : Extended → Extended
  | finite d => finite d.negate
  | infinite negative => infinite (!negative)

def add (context : Context) : Extended → Extended → Except Signal Extended
  | finite a, finite b => (a.add context b).map finite
  | infinite a, infinite b => if a = b then .ok (infinite a) else .error .invalidOperation
  | infinite a, finite _ => .ok (infinite a)
  | finite _, infinite b => .ok (infinite b)

def sub (context : Context) (a b : Extended) : Except Signal Extended := a.add context b.negate

def mul (context : Context) : Extended → Extended → Except Signal Extended
  | finite a, finite b => (a.mul context b).map finite
  | a, b =>
    if a.isZero || b.isZero then .error .invalidOperation
    else .ok (infinite (a.negative != b.negative))

/-- A finite number over an infinite one is the zero of the least exponent. -/
def div (context : Context) : Extended → Extended → Except Signal Extended
  | finite a, finite b => (a.div context b).map finite
  | infinite _, infinite _ => .error .invalidOperation
  | infinite a, finite b => .ok (infinite (a != b.negative))
  | finite a, infinite b => .ok (finite ⟨a.negative != b, 0, context.tiny⟩)

/-- An infinity has no last place. -/
def quantize (context : Context) (mode : RoundingMode) (exponent : Int) :
    Extended → Except Signal Extended
  | finite d => (context.quantize mode d exponent).map finite
  | infinite _ => .error .invalidOperation

end Extended

end MonetaryText

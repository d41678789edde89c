import MonetaryText.Decimal.Arithmetic
import MonetaryText.Expression.Failure

/-!
Powers within expressions. Integer exponents multiply decimals; fractional ones take the power of
binary numbers, for bases that are exactly such a number.
-/

namespace MonetaryText.Expression

/-- Squares the base and multiplies for each binary digit of the exponent, from the lowest one.
The binary length of the exponent is fuel enough. -/
def powerLoop (context : Context) :
    Nat → Nat → Extended → Extended → Except Signal Extended
  | 0, _, _, result => .ok result
  | fuel + 1, n, base, result => do
    let result ← if n % 2 = 1 then result.mul context base else .ok result
    if n / 2 = 0 then return result
    powerLoop context fuel (n / 2) (← base.mul context base) result

def one : Extended := .finite (.ofNat 1)

/-- The power to a natural number, each product rounded to the precision. -/
def naturalPower (context : Context) (base : Extended) (n : Nat) : Except Signal Extended :=
  if n = 0 then .ok one else powerLoop context (n.log2 + 1) n base one

/-- Integers of more digits than this are not written into messages. -/
def longestInteger : Nat := 4300

/-- A negative exponent is the reciprocal of the positive one. -/
def integerPower (context : Context) (bound position : Nat) (base : Extended) (n : Int) :
    Except Failure Extended :=
  if bound < n.natAbs then
    if longestInteger < Digits.count n.natAbs then .error .exponentTooLong
    else .error (.impossible (.exponentExceeds n bound) position)
  else if 0 ≤ n then ofSignal (naturalPower context base n.natAbs)
  else if base.isZero then .error (.impossible .divisionByZero position)
  else ofSignal do one.div context (← naturalPower context base n.natAbs)

/-- The base must be a binary number exactly; the exponent becomes the nearest one. -/
def fractionalPower (machine : Binary64 → Binary64 → Binary64) (position : Nat)
    (base : Extended) (exponent : Decimal) : Except Failure Extended :=
  let binary := Binary64.ofExtended base
  if binary.isExactly base then
    (Binary64.checkedPower machine binary (.ofDecimal exponent)).mapError fun error =>
      .impossible (.noPower base (.finite exponent) error) position
  else .error (.impossible (.notExact base (.finite exponent)) position)

def power (machine : Binary64 → Binary64 → Binary64) (context : Context) (bound position : Nat)
    (base : Extended) : Extended → Except Failure Extended
  | .infinite _ => .error .exponentInfinite
  | .finite exponent =>
    if exponent.isInteger then integerPower context bound position base exponent.truncate
    else fractionalPower machine position base exponent

end MonetaryText.Expression

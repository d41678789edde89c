import MonetaryText.Decimal.Digits

/-!
Decimal numbers as they are written: a sign, a coefficient and a power of ten. Trailing zeros, the
exponent and the sign of zero are part of the datum, so equality of data is finer than equality of
values.
-/

namespace MonetaryText

/-- The number `(-1) ^ negative * coefficient * 10 ^ exponent`. -/
structure Decimal where
  negative : Bool
  coefficient : Nat
  exponent : Int
deriving DecidableEq, Repr

namespace Decimal

def ofNat (n : Nat) : Decimal := ⟨false, n, 0⟩

def ofInt (n : Int) : Decimal := ⟨n < 0, n.natAbs, 0⟩

def isZero (d : Decimal) : Bool := d.coefficient == 0

def digitCount (d : Decimal) : Nat := Digits.count d.coefficient

/-- The exponent of the leading digit. -/
def leadingExponent (d : Decimal) : Int := d.exponent + d.digitCount - 1

/-- Flips the sign, also of zero, and rounds nothing. -/
def negate (d : Decimal) : Decimal := { d with negative := !d.negative }

@[simp] theorem negate_negate (d : Decimal) : d.negate.negate = d := by
  simp [negate]

def magnitude (d : Decimal) : Decimal := { d with negative := false }

/-- Strictly below zero; a negative zero is not. -/
def isNegative (d : Decimal) : Bool := d.negative && !d.isZero

/-- The coefficient, with its sign, of the same value written at a lower exponent. -/
def signedAt (d : Decimal) (exponent : Int) : Int :=
  let scaled := d.coefficient * tenPow (d.exponent - exponent).toNat
  if d.negative then -(scaled : Int) else scaled

/-- Equality of the two numbers, however they are written. -/
def sameValue (a b : Decimal) : Bool :=
  let exponent := min a.exponent b.exponent
  a.signedAt exponent == b.signedAt exponent

def isInteger (d : Decimal) : Bool :=
  0 ≤ d.exponent || d.coefficient % tenPow (-d.exponent).toNat == 0

/-- The magnitude without what stands behind the point. -/
def wholePart (d : Decimal) : Nat :=
  d.coefficient * tenPow d.exponent.toNat / tenPow (-d.exponent).toNat

/-- The integer next to a decimal in the direction of zero. -/
def truncate (d : Decimal) : Int := if d.negative then -(d.wholePart : Int) else d.wholePart

end Decimal

/-- A decimal or an infinity, as arithmetic produces them. -/
inductive Extended where
  | finite (value : Decimal)
  | infinite (negative : Bool)
deriving DecidableEq, Repr

/-- What the text of a number can stand for: also a quiet or signalling "not a number" with its
payload of digits. -/
inductive Number where
  | finite (value : Decimal)
  | infinite (negative : Bool)
  | nan (negative signaling : Bool) (payload : Nat)
deriving DecidableEq, Repr

def Extended.toNumber : Extended → Number
  | .finite value => .finite value
  | .infinite negative => .infinite negative

end MonetaryText

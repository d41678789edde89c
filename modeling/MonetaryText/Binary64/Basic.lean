import MonetaryText.Decimal.Rounding

/-!
Binary floating-point numbers of 64 bits, by sign, significand and power of two. Conversion from a
decimal is the nearest number, of two the one with the even significand.
-/

namespace MonetaryText

/-- A finite number is `(-1) ^ negative * significand * 2 ^ exponent`. Its significand is below
`2 ^ 53`, and below `2 ^ 52` only at the least exponent. -/
inductive Binary64 where
  | finite (negative : Bool) (significand : Nat) (exponent : Int)
  | infinite (negative : Bool)
  | nan
deriving DecidableEq, Repr

namespace Binary64

/-- The least significand of a number that is not below the normal range. -/
def leastNormal : Nat := 1 <<< 52

def minExponent : Int := -1074

def maxExponent : Int := 971

/-- The nearest number to `numerator / denominator`. The quotient of the two at `start` has 53 or
54 bits unless the least exponent is in the way. -/
def ofRatio (negative : Bool) (numerator denominator : Nat) : Binary64 :=
  let scaled (exponent : Int) : Nat × Nat :=
    (numerator <<< (-exponent).toNat, denominator <<< exponent.toNat)
  let start := max minExponent ((numerator.log2 : Int) - denominator.log2 - 53)
  let exponent :=
    if (scaled start).1 / (scaled start).2 < 2 * leastNormal then start else start + 1
  let significand :=
    RoundingMode.halfEven.quotient negative (scaled exponent).1 (scaled exponent).2
  if significand < 2 * leastNormal then
    if maxExponent < exponent then infinite negative else finite negative significand exponent
  else if maxExponent < exponent + 1 then infinite negative
  else finite negative leastNormal (exponent + 1)

/-- Decimals of 310 and more digits before the point are beyond the range, and those below
`10 ^ -400` next to zero; neither is scaled. -/
def ofDecimal (d : Decimal) : Binary64 :=
  if d.isZero || d.leadingExponent < -400 then finite d.negative 0 minExponent
  else if 309 < d.leadingExponent then infinite d.negative
  else
    ofRatio d.negative (d.coefficient * tenPow d.exponent.toNat) (tenPow (-d.exponent).toNat)

def ofExtended : Extended → Binary64
  | .finite d => ofDecimal d
  | .infinite negative => infinite negative

def ofNumber : Number → Binary64
  | .finite d => ofDecimal d
  | .infinite negative => infinite negative
  | .nan .. => nan

/-- The same number as a decimal: a negative power of two is a power of five over one of ten. -/
def exactDecimal (negative : Bool) (significand : Nat) (exponent : Int) : Decimal :=
  if 0 ≤ exponent then ⟨negative, significand <<< exponent.toNat, 0⟩
  else ⟨negative, significand * Nat.pow 5 (-exponent).toNat, exponent⟩

/-- Whether the number is exactly this decimal or infinity. -/
def isExactly : Binary64 → Extended → Bool
  | finite negative significand exponent, .finite d =>
    (exactDecimal negative significand exponent).sameValue d
  | infinite a, .infinite b => a == b
  | _, _ => false

def isFinite : Binary64 → Bool
  | finite .. => true
  | _ => false

def isZero : Binary64 → Bool
  | finite _ significand _ => significand == 0
  | _ => false

end Binary64

end MonetaryText

import MonetaryText.Binary64.Shortest

/-!
Powers of binary numbers. The machine computes them; what is known of the result here is only
which outcomes count as errors.
-/

namespace MonetaryText.Binary64

/-- The bit of the sign, the biased exponent and the fraction, as the interchange format has
them. -/
def bits : Binary64 → Nat
  | finite negative significand exponent =>
    (if negative then 1 <<< 63 else 0) +
      if significand < leastNormal then significand
      else (exponent + 1075).toNat <<< 52 + (significand - leastNormal)
  | infinite negative => (if negative then 1 <<< 63 else 0) + 2047 <<< 52
  | nan => 2047 <<< 52 + 1 <<< 51

def ofBits (n : Nat) : Binary64 :=
  let negative := (n >>> 63) % 2 == 1
  let biased := (n >>> 52) % 2048
  let fraction := n % leastNormal
  if biased = 0 then finite negative fraction minExponent
  else if biased < 2047 then finite negative (fraction + leastNormal) ((biased : Int) - 1075)
  else if fraction = 0 then infinite negative
  else nan

/-- The machine's power. -/
def machinePower (x y : Binary64) : Binary64 :=
  let power := Float.pow (Float.ofBits x.bits.toUInt64) (Float.ofBits y.bits.toUInt64)
  ofBits power.toBits.toNat

/-- Why a power has no finite value. -/
inductive PowerError where
  | domain
  | range
deriving DecidableEq, Repr

def PowerError.message : PowerError → String
  | .domain => "math domain error"
  | .range => "math range error"

/-- A power as a decimal. With finite arguments it must be finite: no value at all, or a pole at
zero, is an error of the domain, and any other infinity one of the range. Infinite arguments follow
the limits. -/
def checkedPower (power : Binary64 → Binary64 → Binary64) (x y : Binary64) :
    Except PowerError Extended :=
  match power x y with
  | finite negative significand exponent =>
    .ok (.finite (written negative significand exponent))
  | infinite negative =>
    if x.isFinite && y.isFinite then .error (if x.isZero then .domain else .range)
    else .ok (.infinite negative)
  | nan => .error .domain

end MonetaryText.Binary64

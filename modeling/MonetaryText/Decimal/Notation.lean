import MonetaryText.Decimal.Basic

/-!
How a decimal is written: in full, or with an exponent when it would take zeros that are not among
its digits. Every decimal has its own text, since trailing zeros, the exponent and the sign of zero
show.
-/

namespace MonetaryText

namespace Decimal

def signText (d : Decimal) : Text := if d.negative then ['-'] else []

/-- Digits with a point before the last `places` of them, zeros filled in on the left. -/
def withPoint (digits : Text) (places : Nat) : Text :=
  let whole := digits.length - places
  if whole = 0 then '0' :: '.' :: (List.replicate (places - digits.length) '0' ++ digits)
  else if places = 0 then digits
  else digits.take whole ++ '.' :: digits.drop whole

/-- An exponent always has its sign. -/
def exponentText (exponent : Int) : Text :=
  (if exponent < 0 then '-' else '+') :: Digits.text exponent.natAbs

/-- One digit, a point before the others if there are any, and the exponent of the first. -/
def withExponent (d : Decimal) : Text :=
  let body := match Digits.text d.coefficient with
    | first :: rest@(_ :: _) => first :: '.' :: rest
    | digits => digits
  body ++ 'E' :: exponentText d.leadingExponent

/-- In full when the exponent is not positive and the leading digit is at most six places behind
the point. -/
def notated (d : Decimal) : Text :=
  d.signText ++
    if d.exponent ≤ 0 && -6 ≤ d.leadingExponent then
      withPoint (Digits.text d.coefficient) (-d.exponent).toNat
    else d.withExponent

/-- The digits of the integer part. -/
def wholeDigits (d : Decimal) : Text := Digits.text d.wholePart

/-- The digits behind the point, one for each place of a negative exponent. -/
def fractionDigits (d : Decimal) : Text := Digits.padded (-d.exponent).toNat d.coefficient

end Decimal

def Number.notated : Number → Text
  | .finite d => d.notated
  | .infinite negative => (if negative then ['-'] else []) ++ "Infinity".toList
  | .nan negative signaling payload =>
    (if negative then ['-'] else []) ++ (if signaling then ['s'] else []) ++ "NaN".toList ++
      if payload = 0 then [] else Digits.text payload

def Number.toString (n : Number) : String := String.ofList n.notated

def Extended.notated (x : Extended) : Text := x.toNumber.notated

end MonetaryText

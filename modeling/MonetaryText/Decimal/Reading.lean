import MonetaryText.Decimal.Basic
import MonetaryText.Text.DecimalDigit

/-!
Numbers in general notation: sign, digits of any script with at most one point, and an exponent; or
the names of the infinities and of the data that are no number. Blanks around the text and
underscores anywhere do not count. Reading never rounds.
-/

namespace MonetaryText

/-- Why a text is no number. -/
inductive ReadingError where
  | malformed
  | outOfRange
deriving DecidableEq, Repr

namespace Number

/-- Digits of other scripts become ASCII digits; other characters outside ASCII are refused. -/
def asciiChar? (c : Char) : Option Char :=
  if c.toNat < 128 then some c else (Text.digitValue? c).map Nat.digitChar

/-- The characters that count, in lower case. -/
def significant? (text : Text) : Option Text :=
  (((Text.trim text).filter (· != '_')).mapM asciiChar?).map (·.map Char.toLower)

def isNumeral (digits : Text) : Bool := !digits.isEmpty && digits.all Char.isDigit

/-- An exponent has an optional sign and at least one digit. -/
def exponent? (text : Text) : Option Int :=
  let (negative, digits) := Text.splitSign text
  if isNumeral digits then
    some (if negative then -(Digits.value digits : Int) else Digits.value digits)
  else none

/-- Splits a text at the first `mark`. -/
def splitAtMark (mark : Char) (text : Text) : Text × Option Text :=
  match text.dropWhile (· != mark) with
  | [] => (text, none)
  | _ :: rest => (text.takeWhile (· != mark), some rest)

/-- Exponents of leading digits up to this bound can be held. -/
def greatestExponent : Int := 999999999999999999

/-- The least exponent that can be held. -/
def leastExponent : Int := -1999999999999999997

def isHeld (d : Decimal) : Bool :=
  leastExponent ≤ d.exponent &&
    (if d.isZero then d.exponent else d.leadingExponent) ≤ greatestExponent

/-- Digits with at most one point, then an exponent after `e`. -/
def decimal? (negative : Bool) (text : Text) : Except ReadingError Decimal :=
  let (mantissa, scale) := splitAtMark 'e' text
  let (whole, fraction) := splitAtMark '.' mantissa
  let digits := whole ++ fraction.getD []
  let places : Int := (fraction.getD []).length
  match isNumeral digits, scale.map exponent? with
  | false, _ => .error .malformed
  | true, some none => .error .malformed
  | true, none => .ok ⟨negative, Digits.value digits, -places⟩
  | true, some (some exponent) =>
    let d : Decimal := ⟨negative, Digits.value digits, exponent - places⟩
    if isHeld d then .ok d else .error .outOfRange

/-- The payload after the name of a datum that is no number. -/
def payload? (digits : Text) : Option Nat :=
  if digits.all Char.isDigit then some (Digits.value digits) else none

def unsigned? (negative : Bool) (text : Text) : Except ReadingError Number :=
  if text = "inf".toList || text = "infinity".toList then .ok (.infinite negative)
  else
    let signaling := text.head? == some 's'
    let name := if signaling then text.drop 1 else text
    if name.take 3 = "nan".toList then
      match payload? (name.drop 3) with
      | some payload => .ok (.nan negative signaling payload)
      | none => .error .malformed
    else (decimal? negative text).map .finite

/-- The number that a text stands for. -/
def read (text : Text) : Except ReadingError Number :=
  match significant? text with
  | none => .error .malformed
  | some text =>
    let (negative, rest) := Text.splitSign text
    unsigned? negative rest

end Number

end MonetaryText

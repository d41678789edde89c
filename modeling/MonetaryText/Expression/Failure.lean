import MonetaryText.Decimal.Notation
import MonetaryText.Binary64.Power
import MonetaryText.Numeral

/-!
Why the evaluation of an expression fails.
-/

namespace MonetaryText.Expression

/-- What is wrong with the text. -/
inductive Malformation where
  | unexpected (c : Char)
  | unbalanced
  | missingClosing
  | endOfText
  | numeral (error : Numeral.Error)
  | tooDeep
  deriving DecidableEq, Repr

def Malformation.message : Malformation → String
  | unexpected c => "Unexpected: " ++ Text.quoted [c]
  | unbalanced => "Unbalanced ')'"
  | missingClosing => "Missing ')'"
  | endOfText => "Unexpected end of expression"
  | numeral error => error.message
  | tooDeep => "Expression is nested too deeply"

/-- What has no result although the text is in order. -/
inductive Impossibility where
  | divisionByZero
  | exponentExceeds (exponent : Int) (bound : Nat)
  | notExact (base exponent : Extended)
  | noPower (base exponent : Extended) (error : Binary64.PowerError)
  | signal (signal : Signal)
  deriving DecidableEq, Repr

def Impossibility.message : Impossibility → String
  | divisionByZero => "Division by zero"
  | exponentExceeds exponent bound =>
    "Exponent " ++ toString exponent ++ " exceeds " ++ toString bound
  | notExact base exponent =>
    "Base " ++ base.toNumber.toString ++ " is not exactly representable for exponent " ++
      exponent.toNumber.toString
  | noPower base exponent error =>
    "Cannot raise " ++ base.toNumber.toString ++ " to " ++ exponent.toNumber.toString ++ ": " ++
      error.message
  | signal s => "Arithmetic error: " ++ s.name

/-- A failure with the position where it is noticed, if it has one. The last three are not about
the text: an exponent with too many digits for a message, an infinite exponent, and a precision
that no arithmetic has. -/
inductive Failure where
  | malformed (cause : Malformation) (position : Option Nat)
  | impossible (cause : Impossibility) (position : Option Nat)
  | exponentTooLong
  | exponentInfinite
  | precisionOutOfRange
  deriving DecidableEq, Repr

def Failure.message : Failure → String
  | malformed cause _ => cause.message
  | impossible cause _ => cause.message
  | exponentTooLong =>
    "Exceeds the limit (4300 digits) for integer string conversion; " ++
      "use sys.set_int_max_str_digits() to increase the limit"
  | exponentInfinite => "cannot convert Infinity to integer"
  | precisionOutOfRange => Context.precisionMessage

/-- A signal of the arithmetic has no position. -/
def ofSignal {α : Type} (result : Except Signal α) : Except Failure α :=
  result.mapError fun s => .impossible (.signal s) none

end MonetaryText.Expression

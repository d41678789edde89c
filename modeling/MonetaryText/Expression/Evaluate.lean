import MonetaryText.Expression.Grammar
import MonetaryText.Expression.Power
import MonetaryText.Settings

/-!
The value of an expression in decimal arithmetic. Sums, differences and products are rounded to the
precision of the settings, quotients to the fraction digits of the style.
-/

namespace MonetaryText.Expression

/-- The value of a numeral that begins at a position. -/
def numeralValue (style : NumeralStyle) (position : Nat) (text : Text) : Except Failure Extended :=
  match Numeral.read style text with
  | .ok d => .ok (.finite d)
  | .error .noDigits => .error (.impossible (.signal .invalidOperation) none)
  | .error error => .error (.malformed (.numeral error) position)

/-- The quotient at the exponent `unit`, rounded by the mode of the style. -/
def divide (style : NumeralStyle) (context : Context) (unit : Int) (position : Nat)
    (dividend divisor : Extended) : Except Failure Extended :=
  if divisor.isZero then .error (.impossible .divisionByZero position)
  else ofSignal do (← dividend.div context divisor).quantize context style.rounding unit

/-- Decimal arithmetic as the meaning of the operators. -/
def arithmetic (machine : Binary64 → Binary64 → Binary64) (style : NumeralStyle)
    (settings : Settings) (unit : Int) : Operations Extended :=
  let context : Context := ⟨settings.precision⟩
  { numeral := numeralValue style
    negate := Extended.negate
    apply := fun
      | .sum, _, x, y => ofSignal (x.add context y)
      | .difference, _, x, y => ofSignal (x.sub context y)
      | .product, _, x, y => ofSignal (x.mul context y)
      | .quotient, position, x, y => divide style context unit position x y
      | .power, position, x, y => power machine context settings.greatestPower position x y }

/-- The levels of nesting that an ordinary call stack has room for. -/
def standardNesting : Nat := 975

/-- A numeral with a sign takes five levels. There are `nesting` more for parentheses, which take four
each, and for further signs and powers, which take one. -/
def evaluate (machine : Binary64 → Binary64 → Binary64) (nesting : Nat) (style : NumeralStyle)
    (settings : Settings) (text : Text) : Except Failure Extended := do
  if Context.maxPrecision < settings.precision then throw .precisionOutOfRange
  let unit ← ofSignal (Context.unitExponent ⟨settings.precision⟩ style.fractionDigits)
  read style (arithmetic machine style settings unit) (nesting + 5) text

end MonetaryText.Expression

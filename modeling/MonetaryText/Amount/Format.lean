import MonetaryText.Amount.Grouping
import MonetaryText.Amount.Rounding

/-!
The text of an amount in a numeral style, and the text of an amount without what a currency adds to
it.
-/

namespace MonetaryText.Amount

/-- Dashes that stand for a minus sign become one. -/
def plainMinus (c : Char) : Char :=
  if c = '\u2212' || c = '\u2012' || c = '\u2013' then '-' else c

/-- ASCII digits, the minus sign and the separators of the style. -/
def isKept (style : NumeralStyle) (c : Char) : Bool :=
  c.isDigit || c == '-' || style.separators.contains c

/-- Drops everything but the amount: currency symbols, codes, marks of direction. -/
def bareText (style : NumeralStyle) (text : Text) : Text :=
  Text.trim ((text.map plainMinus).filter (isKept style))

/-- The sign, the grouped integer part, and the fraction behind the point if there is one. -/
def layout (style : NumeralStyle) (negative : Bool) (magnitude : Decimal) : Text :=
  (if negative then ['-'] else []) ++
    grouped style.groupLengths [style.group] magnitude.wholeDigits ++
    match magnitude.fractionDigits with
    | [] => []
    | places => style.point :: places

/-- The text of a decimal: rounded, and its magnitude taken at the standard precision. Zero has no
sign. -/
def format (style : NumeralStyle) (d : Decimal) : Except Error Text := do
  let rounded ← round style d
  let magnitude ← ofSignal (Context.standard.finish rounded.magnitude)
  return bareText style (layout style rounded.isNegative magnitude)

/-- Only finite numbers are amounts. -/
def formatNumber (style : NumeralStyle) : Number → Except Error Text
  | .finite d => format style d
  | amount => .error (.notFinite amount)

end MonetaryText.Amount

import MonetaryText.Expression.Token

/-!
The check of a text before it is read, for plain amounts and for expressions. It is permissive:
which separators stand where within a numeral is left to the reading.
-/

namespace MonetaryText.Expression

/-- Operands and operators alternate, signs and opening parentheses may come before an operand, and
each closing parenthesis has its opening one. A sign is an operator whose text is a part of `+-`. -/
def alternates : Bool → Nat → List Token → Bool
  | expectOperand, depth, [] => !expectOperand && depth == 0
  | true, depth, token :: rest =>
    match token.kind with
    | .number => alternates false depth rest
    | .opening => alternates true (depth + 1) rest
    | .operator => Text.occursIn token.text ['+', '-'] && alternates true depth rest
    | .closing => false
  | false, depth, token :: rest =>
    match token.kind, depth with
    | .operator, _ => alternates true depth rest
    | .closing, depth + 1 => alternates false depth rest
    | _, _ => false

def isExpression (tokens : List Token) : Bool := alternates true 0 tokens

/-- An optional sign, then digits with any separators between them. -/
def isPlainAmount (style : NumeralStyle) (text : Text) : Bool :=
  let body := (Text.splitSign (Text.trim text)).2
  body.head?.any Char.isDigit && body.getLast?.any Char.isDigit &&
    body.all fun c => c.isDigit || style.separators.contains c

/-- Blank text means "no value". -/
def isWellFormed (style : NumeralStyle) (calculable allowEmpty : Bool) (text : Text) : Bool :=
  if Text.isBlankText text then allowEmpty
  else if calculable then
    match tokenize style text with
    | .ok tokens => isExpression tokens
    | .error _ => false
  else isPlainAmount style text

end MonetaryText.Expression

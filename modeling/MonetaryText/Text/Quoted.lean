import MonetaryText.Text.Basic
import MonetaryText.Text.Printable

/-!
Text as a message quotes it: between quotes, on one line, with every unprintable character
written as an escape.
-/

namespace MonetaryText.Text

/-- The `width` low hexadecimal digits of a code point, in lower case. -/
def hexDigits (width code : Nat) : Text :=
  (List.range width).reverse.map fun place => Nat.digitChar ((code >>> (4 * place)) % 16)

/-- One character inside quotes. The quote in use and the backslash are escaped. -/
def quotedChar (quote c : Char) : Text :=
  if c == quote || c == '\\' then ['\\', c]
  else if c == '\n' then ['\\', 'n']
  else if c == '\r' then ['\\', 'r']
  else if c == '\t' then ['\\', 't']
  else if isPrintable c then [c]
  else if c.toNat < 0x100 then '\\' :: 'x' :: hexDigits 2 c.toNat
  else if c.toNat < 0x10000 then '\\' :: 'u' :: hexDigits 4 c.toNat
  else '\\' :: 'U' :: hexDigits 8 c.toNat

/-- Single quotes, unless the text holds one and no double quote. -/
def quoteFor (text : Text) : Char :=
  if text.contains '\'' && !text.contains '"' then '"' else '\''

def quoted (text : Text) : String :=
  let quote := quoteFor text
  String.ofList (quote :: text.flatMap (quotedChar quote) ++ [quote])

end MonetaryText.Text

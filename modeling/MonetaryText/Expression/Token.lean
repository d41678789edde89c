import MonetaryText.NumeralStyle.Basic
import MonetaryText.Text.Quoted

/-!
Tokens of an amount that may be calculated: numerals, operators and parentheses, with blanks
dropped. A numeral begins with a digit and goes on as far as its style has characters for it.
-/

namespace MonetaryText.Expression

inductive TokenKind where
  | number | operator | opening | closing
  deriving DecidableEq, Repr

def TokenKind.name : TokenKind → String
  | number => "NUMBER"
  | operator => "OPERATOR"
  | opening => "LPAREN"
  | closing => "RPAREN"

structure Token where
  kind : TokenKind
  text : Text
  position : Nat
  deriving DecidableEq, Repr

/-- A character that begins no token. -/
structure StrayCharacter where
  character : Char
  position : Nat
  deriving DecidableEq, Repr

def StrayCharacter.message (stray : StrayCharacter) : String :=
  "Unexpected character " ++ Text.quoted [stray.character] ++ " at " ++ toString stray.position

def operators : List Char := ['+', '-', '*', '/', '^']

/-- The kind of a token of one character. -/
def singleKind? (c : Char) : Option TokenKind :=
  if operators.contains c then some .operator
  else if c = '(' then some .opening
  else if c = ')' then some .closing
  else none

/-- The tokens of a text that begins at `position`. Blanks at the end of a numeral are not part of
it, though they may separate groups within. -/
def scan (style : NumeralStyle) (position : Nat) : Text → Except StrayCharacter (List Token)
  | [] => .ok []
  | c :: rest =>
    if c.isDigit then do
      let run := rest.takeWhile style.isNumeralChar
      let later ← scan style (position + 1 + run.length) (rest.dropWhile style.isNumeralChar)
      return ⟨.number, Text.trimRight (c :: run), position⟩ :: later
    else
      match singleKind? c with
      | some kind => do
        let later ← scan style (position + 1) rest
        return ⟨kind, [c], position⟩ :: later
      | none => if Text.isBlank c then scan style (position + 1) rest else .error ⟨c, position⟩
termination_by text => text.length
decreasing_by
  all_goals simp only [List.length_cons]
  · have shorter := (List.dropWhile_sublist style.isNumeralChar (l := rest)).length_le
    omega
  · omega
  · omega

def tokenize (style : NumeralStyle) (text : Text) : Except StrayCharacter (List Token) :=
  scan style 0 text

end MonetaryText.Expression

import MonetaryText.Expression.Failure

/-!
The grammar of expressions, read from left to right:

    expression := term (('+' | '-') term)*
    term       := factor (('*' | '/') factor)*
    factor     := ('+' | '-') factor | primary ('^' factor)?
    primary    := numeral | '(' expression ')'

What the parts mean is given by `Operations`, which are carried out as soon as their operands have
been read. Hence the first failure in the order of the text is the one that is reported.
-/

namespace MonetaryText.Expression

inductive Operator where
  | sum | difference | product | quotient | power
  deriving DecidableEq, Repr

/-- The meaning of numerals and operators. A position is where a numeral begins, or the first one
behind an operator. -/
structure Operations (α : Type) where
  numeral : Nat → Text → Except Failure α
  negate : α → α
  apply : Operator → Nat → α → α → Except Failure α

/-- A position within a text, and the text from there on. -/
structure Cursor where
  position : Nat
  rest : Text
  deriving DecidableEq, Repr

namespace Cursor

def skipBlanks (cursor : Cursor) : Cursor :=
  ⟨cursor.position + (cursor.rest.takeWhile Text.isBlank).length,
    cursor.rest.dropWhile Text.isBlank⟩

/-- Behind the first `count` characters. -/
def advance (cursor : Cursor) (count : Nat) : Cursor :=
  ⟨cursor.position + count, cursor.rest.drop count⟩

end Cursor

/-- Reads one part of an expression and says where it ends. -/
abbrev Reader (α : Type) := Cursor → Except Failure (α × Cursor)

def sumOperator? : Char → Option Operator
  | '+' => some .sum
  | '-' => some .difference
  | _ => none

def productOperator? : Char → Option Operator
  | '*' => some .product
  | '/' => some .quotient
  | _ => none

variable {α : Type} (style : NumeralStyle) (operations : Operations α)

/-- Applies operators of one precedence from left to right, as long as one of them follows. The
length of the text is fuel enough, since each operator takes a character. -/
def chain (operator? : Char → Option Operator) (operand : Reader α) : Nat → α → Reader α
  | 0, x, cursor => .ok (x, cursor)
  | fuel + 1, x, cursor =>
    let cursor := cursor.skipBlanks
    match cursor.rest.head?.bind operator? with
    | none => .ok (x, cursor)
    | some operator => do
      let (y, later) ← operand (cursor.advance 1)
      let z ← operations.apply operator (cursor.position + 1) x y
      chain operator? operand fuel z later

/-- The longest run of characters of numerals, as one numeral. -/
def numeral (cursor : Cursor) : Except Failure (α × Cursor) := do
  let run := cursor.rest.takeWhile style.isNumeralChar
  let x ← operations.numeral cursor.position run
  return (x, cursor.advance run.length)

def tooDeep {β : Type} : Except Failure β := .error (.malformed .tooDeep none)

mutual

/-- Each part that is read within another takes one level of a budget. -/
def expression : Nat → Cursor → Except Failure (α × Cursor)
  | 0, _ => tooDeep
  | budget + 1, cursor => do
    let (x, cursor) ← term budget cursor
    chain operations sumOperator? (term budget) cursor.rest.length x cursor

def term : Nat → Cursor → Except Failure (α × Cursor)
  | 0, _ => tooDeep
  | budget + 1, cursor => do
    let (x, cursor) ← factor budget cursor
    chain operations productOperator? (factor budget) cursor.rest.length x cursor

def factor : Nat → Cursor → Except Failure (α × Cursor)
  | 0, _ => tooDeep
  | budget + 1, cursor =>
    let cursor := cursor.skipBlanks
    match cursor.rest.head? with
    | some '+' => factor budget (cursor.advance 1)
    | some '-' => do
      let (x, later) ← factor budget (cursor.advance 1)
      return (operations.negate x, later)
    | _ => do
      let (x, later) ← primary budget cursor
      let later := later.skipBlanks
      match later.rest.head? with
      | some '^' => do
        let (y, last) ← factor budget (later.advance 1)
        let z ← operations.apply .power (later.position + 1) x y
        return (z, last)
      | _ => return (x, later)

def primary : Nat → Cursor → Except Failure (α × Cursor)
  | 0, _ => tooDeep
  | budget + 1, cursor =>
    let cursor := cursor.skipBlanks
    match cursor.rest.head? with
    | none => .error (.malformed .endOfText cursor.position)
    | some '(' => do
      let (x, later) ← expression budget (cursor.advance 1)
      let later := later.skipBlanks
      match later.rest.head? with
      | some ')' => return (x, later.advance 1)
      | _ => .error (.malformed .missingClosing later.position)
    | some c =>
      if style.isNumeralChar c then numeral style operations cursor
      else .error (.malformed (.unexpected c) cursor.position)

end

/-- Reads a whole text as one expression. -/
def read (budget : Nat) (text : Text) : Except Failure α := do
  let (x, cursor) ← expression style operations budget ⟨0, text⟩
  let cursor := cursor.skipBlanks
  match cursor.rest.head? with
  | none => return x
  | some ')' => .error (.malformed .unbalanced cursor.position)
  | some c => .error (.malformed (.unexpected c) cursor.position)

end MonetaryText.Expression

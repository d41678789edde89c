import MonetaryText.Decimal.Rounding

/-!
Rules for the fields of a record, and the report on those that are broken.
-/

namespace MonetaryText

/-- A rule that the value of a field breaks. -/
inductive Rule where
  | notEmpty
  | singleCharacter
  | atLeast (bound : Int)
  | atMost (bound : Int)
  | roundingMode
  | currencyCode
  | integer
  | consistent (reason : String)
deriving DecidableEq, Repr

/-- All modes by name, the last one after "or". -/
def RoundingMode.alternatives : String :=
  let names := all.map fun mode => "'" ++ mode.name ++ "'"
  ", ".intercalate names.dropLast ++ " or " ++ (names.getLast?.getD "")

def Rule.message : Rule → String
  | notEmpty => "String should have at least 1 character"
  | singleCharacter => "String should have at most 1 character"
  | atLeast bound => "Input should be greater than or equal to " ++ toString bound
  | atMost bound => "Input should be less than or equal to " ++ toString bound
  | roundingMode => "Input should be " ++ RoundingMode.alternatives
  | currencyCode => "String should match pattern '^[A-Z]{3}$'"
  | integer => "Input should be a valid integer, unable to parse string as an integer"
  | consistent reason => "Value error, " ++ reason

/-- A rule together with the field that breaks it; the empty name stands for the whole record. -/
structure Violation where
  field : String
  rule : Rule
deriving DecidableEq, Repr

namespace Violation

def message (violation : Violation) : String :=
  violation.field ++ ": " ++ violation.rule.message

/-- All messages in alphabetical order. -/
def report (violations : List Violation) : String :=
  "; ".intercalate ((violations.map message).mergeSort fun a b => a ≤ b)

end Violation

/-- The outcome of checking fields one by one: every broken rule counts. -/
abbrev Checked := Except (List Violation)

namespace Checked

/-- Checks two parts; the violations of both are reported. -/
def both {α β : Type} (a : Checked α) (b : Checked β) : Checked (α × β) :=
  match a, b with
  | .ok a, .ok b => .ok (a, b)
  | .ok _, .error rest => .error rest
  | .error first, .ok _ => .error first
  | .error first, .error rest => .error (first ++ rest)

def broken {α : Type} (field : String) (rule : Rule) : Checked α := .error [⟨field, rule⟩]

def character (field : String) : Text → Checked Char
  | [] => broken field .notEmpty
  | [c] => .ok c
  | _ => broken field .singleCharacter

def roundingMode (field name : String) : Checked RoundingMode :=
  match RoundingMode.ofName? name with
  | some mode => .ok mode
  | none => broken field .roundingMode

end Checked

end MonetaryText

import MonetaryText.Text.Quoted
import MonetaryText.Validation

/-!
Settings of the library, each with a default and a rule. They are given as integers or as texts;
values that are given directly go before those of the environment.
-/

namespace MonetaryText

structure Settings where
  defaultLocale : String := "en_US"
  rounding : RoundingMode := .halfEven
  /-- The fraction digits where neither a currency nor a territory lays them down. -/
  defaultDigits : Nat := 2
  precision : Nat := 100
  greatestPower : Nat := 1000
  logLevel : String := "INFO"
  defaultDigits_le : defaultDigits ≤ 10 := by decide
  precision_ge : 28 ≤ precision := by decide
  greatestPower_pos : 1 ≤ greatestPower := by decide

namespace Settings

/-- A value as it is given for a setting. -/
inductive Given where
  | integer (value : Int)
  | text (value : String)
deriving DecidableEq, Repr

def Given.toText : Given → String
  | integer value => toString value
  | text value => value

/-- A text of digits where single underscores may stand between two of them. -/
def isGroupedNumeral : Text → Bool
  | [] => false
  | [c] => c.isDigit
  | c :: '_' :: rest => c.isDigit && isGroupedNumeral rest
  | c :: rest => c.isDigit && isGroupedNumeral rest

/-- Zeros behind a point do not count. -/
def dropZeroFraction (text : Text) : Text :=
  match text.dropWhile (· != '.') with
  | '.' :: zeros => if zeros.all (· == '0') then text.takeWhile (· != '.') else text
  | _ => text

def integer? (text : String) : Option Int :=
  let (negative, body) := Text.splitSign (Text.trim text.toList)
  let digits := dropZeroFraction body
  if isGroupedNumeral digits then
    let value : Int := Digits.value (digits.filter (· != '_'))
    some (if negative then -value else value)
  else none

def Given.integer? : Given → Option Int
  | integer value => some value
  | text value => Settings.integer? value

/-- Pairs of a setting's name and its value; the first pair for a name counts. -/
abbrev Source := List (String × Given)

/-- Natural numbers of at least `least`, and at most `most?` if that is given. -/
abbrev Bounded (least : Nat) (most? : Option Nat) :=
  { n : Nat // least ≤ n ∧ most?.all (n ≤ ·) = true }

/-- A setting within its bounds. -/
def natural (source : Source) (field : String) {least : Nat} {most? : Option Nat}
    (initial : Bounded least most?) : Checked (Bounded least most?) :=
  match source.lookup field with
  | none => .ok initial
  | some given =>
    match given.integer? with
    | none => .broken field .integer
    | some value =>
      if low : value < least then .broken field (.atLeast least)
      else if high : most?.all (value.toNat ≤ ·) = true then
        .ok ⟨value.toNat, by omega, high⟩
      else .broken field (.atMost (most?.getD 0))

def text (source : Source) (field initial : String) : String :=
  ((source.lookup field).map Given.toText).getD initial

/-- The settings that a source gives, with defaults for the others. -/
def ofSource (source : Source) : Checked Settings := do
  let standard : Settings := {}
  let (rounding, digits, precision, power) ←
    (Checked.roundingMode "rounding_mode"
      (text source "rounding_mode" standard.rounding.name)).both <|
    (natural source "default_fraction_digits"
      (⟨standard.defaultDigits, by decide, by decide⟩ : Bounded 0 (some 10))).both <|
    (natural source "decimal_precision"
      (⟨standard.precision, by decide, by decide⟩ : Bounded 28 none)).both
    (natural source "max_integer_exponent"
      (⟨standard.greatestPower, by decide, by decide⟩ : Bounded 1 none))
  return {
    defaultLocale := text source "default_locale" standard.defaultLocale
    rounding
    defaultDigits := digits
    precision := precision
    greatestPower := power
    logLevel := text source "log_level" standard.logLevel
    defaultDigits_le := by simpa using digits.2.2
    precision_ge := precision.2.1
    greatestPower_pos := power.2.1 }

end Settings

/-- A name that is no rounding mode. -/
structure UnknownRoundingMode where
  name : String
  deriving DecidableEq, Repr

def UnknownRoundingMode.message (unknown : UnknownRoundingMode) : String :=
  Text.quoted unknown.name.toList ++ " is not a valid RoundingMode"

/-- The mode of a name; no name at all means the mode of the settings. -/
def Settings.roundingFor (settings : Settings) (name : String) :
    Except UnknownRoundingMode RoundingMode :=
  if name.isEmpty then .ok settings.rounding
  else
    match RoundingMode.ofName? name with
    | some mode => .ok mode
    | none => .error ⟨name⟩

end MonetaryText

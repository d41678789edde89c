import MonetaryText.NumeralStyle.Basic
import MonetaryText.Decimal.Basic
import MonetaryText.Text.Quoted

/-!
Reading one numeral in a numeral style: an optional sign, runs of digits with one group separator
between two of them, and behind the decimal point one more run. The lengths of the groups do not
matter.
-/

namespace MonetaryText.Numeral

/-- Why a text is no numeral. Where digits separate groups, none may be left. -/
inductive Error where
  | empty
  | malformed (locale : String) (text : Text)
  | noDigits
deriving DecidableEq, Repr

def Error.message : Error → String
  | empty => "Empty numeral"
  | malformed locale text => "Not a numeral in " ++ locale ++ ": " ++ Text.quoted text
  | noDigits => "No digits in numeral"

/-- The runs of digits in a text: the first one, then the others each with the character before
it. Runs are empty where two other characters meet. -/
def digitRuns (text : Text) : Text × List (Char × Text) :=
  text.foldr
    (fun c runs => if c.isDigit then (c :: runs.1, runs.2) else ([], (c, runs.1) :: runs.2))
    ([], [])

/-- The runs and what stands between them make up the text. -/
theorem append_flatMap_digitRuns (text : Text) :
    (digitRuns text).1 ++ (digitRuns text).2.flatMap (fun run => run.1 :: run.2) = text := by
  unfold digitRuns
  induction text with
  | nil => rfl
  | cons c rest ih =>
    rw [List.foldr_cons]
    split <;> simp [ih]

/-- The run behind the decimal point, if the last separator is one, and the runs before it. A point
that also separates groups counts as a group separator. -/
def splitFraction (style : NumeralStyle) (runs : List (Char × Text)) :
    List (Char × Text) × Option Text :=
  match runs.getLast? with
  | some (separator, run) =>
    if separator == style.point && !style.groupChars.contains separator then
      (runs.dropLast, some run)
    else (runs, none)
  | none => (runs, none)

/-- The digits of the integer part, and of the fraction if there is one, of an unsigned numeral. -/
def parts? (style : NumeralStyle) (body : Text) : Option (Text × Option Text) :=
  let (first, rest) := digitRuns body
  let (groups, fraction) := splitFraction style rest
  if first.isEmpty || rest.any (·.2.isEmpty) ||
      !groups.all (style.groupChars.contains ·.1) then none
  else
    let digits := first ++ groups.flatMap (·.2)
    some (digits.filter (!style.groupChars.contains ·), fraction)

/-- The number that a numeral stands for, at the exponent that its fraction digits give. -/
def read (style : NumeralStyle) (text : Text) : Except Error Decimal :=
  let trimmed := Text.trim text
  if trimmed.isEmpty then .error .empty
  else
    let (negative, body) := Text.splitSign trimmed
    match parts? style body with
    | none => .error (.malformed style.locale text)
    | some ([], none) => .error .noDigits
    | some (digits, fraction) =>
      let places := fraction.getD []
      .ok ⟨negative, Digits.value (digits ++ places), -places.length⟩

end MonetaryText.Numeral

import MonetaryText.Locale.Conventions
import MonetaryText.Validation

/-!
How numerals are written and read: the decimal point, the group separators, the lengths of the
groups, and how many fraction digits an amount keeps.
-/

namespace MonetaryText

/-- `group` is the separator that is written and one of the texts in `groups`, whose characters are
all recognised when reading. -/
structure NumeralStyle where
  locale : String
  point : Char
  group : Char
  groups : List Text
  groupLengths : List Nat
  fractionDigits : Nat
  rounding : RoundingMode
  group_mem : [group] ∈ groups
  point_not_mem : [point] ∉ groups
  lengths_pos : ∀ length ∈ groupLengths, 0 < length

namespace NumeralStyle

def ofConventions (locale : String) (conventions : Conventions) (fractionDigits : Nat)
    (rounding : RoundingMode) : NumeralStyle where
  locale := locale
  point := conventions.point
  group := conventions.group
  groups := Separator.recognised conventions.group
  groupLengths := conventions.groupLengths
  fractionDigits := fractionDigits
  rounding := rounding
  group_mem := Separator.mem_recognised _
  point_not_mem := conventions.point_not_group
  lengths_pos := conventions.lengths_pos

/-- The style where a locale lays down nothing of use. -/
def western (locale : String) (fractionDigits : Nat) (rounding : RoundingMode) : NumeralStyle :=
  ofConventions locale .western fractionDigits rounding

/-- The characters that separate groups. -/
def groupChars (style : NumeralStyle) : List Char := style.groups.flatten

/-- The characters that may stand between the digits of one numeral. -/
def separators (style : NumeralStyle) : List Char := style.point :: style.groupChars

/-- The characters that may continue a numeral once it has begun. -/
def numeralChars (style : NumeralStyle) : List Char :=
  "0123456789".toList ++ style.separators ++ [Separator.noBreakSpace]

def isNumeralChar (style : NumeralStyle) (c : Char) : Bool := style.numeralChars.contains c

/-- Whether groups are written with a blank between them. -/
def groupsByBlank (style : NumeralStyle) : Bool := Separator.blanks.contains style.group

end NumeralStyle

end MonetaryText

import MonetaryText.NumeralStyle.Basic

/-!
Numeral styles put together field by field. A draft becomes a style when every field obeys its rule
and the fields agree with one another.
-/

namespace MonetaryText

namespace NumeralStyle

structure Draft where
  locale : String := "en_US"
  point : Text := ['.']
  group : Text := [',']
  groups : List Text := [[',']]
  groupLengths : List Int := [3]
  fractionDigits : Int := 2
  rounding : String := RoundingMode.halfEven.name

namespace Draft

/-- Each separator once, in order of code points. -/
def orderedGroups (draft : Draft) : List Text :=
  draft.groups.eraseDups.mergeSort Text.precedes

/-- Lengths below one stay below one. -/
def lengths (draft : Draft) : List Nat := draft.groupLengths.map Int.toNat

def places (draft : Draft) : Checked Nat :=
  if draft.fractionDigits < 0 then .broken "currency_fraction_digits" (.atLeast 0)
  else .ok draft.fractionDigits.toNat

/-- Fields that are each in order may still contradict one another. -/
def agree (draft : Draft) (point group : Char) (places : Nat) (mode : RoundingMode) :
    Checked NumeralStyle :=
  if group_mem : [group] ∈ draft.orderedGroups then
    if point_not_mem : [point] ∉ draft.orderedGroups then
      if lengths_pos : ∀ length ∈ draft.lengths, 0 < length then
        .ok { locale := draft.locale, point, group, groups := draft.orderedGroups,
              groupLengths := draft.lengths, fractionDigits := places, rounding := mode,
              group_mem, point_not_mem, lengths_pos }
      else .broken "" (.consistent "group lengths must be positive")
    else .broken "" (.consistent "decimal_separator cannot also be a group separator")
  else .broken "" (.consistent "group_separator must be one of group_separators")

def check (draft : Draft) : Checked NumeralStyle := do
  let (point, group, places, mode) ←
    (Checked.character "decimal_separator" draft.point).both <|
    (Checked.character "group_separator" draft.group).both <|
    draft.places.both (Checked.roundingMode "rounding_mode" draft.rounding)
  draft.agree point group places mode

end Draft

end NumeralStyle

end MonetaryText

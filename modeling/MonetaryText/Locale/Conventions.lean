import MonetaryText.Text.Basic

/-!
How numbers are parted: the decimal point, the group separator and the lengths of the digit groups.
-/

namespace MonetaryText

namespace Separator

def noBreakSpace : Char := '\u00a0'

def narrowNoBreakSpace : Char := '\u202f'

/-- Blanks that separate groups, in order of their code points. -/
def blanks : List Char := [' ', noBreakSpace, narrowNoBreakSpace]

/-- Where one blank separates groups, every one of them is recognised. -/
def recognised (group : Char) : List Text :=
  if group ∈ blanks then blanks.map ([·]) else [[group]]

theorem mem_recognised (group : Char) : [group] ∈ recognised group := by
  unfold recognised
  split
  · exact List.mem_map_of_mem ‹_›
  · exact List.mem_singleton_self _

theorem eq_or_mem_blanks {c group : Char} (member : [c] ∈ recognised group) :
    c = group ∨ c ∈ blanks := by
  unfold recognised at member
  split at member
  · exact .inr (by simpa using member)
  · exact .inl (by simpa using member)

end Separator

/-- Groups are counted from the decimal point, the last length repeats, and no lengths mean no
groups. -/
structure Conventions where
  point : Char
  group : Char
  groupLengths : List Nat := [3]
  point_not_group : [point] ∉ Separator.recognised group := by decide
  lengths_pos : ∀ length ∈ groupLengths, 0 < length := by decide

/-- A point, commas and groups of three. -/
def Conventions.western : Conventions := { point := '.', group := ',' }

end MonetaryText

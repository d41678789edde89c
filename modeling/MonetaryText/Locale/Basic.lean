import MonetaryText.Locale.Conventions

/-!
Locales, as far as they have a say in numbers, and the ways to ask for one.
-/

namespace MonetaryText

/-- A locale by its canonical identifier. The separators are texts of any length, though no blank parts
integer and fraction. The pattern for decimal numbers, where there is one, gives the size of the first
group and that of the others; no group is without digits. -/
structure Locale where
  id : String
  territory? : Option String := none
  point : Text
  group : Text
  grouping? : Option (Nat × Nat) := some (3, 3)
  point_solid : point ∉ Separator.blanks.map ([·]) := by decide
  sizes_pos : ∀ sizes ∈ grouping?, 0 < sizes.1 ∧ 0 < sizes.2 := by decide

namespace Locale

/-- Sizes from here on stand for no groups. -/
def ungrouped : Nat := 1000

def groupLengths (locale : Locale) : List Nat :=
  match locale.grouping? with
  | none => [3]
  | some (first, others) =>
    if ungrouped ≤ first then []
    else if others = first ∨ ungrouped ≤ others then [first]
    else [first, others]

theorem groupLengths_pos (locale : Locale) : ∀ length ∈ locale.groupLengths, 0 < length := by
  have positive := locale.sizes_pos
  unfold groupLengths
  split
  · decide
  · rename_i first others known
    obtain ⟨firstPos, othersPos⟩ := positive (first, others) known
    split
    · nofun
    · split <;> simp [firstPos, othersPos]

/-- The conventions of a locale, unless its separators are of no use: two different characters are
needed. -/
def conventions? (locale : Locale) : Option Conventions :=
  match locale.point, locale.group, locale.point_solid with
  | [point], [group], solid =>
    if apart : point = group then none
    else
      some {
        point, group
        groupLengths := locale.groupLengths
        point_not_group := fun member =>
          (Separator.eq_or_mem_blanks member).elim apart fun blank => solid (List.mem_map_of_mem blank)
        lengths_pos := locale.groupLengths_pos }
  | _, _, _ => none

theorem separators_of_conventions? {locale : Locale} {conventions : Conventions}
    (usable : locale.conventions? = some conventions) :
    locale.point = [conventions.point] ∧ locale.group = [conventions.group] := by
  unfold conventions? at usable
  split at usable
  · rename_i one other _
    split at usable
    · cases usable
    · cases usable
      exact ⟨one, other⟩
  · cases usable

/-- An identifier as callers write it: blanks around it are dropped and hyphens join like
underscores. -/
def normalize (id : String) : String :=
  String.ofList ((Text.trim id.toList).map fun c => if c = '-' then '_' else c)

end Locale

/-- A locale that is asked for by identifier or given as such. -/
inductive LocaleRef where
  | named (id : String)
  | known (locale : Locale)

namespace LocaleRef

def normalized : LocaleRef → String
  | named id => Locale.normalize id
  | known locale => locale.id

/-- Whether nothing at all is asked for. -/
def isEmpty : LocaleRef → Bool
  | named id => id.isEmpty
  | known _ => false

end LocaleRef

end MonetaryText

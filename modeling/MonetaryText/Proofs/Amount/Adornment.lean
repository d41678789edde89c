import MonetaryText.Proofs.Amount.RoundTrip

/-!
Amounts with what a currency adds to them in front and behind: symbols, codes, blanks, marks of
direction. Of such an addition only the separators of the style are left when an amount is taken out of
its text, and blanks at the ends are trimmed (`bareText_append_layout`). So the amount comes out as it
was exactly if no other separator was added (`bareText_adorned`): the full stop of an abbreviation stays
where the style has it between digits.
-/

namespace MonetaryText.Amount

variable {style : NumeralStyle}

/-- What a currency adds to an amount has no digit and no minus sign in it. -/
def IsAddition (text : Text) : Prop := ∀ c ∈ text, c.isDigit = false ∧ plainMinus c ≠ '-'

instance (text : Text) : Decidable (IsAddition text) :=
  decidable_of_iff (text.all (fun c => !c.isDigit && plainMinus c != '-') = true)
    (by simp [IsAddition])

/-- The characters of a text that separate the digits of numerals. -/
def separatorsIn (style : NumeralStyle) (text : Text) : Text :=
  text.filter style.separators.contains

/-- Only separators are kept of an addition. -/
theorem filter_addition {text : Text} (addition : IsAddition text) :
    (text.map plainMinus).filter (isKept style) = separatorsIn style text := by
  have plain : ∀ c ∈ text, plainMinus c = c := by
    intro c member
    have other := (addition c member).2
    by_contra changed
    unfold plainMinus at other changed
    split at changed <;> simp_all
  have kept : ∀ c ∈ text, isKept style c = style.separators.contains c := by
    intro c member
    have minus : c ≠ '-' := by
      have other := (addition c member).2
      rwa [plain c member] at other
    simp [isKept, (addition c member).1, minus]
  rw [List.map_congr_left plain, List.map_id', separatorsIn, List.filter_congr kept]

theorem isBlankText_separatorsIn {text : Text} :
    Text.isBlankText (separatorsIn style text) = true ↔
      ∀ c ∈ text, c ∈ style.separators → Text.isBlank c = true := by
  simp only [Text.isBlankText, separatorsIn, List.all_eq_true, List.mem_filter,
    List.contains_iff_mem, and_imp]

/-- An amount that has something added to it comes out with the separators of the additions. -/
theorem bareText_append_layout (conventional : style.IsConventional) {before after : Text}
    (front : IsAddition before) (back : IsAddition after) (negative : Bool) {magnitude : Decimal}
    (nonnegative : magnitude.negative = false) :
    bareText style (before ++ layout style negative magnitude ++ after) =
      Text.trimLeft (separatorsIn style before) ++ layout style negative magnitude ++
        Text.trimRight (separatorsIn style after) := by
  obtain ⟨⟨_, head, starts⟩, _, tail, ends⟩ :=
    ends_layout conventional.point_not_mem_groupChars negative nonnegative
  rw [bareText, List.map_append, List.map_append, List.filter_append, List.filter_append,
    filter_addition front, filter_layout conventional negative nonnegative, filter_addition back]
  exact Text.trim_append_append head starts tail ends _ _

theorem bareText_append_layout_iff (conventional : style.IsConventional) {before after : Text}
    (front : IsAddition before) (back : IsAddition after) (negative : Bool) {magnitude : Decimal}
    (nonnegative : magnitude.negative = false) :
    bareText style (before ++ layout style negative magnitude ++ after) =
        layout style negative magnitude ↔
      ∀ c ∈ before ++ after, c ∈ style.separators → Text.isBlank c = true := by
  rw [bareText_append_layout conventional front back negative nonnegative, List.forall_mem_append,
    ← isBlankText_separatorsIn, ← isBlankText_separatorsIn, ← Text.dropWhile_isBlank_eq_nil_iff,
    ← Text.trimRight_eq_nil_iff]
  constructor
  · intro same
    have lengths := congrArg List.length same
    simp only [List.length_append] at lengths
    exact ⟨List.eq_nil_of_length_eq_zero (by unfold Text.trimLeft at lengths; omega),
      List.eq_nil_of_length_eq_zero (by omega)⟩
  · rintro ⟨left, right⟩
    rw [right, Text.trimLeft, left, List.nil_append, List.append_nil]

/-- An amount comes out of a text as it was, whatever a currency adds to it, exactly if what is added has
no separators of the style in it other than blanks. What comes out then is read as the rounded amount. -/
theorem bareText_adorned (style : NumeralStyle) (conventional : style.IsConventional) (d : Decimal)
    (text before after : Text) (formatted : format style d = .ok text) (front : IsAddition before)
    (back : IsAddition after) :
    (bareText style (before ++ text ++ after) = text ↔
      ∀ c ∈ before ++ after, c ∈ style.separators → Text.isBlank c = true) ∧
    ∃ rounded number, round style d = .ok rounded ∧
      number.sameValue (rounded.significant 28) = true ∧
      ((∀ c ∈ before ++ after, c ∈ style.separators → Text.isBlank c = true) →
        Numeral.read style (bareText style (before ++ text ++ after)) = .ok number) := by
  obtain ⟨rounded, magnitude, rounds, finished, rfl⟩ :=
    exists_finished_of_format conventional formatted
  have plain := bareText_append_layout_iff conventional front back rounded.isNegative
    finished.nonnegative
  have accepted := read_layout conventional rounded.isNegative finished.nonnegative
  refine ⟨plain, rounded, _, rounds, finished.sameValue_significant, fun blank => ?_⟩
  rw [plain.mpr blank]
  exact accepted

/-- Blanks that separate groups are trimmed at the ends and stay between digits. -/
theorem bareText_adorned_of_blanks :
    (NumeralStyle.ofConventions "fr_FR" { point := ',', group := '\u202f' } 2
        .halfEven).IsConventional ∧
      format (.ofConventions "fr_FR" { point := ',', group := '\u202f' } 2 .halfEven)
        ⟨true, 1234567895, -3⟩ = .ok "-1\u202f234\u202f567,90".toList ∧
      IsAddition "\u200eEUR\u00a0".toList ∧ IsAddition "\u202f€.".toList ∧
      bareText (.ofConventions "fr_FR" { point := ',', group := '\u202f' } 2 .halfEven)
        ("\u200eEUR\u00a0".toList ++ "-1\u202f234\u202f567,90".toList ++ "\u202f€.".toList) =
          "-1\u202f234\u202f567,90".toList ∧
      ∃ number, Numeral.read (.ofConventions "fr_FR" { point := ',', group := '\u202f' } 2 .halfEven)
        (bareText (.ofConventions "fr_FR" { point := ',', group := '\u202f' } 2 .halfEven)
          ("\u200eEUR\u00a0".toList ++ "-1\u202f234\u202f567,90".toList ++ "\u202f€.".toList)) =
            .ok number := by
  have conventional : (NumeralStyle.ofConventions "fr_FR" { point := ',', group := '\u202f' } 2
      .halfEven).IsConventional := by decide
  have formatted : format (.ofConventions "fr_FR" { point := ',', group := '\u202f' } 2 .halfEven)
      ⟨true, 1234567895, -3⟩ = .ok "-1\u202f234\u202f567,90".toList := rfl
  have front : IsAddition "\u200eEUR\u00a0".toList := by decide
  have back : IsAddition "\u202f€.".toList := by decide
  have blank : ∀ c ∈ "\u200eEUR\u00a0".toList ++ "\u202f€.".toList,
      c ∈ NumeralStyle.separators (.ofConventions "fr_FR" { point := ',', group := '\u202f' } 2
        .halfEven) → Text.isBlank c = true := Text.forall_mem_of_all (by decide)
  obtain ⟨same, _, number, _, _, accepted⟩ :=
    bareText_adorned _ conventional _ _ _ _ formatted front back
  exact ⟨conventional, formatted, front, back, same.mpr blank, number, accepted blank⟩

/-- Where a full stop separates groups, that of an abbreviation is left behind the amount. -/
example : bareText (.ofConventions "da_DK" { point := ',', group := '.' } 2 .halfEven)
    "1.234,50\u00a0kr.".toList = "1.234,50.".toList := rfl

end MonetaryText.Amount

import MonetaryText.Amount.Format
import MonetaryText.Proofs.Decimal.Digits
import MonetaryText.Proofs.Numeral.Notation

/-!
The layout of an amount is a numeral of its style. The groups of the integer part are runs of digits,
and dropping what a currency adds to a text takes nothing from it. Main statement: reading the layout of
a magnitude gives the number that was laid out, with all its digits (`read_layout`).
-/

namespace MonetaryText

/-- Separators are single characters that are neither digits nor signs, and amounts have at most ten
fraction digits. -/
structure NumeralStyle.IsConventional (style : NumeralStyle) : Prop where
  single : ∀ group ∈ style.groups, group.length = 1
  apart : ∀ c ∈ style.separators,
    c.isDigit = false ∧ c ∉ ['+', '-', '\u2012', '\u2013', '\u2212']
  few_places : style.fractionDigits ≤ 10

/-- The same as a computation. -/
def NumeralStyle.isConventional (style : NumeralStyle) : Bool :=
  style.groups.all (·.length == 1) &&
    style.separators.all (fun c =>
      !c.isDigit && !(['+', '-', '\u2012', '\u2013', '\u2212'].contains c)) &&
    style.fractionDigits ≤ 10

theorem NumeralStyle.isConventional_iff (style : NumeralStyle) :
    style.isConventional = true ↔ style.IsConventional := by
  simp only [isConventional, Bool.and_eq_true, List.all_eq_true, beq_iff_eq, Bool.not_eq_true',
    List.contains_eq_mem, decide_eq_true_eq, decide_eq_false_iff_not, and_assoc]
  exact ⟨fun ⟨single, apart, few⟩ => ⟨single, apart, few⟩,
    fun ⟨single, apart, few⟩ => ⟨single, apart, few⟩⟩

instance (style : NumeralStyle) : Decidable style.IsConventional :=
  decidable_of_iff _ style.isConventional_iff

namespace NumeralStyle

variable {style : NumeralStyle}

theorem IsConventional.partsDigits (conventional : style.IsConventional) : style.PartsDigits :=
  fun c member => (conventional.apart c member).1

theorem group_mem_groupChars (style : NumeralStyle) : style.group ∈ style.groupChars :=
  List.mem_flatten_of_mem style.group_mem (List.mem_singleton_self _)

theorem IsConventional.point_not_mem_groupChars (conventional : style.IsConventional) :
    style.point ∉ style.groupChars :=
  point_not_mem_of_single conventional.single

end NumeralStyle

namespace Amount

/-! ### Groups -/

/-- Pieces of positive lengths are not empty. -/
theorem pieces_ne_nil {fuel : Nat} {lengths : List Nat} {text : Text}
    (positive : ∀ length ∈ lengths, 0 < length) : ∀ piece ∈ pieces fuel lengths text, piece ≠ [] := by
  induction fuel generalizing lengths text with
  | zero => rintro piece ⟨⟩
  | succ fuel ih =>
    match text, lengths with
    | [], _ => rintro piece ⟨⟩
    | c :: rest, [] => simp [pieces]
    | c :: rest, length :: others =>
      have first := positive length List.mem_cons_self
      have later : ∀ other ∈ laterLengths (length :: others), 0 < other :=
        fun other member => positive other (mem_of_mem_laterLengths other member)
      intro piece member
      rcases List.mem_cons.mp member with rfl | behind
      · simp
        omega
      · exact ih later piece behind

/-- The groups of digits are runs of them. -/
theorem isRun_of_mem_groups {lengths : List Nat} {digits : Text}
    (positive : ∀ length ∈ lengths, 0 < length) (all : ∀ c ∈ digits, c.isDigit = true) :
    ∀ group ∈ groups lengths digits, Numeral.IsRun group := by
  intro group member
  constructor
  · rw [groups, List.mem_reverse, List.mem_map] at member
    obtain ⟨piece, known, rfl⟩ := member
    rw [Ne, List.reverse_eq_nil_iff]
    exact pieces_ne_nil positive piece known
  · intro c inside
    apply all
    rw [← flatten_groups lengths digits positive]
    exact List.mem_flatten_of_mem member inside

/-- Groups with a separator between them are a first run and others behind their separators. -/
theorem intercalate_eq_joined (separator : Char) (first : Text) (others : List Text) :
    [separator].intercalate (first :: others) =
      first ++ Numeral.joined (others.map fun run => (separator, run)) := by
  induction others generalizing first with
  | nil => simp [Numeral.joined]
  | cons second others ih =>
    rw [List.intercalate_cons_cons, ih]
    simp [Numeral.joined]

theorem grouped_eq_flatten (separator : Char) (others : List Text) :
    Numeral.grouped (others.map fun run => (separator, run)) = others.flatten := by
  simp [Numeral.grouped, List.flatMap_map]

/-- The integer part of a layout, as the runs that the notation of numerals has. -/
theorem exists_runs_of_grouped (style : NumeralStyle) {digits : Text} (nonempty : digits ≠ [])
    (all : ∀ c ∈ digits, c.isDigit = true) :
    ∃ first runs, grouped style.groupLengths [style.group] digits = first ++ Numeral.joined runs ∧
      Numeral.IsRun first ∧ Numeral.IsGrouping style runs ∧
      first ++ Numeral.grouped runs = digits := by
  have runs := isRun_of_mem_groups style.lengths_pos all
  have whole := flatten_groups style.groupLengths digits style.lengths_pos
  unfold grouped
  cases split : groups style.groupLengths digits with
  | nil =>
    rw [split] at whole
    exact absurd whole.symm nonempty
  | cons first others =>
    rw [split] at runs whole
    refine ⟨first, others.map fun run => (style.group, run), intercalate_eq_joined _ _ _,
      runs first List.mem_cons_self, ?_, ?_⟩
    · intro group member
      obtain ⟨run, known, rfl⟩ := List.mem_map.mp member
      exact ⟨style.group_mem_groupChars, runs run (List.mem_cons_of_mem _ known)⟩
    · rw [grouped_eq_flatten]
      exact whole

/-! ### Layouts -/

/-- A decimal with all its digits before the point written out. -/
def inFull (d : Decimal) : Decimal :=
  ⟨d.negative, d.coefficient * tenPow d.exponent.toNat, min d.exponent 0⟩

/-- Without a sign, the layout is how the number is written. -/
theorem writes_layout {style : NumeralStyle} (point : style.point ∉ style.groupChars)
    {magnitude : Decimal} (nonnegative : magnitude.negative = false) :
    Numeral.Writes style (layout style false magnitude) (inFull magnitude) := by
  have nonempty : magnitude.wholeDigits ≠ [] := Digits.text_ne_nil _
  obtain ⟨first, runs, text, run, grouping, digits⟩ :=
    exists_runs_of_grouped style nonempty fun c member => Digits.isDigit_of_mem_text member
  have whole : Digits.value (first ++ Numeral.grouped runs) = magnitude.wholePart := by
    rw [digits]
    exact Digits.value_text _
  obtain ⟨negative, coefficient, exponent⟩ := magnitude
  cases nonnegative
  unfold layout
  rw [text]
  unfold Decimal.wholePart at whole
  unfold Decimal.fractionDigits inFull
  simp only at whole ⊢
  have length := Digits.length_padded (-exponent).toNat coefficient
  cases places : Digits.padded (-exponent).toNat coefficient with
  | nil =>
    rw [places, List.length_nil] at length
    have written := Numeral.Writes.integer run grouping
    rw [whole, ← length] at written
    have none : min exponent 0 = 0 := by omega
    rw [none]
    simpa [tenPow] using written
  | cons c rest =>
    have run' : Numeral.IsRun (c :: rest) := by
      rw [← places]
      exact ⟨by simp [places], fun c member => Digits.isDigit_of_mem_padded member⟩
    have written := Numeral.Writes.fraction run grouping point run'
    rw [← places, Digits.value_append, Digits.value_padded, whole, Digits.length_padded] at written
    rw [places] at length
    have some : (-exponent).toNat ≠ 0 := by
      rw [← length]
      exact Nat.succ_ne_zero _
    have shift : exponent.toNat = 0 := by omega
    have exponent' : min exponent 0 = -((-exponent).toNat : Int) := by omega
    rw [shift] at written ⊢
    have one : tenPow 0 = 1 := rfl
    rw [one, Nat.mul_one, Nat.div_add_mod'] at written
    rw [places] at written
    rw [exponent', one, Nat.mul_one]
    simpa using written

theorem layout_eq_append (style : NumeralStyle) (negative : Bool) (magnitude : Decimal) :
    layout style negative magnitude =
      (if negative then ['-'] else []) ++ layout style false magnitude := by
  simp [layout]

/-- A layout neither begins nor ends with a blank. -/
theorem ends_layout {style : NumeralStyle} (point : style.point ∉ style.groupChars)
    (negative : Bool) {magnitude : Decimal} (nonnegative : magnitude.negative = false) :
    (∃ c, (layout style negative magnitude).head? = some c ∧ Text.isBlank c = false) ∧
      ∃ c, (layout style negative magnitude).getLast? = some c ∧ Text.isBlank c = false := by
  have written := writes_layout point nonnegative
  obtain ⟨first, head, firstDigit⟩ := written.head?_isDigit
  obtain ⟨last, tail, lastDigit⟩ := written.getLast?_isDigit
  rw [layout_eq_append]
  constructor
  · cases negative with
    | false => exact ⟨first, by simpa using head, Text.isBlank_of_isDigit firstDigit⟩
    | true => exact ⟨'-', rfl, rfl⟩
  · exact ⟨last, by rw [List.getLast?_append, tail]; rfl, Text.isBlank_of_isDigit lastDigit⟩

theorem trim_layout {style : NumeralStyle} (point : style.point ∉ style.groupChars)
    (negative : Bool) {magnitude : Decimal} (nonnegative : magnitude.negative = false) :
    Text.trim (layout style negative magnitude) = layout style negative magnitude := by
  obtain ⟨⟨first, head, starts⟩, last, tail, ends⟩ := ends_layout point negative nonnegative
  apply Text.trim_eq_self
  · intro c found
    rw [head] at found
    cases found
    exact starts
  · intro c found
    rw [tail] at found
    cases found
    exact ends

theorem splitSign_layout {style : NumeralStyle} (point : style.point ∉ style.groupChars)
    (negative : Bool) {magnitude : Decimal} (nonnegative : magnitude.negative = false) :
    Text.splitSign (layout style negative magnitude) = (negative, layout style false magnitude) := by
  rw [layout_eq_append]
  cases negative with
  | true => rfl
  | false =>
    obtain ⟨first, head, digit⟩ := (writes_layout point nonnegative).head?_isDigit
    obtain ⟨rest, text⟩ := List.head?_eq_some_iff.mp head
    rw [text]
    exact Text.splitSign_of_ne rest (Numeral.ne_sign_of_isDigit digit)

theorem plainMinus_eq_self {c : Char} (other : c ∉ ['\u2012', '\u2013', '\u2212']) :
    plainMinus c = c := by
  simp only [List.mem_cons, List.not_mem_nil, or_false, not_or] at other
  obtain ⟨figureDash, enDash, minus⟩ := other
  simp [plainMinus, figureDash, enDash, minus]

/-- All characters of a layout are kept as they are. -/
theorem filter_layout {style : NumeralStyle} (conventional : style.IsConventional)
    (negative : Bool) {magnitude : Decimal} (nonnegative : magnitude.negative = false) :
    ((layout style negative magnitude).map plainMinus).filter (isKept style) =
      layout style negative magnitude := by
  have written := writes_layout conventional.point_not_mem_groupChars nonnegative
  have kept : ∀ c ∈ layout style negative magnitude,
      plainMinus c = c ∧ isKept style c = true := by
    intro c member
    rw [layout_eq_append] at member
    rcases List.mem_append.mp member with sign | body
    · cases negative with
      | false => cases sign
      | true =>
        rw [List.mem_singleton.mp sign]
        exact ⟨by decide, rfl⟩
    · rcases written.all c body with digit | separates
      · have dashes : ∀ dash ∈ ['\u2012', '\u2013', '\u2212'], dash.isDigit = false :=
          Text.forall_mem_of_all (by decide)
        refine ⟨plainMinus_eq_self fun dash => ?_, by simp [isKept, digit]⟩
        rw [dashes c dash] at digit
        cases digit
      · have apart := (conventional.apart c separates).2
        exact ⟨plainMinus_eq_self fun dash => apart (by simp_all), by simp [isKept, separates]⟩
  have mapped : (layout style negative magnitude).map plainMinus = layout style negative magnitude := by
    conv => rhs; rw [← List.map_id (layout style negative magnitude)]
    exact List.map_congr_left fun c member => (kept c member).1
  rw [mapped, List.filter_eq_self.mpr fun c member => (kept c member).2]

/-- Only what a currency adds is dropped from an amount. -/
theorem bareText_layout {style : NumeralStyle} (conventional : style.IsConventional)
    (negative : Bool) {magnitude : Decimal} (nonnegative : magnitude.negative = false) :
    bareText style (layout style negative magnitude) = layout style negative magnitude := by
  rw [bareText, filter_layout conventional negative nonnegative]
  exact trim_layout conventional.point_not_mem_groupChars negative nonnegative

/-- What is laid out is read again. -/
theorem read_layout {style : NumeralStyle} (conventional : style.IsConventional) (negative : Bool)
    {magnitude : Decimal} (nonnegative : magnitude.negative = false) :
    Numeral.read style (layout style negative magnitude) =
      .ok { inFull magnitude with negative } := by
  have written := writes_layout conventional.point_not_mem_groupChars nonnegative
  refine (Numeral.read_eq_ok_iff conventional.partsDigits).mpr ⟨layout style false magnitude, ?_, ?_⟩
  · rw [trim_layout conventional.point_not_mem_groupChars negative nonnegative]
    exact splitSign_layout conventional.point_not_mem_groupChars negative nonnegative
  · obtain ⟨sign, coefficient, exponent⟩ := magnitude
    cases nonnegative
    exact written

/-- A layout is in order as a plain amount. -/
theorem isPlainAmount_layout {style : NumeralStyle} (conventional : style.IsConventional)
    (negative : Bool) {magnitude : Decimal} (nonnegative : magnitude.negative = false) :
    Expression.isPlainAmount style (layout style negative magnitude) = true :=
  Expression.isPlainAmount_of_read (read_layout conventional negative nonnegative)

end Amount

end MonetaryText

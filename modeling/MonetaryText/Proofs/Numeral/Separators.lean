import Mathlib.Data.List.Chain
import MonetaryText.Proofs.Numeral.Notation

/-!
The grammar of numerals, said of the whole text: a plain amount is a numeral when its separators are
in order, and the number is the one that its characters spell.
-/

namespace MonetaryText

/-- Separators are single characters, and none of them is a digit or a sign. -/
structure NumeralStyle.SeparatesDigits (style : NumeralStyle) : Prop where
  single : ∀ group ∈ style.groups, group.length = 1
  apart : ∀ c ∈ style.separators, c.isDigit = false ∧ c ≠ '+' ∧ c ≠ '-'

/-- The same as a computation. -/
def NumeralStyle.separatesDigits (style : NumeralStyle) : Bool :=
  style.groups.all (·.length == 1) &&
    style.separators.all fun c => !c.isDigit && c != '+' && c != '-'

theorem NumeralStyle.separatesDigits_iff (style : NumeralStyle) :
    style.separatesDigits = true ↔ style.SeparatesDigits := by
  simp only [separatesDigits, Bool.and_eq_true, List.all_eq_true, beq_iff_eq, Bool.not_eq_true',
    bne_iff_ne, and_assoc]
  exact ⟨fun ⟨single, apart⟩ => ⟨single, apart⟩, fun ⟨single, apart⟩ => ⟨single, apart⟩⟩

instance (style : NumeralStyle) : Decidable style.SeparatesDigits :=
  decidable_of_iff _ style.separatesDigits_iff

namespace NumeralStyle.SeparatesDigits

variable {style : NumeralStyle} (separates : style.SeparatesDigits)

include separates

theorem partsDigits : style.PartsDigits := fun c member => (separates.apart c member).1

theorem point_not_mem_groupChars : style.point ∉ style.groupChars :=
  point_not_mem_of_single separates.single

end NumeralStyle.SeparatesDigits

namespace Numeral

variable {style : NumeralStyle} {body text : Text}

/-- No two separators meet, there is at most one decimal point, and no group separator follows it. -/
structure Separated (style : NumeralStyle) (text : Text) : Prop where
  apart : text.IsChain fun a b => ¬(a ∈ style.separators ∧ b ∈ style.separators)
  onePoint : text.count style.point ≤ 1
  groupsFirst : ∀ c ∈ text.dropWhile (· != style.point), c ∉ style.groupChars

/-- The same as a computation. -/
def isSeparated (style : NumeralStyle) (text : Text) : Bool :=
  decide (text.IsChain fun a b => ¬(a ∈ style.separators ∧ b ∈ style.separators)) &&
    decide (text.count style.point ≤ 1) &&
    (text.dropWhile (· != style.point)).all (!style.groupChars.contains ·)

theorem isSeparated_iff (style : NumeralStyle) (text : Text) :
    isSeparated style text = true ↔ Separated style text := by
  simp only [isSeparated, Bool.and_eq_true, decide_eq_true_eq, List.all_eq_true, Bool.not_eq_true',
    List.contains_eq_mem, decide_eq_false_iff_not, and_assoc]
  exact ⟨fun ⟨apart, one, first⟩ => ⟨apart, one, first⟩,
    fun ⟨apart, one, first⟩ => ⟨apart, one, first⟩⟩

instance (style : NumeralStyle) (text : Text) : Decidable (Separated style text) :=
  decidable_of_iff _ (isSeparated_iff style text)

/-- The number that the characters of a text stand for, wherever the separators are: negative behind
a minus, with all digits, of which those behind the point are places. -/
def spelled (style : NumeralStyle) (text : Text) : Decimal where
  negative := text.head? == some '-'
  coefficient := Digits.value (text.filter Char.isDigit)
  exponent := -((text.dropWhile (· != style.point)).filter Char.isDigit).length

/-! ### Runs of digits -/

theorem map_digitRuns (body : Text) :
    (digitRuns body).2.map (·.1) = body.filter (!·.isDigit) := by
  induction body with
  | nil => rfl
  | cons c rest ih =>
    rw [digitRuns_cons]
    split <;> rename_i digit <;> simp [digit, ih]

theorem digitRuns_eq_nil_iff (body : Text) :
    (digitRuns body).1 = [] ↔ body.head?.any Char.isDigit = false := by
  cases body with
  | nil => simp
  | cons c rest =>
    rw [digitRuns_cons]
    split <;> rename_i digit <;> simp [digit]

/-- No run behind a separator is empty if no two separators meet and the last character is a digit. -/
theorem forall_digitRuns_ne_nil_iff (parts : style.PartsDigits)
    (all : ∀ c ∈ body, c.isDigit = true ∨ c ∈ style.separators) (some : body ≠ []) :
    (∀ run ∈ (digitRuns body).2, run.2 ≠ []) ↔
      (body.IsChain fun a b => ¬(a ∈ style.separators ∧ b ∈ style.separators)) ∧
        body.getLast?.any Char.isDigit = true := by
  induction body with
  | nil => exact absurd rfl some
  | cons c rest ih =>
    obtain ⟨first, others⟩ := List.forall_mem_cons.mp all
    rw [digitRuns_cons]
    cases rest with
    | nil =>
      split <;> rename_i digit <;> simp [digit]
    | cons d later =>
      have known := ih others (List.cons_ne_nil d later)
      rw [List.isChain_cons_cons, List.getLast?_cons_cons, and_assoc, ← known]
      split
      · rename_i digit
        have inside : c ∉ style.separators := fun member => by
          rw [parts c member] at digit
          cases digit
        simp [inside]
      · rename_i noDigit
        have separates : c ∈ style.separators := first.resolve_left noDigit
        have next : (digitRuns (d :: later)).1 ≠ [] ↔ d ∉ style.separators := by
          rw [Ne, digitRuns_eq_nil_iff, List.head?_cons, Option.any_some, Bool.not_eq_false]
          constructor
          · intro digit member
            rw [parts d member] at digit
            cases digit
          · exact (others d List.mem_cons_self).resolve_right
        simp [next, separates]

/-! ### The decimal point -/

theorem dropWhile_filter {p q : Char → Bool} (kept : ∀ c, q c = false → p c = true) (text : Text) :
    (text.filter p).dropWhile q = (text.dropWhile q).filter p := by
  induction text with
  | nil => rfl
  | cons c rest ih =>
    cases skipped : q c with
    | false => simp [kept c skipped, skipped]
    | true => cases known : p c <;> simp [known, skipped, ih]

/-- Among separators, a single decimal point behind all others is one that no other follows. -/
theorem point_last_iff (point : style.point ∉ style.groupChars) {marks : Text}
    (all : ∀ c ∈ marks, c ∈ style.separators) :
    (marks.count style.point ≤ 1 ∧ ∀ c ∈ marks.dropWhile (· != style.point), c ∉ style.groupChars) ↔
      style.point ∉ marks.dropLast := by
  induction marks with
  | nil => simp
  | cons c rest ih =>
    obtain ⟨first, others⟩ := List.forall_mem_cons.mp all
    by_cases same : c = style.point
    · subst same
      cases rest with
      | nil => simp [point]
      | cons d later =>
        refine iff_of_false ?_ (by simp)
        rintro ⟨one, behind⟩
        rcases List.mem_cons.mp (others d List.mem_cons_self) with rfl | separates
        · simp at one
        · exact behind d (by simp) separates
    · rw [List.count_cons_of_ne same, List.dropWhile_cons_of_pos (by simpa using same), ih others]
      cases rest with
      | nil => simp
      | cons d later => simp [Ne.symm same]

/-- All runs in front of the fraction stand behind group separators if no point follows there. -/
theorem all_splitFraction_iff (point : style.point ∉ style.groupChars) {runs : List (Char × Text)}
    (all : ∀ run ∈ runs, run.1 ∈ style.separators) :
    (splitFraction style runs).1.all (style.groupChars.contains ·.1) = true ↔
      style.point ∉ (runs.map (·.1)).dropLast := by
  have separates {run : Char × Text} (member : run ∈ runs) :
      run.1 ∈ style.groupChars ↔ run.1 ≠ style.point := by
    constructor
    · rintro inside same
      exact point (same ▸ inside)
    · exact (List.mem_cons.mp (all run member)).resolve_left
  rcases List.eq_nil_or_concat' runs with rfl | ⟨front, last, rfl⟩
  · simp [splitFraction]
  · have before : (front.all (style.groupChars.contains ·.1) = true) ↔
        style.point ∉ front.map (·.1) := by
      simp only [List.all_eq_true, List.contains_eq_mem, decide_eq_true_eq, List.mem_map, not_exists,
        not_and]
      exact forall₂_congr fun run member => separates (List.mem_append_left _ member)
    rw [List.map_append, List.map_singleton, List.dropLast_concat, ← before]
    unfold splitFraction
    simp only [List.getLast?_append, List.getLast?_singleton]
    by_cases same : last.1 = style.point
    · simp [same, point]
    · have known := (separates (by simp)).mpr same
      simp [known]

/-- What is said of a text of digits and separators is said of its separators. -/
theorem separated_iff (separates : style.SeparatesDigits)
    (all : ∀ c ∈ body, c.isDigit = true ∨ c ∈ style.separators) :
    Separated style body ↔
      (body.IsChain fun a b => ¬(a ∈ style.separators ∧ b ∈ style.separators)) ∧
        style.point ∉ (body.filter (!·.isDigit)).dropLast := by
  have point : style.point.isDigit = false := separates.partsDigits _ List.mem_cons_self
  have marks : ∀ c ∈ body.filter (!·.isDigit), c ∈ style.separators := by
    intro c member
    rw [List.mem_filter, Bool.not_eq_true'] at member
    exact (all c member.1).resolve_left (by simp [member.2])
  have kept : ∀ c, (c != style.point) = false → (!c.isDigit) = true := by
    intro c same
    rw [bne_eq_false_iff_eq] at same
    simp [same, point]
  rw [← point_last_iff separates.point_not_mem_groupChars marks, List.count_filter (by simp [point]),
    dropWhile_filter kept]
  have noDigit {c : Char} (group : c ∈ style.groupChars) : c.isDigit = false :=
    separates.partsDigits c (List.mem_cons_of_mem _ group)
  constructor
  · rintro ⟨apart, one, first⟩
    exact ⟨apart, one, fun c member => first c (List.mem_of_mem_filter member)⟩
  · rintro ⟨apart, one, first⟩
    refine ⟨apart, one, fun c member group => ?_⟩
    exact first c (List.mem_filter.mpr ⟨member, by simp [noDigit group]⟩) group

/-- An unsigned text of digits and separators is a numeral if it begins and ends with digits and its
separators are in order. -/
theorem isSome_parts?_iff (separates : style.SeparatesDigits)
    (all : ∀ c ∈ body, c.isDigit = true ∨ c ∈ style.separators) :
    (parts? style body).isSome = true ↔
      body.head?.any Char.isDigit = true ∧ body.getLast?.any Char.isDigit = true ∧
        Separated style body := by
  have point := separates.point_not_mem_groupChars
  have starts := digitRuns_eq_nil_iff body
  have marks := map_digitRuns body
  have filled := forall_digitRuns_ne_nil_iff separates.partsDigits all
  have known : ∀ run ∈ (digitRuns body).2, run.1 ∈ style.separators := by
    intro run member
    have inside : run.1 ∈ body.filter (!·.isDigit) := marks ▸ List.mem_map_of_mem member
    rw [List.mem_filter, Bool.not_eq_true'] at inside
    exact (all _ inside.1).resolve_left (by simp [inside.2])
  have grouped := all_splitFraction_iff point known
  rw [separated_iff separates all, ← marks, ← grouped]
  unfold parts?
  generalize digitRuns body = runs at *
  obtain ⟨first, rest⟩ := runs
  simp only at starts filled ⊢
  cases begins : body.head?.any Char.isDigit with
  | false => simp [starts.mpr begins]
  | true =>
    have some : body ≠ [] := by
      rintro rfl
      cases begins
    have nonempty : first ≠ [] := by simp [starts, begins]
    have shape : rest.any (·.2.isEmpty) = false ↔ _ := Iff.trans (by simp) (filled some)
    rw [List.isEmpty_eq_false_iff.mpr nonempty, Bool.false_or]
    rw [eq_self, true_and, and_left_comm, ← and_assoc, ← shape]
    cases rest.any (·.2.isEmpty) <;>
      cases (splitFraction style rest).1.all (style.groupChars.contains ·.1) <;> simp

/-- The parts hold all digits of the text, and the fraction those behind the point. -/
theorem spelled_of_parts? (separates : style.SeparatesDigits) {digits : Text} {fraction : Option Text}
    (found : parts? style body = some (digits, fraction)) :
    digits ++ fraction.getD [] = body.filter Char.isDigit ∧
      fraction.getD [] = (body.dropWhile (· != style.point)).filter Char.isDigit := by
  obtain ⟨first, groups, run, grouping, filtered, text, ending⟩ := exists_runs_of_parts? found
  have point : style.point.isDigit = false := separates.partsDigits _ List.mem_cons_self
  have whole := (run.append (isDigit_of_mem_grouped grouping)).2
  rw [filter_digits separates.partsDigits whole] at filtered
  have joinedDigits : (joined groups).filter Char.isDigit = Numeral.grouped groups := by
    unfold joined Numeral.grouped
    rw [List.filter_flatMap]
    refine List.flatMap_congr fun group member => ?_
    obtain ⟨separator, digits⟩ := grouping group member
    have noDigit := separates.partsDigits _ (List.mem_cons_of_mem _ separator)
    rw [List.filter_cons_of_neg (by simp [noDigit]), List.filter_eq_self.mpr digits.2]
  have noPoint : ∀ c ∈ first ++ joined groups, (c != style.point) = true := by
    intro c member
    rw [bne_iff_ne]
    rintro rfl
    rcases List.mem_append.mp member with digit | inside
    · rw [run.2 _ digit] at point
      cases point
    · obtain ⟨group, known, part⟩ := List.mem_flatMap.mp inside
      rcases List.mem_cons.mp part with same | digit
      · exact separates.point_not_mem_groupChars (same ▸ (grouping group known).1)
      · rw [(grouping group known).2.2 _ digit] at point
        cases point
  subst text filtered
  rw [List.filter_append, List.filter_append, joinedDigits, List.filter_eq_self.mpr run.2,
    List.dropWhile_append_of_pos noPoint]
  cases fraction with
  | none => simp [fractionText]
  | some places =>
    have rest := List.filter_eq_self.mpr (ending places rfl).2.2
    simp [fractionText, point, rest]

/-! ### Signs -/

theorem separated_cons {c : Char} (solid : c ∉ style.separators) :
    Separated style (c :: body) ↔ Separated style body := by
  have point : c ≠ style.point := fun same => solid (same ▸ List.mem_cons_self)
  have chain : (c :: body).IsChain (fun a b => ¬(a ∈ style.separators ∧ b ∈ style.separators)) ↔
      body.IsChain (fun a b => ¬(a ∈ style.separators ∧ b ∈ style.separators)) := by
    cases body with
    | nil => simp
    | cons d later => simp [List.isChain_cons_cons, solid]
  have count := List.count_cons_of_ne (l := body) point
  have behind : (c :: body).dropWhile (· != style.point) = body.dropWhile (· != style.point) :=
    List.dropWhile_cons_of_pos (by simpa using point)
  constructor
  · rintro ⟨apart, one, first⟩
    exact ⟨chain.mp apart, count ▸ one, behind ▸ first⟩
  · rintro ⟨apart, one, first⟩
    exact ⟨chain.mpr apart, count.symm ▸ one, behind.symm ▸ first⟩

theorem spelled_cons {c : Char} (solid : c ∉ style.separators) (noDigit : c.isDigit = false) :
    spelled style (c :: body) = { spelled style body with negative := c == '-' } := by
  have point : c ≠ style.point := fun same => solid (same ▸ List.mem_cons_self)
  have behind : (c :: body).dropWhile (· != style.point) = body.dropWhile (· != style.point) :=
    List.dropWhile_cons_of_pos (by simpa using point)
  have digits := List.filter_cons_of_neg (l := body) (by simp [noDigit] : ¬c.isDigit = true)
  simp only [spelled, behind, digits, List.head?_cons, Option.some_beq_some]

/-- A sign in front is no matter to the separators, and is that of the number. -/
theorem of_splitSign (separates : style.SeparatesDigits) {negative : Bool}
    (signed : Text.splitSign text = (negative, body))
    (begins : body.head?.any Char.isDigit = true) :
    (Separated style text ↔ Separated style body) ∧
      spelled style text = { spelled style body with negative } := by
  have plus : '+' ∉ style.separators := fun member => (separates.apart _ member).2.1 rfl
  have minus : '-' ∉ style.separators := fun member => (separates.apart _ member).2.2 rfl
  rcases Text.eq_of_splitSign signed with ⟨rfl, rfl⟩ | ⟨rfl, rfl | rfl⟩
  · exact ⟨separated_cons minus, spelled_cons minus rfl⟩
  · refine ⟨.rfl, ?_⟩
    cases text with
    | nil => cases begins
    | cons c rest =>
      obtain ⟨_, noMinus⟩ := ne_sign_of_isDigit begins
      simp [spelled, noMinus]
  · exact ⟨separated_cons plus, spelled_cons plus rfl⟩

theorem isWellFormed_iff_isPlainAmount :
    Expression.isWellFormed style false false text = true ↔
      Expression.isPlainAmount style text = true := by
  unfold Expression.isWellFormed
  split
  · rename_i blank
    have nothing := (Text.trim_eq_nil_iff text).mpr blank
    simp [Expression.isPlainAmount, nothing, Text.splitSign]
  · simp

/-- Reading accepts a plain amount whose separators are in order, as the number that it spells. -/
theorem read_eq_ok_iff_spelled (separates : style.SeparatesDigits) {d : Decimal} :
    read style text = .ok d ↔
      Expression.isPlainAmount style text = true ∧ Separated style (Text.trim text) ∧
        d = spelled style (Text.trim text) := by
  rw [read_eq_ok_iff_parts]
  unfold Expression.isPlainAmount
  generalize known : Text.splitSign (Text.trim text) = signed
  obtain ⟨negative, body⟩ := signed
  simp only [Bool.and_eq_true, List.all_eq_true, Bool.or_eq_true, List.contains_eq_mem,
    decide_eq_true_eq]
  constructor
  · rintro ⟨_, digits, fraction, same, found, _, value⟩
    obtain ⟨sign, rfl⟩ := Prod.mk.inj same
    obtain ⟨first, groups, run, grouping, _, whole, ending⟩ := exists_runs_of_parts? found
    have all := (runs_all fraction run grouping fun places last => (ending places last).2).2
    rw [← whole] at all
    obtain ⟨begins, ends, separated⟩ := (isSome_parts?_iff separates all).mp (by simp [found])
    obtain ⟨signs, spelling⟩ := of_splitSign separates known begins
    obtain ⟨digitsEq, placesEq⟩ := spelled_of_parts? separates found
    refine ⟨⟨⟨begins, ends⟩, all⟩, signs.mpr separated, ?_⟩
    rw [value, digitsEq, placesEq, spelling, ← sign]
    rfl
  · rintro ⟨⟨⟨begins, ends⟩, all⟩, separated, rfl⟩
    obtain ⟨signs, spelling⟩ := of_splitSign separates known begins
    obtain ⟨⟨digits, fraction⟩, found⟩ := Option.isSome_iff_exists.mp
      ((isSome_parts?_iff separates all).mpr ⟨begins, ends, signs.mp separated⟩)
    obtain ⟨digitsEq, placesEq⟩ := spelled_of_parts? separates found
    refine ⟨body, digits, fraction, by rw [spelling], found, ?_, ?_⟩
    · rintro rfl rfl
      cases body with
      | nil => cases begins
      | cons c rest =>
        have digit : c.isDigit = true := begins
        rw [List.filter_cons_of_pos digit] at digitsEq
        cases digitsEq
    · rw [digitsEq, placesEq, spelling]
      rfl

/-- The text of a numeral without what separates groups. -/
def ungrouped (style : NumeralStyle) (text : Text) : Text :=
  (Text.trim text).filter (!style.groupChars.contains ·)

/-- What separates groups adds nothing to a number. -/
theorem spelled_filter (separates : style.SeparatesDigits)
    (solid : ∀ c, text.head? = some c → c ∉ style.groupChars) :
    spelled style (text.filter (!style.groupChars.contains ·)) = spelled style text := by
  have digits {c : Char} (digit : c.isDigit = true) : c ∉ style.groupChars := by
    intro group
    rw [separates.partsDigits c (List.mem_cons_of_mem _ group)] at digit
    cases digit
  have kept : ∀ c, (c != style.point) = false → (!style.groupChars.contains c) = true := by
    intro c same
    rw [bne_eq_false_iff_eq] at same
    simp [same, separates.point_not_mem_groupChars]
  have ignored (text : Text) :
      (text.filter (!style.groupChars.contains ·)).filter Char.isDigit = text.filter Char.isDigit := by
    rw [List.filter_filter]
    refine List.filter_congr fun c _ => ?_
    cases digit : c.isDigit with
    | false => rfl
    | true => simp [digits digit]
  have front : (text.filter (!style.groupChars.contains ·)).head? = text.head? := by
    cases text with
    | nil => rfl
    | cons c rest => simp [solid c rfl]
  simp only [spelled, dropWhile_filter kept, ignored, front]

/-- A plain amount begins with a sign or a digit. -/
theorem head?_of_isPlainAmount (separates : style.SeparatesDigits)
    (plain : Expression.isPlainAmount style text = true) :
    ∀ c, (Text.trim text).head? = some c → c ∉ style.groupChars := by
  have solid {c : Char} (known : c.isDigit = true ∨ c = '+' ∨ c = '-') : c ∉ style.groupChars := by
    intro group
    obtain ⟨noDigit, noPlus, noMinus⟩ := separates.apart c (List.mem_cons_of_mem _ group)
    simp [noDigit, noPlus, noMinus] at known
  unfold Expression.isPlainAmount at plain
  generalize known : Text.splitSign (Text.trim text) = signed at plain
  obtain ⟨negative, body⟩ := signed
  simp only [Bool.and_eq_true] at plain
  intro c head
  rcases Text.eq_of_splitSign known with ⟨_, same⟩ | ⟨_, same | same⟩
  · rw [same] at head
    cases head
    exact solid (by simp)
  · rw [same] at head
    have begins := plain.1.1
    rw [head] at begins
    exact solid (.inl begins)
  · rw [same] at head
    cases head
    exact solid (by simp)

/-- The numerals are the well-formed plain amounts whose separators are in order, and each is read as
the number that it spells, so how its digits are grouped does not matter. -/
theorem read_eq_ok_iff_separated (style : NumeralStyle) (separates : style.SeparatesDigits)
    (text : Text) :
    (∀ d, read style text = .ok d ↔
      Expression.isWellFormed style false false text = true ∧ Separated style (Text.trim text) ∧
        d = spelled style (Text.trim text)) ∧
    ∀ other d e, read style text = .ok d → read style other = .ok e →
      ungrouped style text = ungrouped style other → d = e := by
  refine ⟨fun d => ?_, fun other d e first second same => ?_⟩
  · rw [isWellFormed_iff_isPlainAmount]
    exact read_eq_ok_iff_spelled separates
  · obtain ⟨plain, _, rfl⟩ := (read_eq_ok_iff_spelled separates).mp first
    obtain ⟨otherPlain, _, rfl⟩ := (read_eq_ok_iff_spelled separates).mp second
    rw [← spelled_filter separates (head?_of_isPlainAmount separates plain),
      ← spelled_filter separates (head?_of_isPlainAmount separates otherPlain)]
    exact congrArg (spelled style) same

/-- Any of the blanks separates groups here, so that `-1 234,5` and `-12 34,5` are one number. -/
theorem read_separated_of_blank_groups :
    (NumeralStyle.ofConventions "fr_FR" { point := ',', group := '\u202f' } 2
        .halfEven).SeparatesDigits ∧
      Expression.isWellFormed (.ofConventions "fr_FR" { point := ',', group := '\u202f' } 2 .halfEven)
        false false ['-', '1', ' ', '2', '3', '4', ',', '5', ' '] = true ∧
      Separated (.ofConventions "fr_FR" { point := ',', group := '\u202f' } 2 .halfEven)
        ['-', '1', ' ', '2', '3', '4', ',', '5'] ∧
      read (.ofConventions "fr_FR" { point := ',', group := '\u202f' } 2 .halfEven)
        ['-', '1', ' ', '2', '3', '4', ',', '5', ' '] = .ok ⟨true, 12345, -1⟩ ∧
      ungrouped (.ofConventions "fr_FR" { point := ',', group := '\u202f' } 2 .halfEven)
          ['-', '1', ' ', '2', '3', '4', ',', '5', ' '] =
        ungrouped (.ofConventions "fr_FR" { point := ',', group := '\u202f' } 2 .halfEven)
          ['-', '1', '2', '\u202f', '3', '4', ',', '5'] ∧
      read (.ofConventions "fr_FR" { point := ',', group := '\u202f' } 2 .halfEven)
        ['-', '1', '2', '\u202f', '3', '4', ',', '5'] = .ok ⟨true, 12345, -1⟩ := by
  have separates : (NumeralStyle.ofConventions "fr_FR" { point := ',', group := '\u202f' } 2
      .halfEven).SeparatesDigits := by decide
  have accepted : Expression.isWellFormed
      (.ofConventions "fr_FR" { point := ',', group := '\u202f' } 2 .halfEven) false false
      ['-', '1', ' ', '2', '3', '4', ',', '5', ' '] = true := by decide
  have separated : Separated (.ofConventions "fr_FR" { point := ',', group := '\u202f' } 2 .halfEven)
      ['-', '1', ' ', '2', '3', '4', ',', '5'] := by decide
  have same : ungrouped (.ofConventions "fr_FR" { point := ',', group := '\u202f' } 2 .halfEven)
        ['-', '1', ' ', '2', '3', '4', ',', '5', ' '] =
      ungrouped (.ofConventions "fr_FR" { point := ',', group := '\u202f' } 2 .halfEven)
        ['-', '1', '2', '\u202f', '3', '4', ',', '5'] := by decide
  obtain ⟨reads, agree⟩ := read_eq_ok_iff_separated _ separates
    ['-', '1', ' ', '2', '3', '4', ',', '5', ' ']
  have number := (reads ⟨true, 12345, -1⟩).mpr ⟨accepted, separated, by decide⟩
  obtain ⟨others, _⟩ := read_eq_ok_iff_separated _ separates
    ['-', '1', '2', '\u202f', '3', '4', ',', '5']
  have other := (others _).mpr ⟨by decide, by decide, rfl⟩
  refine ⟨separates, accepted, separated, number, same, ?_⟩
  rw [agree _ _ _ number other same, other]

end Numeral

end MonetaryText

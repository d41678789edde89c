import MonetaryText.Expression.WellFormed
import MonetaryText.Numeral
import MonetaryText.Proofs.Text.Trim

/-!
The notation of numerals, said without the reader: runs of digits with a group separator between two
of them, and behind the decimal point one more run. The number has all digits as its coefficient and
as many places as there are digits behind the point. Main statement: where no separator is a digit,
reading accepts exactly this notation with an optional sign in front and blanks around, and finds the
number that is written (`read_eq_ok_iff`).
-/

namespace MonetaryText

/-- No separator is a digit. -/
def NumeralStyle.PartsDigits (style : NumeralStyle) : Prop :=
  ∀ c ∈ style.separators, c.isDigit = false

instance (style : NumeralStyle) : Decidable style.PartsDigits :=
  List.decidableBAll _ _

theorem mem_digits_iff (c : Char) : c ∈ "0123456789".toList ↔ c.isDigit = true := by
  have digits : "0123456789".toList = ['0', '1', '2', '3', '4', '5', '6', '7', '8', '9'] := rfl
  rw [digits]
  constructor
  · intro member
    have fixed : ∀ c ∈ ['0', '1', '2', '3', '4', '5', '6', '7', '8', '9'], c.isDigit = true :=
      Text.forall_mem_of_all (by decide)
    exact fixed c member
  · intro digit
    simp only [Char.isDigit, Bool.and_eq_true, decide_eq_true_eq] at digit
    have fixed : ∀ n ≤ 57, 48 ≤ n →
        Char.ofNat n ∈ ['0', '1', '2', '3', '4', '5', '6', '7', '8', '9'] := by
      decide
    rw [← Char.ofNat_toNat c]
    exact fixed c.toNat (UInt32.le_iff_toNat_le.mp digit.2) (UInt32.le_iff_toNat_le.mp digit.1)

/-- What may continue a numeral: digits, separators and the blank that never breaks a line. -/
theorem NumeralStyle.isNumeralChar_iff {style : NumeralStyle} {c : Char} :
    style.isNumeralChar c = true ↔
      c.isDigit = true ∨ c ∈ style.separators ∨ c = Separator.noBreakSpace := by
  rw [isNumeralChar, List.contains_eq_mem, decide_eq_true_eq]
  unfold numeralChars
  rw [List.mem_append, List.mem_append, List.mem_singleton, or_assoc]
  exact or_congr (mem_digits_iff c) Iff.rfl

/-- Where separators are single characters, the decimal point does not separate groups. -/
theorem NumeralStyle.point_not_mem_of_single {style : NumeralStyle}
    (single : ∀ group ∈ style.groups, group.length = 1) : style.point ∉ style.groupChars := by
  intro member
  obtain ⟨group, known, inside⟩ := List.mem_flatten.mp member
  obtain ⟨c, rfl⟩ := List.length_eq_one_iff.mp (single group known)
  rw [List.mem_singleton] at inside
  exact style.point_not_mem (inside ▸ known)

namespace Numeral

/-- Digits, and at least one of them. -/
def IsRun (run : Text) : Prop := run ≠ [] ∧ ∀ c ∈ run, c.isDigit = true

/-- The text of the runs behind the first one, each after its separator. -/
def joined (groups : List (Char × Text)) : Text := groups.flatMap fun group => group.1 :: group.2

/-- The digits of the runs behind the first one. -/
def grouped (groups : List (Char × Text)) : Text := groups.flatMap (·.2)

def IsGrouping (style : NumeralStyle) (groups : List (Char × Text)) : Prop :=
  ∀ group ∈ groups, group.1 ∈ style.groupChars ∧ IsRun group.2

/-- How a number without a sign is written. A point that also separates groups is no decimal point. -/
inductive Writes (style : NumeralStyle) : Text → Decimal → Prop where
  | integer {first : Text} {groups : List (Char × Text)} (run : IsRun first)
      (grouping : IsGrouping style groups) :
      Writes style (first ++ joined groups) ⟨false, Digits.value (first ++ grouped groups), 0⟩
  | fraction {first places : Text} {groups : List (Char × Text)} (run : IsRun first)
      (grouping : IsGrouping style groups) (point : style.point ∉ style.groupChars)
      (rest : IsRun places) :
      Writes style (first ++ joined groups ++ style.point :: places)
        ⟨false, Digits.value (first ++ grouped groups ++ places), -places.length⟩

theorem joined_append (front back : List (Char × Text)) :
    joined (front ++ back) = joined front ++ joined back := List.flatMap_append

/-! ### Runs of digits -/

@[simp] theorem digitRuns_nil : digitRuns [] = ([], []) := rfl

theorem digitRuns_cons (c : Char) (rest : Text) :
    digitRuns (c :: rest) =
      if c.isDigit then (c :: (digitRuns rest).1, (digitRuns rest).2)
      else ([], (c, (digitRuns rest).1) :: (digitRuns rest).2) := rfl

theorem digitRuns_append {run : Text} (digits : ∀ c ∈ run, c.isDigit = true) (rest : Text) :
    digitRuns (run ++ rest) = (run ++ (digitRuns rest).1, (digitRuns rest).2) := by
  induction run with
  | nil => rfl
  | cons c run ih =>
    rw [List.cons_append, digitRuns_cons, if_pos (digits c List.mem_cons_self),
      ih fun d member => digits d (List.mem_cons_of_mem c member)]
    rfl

/-- Runs of digits that are put together are found again. -/
theorem digitRuns_joined {first : Text} {groups : List (Char × Text)}
    (run : ∀ c ∈ first, c.isDigit = true)
    (apart : ∀ group ∈ groups, group.1.isDigit = false ∧ ∀ c ∈ group.2, c.isDigit = true) :
    digitRuns (first ++ joined groups) = (first, groups) := by
  induction groups generalizing first with
  | nil => simpa [joined] using digitRuns_append run []
  | cons group groups ih =>
    obtain ⟨separator, next⟩ := group
    obtain ⟨noDigit, digits⟩ := apart (separator, next) List.mem_cons_self
    have later := ih digits fun other member => apart other (List.mem_cons_of_mem _ member)
    change digitRuns (first ++ separator :: (next ++ joined groups)) = _
    rw [digitRuns_append run, digitRuns_cons, if_neg (by simpa using noDigit), later,
      List.append_nil]

/-- The runs hold digits only, and what stands between two of them is no digit. -/
theorem digitRuns_digits (text : Text) :
    (∀ c ∈ (digitRuns text).1, c.isDigit = true) ∧
      ∀ group ∈ (digitRuns text).2, group.1.isDigit = false ∧ ∀ c ∈ group.2, c.isDigit = true := by
  induction text with
  | nil => simp
  | cons c rest ih =>
    rw [digitRuns_cons]
    split
    · rename_i digit
      refine ⟨?_, ih.2⟩
      intro d member
      rcases List.mem_cons.mp member with rfl | later
      · exact digit
      · exact ih.1 d later
    · rename_i noDigit
      refine ⟨by simp, ?_⟩
      intro group member
      rcases List.mem_cons.mp member with rfl | later
      · exact ⟨by simpa using noDigit, ih.1⟩
      · exact ih.2 group later

/-! ### The parts of a numeral -/

/-- What the fraction adds to the text. -/
def fractionText (style : NumeralStyle) : Option Text → Text
  | none => []
  | some places => style.point :: places

/-- The last run is the fraction exactly when the decimal point stands before it. -/
theorem joined_splitFraction (style : NumeralStyle) (runs : List (Char × Text)) :
    joined (splitFraction style runs).1 ++ fractionText style (splitFraction style runs).2 =
        joined runs ∧
      (∀ places, (splitFraction style runs).2 = some places →
        style.point ∉ style.groupChars ∧ (style.point, places) ∈ runs) ∧
      ∀ group ∈ (splitFraction style runs).1, group ∈ runs := by
  unfold splitFraction
  split
  · rename_i separator run last
    obtain ⟨front, rfl⟩ := List.getLast?_eq_some_iff.mp last
    split
    · rename_i ends
      rw [Bool.and_eq_true, beq_iff_eq, Bool.not_eq_true', List.contains_eq_mem,
        decide_eq_false_iff_not] at ends
      obtain ⟨rfl, point⟩ := ends
      simp only [List.dropLast_concat, joined_append, fractionText]
      refine ⟨by simp [joined], ?_, by simp +contextual⟩
      rintro places ⟨⟩
      exact ⟨point, by simp⟩
    · simp [fractionText]
  · simp [fractionText]

/-- Runs that are groups by their separators, and a last one behind the point, are told apart. -/
theorem splitFraction_append (style : NumeralStyle) (groups : List (Char × Text)) (places : Text)
    (point : style.point ∉ style.groupChars) :
    splitFraction style (groups ++ [(style.point, places)]) = (groups, some places) := by
  simp [splitFraction, point]

theorem splitFraction_groups (style : NumeralStyle) {groups : List (Char × Text)}
    (grouping : IsGrouping style groups) : splitFraction style groups = (groups, none) := by
  unfold splitFraction
  split
  · rename_i separator run last
    have known := (grouping _ (List.mem_of_getLast? last)).1
    rw [if_neg (by simp [known])]
  · rfl

/-- What the parts of a numeral say about its text, whatever the separators are. -/
theorem exists_runs_of_parts? {style : NumeralStyle} {body digits : Text} {fraction : Option Text}
    (found : parts? style body = some (digits, fraction)) :
    ∃ first groups, IsRun first ∧ IsGrouping style groups ∧
      digits = (first ++ grouped groups).filter (!style.groupChars.contains ·) ∧
      body = first ++ joined groups ++ fractionText style fraction ∧
      ∀ places, fraction = some places → style.point ∉ style.groupChars ∧ IsRun places := by
  have text := append_flatMap_digitRuns body
  obtain ⟨firstDigits, laterDigits⟩ := digitRuns_digits body
  unfold parts? at found
  generalize digitRuns body = runs at *
  obtain ⟨first, rest⟩ := runs
  obtain ⟨rejoined, ending, subset⟩ := joined_splitFraction style rest
  simp only at found text firstDigits laterDigits
  generalize splitFraction style rest = parts at *
  obtain ⟨groups, last⟩ := parts
  simp only at found rejoined ending subset
  split at found
  · cases found
  · rename_i accepted
    simp only [Option.some.injEq, Prod.mk.injEq] at found
    obtain ⟨rfl, rfl⟩ := found
    simp only [Bool.or_eq_true, not_or, List.isEmpty_iff, List.any_eq_true, not_exists, not_and,
      Bool.not_eq_true', Bool.not_eq_false, List.all_eq_true, List.contains_eq_mem,
      decide_eq_true_eq] at accepted
    obtain ⟨⟨nonempty, filled⟩, known⟩ := accepted
    have runs : ∀ group ∈ rest, IsRun group.2 := fun group member =>
      ⟨filled group member, (laterDigits group member).2⟩
    refine ⟨first, groups, ⟨nonempty, firstDigits⟩,
      fun group member => ⟨known group member, runs group (subset group member)⟩, rfl, ?_, ?_⟩
    · rw [List.append_assoc, rejoined]
      exact text.symm
    · intro places isLast
      obtain ⟨point, member⟩ := ending places isLast
      exact ⟨point, runs _ member⟩

/-- Where no separator is a digit, taking out the separators leaves the digits alone. -/
theorem filter_digits {style : NumeralStyle} (parts : style.PartsDigits) {digits : Text}
    (all : ∀ c ∈ digits, c.isDigit = true) :
    digits.filter (!style.groupChars.contains ·) = digits := by
  apply List.filter_eq_self.mpr
  intro c member
  have digit := all c member
  rw [Bool.not_eq_true', List.contains_eq_mem, decide_eq_false_iff_not]
  intro separates
  rw [parts c (List.mem_cons_of_mem _ separates)] at digit
  cases digit

theorem isDigit_of_mem_grouped {style : NumeralStyle} {groups : List (Char × Text)}
    (grouping : IsGrouping style groups) : ∀ c ∈ grouped groups, c.isDigit = true := by
  intro c member
  obtain ⟨group, inside, digit⟩ := List.mem_flatMap.mp member
  exact (grouping group inside).2.2 c digit

theorem IsRun.append {run more : Text} (isRun : IsRun run) (digits : ∀ c ∈ more, c.isDigit = true) :
    IsRun (run ++ more) := by
  refine ⟨by simp [isRun.1], ?_⟩
  intro c member
  rcases List.mem_append.mp member with front | back
  · exact isRun.2 c front
  · exact digits c back

/-- The parts of runs that are put together with or without a fraction. -/
theorem parts?_eq_some {style : NumeralStyle} (parts : style.PartsDigits) {first : Text}
    {groups : List (Char × Text)} (fraction : Option Text) (run : IsRun first)
    (grouping : IsGrouping style groups)
    (ending : ∀ places, fraction = some places → style.point ∉ style.groupChars ∧ IsRun places) :
    parts? style (first ++ joined groups ++ fractionText style fraction) =
      some (first ++ grouped groups, fraction) := by
  have apart : ∀ group ∈ groups, group.1.isDigit = false ∧ ∀ c ∈ group.2, c.isDigit = true :=
    fun group member =>
      ⟨parts _ (List.mem_cons_of_mem _ (grouping group member).1), (grouping group member).2.2⟩
  have kept := filter_digits parts (run.append (isDigit_of_mem_grouped grouping)).2
  have known : groups.all (style.groupChars.contains ·.1) = true := by
    simpa using fun separator run member => (grouping (separator, run) member).1
  have filled : groups.any (·.2.isEmpty) = false := by
    simpa using fun separator run member => (grouping (separator, run) member).2.1
  unfold parts?
  cases fraction with
  | none =>
    rw [fractionText, List.append_nil, digitRuns_joined run.2 apart]
    simp only [splitFraction_groups style grouping, known, filled]
    rw [if_neg (by simp [run.1])]
    exact congrArg (fun digits => some (digits, none)) kept
  | some places =>
    obtain ⟨point, rest⟩ := ending places rfl
    have text : first ++ joined groups ++ fractionText style (some places) =
        first ++ joined (groups ++ [(style.point, places)]) := by
      simp [joined, fractionText]
    have apart' : ∀ group ∈ groups ++ [(style.point, places)],
        group.1.isDigit = false ∧ ∀ c ∈ group.2, c.isDigit = true := by
      intro group member
      rcases List.mem_append.mp member with front | back
      · exact apart group front
      · rw [List.mem_singleton.mp back]
        exact ⟨parts _ List.mem_cons_self, rest.2⟩
    rw [text, digitRuns_joined run.2 apart']
    simp only [splitFraction_append style groups places point, known, List.any_append, filled]
    rw [if_neg (by simp [run.1, rest.1])]
    exact congrArg (fun digits => some (digits, some places)) kept

/-! ### Written numerals -/

theorem IsRun.head? {run : Text} (isRun : IsRun run) (rest : Text) :
    ∃ c, (run ++ rest).head? = some c ∧ c.isDigit = true := by
  obtain ⟨nonempty, digits⟩ := isRun
  obtain ⟨c, later, rfl⟩ := List.exists_cons_of_ne_nil nonempty
  exact ⟨c, rfl, digits c List.mem_cons_self⟩

theorem IsRun.getLast? {run : Text} (isRun : IsRun run) (front : Text) :
    ∃ c, (front ++ run).getLast? = some c ∧ c.isDigit = true := by
  obtain ⟨nonempty, digits⟩ := isRun
  refine ⟨run.getLast nonempty, ?_, digits _ (List.getLast_mem nonempty)⟩
  rw [List.getLast?_append, List.getLast?_eq_some_getLast nonempty]
  rfl

theorem getLast?_joined {style : NumeralStyle} {first : Text} {groups : List (Char × Text)}
    (run : IsRun first) (grouping : IsGrouping style groups) :
    ∃ c, (first ++ joined groups).getLast? = some c ∧ c.isDigit = true := by
  rcases List.eq_nil_or_concat groups with rfl | ⟨front, group, rfl⟩
  · simpa [joined] using run.getLast? []
  · have last := (grouping group (by simp)).2.getLast? (first ++ joined front ++ [group.1])
    simpa [joined_append, joined] using last

/-- Runs of digits and what stands between them end with a digit, and consist of digits and
separators. -/
theorem runs_all {style : NumeralStyle} {first : Text} {groups : List (Char × Text)}
    (fraction : Option Text) (run : IsRun first) (grouping : IsGrouping style groups)
    (ending : ∀ places, fraction = some places → IsRun places) :
    (∃ c, (first ++ joined groups ++ fractionText style fraction).getLast? = some c ∧
        c.isDigit = true) ∧
      ∀ c ∈ first ++ joined groups ++ fractionText style fraction,
        c.isDigit = true ∨ c ∈ style.separators := by
  have whole : ∀ c ∈ first ++ joined groups, c.isDigit = true ∨ c ∈ style.separators := by
    intro c member
    rcases List.mem_append.mp member with front | back
    · exact .inl (run.2 c front)
    · obtain ⟨group, inside, part⟩ := List.mem_flatMap.mp back
      rcases List.mem_cons.mp part with rfl | digit
      · exact .inr (List.mem_cons_of_mem _ (grouping group inside).1)
      · exact .inl ((grouping group inside).2.2 c digit)
  cases fraction with
  | none =>
    rw [fractionText, List.append_nil]
    exact ⟨getLast?_joined run grouping, whole⟩
  | some places =>
    have rest := ending places rfl
    constructor
    · rw [fractionText, List.append_cons]
      exact rest.getLast? _
    · intro c member
      rcases List.mem_append.mp member with front | back
      · exact whole c front
      · rcases List.mem_cons.mp back with rfl | digit
        · exact .inr List.mem_cons_self
        · exact .inl (rest.2 c digit)

namespace Writes

variable {style : NumeralStyle} {text : Text} {d : Decimal}

theorem head?_isDigit (written : Writes style text d) :
    ∃ c, text.head? = some c ∧ c.isDigit = true := by
  cases written with
  | integer run grouping => exact run.head? _
  | fraction run grouping point rest =>
    rw [List.append_assoc]
    exact run.head? _

/-- A written number ends with a digit, and nothing but digits and separators is written. -/
theorem ends_and_all (written : Writes style text d) :
    (∃ c, text.getLast? = some c ∧ c.isDigit = true) ∧
      ∀ c ∈ text, c.isDigit = true ∨ c ∈ style.separators := by
  cases written with
  | integer run grouping => simpa [fractionText] using runs_all none run grouping (by simp)
  | fraction run grouping point rest =>
    refine runs_all (some _) run grouping ?_
    rintro places ⟨⟩
    exact rest

theorem getLast?_isDigit (written : Writes style text d) :
    ∃ c, text.getLast? = some c ∧ c.isDigit = true := written.ends_and_all.1

theorem all (written : Writes style text d) :
    ∀ c ∈ text, c.isDigit = true ∨ c ∈ style.separators := written.ends_and_all.2

theorem nonnegative (written : Writes style text d) : d.negative = false := by
  cases written <;> rfl

/-- Trimming leaves a written numeral as it is. -/
theorem trim_eq (written : Writes style text d) : Text.trim text = text := by
  obtain ⟨first, head, firstDigit⟩ := written.head?_isDigit
  obtain ⟨last, tail, lastDigit⟩ := written.getLast?_isDigit
  apply Text.trim_eq_self
  · intro c found
    rw [head] at found
    cases found
    exact Text.isBlank_of_isDigit firstDigit
  · intro c found
    rw [tail] at found
    cases found
    exact Text.isBlank_of_isDigit lastDigit

end Writes

/-! ### Reading -/

/-- What is read, whatever the separators are. -/
theorem read_eq_ok_iff_parts {style : NumeralStyle} {text : Text} {d : Decimal} :
    read style text = .ok d ↔
      ∃ body digits fraction, Text.splitSign (Text.trim text) = (d.negative, body) ∧
        parts? style body = some (digits, fraction) ∧ (digits = [] → fraction ≠ none) ∧
        d = ⟨d.negative, Digits.value (digits ++ fraction.getD []), -(fraction.getD []).length⟩ := by
  unfold read
  simp only
  constructor
  · intro accepted
    split at accepted
    · cases accepted
    · generalize Text.splitSign (Text.trim text) = signed at *
      obtain ⟨negative, body⟩ := signed
      simp only at accepted
      split at accepted
      · cases accepted
      · cases accepted
      · rename_i digits fraction some found
        cases accepted
        refine ⟨body, digits, fraction, rfl, found, ?_, rfl⟩
        rintro rfl rfl
        exact some rfl rfl
  · rintro ⟨body, digits, fraction, signed, found, some, value⟩
    have nonempty : (Text.trim text).isEmpty = false := by
      cases trimmed : Text.trim text with
      | nil =>
        rw [trimmed] at signed
        obtain rfl : [] = body := congrArg Prod.snd signed
        cases found
      | cons => rfl
    simp only [nonempty, Bool.false_eq_true, if_false, signed, found]
    exact congrArg Except.ok value.symm

/-- A text that is read as a number without a sign of its own begins with a digit. -/
theorem isDigit_of_read {style : NumeralStyle} {c : Char} {rest : Text} {d : Decimal}
    (accepted : read style (c :: rest) = .ok d) (inside : Text.isBlank c = false)
    (unsigned : c ≠ '+' ∧ c ≠ '-') : c.isDigit = true := by
  obtain ⟨body, digits, fraction, signed, found, _⟩ := read_eq_ok_iff_parts.mp accepted
  obtain ⟨first, groups, run, _, _, text, _⟩ := exists_runs_of_parts? found
  obtain ⟨front, after, _, trimmed, _⟩ := Text.exists_trim_cons rest inside
  obtain ⟨head, starts, digit⟩ := run.head? (joined groups ++ fractionText style fraction)
  rw [trimmed, Text.splitSign_of_ne front unsigned] at signed
  rw [← List.append_assoc, ← text, ← (Prod.mk.inj signed).2] at starts
  cases starts
  exact digit

/-- Blanks at the end of a numeral do not count. -/
theorem read_append_of_isBlankText {style : NumeralStyle} (text : Text) {after : Text}
    (blank : Text.isBlankText after = true) {d : Decimal} :
    read style (text ++ after) = .ok d ↔ read style text = .ok d := by
  unfold read
  simp only [Text.trim_append_of_isBlankText text blank]
  split
  · simp
  · split <;> simp

theorem read_trimRight {style : NumeralStyle} {text : Text} {d : Decimal} :
    read style (Text.trimRight text) = .ok d ↔ read style text = .ok d := by
  obtain ⟨after, blank, split⟩ := Text.exists_trimRight text
  conv => rhs; rw [split]
  exact (read_append_of_isBlankText _ blank).symm

/-- Where no separator is a digit, exactly the written numerals are read, as what they stand for. -/
theorem read_eq_ok_iff {style : NumeralStyle} (parts : style.PartsDigits) {text : Text}
    {d : Decimal} :
    read style text = .ok d ↔
      ∃ body, Text.splitSign (Text.trim text) = (d.negative, body) ∧
        Writes style body d.magnitude := by
  constructor
  · intro accepted
    obtain ⟨body, digits, fraction, signed, found, _, value⟩ := read_eq_ok_iff_parts.mp accepted
    obtain ⟨first, groups, run, grouping, filtered, text, ending⟩ := exists_runs_of_parts? found
    rw [filter_digits parts (run.append (isDigit_of_mem_grouped grouping)).2] at filtered
    refine ⟨body, signed, ?_⟩
    rw [value, text, filtered]
    cases fraction with
    | none => simpa [fractionText, Decimal.magnitude] using Writes.integer run grouping
    | some places =>
      obtain ⟨point, rest⟩ := ending places rfl
      exact .fraction run grouping point rest
  · rintro ⟨body, signed, written⟩
    obtain ⟨negative, coefficient, exponent⟩ := d
    simp only [Decimal.magnitude] at written
    cases written with
    | @integer first groups run grouping =>
      have found := parts?_eq_some parts none run grouping (by simp)
      rw [fractionText, List.append_nil] at found
      refine read_eq_ok_iff_parts.mpr ⟨_, _, none, signed, found, ?_, by simp⟩
      intro empty
      exact absurd (List.append_eq_nil_iff.mp empty).1 run.1
    | @fraction first places groups run grouping point rest =>
      have found := parts?_eq_some parts (some places) run grouping (by
        rintro places ⟨⟩
        exact ⟨point, rest⟩)
      exact read_eq_ok_iff_parts.mpr ⟨_, _, some places, signed, found, by simp, rfl⟩

theorem ne_sign_of_isDigit {c : Char} (digit : c.isDigit = true) : c ≠ '+' ∧ c ≠ '-' := by
  constructor <;> (rintro rfl; cases digit)

/-- A numeral that begins with a digit is a written number with blanks behind. -/
theorem exists_writes_of_read {style : NumeralStyle} (parts : style.PartsDigits) {c : Char}
    {rest : Text} {d : Decimal} (digit : c.isDigit = true)
    (accepted : read style (c :: rest) = .ok d) :
    ∃ body after, Text.isBlankText after = true ∧ c :: rest = body ++ after ∧
      Writes style body d := by
  obtain ⟨body, signed, written⟩ := (read_eq_ok_iff parts).mp accepted
  obtain ⟨front, after, blank, trimmed, split⟩ :=
    Text.exists_trim_cons rest (Text.isBlank_of_isDigit digit)
  rw [trimmed, Text.splitSign_of_ne front (ne_sign_of_isDigit digit)] at signed
  obtain ⟨positive, same⟩ := Prod.mk.inj signed
  obtain ⟨negative, coefficient, exponent⟩ := d
  simp only at positive
  subst positive
  exact ⟨body, after, blank, by rw [← same, split]; rfl, written⟩

/-- A written number is read as itself. -/
theorem read_of_writes {style : NumeralStyle} (parts : style.PartsDigits) {text : Text} {d : Decimal}
    (written : Writes style text d) : read style text = .ok d := by
  have positive := written.nonnegative
  obtain ⟨c, head, digit⟩ := written.head?_isDigit
  obtain ⟨rest, rfl⟩ := List.head?_eq_some_iff.mp head
  refine (read_eq_ok_iff parts).mpr ⟨c :: rest, ?_, ?_⟩
  · rw [written.trim_eq, Text.splitSign_of_ne rest (ne_sign_of_isDigit digit), positive]
  · obtain ⟨negative, coefficient, exponent⟩ := d
    simp only at positive
    subst positive
    exact written

/-- What is read is a sign and an unsigned numeral, whatever the separators are. -/
theorem exists_unsigned_of_read {style : NumeralStyle} {text : Text} {d : Decimal}
    (accepted : read style text = .ok d) :
    ∃ before after c run, Text.isBlankText before = true ∧ Text.isBlankText after = true ∧
      c.isDigit = true ∧ (∀ x ∈ run, style.isNumeralChar x = true) ∧
      read style (c :: run) = .ok d.magnitude ∧
      (d.negative = false ∧ (text = before ++ (c :: run) ++ after ∨
          text = before ++ '+' :: (c :: run) ++ after) ∨
        d.negative = true ∧ text = before ++ '-' :: (c :: run) ++ after) := by
  obtain ⟨body, digits, fraction, signed, found, some, value⟩ := read_eq_ok_iff_parts.mp accepted
  obtain ⟨first, groups, isRun, grouping, _, whole, ending⟩ := exists_runs_of_parts? found
  obtain ⟨⟨last, tail, lastDigit⟩, all⟩ := runs_all fraction isRun grouping fun places known =>
    (ending places known).2
  obtain ⟨c, head, digit⟩ := isRun.head? (joined groups ++ fractionText style fraction)
  rw [← whole] at tail all
  rw [← List.append_assoc, ← whole] at head
  obtain ⟨run, rfl⟩ := List.head?_eq_some_iff.mp head
  have trimmed : Text.trim (c :: run) = c :: run := by
    apply Text.trim_eq_self
    · rintro x ⟨⟩
      exact Text.isBlank_of_isDigit digit
    · intro x known
      rw [tail] at known
      cases known
      exact Text.isBlank_of_isDigit lastDigit
  have unsigned : read style (c :: run) = .ok d.magnitude := by
    refine read_eq_ok_iff_parts.mpr ⟨c :: run, digits, fraction, ?_, found, some, ?_⟩
    · rw [trimmed]
      exact Text.splitSign_of_ne run (ne_sign_of_isDigit digit)
    · rw [value]
      rfl
  obtain ⟨before, after, front, back, split⟩ := Text.exists_trim text
  have known : ∀ x ∈ run, style.isNumeralChar x = true := fun x member =>
    NumeralStyle.isNumeralChar_iff.mpr ((all x (List.mem_cons_of_mem c member)).imp_right .inl)
  refine ⟨before, after, c, run, front, back, digit, known, unsigned, ?_⟩
  rw [split]
  rcases Text.eq_of_splitSign signed with ⟨negative, same⟩ | ⟨negative, same | same⟩
  · exact .inr ⟨negative, by rw [same]⟩
  · exact .inl ⟨negative, .inl (by rw [same])⟩
  · exact .inl ⟨negative, .inr (by rw [same])⟩

end Numeral

namespace Expression

/-- What is read as a numeral is in order as a plain amount, whatever the separators are. -/
theorem isPlainAmount_of_read {style : NumeralStyle} {text : Text} {number : Decimal}
    (accepted : Numeral.read style text = .ok number) : isPlainAmount style text = true := by
  obtain ⟨body, digits, fraction, signed, found, _⟩ := Numeral.read_eq_ok_iff_parts.mp accepted
  obtain ⟨first, groups, run, grouping, _, whole, ending⟩ := Numeral.exists_runs_of_parts? found
  obtain ⟨⟨last, tail, lastDigit⟩, inside⟩ := Numeral.runs_all fraction run grouping
    fun places known => (ending places known).2
  obtain ⟨c, head, firstDigit⟩ := run.head?
    (Numeral.joined groups ++ Numeral.fractionText style fraction)
  rw [← List.append_assoc, ← whole] at head
  rw [← whole] at tail inside
  have all : body.all (fun c => c.isDigit || style.separators.contains c) = true := by
    rw [List.all_eq_true]
    intro c member
    simpa using inside c member
  unfold isPlainAmount
  simp only [signed, head, tail, Option.any_some, firstDigit, lastDigit, all, Bool.and_self]

end Expression

end MonetaryText

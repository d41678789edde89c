import MonetaryText.Proofs.Amount.Grouping

/-!
Digits with separators between their groups. Groups are cut off from the right until no digits are left,
which takes finitely many rounds (`cutsOff_groups`), and a separator can be taken out again if it has a
character that is none of the digits (`without_intercalate`). Main statement: `grouped_separates`.
-/

namespace MonetaryText

namespace Text

/-- The text that is left when all occurrences of a part are taken out from left to right. -/
def without (part : Text) : Text → Text
  | [] => []
  | c :: rest =>
    if part ≠ [] ∧ part <+: c :: rest then without part (rest.drop (part.length - 1))
    else c :: without part rest
termination_by text => text.length
decreasing_by
  all_goals simp only [List.length_cons, List.length_drop]
  all_goals omega

variable {part front rest : Text} {mark : Char}

theorem without_append_part (nonempty : part ≠ []) (rest : Text) :
    without part (part ++ rest) = without part rest := by
  obtain ⟨c, others, rfl⟩ := List.exists_cons_of_ne_nil nonempty
  rw [List.cons_append, without, if_pos ⟨nonempty, List.prefix_append (c :: others) rest⟩]
  simp

/-- What stands in a text up to a mark. -/
theorem takeWhile_append_mark (apart : mark ∉ front) (rest : Text) :
    (front ++ mark :: rest).takeWhile (· != mark) = front := by
  have others : ∀ c ∈ front, (c != mark) = true :=
    fun c member => bne_iff_ne.mpr fun same => apart (same ▸ member)
  rw [List.takeWhile_append_of_pos others, List.takeWhile_cons_of_neg (by simp), List.append_nil]

/-- Where a part begins is told by the first mark in it, which comes too late behind other texts. -/
theorem not_prefix_of_mark (marked : mark ∈ part) (apart : mark ∉ front) (nonempty : front ≠ []) :
    ¬part <+: front ++ part ++ rest := by
  rintro ⟨later, same⟩
  obtain ⟨before, behind, rfl, first⟩ := List.eq_append_cons_of_mem marked
  have early := takeWhile_append_mark first (behind ++ later)
  have absent : mark ∉ front ++ before := by simp [apart, first]
  have late := takeWhile_append_mark absent (behind ++ rest)
  have both : before ++ mark :: (behind ++ later) = front ++ before ++ mark :: (behind ++ rest) := by
    simpa using same
  rw [both, late] at early
  exact nonempty (by simpa using early)

theorem without_append (marked : mark ∈ part) (apart : mark ∉ front) (rest : Text) :
    without part (front ++ part ++ rest) = front ++ without part rest := by
  induction front with
  | nil => exact without_append_part (List.ne_nil_of_mem marked) rest
  | cons c front ih =>
    have absent : ¬part <+: c :: front ++ part ++ rest :=
      not_prefix_of_mark marked apart (List.cons_ne_nil c front)
    simp only [List.cons_append] at absent ⊢
    rw [without, if_neg (fun found => absent found.2), ih (List.not_mem_of_not_mem_cons apart)]

theorem without_eq_self (marked : mark ∈ part) {text : Text} (apart : mark ∉ text) :
    without part text = text := by
  induction text with
  | nil => rw [without]
  | cons c rest ih =>
    have absent : ¬part <+: c :: rest := fun found => apart (found.subset marked)
    rw [without, if_neg (fun found => absent found.2), ih (List.not_mem_of_not_mem_cons apart)]

/-- A part that has been put between texts can be taken out if it has a mark of its own. -/
theorem without_intercalate (marked : mark ∈ part) {texts : List Text}
    (apart : mark ∉ texts.flatten) : without part (part.intercalate texts) = texts.flatten := by
  induction texts with
  | nil => simp [List.intercalate, without]
  | cons first others ih =>
    rw [List.flatten_cons, List.mem_append, not_or] at apart
    cases others with
    | nil => simpa [List.intercalate] using without_eq_self marked apart.1
    | cons second later =>
      rw [List.intercalate_cons_cons, without_append marked apart.1, ih apart.2]
      rfl

end Text

namespace Amount

/-- Groups are cut off from the right, each at the length that is prescribed for its index, until no digits are
left. A group at the left end may be shorter. -/
inductive CutsOff (lengths : List Nat) : Nat → Text → List Text → Prop where
  | done {index : Nat} : CutsOff lengths index [] []
  | round {index length : Nat} {digits : Text} {groups : List Text} (left : digits ≠ [])
      (prescribed : lengthAt? lengths index = some length)
      (later : CutsOff lengths (index + 1) (digits.take (digits.length - length)) groups) :
      CutsOff lengths index digits (groups ++ [digits.drop (digits.length - length)])

/-- One index further, the first length is no longer needed. -/
theorem CutsOff.succ {lengths : List Nat} {index : Nat} {digits : Text} {groups : List Text}
    (cuts : CutsOff (laterLengths lengths) index digits groups) :
    CutsOff lengths (index + 1) digits groups := by
  induction cuts with
  | done => exact .done
  | round left prescribed _ ih => exact .round left ((lengthAt?_succ _ _).trans prescribed) ih

theorem cutsOff_pieces {fuel : Nat} {lengths : List Nat} {text : Text}
    (positive : ∀ length ∈ lengths, 0 < length) (nonempty : lengths ≠ []) (enough : text.length ≤ fuel) :
    CutsOff lengths 0 text.reverse ((pieces fuel lengths text).map List.reverse).reverse := by
  induction fuel generalizing lengths text with
  | zero =>
    obtain rfl := List.length_eq_zero_iff.mp (Nat.le_zero.mp enough)
    exact .done
  | succ fuel ih =>
    match text, lengths with
    | [], lengths => exact .done
    | c :: rest, length :: others =>
      have first := positive length List.mem_cons_self
      have later : ∀ other ∈ laterLengths (length :: others), 0 < other :=
        fun other member => positive other (mem_of_mem_laterLengths other member)
      have left : laterLengths (length :: others) ≠ [] := by
        cases others <;> simp [laterLengths]
      have fewer : ((c :: rest).drop length).length ≤ fuel := by
        simp only [List.length_cons, List.length_drop] at enough ⊢
        omega
      have cuts := (ih later left fewer).succ
      rw [List.reverse_drop, ← List.length_reverse] at cuts
      have round := CutsOff.round (by simp) (lengthAt?_zero _) cuts
      rw [List.length_reverse, ← List.reverse_take] at round
      simpa only [pieces, List.map_cons, List.reverse_cons] using round

theorem cutsOff_groups {lengths : List Nat} (positive : ∀ length ∈ lengths, 0 < length)
    (nonempty : lengths ≠ []) (digits : Text) : CutsOff lengths 0 digits (groups lengths digits) := by
  have enough : digits.reverse.length ≤ digits.length := Nat.le_of_eq List.length_reverse
  have cuts := cutsOff_pieces positive nonempty enough
  rwa [List.reverse_reverse] at cuts

/-- No group is left out by having no digits. -/
theorem Follows.pos {lengths sizes : List Nat} (follows : Follows lengths sizes)
    (positive : ∀ length ∈ lengths, 0 < length) : ∀ size ∈ sizes, 0 < size := by
  induction sizes generalizing lengths with
  | nil => simp
  | cons size sizes ih =>
    have later := ih follows.tail fun length member =>
      positive length (mem_of_mem_laterLengths length member)
    refine List.forall_mem_cons.mpr ⟨?_, later⟩
    by_cases single : sizes = []
    · subst single
      exact (follows.last size rfl).1
    · exact positive size (List.mem_of_mem_head? (follows.head?_eq single))

theorem ne_nil_of_mem_groups {lengths : List Nat} (positive : ∀ length ∈ lengths, 0 < length)
    (digits : Text) : ∀ group ∈ groups lengths digits, group ≠ [] := by
  intro group member
  have sizes := (isGroupedBy_groups positive digits).pos positive
  exact List.ne_nil_of_length_pos (sizes _ (by simpa using ⟨group, member, rfl⟩))

/-- The rounds of cutting groups off come to an end, with groups that are not empty, make up the digits and have
the lengths that are prescribed. Separators stand between them and nowhere else: one with a character that
is none of the digits can be taken out again, and without lengths there is none. -/
theorem grouped_separates {lengths : List Nat} (positive : ∀ length ∈ lengths, 0 < length)
    (separator digits : Text) :
    ∃ groups : List Text, (lengths ≠ [] → CutsOff lengths 0 digits groups) ∧
      grouped lengths separator digits = separator.intercalate groups ∧
      groups.flatten = digits ∧ (∀ group ∈ groups, group ≠ []) ∧ IsGroupedBy lengths groups ∧
      (¬separator ⊆ digits → Text.without separator (grouped lengths separator digits) = digits) ∧
      (lengths = [] → grouped lengths separator digits = digits) := by
  have whole := flatten_groups lengths digits positive
  refine ⟨groups lengths digits, fun nonempty => cutsOff_groups positive nonempty digits, rfl, whole,
    ne_nil_of_mem_groups positive digits, isGroupedBy_groups positive digits, fun apart => ?_, ?_⟩
  · obtain ⟨mark, marked, absent⟩ : ∃ mark, mark ∈ separator ∧ mark ∉ digits := by
      simpa [List.subset_def] using apart
    exact (Text.without_intercalate marked (by rwa [whole])).trans whole
  · rintro rfl
    exact grouped_nil separator digits

/-- A separator of several characters may have digits among them. -/
theorem grouped_separates_by_quarters :
    (∀ length ∈ [3, 2], 0 < length) ∧ ¬"1/4".toList ⊆ "12345678".toList ∧
      grouped [3, 2] "1/4".toList "12345678".toList = "11/4231/4451/4678".toList ∧
      Text.without "1/4".toList "11/4231/4451/4678".toList = "12345678".toList := by
  have positive : ∀ length ∈ [3, 2], 0 < length := by decide
  have apart : ¬"1/4".toList ⊆ "12345678".toList := by decide
  obtain ⟨_, _, _, _, _, _, back, _⟩ := grouped_separates positive "1/4".toList "12345678".toList
  exact ⟨positive, apart, rfl, back apart⟩

end Amount

end MonetaryText

import Mathlib.Algebra.GroupWithZero.Nat
import MonetaryText.Amount.Grouping

/-!
Where the separators of an amount stand. Counted from the decimal point, every group but the leftmost
has the length that is prescribed at its place, and the leftmost at most that length
(`isGroupedBy_groups`). The digits are grouped in no other way (`groups_eq_iff`).
-/

namespace MonetaryText.Amount

/-- The length prescribed at a place counted from the decimal point: the last one repeats. -/
def lengthAt? (lengths : List Nat) (index : Nat) : Option Nat :=
  lengths[min index (lengths.length - 1)]?

theorem lengthAt?_zero (lengths : List Nat) : lengthAt? lengths 0 = lengths.head? := by
  simp [lengthAt?, List.head?_eq_getElem?]

theorem lengthAt?_succ (lengths : List Nat) (index : Nat) :
    lengthAt? lengths (index + 1) = lengthAt? (laterLengths lengths) index := by
  match lengths with
  | [] => rfl
  | [length] => simp [lengthAt?, laterLengths]
  | first :: second :: rest =>
    have place : min (index + 1) (rest.length + 1) = min index rest.length + 1 := by omega
    simp [lengthAt?, laterLengths, place]

/-- The sizes of pieces follow the lengths: all but the last are full, and the last is not larger than
a full one. -/
structure Follows (lengths sizes : List Nat) : Prop where
  full : ∀ index, index + 1 < sizes.length → sizes[index]? = lengthAt? lengths index
  last : ∀ size ∈ sizes.getLast?,
    0 < size ∧ ∀ length ∈ lengthAt? lengths (sizes.length - 1), size ≤ length

namespace Follows

variable {lengths sizes others : List Nat} {size other : Nat}

theorem nil (lengths : List Nat) : Follows lengths [] :=
  ⟨fun _ inside => by simp at inside, fun _ none => by simp at none⟩

theorem singleton (positive : 0 < size) (short : ∀ length ∈ lengths.head?, size ≤ length) :
    Follows lengths [size] := by
  refine ⟨fun _ inside => by simp at inside, fun _ found => ?_⟩
  obtain rfl : size = _ := by simpa using found
  exact ⟨positive, by simpa [lengthAt?_zero] using short⟩

theorem cons (nonempty : sizes ≠ []) (full : lengths.head? = some size)
    (later : Follows (laterLengths lengths) sizes) : Follows lengths (size :: sizes) := by
  obtain ⟨second, rest, rfl⟩ := List.exists_cons_of_ne_nil nonempty
  refine ⟨fun index inside => ?_, fun last found => ?_⟩
  · cases index with
    | zero => simp [lengthAt?_zero, full]
    | succ index =>
      rw [lengthAt?_succ, List.getElem?_cons_succ]
      exact later.full index (by simpa using inside)
  · rw [List.getLast?_cons_cons] at found
    simpa [lengthAt?_succ] using later.last last found

theorem head?_eq (follows : Follows lengths (size :: sizes)) (nonempty : sizes ≠ []) :
    lengths.head? = some size := by
  have full := follows.full 0 (by simpa [List.length_pos_iff] using nonempty)
  simpa [lengthAt?_zero] using full.symm

theorem tail (follows : Follows lengths (size :: sizes)) : Follows (laterLengths lengths) sizes := by
  refine ⟨fun index inside => ?_, fun last found => ?_⟩
  · rw [← lengthAt?_succ, ← follows.full (index + 1) (by simpa using inside),
      List.getElem?_cons_succ]
  · obtain ⟨second, rest, rfl⟩ :=
      List.exists_cons_of_ne_nil (List.ne_nil_of_mem (List.mem_of_mem_getLast? found))
    have whole := follows.last last (by rwa [List.getLast?_cons_cons])
    simpa [lengthAt?_succ] using whole

/-- The piece next to the point is at most full, whether or not it is the last one. -/
theorem head_le (follows : Follows lengths (size :: sizes)) :
    ∀ length ∈ lengths.head?, size ≤ length := by
  intro length first
  cases sizes with
  | nil => exact (follows.last size rfl).2 length (by rwa [List.length_singleton, lengthAt?_zero])
  | cons second rest =>
    rw [follows.head?_eq (by simp)] at first
    exact Nat.le_of_eq (Option.some.inj first)

theorem eq_nil_of_sum (follows : Follows lengths sizes) (none : sizes.sum = 0) : sizes = [] := by
  cases found : sizes.getLast? with
  | none => exact List.getLast?_eq_none_iff.mp found
  | some size =>
    have zero := List.sum_eq_zero_iff_forall_eq_nat.mp none size (List.mem_of_mem_getLast? found)
    exact absurd (follows.last size found).1 (by omega)

theorem le_of_sum_eq (left : Follows lengths (size :: sizes)) (right : Follows lengths (other :: others))
    (total : (size :: sizes).sum = (other :: others).sum) : size ≤ other := by
  cases others with
  | nil =>
    simp only [List.sum_cons, List.sum_nil] at total
    omega
  | cons second rest => exact left.head_le other (right.head?_eq (by simp))

/-- The sizes are known from their sum. -/
theorem unique (left : Follows lengths sizes) (right : Follows lengths others)
    (total : sizes.sum = others.sum) : sizes = others := by
  induction sizes generalizing lengths others with
  | nil => exact (right.eq_nil_of_sum total.symm).symm
  | cons size sizes ih =>
    cases others with
    | nil => exact left.eq_nil_of_sum total
    | cons other others =>
      obtain rfl : size = other :=
        Nat.le_antisymm (left.le_of_sum_eq right total) (right.le_of_sum_eq left total.symm)
      simp only [List.sum_cons, Nat.add_left_cancel_iff] at total
      rw [ih left.tail right.tail total]

end Follows

/-- Groups have the lengths that are prescribed for them, counted from the right. -/
def IsGroupedBy (lengths : List Nat) (groups : List Text) : Prop :=
  Follows lengths (groups.map List.length).reverse

theorem pieces_nil (fuel : Nat) (lengths : List Nat) : pieces fuel lengths [] = [] := by
  cases fuel <;> rfl

/-- Pieces are cut at the lengths, and what is left for the last one is not longer than its length. -/
theorem follows_pieces {fuel : Nat} {lengths : List Nat} {text : Text}
    (positive : ∀ length ∈ lengths, 0 < length) (enough : text.length ≤ fuel) :
    Follows lengths ((pieces fuel lengths text).map List.length) := by
  induction fuel generalizing lengths text with
  | zero => exact .nil lengths
  | succ fuel ih =>
    match text, lengths with
    | [], lengths => exact .nil lengths
    | c :: rest, [] => exact .singleton (Nat.succ_pos _) (by simp)
    | c :: rest, length :: others =>
      have first := positive length List.mem_cons_self
      have later : ∀ other ∈ laterLengths (length :: others), 0 < other :=
        fun other member => positive other (mem_of_mem_laterLengths other member)
      have fewer : ((c :: rest).drop length).length ≤ fuel := by
        simp only [List.length_cons, List.length_drop] at enough ⊢
        omega
      simp only [pieces, List.map_cons]
      by_cases short : (c :: rest).length ≤ length
      · rw [List.drop_eq_nil_of_le short, List.take_of_length_le short, pieces_nil]
        exact .singleton (Nat.succ_pos _) (by simpa using short)
      · have left : pieces fuel (laterLengths (length :: others)) ((c :: rest).drop length) ≠ [] := by
          intro none
          have whole := flatten_pieces fuel _ _ later fewer
          rw [none] at whole
          exact short (List.drop_eq_nil_iff.mp whole.symm)
        have full : ((c :: rest).take length).length = length :=
          List.length_take_of_le (Nat.le_of_not_le short)
        exact .cons (by simpa using left) (by rw [full]; rfl) (ih later fewer)

theorem isGroupedBy_groups {lengths : List Nat} (positive : ∀ length ∈ lengths, 0 < length)
    (digits : Text) : IsGroupedBy lengths (groups lengths digits) := by
  have enough : digits.reverse.length ≤ digits.length := Nat.le_of_eq List.length_reverse
  have cut := follows_pieces positive enough
  unfold IsGroupedBy groups
  rw [List.map_reverse, List.reverse_reverse, List.map_map]
  simpa only [Function.comp_def, List.length_reverse] using cut

/-- The digits are grouped in one way only. -/
theorem groups_eq_iff {lengths : List Nat} (positive : ∀ length ∈ lengths, 0 < length)
    {digits : Text} {parts : List Text} :
    groups lengths digits = parts ↔ IsGroupedBy lengths parts ∧ parts.flatten = digits := by
  constructor
  · rintro rfl
    exact ⟨isGroupedBy_groups positive digits, flatten_groups lengths digits positive⟩
  · rintro ⟨grouped, rfl⟩
    have whole := flatten_groups lengths parts.flatten positive
    have total : ((groups lengths parts.flatten).map List.length).reverse.sum =
        (parts.map List.length).reverse.sum := by
      rw [List.sum_reverse, List.sum_reverse, ← List.length_flatten, ← List.length_flatten, whole]
    have sizes := (isGroupedBy_groups positive parts.flatten).unique grouped total
    exact List.eq_iff_flatten_eq.mpr ⟨whole, List.reverse_inj.mp sizes⟩

/-- The last length repeats. -/
example : groups [3, 2] "12345678".toList =
    ["1".toList, "23".toList, "45".toList, "678".toList] := rfl

theorem lengths_pos_nil : ∀ length ∈ ([] : List Nat), 0 < length := by
  rintro length ⟨⟩

/-- Without lengths there is nothing to separate. -/
theorem grouped_nil (separator digits : Text) : grouped [] separator digits = digits := by
  cases digits with
  | nil => rfl
  | cons c rest =>
    have single : IsGroupedBy [] [c :: rest] := .singleton (Nat.succ_pos _) (by simp)
    have whole : groups [] (c :: rest) = [c :: rest] :=
      (groups_eq_iff lengths_pos_nil).mpr ⟨single, List.append_nil _⟩
    rw [grouped, whole]
    simp [List.intercalate]

end MonetaryText.Amount

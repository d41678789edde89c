import MonetaryText.Decimal.Digits
import MonetaryText.Decimal.Notation

/-!
How many digits a number has, by the powers of ten around it, and what texts of digits are worth when
they are put together.
-/

namespace MonetaryText

theorem tenPow_le_tenPow {m n : Nat} (le : m ≤ n) : tenPow m ≤ tenPow n :=
  Nat.pow_le_pow_right (by decide) le

namespace Digits

theorem count_pos (n : Nat) : 0 < count n := Nat.succ_pos _

theorem count_le_iff {n k : Nat} (pos : 0 < k) : count n ≤ k ↔ n < tenPow k := by
  rw [count_eq_length_text]
  exact Nat.length_toDigits_le_iff (by decide) pos

theorem lt_tenPow_count (n : Nat) : n < tenPow (count n) :=
  (count_le_iff (count_pos n)).mp (Nat.le_refl _)

theorem tenPow_le_iff {n k : Nat} (pos : 0 < n) : tenPow k ≤ n ↔ k < count n := by
  cases k with
  | zero => exact iff_of_true pos (count_pos n)
  | succ k =>
    rw [← Nat.not_lt, ← count_le_iff (Nat.succ_pos k)]
    omega

/-- Zeros at the end are digits like others. -/
theorem count_mul_tenPow {n : Nat} (pos : 0 < n) (k : Nat) :
    count (n * tenPow k) = count n + k := by
  have low : tenPow (count n - 1) ≤ n := (tenPow_le_iff pos).mpr (by have := count_pos n; omega)
  have high := lt_tenPow_count n
  have positive : 0 < n * tenPow k := Nat.mul_pos pos (tenPow_pos k)
  apply Nat.le_antisymm
  · rw [count_le_iff (by have := count_pos n; omega), tenPow_add]
    exact Nat.mul_lt_mul_of_pos_right high (tenPow_pos k)
  · have less : count n - 1 + k < count (n * tenPow k) := by
      rw [← tenPow_le_iff positive, tenPow_add]
      exact Nat.mul_le_mul_right _ low
    omega

theorem count_tenPow (k : Nat) : count (tenPow k) = k + 1 := by
  have one : count 1 = 1 := rfl
  rw [← Nat.one_mul (tenPow k), count_mul_tenPow (by decide), one, Nat.add_comm]

/-- Digits that are cut off are no longer counted. -/
theorem count_div_tenPow {n k : Nat} (some : k < count n) : count (n / tenPow k) = count n - k := by
  have high : n / tenPow k < tenPow (count n - k) := by
    rw [Nat.div_lt_iff_lt_mul (tenPow_pos k), ← tenPow_add, Nat.sub_add_cancel (by omega)]
    exact lt_tenPow_count n
  apply Nat.le_antisymm
  · exact (count_le_iff (by omega)).mpr high
  · rcases Nat.eq_zero_or_pos n with rfl | pos
    · rw [Nat.zero_div]
      exact Nat.sub_le _ _
    · have low : tenPow (count n - k - 1) ≤ n / tenPow k := by
        rw [Nat.le_div_iff_mul_le (tenPow_pos k), ← tenPow_add, tenPow_le_iff pos]
        omega
      have less := (tenPow_le_iff (Nat.lt_of_lt_of_le (tenPow_pos _) low)).mp low
      omega

/-! ### Texts of digits -/

theorem value_append (front back : Text) :
    value (front ++ back) = value front * tenPow back.length + value back := by
  unfold value
  rw [Nat.ofDigitChars_append, Nat.ofDigitChars_eq_ofDigitChars_zero, Nat.mul_comm]
  rfl

theorem isDigit_of_mem_text {n : Nat} {c : Char} (member : c ∈ text n) : c.isDigit = true :=
  Nat.isDigit_of_mem_toDigits (by decide) (by decide) member

theorem text_ne_nil (n : Nat) : text n ≠ [] := Nat.toDigits_ne_nil

/-- Only zero begins with a zero. -/
theorem eq_zero_of_head?_text {n : Nat} (zero : (text n).head? = some '0') : n = 0 := by
  induction n using Nat.strongRecOn with
  | ind n ih =>
    unfold text at zero ih
    by_cases small : n < 10
    · have digit : ∀ n < 10, (Nat.toDigits 10 n).head? = some '0' → n = 0 := by decide
      exact digit n small zero
    · have front : (Nat.toDigits 10 (n / 10)).head? = some '0' := by
        rw [Nat.toDigits_of_base_le (by decide) (Nat.le_of_not_lt small)] at zero
        cases digits : Nat.toDigits 10 (n / 10) with
        | nil => exact absurd digits Nat.toDigits_ne_nil
        | cons c rest =>
          rw [digits] at zero
          exact zero
      have none := ih (n / 10) (Nat.div_lt_self (by omega) (by decide)) front
      omega

theorem length_padded (width n : Nat) : (padded width n).length = width := by
  unfold padded
  cases width with
  | zero => rfl
  | succ width =>
    have short : (text (n % tenPow (width + 1))).length ≤ width + 1 := by
      rw [← count_eq_length_text, count_le_iff (Nat.succ_pos _)]
      exact Nat.mod_lt _ (tenPow_pos _)
    simp only [Nat.add_eq_zero_iff, Nat.succ_ne_self, and_false, if_false, List.length_append,
      List.length_replicate]
    omega

theorem value_padded (width n : Nat) : value (padded width n) = n % tenPow width := by
  unfold padded
  cases width with
  | zero => simp [value, tenPow, Nat.mod_one]
  | succ width =>
    simp only [Nat.add_eq_zero_iff, Nat.succ_ne_self, and_false, if_false]
    rw [value_append, value_text]
    simp [value]

theorem isDigit_of_mem_padded {width n : Nat} {c : Char} (member : c ∈ padded width n) :
    c.isDigit = true := by
  unfold padded at member
  cases width with
  | zero => cases member
  | succ width =>
    simp only [Nat.add_eq_zero_iff, Nat.succ_ne_self, and_false, if_false, List.mem_append,
      List.mem_replicate] at member
    rcases member with ⟨_, rfl⟩ | digit
    · rfl
    · exact isDigit_of_mem_text digit

end Digits

end MonetaryText

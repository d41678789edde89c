import MonetaryText.Text.Basic

/-!
Decimal digits of natural numbers: how many there are, their text and the number a text of digits
stands for. The count is the length of the text, and the text of a number stands for that number.
-/

namespace MonetaryText

/-- A one and `places` zeros. -/
def tenPow (places : Nat) : Nat := Nat.pow 10 places

theorem tenPow_pos (places : Nat) : 0 < tenPow places := Nat.pow_pos (by decide)

theorem tenPow_add (m n : Nat) : tenPow (m + n) = tenPow m * tenPow n := Nat.pow_add 10 m n

namespace Digits

/-- The largest `k` with `base ^ k ≤ n`, and `n / base ^ k`. Squaring the base keeps the number of
divisions logarithmic in `k`; a fuel of one more than the binary length of `n` is enough. -/
def floorLog : Nat → Nat → Nat → Nat × Nat
  | 0, _, n => (0, n)
  | fuel + 1, base, n =>
    if n < base then (0, n)
    else
      let (k, q) := floorLog fuel (base * base) n
      if q < base then (2 * k, q) else (2 * k + 1, q / base)

/-- What `floorLog` finds, for a fuel that covers the number. -/
theorem floorLog_bounds (fuel base n : Nat) (one_lt : 1 < base) (pos : 0 < n)
    (enough : n < Nat.pow base (Nat.pow 2 fuel)) :
    Nat.pow base (floorLog fuel base n).1 ≤ n ∧
      n < Nat.pow base ((floorLog fuel base n).1 + 1) ∧
      (floorLog fuel base n).2 = n / Nat.pow base (floorLog fuel base n).1 := by
  simp only [Nat.pow_eq] at *
  induction fuel generalizing base with
  | zero => exact ⟨by simp [floorLog]; omega, by simpa [floorLog] using enough, by simp [floorLog]⟩
  | succ fuel ih =>
    unfold floorLog
    by_cases small : n < base
    · simp [small]; omega
    · have square : 1 < base * base :=
        Nat.lt_of_lt_of_le one_lt (Nat.le_mul_of_pos_left _ (by omega))
      have power (k : Nat) : (base * base) ^ k = base ^ (2 * k) := by
        rw [Nat.pow_mul, Nat.pow_two]
      obtain ⟨low, high, quotient⟩ :=
        ih (base * base) square (by rw [power, ← Nat.pow_succ']; exact enough)
      simp only [power] at low high quotient
      generalize floorLog fuel (base * base) n = r at *
      obtain ⟨k, q⟩ := r
      simp only at low high quotient
      simp only [small, if_false]
      have positive : 0 < base ^ (2 * k) := Nat.pow_pos (by omega)
      split
      · refine ⟨low, ?_, quotient⟩
        rw [Nat.pow_succ, Nat.mul_comm, ← Nat.div_lt_iff_lt_mul positive]
        omega
      · refine ⟨?_, ?_, ?_⟩
        · simp only
          rw [Nat.pow_succ, Nat.mul_comm, ← Nat.le_div_iff_mul_le positive]
          omega
        · exact high
        · simp only
          rw [quotient, Nat.div_div_eq_div_mul, ← Nat.pow_succ]

/-- How many digits the decimal numeral of `n` has; zero has one. -/
def count (n : Nat) : Nat := (floorLog (n.log2 + 1) 10 n).1 + 1

/-- The decimal numeral of `n`, without superfluous leading zeros. -/
def text (n : Nat) : Text := Nat.toDigits 10 n

/-- The `width` low digits of `n`. -/
def padded (width n : Nat) : Text :=
  let digits := text (n % tenPow width)
  if width = 0 then [] else List.replicate (width - digits.length) '0' ++ digits

/-- The number that a text of decimal digits stands for; the empty text stands for zero. -/
def value (digits : Text) : Nat := Nat.ofDigitChars 10 digits 0

theorem count_eq_length_text (n : Nat) : count n = (text n).length := by
  rcases Nat.eq_zero_or_pos n with rfl | pos
  · rfl
  · have enough : n < Nat.pow 10 (Nat.pow 2 (n.log2 + 1)) :=
      Nat.lt_trans Nat.lt_log2_self (Nat.lt_pow_self (by decide))
    obtain ⟨low, high, _⟩ := floorLog_bounds (n.log2 + 1) 10 n (by decide) pos enough
    unfold count text
    apply Nat.le_antisymm
    · apply Nat.lt_of_not_le
      intro short
      have some_digit : 0 < (floorLog (n.log2 + 1) 10 n).1 :=
        Nat.lt_of_lt_of_le Nat.length_toDigits_pos short
      exact Nat.not_le_of_lt
        ((Nat.length_toDigits_le_iff (by decide) some_digit).mp short) low
    · exact (Nat.length_toDigits_le_iff (by decide) (by omega)).mpr high

@[simp] theorem value_text (n : Nat) : value (text n) = n :=
  Nat.ofDigitChars_toDigits (by decide) (by decide)

end Digits

end MonetaryText

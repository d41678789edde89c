import MonetaryText.Proofs.Decimal.RationalRounding

/-!
What each rounding mode promises, said apart from how it is found: the nearest integer with a rule for
ties, or the neighbour in one direction. No two integers keep the promise (`Picks.unique`), which keeps
the order of numbers (`Picks.mono`).
-/

namespace MonetaryText

namespace RoundingMode

variable {mode : RoundingMode} {q x y : ℚ} {m n : ℤ}

/-- The integer is the nearest one, or one of two equally near of which the rule for ties takes it. -/
def Nearest (q : ℚ) (n : ℤ) (tie : Prop) : Prop :=
  |q - n| < 1 / 2 ∨ |q - n| = 1 / 2 ∧ tie

/-- The mode promises this integer for the number. -/
def Picks : RoundingMode → ℚ → ℤ → Prop
  | halfUp, q, n => Nearest q n (|q| < |(n : ℚ)|)
  | halfEven, q, n => Nearest q n (Even n)
  | halfDown, q, n => Nearest q n (|(n : ℚ)| < |q|)
  | up, q, n => |q - n| < 1 ∧ |q| ≤ |(n : ℚ)|
  | down, q, n => |q - n| < 1 ∧ |(n : ℚ)| ≤ |q|
  | ceiling, q, n => q ≤ n ∧ n < q + 1
  | floor, q, n => n ≤ q ∧ q < n + 1

/-- If two numbers stand the other way round than their nearest integers, both are the number halfway
between these. -/
theorem Nearest.halfway {first second : Prop} (left : Nearest x m first) (right : Nearest y n second)
    (le : x ≤ y) (lt : n < m) : m = n + 1 ∧ x = n + 1 / 2 ∧ y = n + 1 / 2 ∧ first ∧ second := by
  have apart : (n : ℚ) + 1 ≤ m := by exact_mod_cast lt
  have leftLe : |x - m| ≤ 1 / 2 := left.elim le_of_lt fun tie => tie.1.le
  have rightLe : |y - n| ≤ 1 / 2 := right.elim le_of_lt fun tie => tie.1.le
  rw [abs_le] at leftLe rightLe
  have next : (m : ℚ) = n + 1 := by linarith
  have middle : x = n + 1 / 2 := by linarith
  have same : y = n + 1 / 2 := by linarith
  have upper : ¬|x - m| < 1 / 2 := by
    rw [middle, next, add_sub_add_left_eq_sub]
    norm_num
  have lower : ¬|y - n| < 1 / 2 := by
    rw [same, add_sub_cancel_left]
    norm_num
  exact ⟨by exact_mod_cast next, middle, same, (left.resolve_left upper).2,
    (right.resolve_left lower).2⟩

/-- Every mode keeps the order of numbers. -/
theorem Picks.mono (first : mode.Picks x m) (second : mode.Picks y n) (le : x ≤ y) : m ≤ n := by
  by_contra above
  have lt := not_le.mp above
  have apart : (n : ℚ) + 1 ≤ m := by exact_mod_cast lt
  cases mode with
  | halfUp =>
    obtain ⟨rfl, rfl, rfl, far, other⟩ := Nearest.halfway first second le lt
    push_cast at far
    rcases le_or_gt 0 n with nonneg | negative
    · have nonneg : (0 : ℚ) ≤ n := by exact_mod_cast nonneg
      rw [abs_of_nonneg nonneg, abs_of_nonneg (by linarith)] at other
      linarith
    · have negative : (n : ℚ) + 1 ≤ 0 := by exact_mod_cast negative
      rw [abs_of_nonpos negative, abs_of_nonpos (by linarith)] at far
      linarith
  | halfEven =>
    obtain ⟨rfl, _, _, even, other⟩ := Nearest.halfway first second le lt
    exact Int.even_add_one.mp even other
  | halfDown =>
    obtain ⟨rfl, rfl, rfl, near, other⟩ := Nearest.halfway first second le lt
    push_cast at near
    rcases le_or_gt 0 n with nonneg | negative
    · have nonneg : (0 : ℚ) ≤ n := by exact_mod_cast nonneg
      rw [abs_of_nonneg (by linarith), abs_of_nonneg (by linarith)] at near
      linarith
    · have negative : (n : ℚ) + 1 ≤ 0 := by exact_mod_cast negative
      rw [abs_of_nonpos (by linarith), abs_of_nonpos (by linarith)] at other
      linarith
  | up =>
    obtain ⟨near, far⟩ := first
    obtain ⟨otherNear, otherFar⟩ := second
    rw [abs_lt] at near otherNear
    rcases le_or_gt 0 n with nonneg | negative
    · have nonneg : (0 : ℚ) ≤ n := by exact_mod_cast nonneg
      rw [abs_of_nonneg nonneg] at otherFar
      linarith [le_abs_self y]
    · have negative : (n : ℚ) + 1 ≤ 0 := by exact_mod_cast negative
      have nonpos : m ≤ 0 := by
        have small : (m : ℚ) < 1 := by linarith
        exact Int.lt_add_one_iff.mp (by exact_mod_cast small)
      have nonpos : (m : ℚ) ≤ 0 := by exact_mod_cast nonpos
      rw [abs_of_nonpos nonpos] at far
      linarith [neg_le_abs x]
  | down =>
    obtain ⟨near, close⟩ := first
    obtain ⟨otherNear, otherClose⟩ := second
    rw [abs_lt] at near otherNear
    rcases le_or_gt 0 x with nonneg | negative
    · rw [abs_of_nonneg nonneg] at close
      linarith [le_abs_self (m : ℚ)]
    · have below : n < 0 := by
        have small : (n : ℚ) < 0 := by linarith
        exact_mod_cast small
      have below : (n : ℚ) + 1 ≤ 0 := by exact_mod_cast below
      rw [abs_of_nonpos (by linarith : y ≤ 0)] at otherClose
      linarith [neg_le_abs (n : ℚ)]
  | ceiling =>
    obtain ⟨_, near⟩ := first
    obtain ⟨reached, _⟩ := second
    linarith
  | floor =>
    obtain ⟨reached, _⟩ := first
    obtain ⟨_, near⟩ := second
    linarith

/-- What a mode promises is one integer. -/
theorem Picks.unique (first : mode.Picks q m) (second : mode.Picks q n) : m = n :=
  le_antisymm (first.mono second le_rfl) (second.mono first le_rfl)

theorem nearest_floor {tie : Prop} (holds : (⌊q + 1 / 2⌋ : ℚ) = q + 1 / 2 → tie) :
    Nearest q ⌊q + 1 / 2⌋ tie := by
  have low := Int.floor_le (q + 1 / 2)
  have high := Int.lt_floor_add_one (q + 1 / 2)
  rcases low.lt_or_eq with below | same
  · left
    rw [abs_lt]
    constructor <;> linarith
  · right
    refine ⟨?_, holds same⟩
    rw [same, sub_add_cancel_left]
    norm_num

theorem nearest_ceil {tie : Prop} (holds : (⌈q - 1 / 2⌉ : ℚ) = q - 1 / 2 → tie) :
    Nearest q ⌈q - 1 / 2⌉ tie := by
  have low := Int.le_ceil (q - 1 / 2)
  have high := Int.ceil_lt_add_one (q - 1 / 2)
  rcases low.lt_or_eq with above | same
  · left
    rw [abs_lt]
    constructor <;> linarith
  · right
    refine ⟨?_, holds same.symm⟩
    rw [← same, sub_sub_cancel]
    norm_num

/-- Rounding keeps the promise of its mode. -/
theorem picks_round (mode : RoundingMode) (q : ℚ) : mode.Picks q (mode.round q) := by
  have floorLe := Int.floor_le q
  have ltFloor := Int.lt_floor_add_one q
  have leCeil := Int.le_ceil q
  have ceilLt := Int.ceil_lt_add_one q
  cases mode with
  | halfUp =>
    simp only [Picks, round]
    split
    · rename_i nonneg
      refine nearest_floor fun tie => ?_
      rw [tie, abs_of_nonneg nonneg, abs_of_nonneg (by linarith)]
      linarith
    · rename_i negative
      refine nearest_ceil fun tie => ?_
      rw [tie, abs_of_neg (by linarith), abs_of_neg (by linarith)]
      linarith
  | halfEven =>
    simp only [Picks, round]
    split
    · rename_i even
      exact nearest_floor fun _ => even
    · rename_i odd
      refine nearest_ceil fun tie => ?_
      have next : ⌊q + 1 / 2⌋ = ⌈q - 1 / 2⌉ + 1 := by
        rw [Int.floor_eq_iff]
        push_cast
        constructor <;> linarith
      rwa [next, Int.even_add_one, not_not] at odd
  | halfDown =>
    simp only [Picks, round]
    split
    · rename_i nonneg
      refine nearest_ceil fun tie => ?_
      have whole : (0 : ℚ) ≤ ⌈q - 1 / 2⌉ := by
        exact_mod_cast Int.ceil_nonneg_of_neg_one_lt (by linarith)
      rw [abs_of_nonneg whole, abs_of_nonneg nonneg]
      linarith
    · rename_i negative
      refine nearest_floor fun tie => ?_
      have whole : (⌊q + 1 / 2⌋ : ℚ) ≤ 0 := by
        exact_mod_cast Int.lt_add_one_iff.mp (Int.floor_lt.mpr (by push_cast; linarith))
      rw [abs_of_nonpos whole, abs_of_neg (by linarith)]
      linarith
  | up =>
    simp only [Picks, round, abs_lt]
    split
    · rename_i nonneg
      rw [abs_of_nonneg nonneg, abs_of_nonneg (by linarith)]
      refine ⟨⟨?_, ?_⟩, leCeil⟩ <;> linarith
    · rename_i negative
      rw [abs_of_neg (by linarith), abs_of_neg (by linarith)]
      refine ⟨⟨?_, ?_⟩, ?_⟩ <;> linarith
  | down =>
    simp only [Picks, round, abs_lt]
    split
    · rename_i nonneg
      have whole : (0 : ℚ) ≤ ⌊q⌋ := by exact_mod_cast Int.floor_nonneg.mpr nonneg
      rw [abs_of_nonneg nonneg, abs_of_nonneg whole]
      refine ⟨⟨?_, ?_⟩, floorLe⟩ <;> linarith
    · rename_i negative
      have whole : (⌈q⌉ : ℚ) ≤ 0 := by exact_mod_cast Int.ceil_le.mpr (by push_cast; linarith)
      rw [abs_of_nonpos whole, abs_of_neg (by linarith)]
      refine ⟨⟨?_, ?_⟩, ?_⟩ <;> linarith
  | ceiling => exact ⟨leCeil, ceilLt⟩
  | floor => exact ⟨floorLe, ltFloor⟩

end RoundingMode

end MonetaryText

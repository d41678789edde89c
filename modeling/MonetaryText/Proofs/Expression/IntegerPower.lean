import MonetaryText.Proofs.Decimal.Modes
import MonetaryText.Proofs.Decimal.Quotient
import MonetaryText.Proofs.Expression.Finite

/-!
Powers to integers. The loop that squares and multiplies only ever takes powers up to the one that it is
to find, so nothing on the way is rounded where that one fits, and a negative exponent rounds the
reciprocal once (`integer_powers_exact`). At the ends of the range of exponents this does not hold.
-/

namespace MonetaryText

namespace Decimal

/-- The decimal is the number, rounded half to even once, to the given count of digits. -/
def Rounds (digits : Nat) (q : ℚ) (d : Decimal) : Prop :=
  ∃ lead : Int, 10 ^ lead ≤ |q| ∧ |q| < 10 ^ (lead + 1) ∧
    ∃ n : ℤ, RoundingMode.halfEven.Picks (q / 10 ^ (lead - digits + 1)) n ∧
      d.toRat = n * 10 ^ (lead - digits + 1)

/-- What has no more digits is what it is rounded to. -/
theorem rounds_self {d : Decimal} {digits : Nat} (nonzero : d.isZero = false)
    (few : d.digitCount ≤ digits) :
    d.Rounds digits d.toRat := by
  obtain ⟨least, greatest⟩ := leading_bounds nonzero
  have le : d.leadingExponent - digits + 1 ≤ d.exponent := by
    unfold leadingExponent
    omega
  have value := toRat_eq_signedAt le
  refine ⟨d.leadingExponent, least, greatest, d.signedAt (d.leadingExponent - digits + 1), ?_, value⟩
  have scaled : d.toRat / 10 ^ (d.leadingExponent - digits + 1) =
      d.signedAt (d.leadingExponent - digits + 1) := by
    conv_lhs => rw [value, mul_div_cancel_right₀ _ (ten_zpow_pos _).ne']
  have picks := RoundingMode.halfEven.picks_round
    (d.toRat / 10 ^ (d.leadingExponent - digits + 1))
  rwa [scaled, RoundingMode.round_intCast, ← scaled] at picks

end Decimal

namespace Expression

open Extended (finite)

/-! ### The loop -/

/-- The loop of a power with another multiplication. -/
def powerLoopBy (multiply : Extended → Extended → Except Signal Extended) :
    Nat → Nat → Extended → Extended → Except Signal Extended
  | 0, _, _, result => .ok result
  | fuel + 1, n, base, result => do
    let result ← if n % 2 = 1 then multiply result base else .ok result
    if n / 2 = 0 then return result
    powerLoopBy multiply fuel (n / 2) (← multiply base base) result

/-- A power to a natural number with another multiplication. -/
def naturalPowerBy (multiply : Extended → Extended → Except Signal Extended) (base : Extended)
    (n : Nat) : Except Signal Extended :=
  if n = 0 then .ok one else powerLoopBy multiply (n.log2 + 1) n base one

/-- Multiplication that fails where a product has to be rounded. -/
def mulExactly (context : Context) : Extended → Extended → Except Signal Extended
  | .finite a, .finite b => do
    let product ← a.mul context b
    if product = a.exactProduct b then .ok (.finite product) else .error .invalidOperation
  | _, _ => .error .invalidOperation

variable {context : Context} {multiply : Extended → Extended → Except Signal Extended}

theorem powerLoop_eq (fuel n : Nat) (base result : Extended) :
    powerLoop context fuel n base result = powerLoopBy (·.mul context ·) fuel n base result := by
  induction fuel generalizing n base result with
  | zero => rfl
  | succ fuel ih => simp only [powerLoop, powerLoopBy, ih]

theorem naturalPower_eq (base : Extended) (n : Nat) :
    naturalPower context base n = naturalPowerBy (·.mul context ·) base n := by
  simp only [naturalPower, naturalPowerBy, powerLoop_eq]

/-- One round of the loop: the square is taken up where the exponent is odd, and squared if more is left. -/
theorem powerLoopBy_succ (fuel n : Nat) (base result : Extended) :
    powerLoopBy multiply (fuel + 1) n base result =
      (if n % 2 = 1 then multiply result base else .ok result) >>= fun taken =>
        if n / 2 = 0 then .ok taken
        else multiply base base >>= fun square => powerLoopBy multiply fuel (n / 2) square taken := by
  rw [powerLoopBy]
  split <;> rfl

/-- Halving the exponent and doubling that of the square leaves the power that they come to. -/
theorem exponent_step (n i j : Nat) :
    (if n % 2 = 1 then i + j else i) + n / 2 * (j + j) = i + n * j := by
  have whole : n * j = (2 * (n / 2) + n % 2) * j := by rw [Nat.div_add_mod]
  rw [whole]
  rcases Nat.mod_two_eq_zero_or_one n with even | odd
  · rw [even, if_neg (by decide)]
    ring
  · rw [odd, if_pos rfl]
    ring

/-- The loop multiplies powers of the base up to the one that it is to find: the result so far, times the
current square to what is left of the exponent, is always that power. -/
theorem powerLoopBy_pow {base : Decimal} {bound : Nat}
    (exact : ∀ i j, i + j ≤ bound →
      multiply (finite (base.pow i)) (finite (base.pow j)) = .ok (finite (base.pow (i + j))))
    {fuel n i j : Nat} (enough : n < 2 ^ fuel) (pos : 0 < n) (within : i + n * j ≤ bound) :
    powerLoopBy multiply fuel n (finite (base.pow j)) (finite (base.pow i)) =
      .ok (finite (base.pow (i + n * j))) := by
  induction fuel generalizing n i j with
  | zero => omega
  | succ fuel ih =>
    have total := exponent_step n i j
    have taken : (if n % 2 = 1 then multiply (finite (base.pow i)) (finite (base.pow j))
        else .ok (finite (base.pow i))) =
          .ok (finite (base.pow (if n % 2 = 1 then i + j else i))) := by
      split
      · rename_i odd
        rw [if_pos odd] at total
        exact exact i j (by omega)
      · rfl
    generalize (if n % 2 = 1 then i + j else i) = k at total taken
    rw [powerLoopBy_succ]
    refine Outcome.bind_eq_ok_iff.mpr ⟨_, taken, ?_⟩
    split
    · rename_i done
      rw [← total, done, Nat.zero_mul, Nat.add_zero]
    · rename_i more
      -- The square is taken only where the rest of the exponent needs it.
      have square : j + j ≤ bound := by
        have twice : 1 * (j + j) ≤ n / 2 * (j + j) := Nat.mul_le_mul_right _ (by omega)
        omega
      rw [← total]
      exact Outcome.bind_eq_ok_iff.mpr ⟨_, exact j j square, ih (by omega) (by omega) (by omega)⟩

theorem naturalPowerBy_pow {base : Decimal} {n : Nat}
    (exact : ∀ i j, i + j ≤ n →
      multiply (finite (base.pow i)) (finite (base.pow j)) = .ok (finite (base.pow (i + j)))) :
    naturalPowerBy multiply (.finite base) n = .ok (.finite (base.pow n)) := by
  unfold naturalPowerBy
  split
  · rename_i none
    rw [none, Decimal.pow_zero]
    rfl
  · rename_i some
    have first : base.pow 1 = base := by simp [Decimal.pow]
    have looped := powerLoopBy_pow exact (i := 0) (j := 1) Nat.lt_log2_self
      (Nat.pos_of_ne_zero some) (by omega)
    rwa [first, Decimal.pow_zero, Nat.zero_add, Nat.mul_one] at looped

/-! ### The range of exponents -/

/-- A finite result is within the range of exponents. -/
def InRange (z : Extended) : Prop :=
  ∀ d, z = .finite d → d.isZero = true ∨ d.leadingExponent ≤ Context.maxExponent

theorem inRange_of_mul {x y z : Extended} (given : x.mul context y = .ok z) : InRange z := by
  rintro d rfl
  cases x with
  | finite a =>
    cases y with
    | finite b =>
      obtain ⟨_, finished, same⟩ := Outcome.map_eq_ok_iff.mp given
      cases same
      exact (Context.range_of_finish finished).2
    | infinite negative =>
      simp only [Extended.mul] at given
      split at given <;> cases given
  | infinite negative =>
    simp only [Extended.mul] at given
    split at given <;> cases given

theorem inRange_of_naturalPower {base z : Extended} {n : Nat}
    (given : naturalPower context base n = .ok z) : InRange z := by
  have unit : InRange one := by
    intro d same
    cases same
    exact .inr (by decide)
  unfold naturalPower at given
  split at given
  · cases given
    exact unit
  · exact powerLoop_induction (fun _ => True) InRange (fun _ _ => trivial)
      (fun multiplied _ _ => inRange_of_mul multiplied) given trivial unit

section Fitting

variable {base : Decimal} {n : Nat}

theorem natAbs_exponent_pow_le (near : base.exponent.natAbs * n ≤ 900000) {k : Nat} (le : k ≤ n) :
    (base.pow k).exponent.natAbs ≤ 900000 := by
  refine le_trans ?_ near
  simp only [Decimal.pow, Int.natAbs_mul, Int.natAbs_natCast]
  exact Nat.mul_le_mul_left _ le

/-- With an ordinary precision, no power with few enough digits is near the ends of the range. -/
theorem abs_pow_le (digits : Digits.count (base.coefficient ^ n) ≤ context.precision)
    (near : base.exponent.natAbs * n ≤ 900000) (ordinary : context.precision < 100000) :
    |base.toRat ^ n| ≤ 10 ^ Context.maxExponent := by
  rw [← Decimal.toRat_pow]
  refine (Decimal.abs_toRat_lt_iff.mpr (.inr ?_)).le
  have place := natAbs_exponent_pow_le near le_rfl
  have count : (base.pow n).digitCount ≤ context.precision := digits
  simp only [Decimal.leadingExponent, Context.maxExponent]
  omega

/-- The reciprocal of a power that is not too large is within the range at full precision. -/
theorem reciprocal_bounds (near : base.exponent.natAbs * n ≤ 900000) (nonzero : base.toRat ≠ 0)
    (below : |base.toRat ^ n| ≤ 10 ^ Context.maxExponent) :
    10 ^ Context.minExponent ≤ |1 / base.toRat ^ n| ∧
      |1 / base.toRat ^ n| < 10 ^ Context.maxExponent := by
  have power := pow_ne_zero n nonzero
  have ends : Context.minExponent = -Context.maxExponent := rfl
  rw [one_div, abs_inv]
  constructor
  · rw [ends, zpow_neg]
    exact inv_anti₀ (abs_pos.mpr power) below
  · have least : (10 : ℚ) ^ Context.minExponent < |base.toRat ^ n| := by
      rw [← Decimal.toRat_pow] at power ⊢
      have divisor : (base.pow n).isZero = false := by
        rwa [Ne, Decimal.toRat_eq_zero_iff, Bool.not_eq_true] at power
      have place := natAbs_exponent_pow_le near le_rfl
      have digits : 0 < (base.pow n).digitCount := Digits.count_pos _
      refine lt_of_lt_of_le (zpow_lt_zpow_right₀ (by norm_num) ?_) (Decimal.leading_bounds divisor).1
      simp only [Decimal.leadingExponent, Context.minExponent]
      omega
    rw [ends, zpow_neg] at least
    exact inv_lt_of_inv_lt₀ (ten_zpow_pos _) least

variable (pos : 0 < context.precision)
  (digits : Digits.count (base.coefficient ^ n) ≤ context.precision)
  (near : base.exponent.natAbs * n ≤ 900000)

include pos digits near

/-- Every power up to one that fits is left as it is. -/
theorem finish_pow (below : |base.toRat ^ n| < 10 ^ (Context.maxExponent + 1)) {k : Nat} (le : k ≤ n) :
    context.finish (base.pow k) = .ok (base.pow k) := by
  have place := natAbs_exponent_pow_le near le
  refine Context.finish_of_fits ?_ ?_ ?_
  · rw [Digits.count_le_iff pos] at digits
    unfold Decimal.digitCount
    rw [Digits.count_le_iff pos]
    have one : 1 < tenPow context.precision := Nat.one_lt_pow pos.ne' (by decide)
    refine lt_of_le_of_lt ?_ (max_lt digits one)
    rcases Nat.eq_zero_or_pos base.coefficient with zero | some
    · exact le_max_of_le_right (by simpa [Decimal.pow, zero] using zero_pow_le_one k)
    · exact le_max_of_le_left (Nat.pow_le_pow_right some le)
  · simp only [Context.tiny, Context.minExponent]
    omega
  · have smaller : |(base.pow k).toRat| < 10 ^ (Context.maxExponent + 1) := by
      rw [Decimal.toRat_pow, abs_pow]
      rw [abs_pow] at below
      rcases le_total |base.toRat| 1 with small | large
      · exact (pow_le_one₀ (abs_nonneg _) small).trans_lt (one_lt_zpow₀ (by norm_num) (by decide))
      · exact (pow_le_pow_right₀ large le).trans_lt below
    rcases Decimal.abs_toRat_lt_iff.mp smaller with zero | inside
    · rw [Decimal.leadingExponent_of_isZero zero]
      simp only [Context.maxExponent]
      omega
    · exact Int.lt_add_one_iff.mp inside

theorem mul_pow (below : |base.toRat ^ n| < 10 ^ (Context.maxExponent + 1)) {i j : Nat}
    (le : i + j ≤ n) :
    (base.pow i).mul context (base.pow j) = .ok ((base.pow i).exactProduct (base.pow j)) := by
  unfold Decimal.mul
  rw [Decimal.exactProduct_pow]
  exact finish_pow pos digits near below le

/-- A power with few enough digits is exact unless it is too large. -/
theorem naturalPower_eq_ok_iff :
    naturalPower context (.finite base) n = .ok (.finite (base.pow n)) ↔
      |base.toRat ^ n| < 10 ^ (Context.maxExponent + 1) := by
  constructor
  · intro given
    rw [← Decimal.toRat_pow, Decimal.abs_toRat_lt_iff, Int.lt_add_one_iff]
    exact inRange_of_naturalPower given _ rfl
  · intro below
    rw [naturalPower_eq]
    refine naturalPowerBy_pow fun i j le => ?_
    simp only [Extended.mul, mul_pow pos digits near below le, Decimal.exactProduct_pow]
    rfl

theorem naturalPowerBy_mulExactly (below : |base.toRat ^ n| < 10 ^ (Context.maxExponent + 1)) :
    naturalPowerBy (mulExactly context) (.finite base) n = .ok (.finite (base.pow n)) := by
  refine naturalPowerBy_pow fun i j le => ?_
  simp only [mulExactly, mul_pow pos digits near below le, Decimal.exactProduct_pow]
  exact if_pos rfl

/-- The reciprocal of a power is rounded once, if it is not below the least exponent. -/
theorem exists_reciprocal (machine : Binary64 → Binary64 → Binary64) {bound : Nat} (position : Nat)
    (nonzero : base.isZero = false) (bounded : n ≤ bound)
    (below : |base.toRat ^ n| ≤ 10 ^ Context.maxExponent) {exponent : Decimal}
    (value : exponent.toRat = -n) :
    ∃ m, power machine context bound position (.finite base) (.finite exponent) = .ok (.finite m) ∧
      m.Rounds context.precision (1 / base.toRat ^ n) := by
  have negative : exponent.toRat = ((-n : ℤ) : ℚ) := by
    rw [value, Int.cast_neg, Int.cast_natCast]
  obtain ⟨integer, truncated⟩ := Decimal.isInteger_of_toRat negative
  have inside : ¬bound < (-(n : ℤ)).natAbs := by omega
  have unit : Decimal.toRat (.ofNat 1) = 1 := by norm_num [Decimal.toRat, Decimal.ofNat]
  simp only [power, integer, if_true, truncated, integerPower, if_neg inside]
  rcases Nat.eq_zero_or_pos n with rfl | some
  · rw [pow_zero, div_one, ← unit]
    exact ⟨.ofNat 1, rfl, Decimal.rounds_self rfl pos⟩
  · have step : (10 : ℚ) ^ Context.maxExponent < 10 ^ (Context.maxExponent + 1) :=
      zpow_lt_zpow_right₀ (by norm_num) (by decide)
    have exact := (naturalPower_eq_ok_iff pos digits near).mpr (below.trans_lt step)
    have under : ¬0 ≤ -(n : ℤ) := by omega
    have finite : (Extended.finite base).isZero = false := nonzero
    rw [if_neg under, finite, if_neg (by decide), Int.natAbs_neg, Int.natAbs_natCast, exact]
    have worth : base.toRat ≠ 0 := by
      rw [Ne, Decimal.toRat_eq_zero_iff, nonzero]
      decide
    have divisor : (base.pow n).isZero = false := by
      rw [← Bool.not_eq_true, ← Decimal.toRat_eq_zero_iff, Decimal.toRat_pow]
      exact pow_ne_zero n worth
    have quotient : Decimal.toRat (.ofNat 1) / (base.pow n).toRat = 1 / base.toRat ^ n := by
      rw [unit, Decimal.toRat_pow]
    obtain ⟨low, high⟩ := reciprocal_bounds near worth below
    rw [← quotient] at low high
    obtain ⟨m, lead, divided, _, least, greatest, rounded⟩ :=
      Decimal.exists_div pos rfl divisor low high
    rw [quotient] at least greatest rounded
    refine ⟨m, ?_, lead, least, greatest, _, RoundingMode.halfEven.picks_round _, rounded⟩
    change ofSignal ((Decimal.div context (.ofNat 1) (base.pow n)).map Extended.finite) = _
    rw [divided]
    rfl

end Fitting

/-- Powers to natural numbers are exact, with no product on the way rounded, if they have few enough digits
and are not too large. A negative exponent rounds the reciprocal once, if that is not too small. Neither
can happen at an ordinary precision. -/
theorem integer_powers_exact (machine : Binary64 → Binary64 → Binary64) (context : Context)
    (pos : 0 < context.precision) (bound position : Nat) (base : Decimal) (n : Nat)
    (digits : Digits.count (base.coefficient ^ n) ≤ context.precision)
    (near : base.exponent.natAbs * n ≤ 900000) :
    (naturalPower context (.finite base) n = .ok (.finite (base.pow n)) ↔
      |base.toRat ^ n| < 10 ^ (Context.maxExponent + 1)) ∧
    (|base.toRat ^ n| < 10 ^ (Context.maxExponent + 1) →
      naturalPower context (.finite base) n = naturalPowerBy (·.mul context ·) (.finite base) n ∧
      naturalPowerBy (mulExactly context) (.finite base) n = .ok (.finite (base.pow n))) ∧
    (base.isZero = false → n ≤ bound → |base.toRat ^ n| ≤ 10 ^ Context.maxExponent →
      ∀ exponent : Decimal, exponent.toRat = -n →
        ∃ m, power machine context bound position (.finite base) (.finite exponent) =
            .ok (.finite m) ∧
          m.Rounds context.precision (1 / base.toRat ^ n)) ∧
    (context.precision < 100000 → |base.toRat ^ n| ≤ 10 ^ Context.maxExponent) := by
  refine ⟨naturalPower_eq_ok_iff pos digits near, fun below => ⟨naturalPower_eq _ _, ?_⟩, ?_,
    abs_pow_le digits near⟩
  · exact naturalPowerBy_mulExactly pos digits near below
  · intro nonzero bounded below exponent value
    exact exists_reciprocal pos digits near machine position nonzero bounded below value

/-- The fifth power of `-1.5`, and its reciprocal to 28 digits. -/
theorem integer_powers_exact_of_odd_power :
    Digits.count (15 ^ 5) ≤ 28 ∧ Int.natAbs (-1) * 5 ≤ 900000 ∧
      naturalPower ⟨28⟩ (.finite ⟨true, 15, -1⟩) 5 = .ok (.finite ⟨true, 759375, -5⟩) ∧
      naturalPowerBy (mulExactly ⟨28⟩) (.finite ⟨true, 15, -1⟩) 5 =
        .ok (.finite ⟨true, 759375, -5⟩) ∧
      ∃ m, power Binary64.machinePower ⟨28⟩ 1000 0 (.finite ⟨true, 15, -1⟩)
          (.finite ⟨true, 50, -1⟩) = .ok (.finite m) ∧
        m.Rounds 28 (1 / Decimal.toRat ⟨true, 15, -1⟩ ^ 5) := by
  have digits : Digits.count (15 ^ 5) ≤ 28 := by decide
  have near : Int.natAbs (-1) * 5 ≤ 900000 := by decide
  obtain ⟨exact, unrounded, reciprocal, ordinary⟩ := integer_powers_exact Binary64.machinePower ⟨28⟩
    (by decide) 1000 0 ⟨true, 15, -1⟩ 5 digits near
  have below := ordinary (by decide)
  have inside := below.trans_lt (zpow_lt_zpow_right₀ (by norm_num) (Int.lt_succ _))
  exact ⟨digits, near, exact.mpr inside, (unrounded inside).2,
    reciprocal rfl (by decide) below ⟨true, 50, -1⟩ (by norm_num [Decimal.toRat])⟩

/-! ### Powers at the ends of the range -/

/-- A third of a power of ten ends with threes, so that no multiple of ten is next to it. -/
theorem third_not_near (k : Nat) (n : ℤ) :
    ¬|1 / 3 * ((10 ^ (k + 1) : Nat) : ℚ) - (10 * n : ℤ)| ≤ 1 / 2 := by
  intro close
  have near : |((10 ^ (k + 1) : Nat) : ℤ) - 3 * (10 * n)| < 2 := by
    rw [abs_le] at close
    rw [abs_lt]
    constructor
    · have bound : (-2 : ℚ) < (10 ^ (k + 1) : Nat) - 3 * (10 * n : ℤ) := by linarith
      exact_mod_cast bound
    · have bound : ((10 ^ (k + 1) : Nat) : ℚ) - 3 * (10 * n : ℤ) < 2 := by linarith
      exact_mod_cast bound
  have rest : 10 ^ k % 3 = 1 := by simp [Nat.pow_mod]
  rw [Nat.pow_succ, abs_lt] at near
  push_cast at near
  have rest : (10 ^ k : ℤ) % 3 = 1 := by exact_mod_cast rest
  omega

/-- A third of the least power of ten at full precision has no room for its last digit. -/
theorem not_rounds_third {k : Nat} {m : Decimal} (coarse : Context.minExponent - k ≤ m.exponent) :
    ¬m.Rounds (k + 1) (1 / (3 * 10 ^ Context.maxExponent)) := by
  have third : 1 / (3 * (10 : ℚ) ^ Context.maxExponent) = 1 / 3 * 10 ^ Context.minExponent := by
    rw [show Context.minExponent = -Context.maxExponent from rfl, zpow_neg, one_div, mul_inv, one_div]
  rw [third]
  have positive := ten_zpow_pos Context.minExponent
  generalize Context.minExponent = place at *
  rintro ⟨lead, least, greatest, n, picks, value⟩
  rw [abs_of_pos (by positivity)] at least greatest
  obtain rfl : lead = place - 1 := by
    have above : (10 : ℚ) ^ lead < 10 ^ place := by linarith
    have below : (10 : ℚ) ^ (place - 1) < 10 ^ (lead + 1) := by
      rw [zpow_sub_one₀ (by norm_num)]
      linarith
    rw [zpow_lt_zpow_iff_right₀ (by norm_num)] at above below
    omega
  have last : place - 1 - ((k + 1 : Nat) : Int) + 1 = place - (k + 1 : Nat) := by omega
  rw [last] at picks value
  have positive := ten_zpow_pos (place - (k + 1 : Nat))
  -- The decimal has no digit at the last place, so there it is a multiple of ten.
  obtain rfl : n = 10 * m.signedAt (place - k) := by
    have kept := Decimal.toRat_eq_signedAt coarse
    have step : place - k = place - (k + 1 : Nat) + 1 := by omega
    rw [value, step, zpow_add_one₀ (by norm_num), ← step, mul_comm ((10 : ℚ) ^ _), ← mul_assoc,
      mul_left_inj' positive.ne'] at kept
    rw [mul_comm]
    exact_mod_cast kept
  have unit : (10 : ℚ) ^ place = (10 ^ (k + 1) : Nat) * 10 ^ (place - (k + 1 : Nat)) := by
    rw [zpow_sub₀ (by norm_num), zpow_natCast]
    push_cast
    field_simp
  rw [unit, ← mul_assoc, mul_div_cancel_right₀ _ positive.ne'] at picks
  exact third_not_near k _ (picks.elim le_of_lt fun tie => tie.1.le)

/-- Ten to the power beyond the greatest exponent is no result, however many digits there are. -/
theorem naturalPower_ten_ne {k : Nat} (large : Context.maxExponent < k) :
    Digits.count (10 ^ k) ≤ k + 1 ∧ Int.natAbs 0 * k ≤ 900000 ∧
      naturalPower ⟨k + 1⟩ (.finite ⟨false, 10, 0⟩) k ≠
        .ok (.finite (Decimal.pow ⟨false, 10, 0⟩ k)) := by
  have digits : Digits.count (10 ^ k) ≤ k + 1 := (Digits.count_tenPow k).le
  have near : Int.natAbs 0 * k ≤ 900000 := by simp
  refine ⟨digits, near, fun given => ?_⟩
  have below := (naturalPower_eq_ok_iff (Nat.succ_pos k) digits near).mp given
  have ten : Decimal.toRat ⟨false, 10, 0⟩ = 10 := by norm_num [Decimal.toRat]
  rw [ten, abs_of_pos (by positivity), ← zpow_natCast,
    zpow_lt_zpow_iff_right₀ (by norm_num)] at below
  omega

/-- The last digit of a quotient is not below the least exponent. -/
theorem tiny_le_of_div {x y : Extended} {m : Decimal} (given : x.div context y = .ok (.finite m)) :
    context.tiny ≤ m.exponent := by
  cases x with
  | infinite negative => cases y <;> cases given
  | finite a =>
    cases y with
    | infinite negative =>
      cases given
      exact le_rfl
    | finite b =>
      obtain ⟨_, divided, same⟩ := Outcome.map_eq_ok_iff.mp given
      cases same
      unfold Decimal.div at divided
      split at divided
      · cases divided
      · split at divided <;> exact (Context.range_of_finish divided).1

theorem not_rounds_power_third (machine : Binary64 → Binary64 → Binary64) (k bound position : Nat)
    {place : Int} (top : place + k = Context.maxExponent) (near : place.natAbs * 1 ≤ 900000) :
    Digits.count ((3 * 10 ^ k) ^ 1) ≤ k + 1 ∧ place.natAbs * 1 ≤ 900000 ∧
      ¬∃ m, power machine ⟨k + 1⟩ bound position (.finite ⟨false, 3 * 10 ^ k, place⟩)
          (.finite ⟨true, 1, 0⟩) = .ok (.finite m) ∧
        m.Rounds (k + 1) (1 / Decimal.toRat ⟨false, 3 * 10 ^ k, place⟩ ^ 1) := by
  refine ⟨?_, near, ?_⟩
  · rw [Digits.count_le_iff (by omega : 0 < k + 1), pow_one]
    have ten : tenPow (k + 1) = 10 ^ k * 10 := tenPow_add k 1
    have pos : 0 < 10 ^ k := Nat.pow_pos (by decide)
    omega
  rintro ⟨m, given, rounds⟩
  have value : Decimal.toRat ⟨false, 3 * 10 ^ k, place⟩ ^ 1 = 3 * 10 ^ Context.maxExponent := by
    rw [← top, add_comm, zpow_add₀ (by norm_num), zpow_natCast]
    norm_num [Decimal.toRat]
    ring
  rw [value] at rounds
  refine not_rounds_third ?_ rounds
  have reciprocal : Decimal.truncate ⟨true, 1, 0⟩ = -1 := by decide
  simp only [power, show Decimal.isInteger ⟨true, 1, 0⟩ = true from rfl, if_true, reciprocal,
    integerPower] at given
  split at given
  · split at given <;> cases given
  · rw [if_neg (by decide)] at given
    split at given
    · cases given
    · obtain ⟨_, _, divided⟩ := Outcome.bind_eq_ok_iff.mp (Outcome.mapError_eq_ok_iff.mp given)
      have low := tiny_le_of_div divided
      simp only [Context.tiny] at low
      omega

/-- Ten to the power of a million is an overflow though it has no more digits than the precision, and a
reciprocal next to the least exponent has one digit less than the precision. -/
theorem integer_powers_inexact_at_ends :
    (Digits.count (10 ^ 1000000) ≤ 1000001 ∧ Int.natAbs 0 * 1000000 ≤ 900000 ∧
      naturalPower ⟨1000001⟩ (.finite ⟨false, 10, 0⟩) 1000000 ≠
        .ok (.finite (Decimal.pow ⟨false, 10, 0⟩ 1000000))) ∧
    (Digits.count ((3 * 10 ^ 99999) ^ 1) ≤ 100000 ∧ Int.natAbs 900000 * 1 ≤ 900000 ∧
      ¬∃ m, power Binary64.machinePower ⟨100000⟩ 999999 0 (.finite ⟨false, 3 * 10 ^ 99999, 900000⟩)
          (.finite ⟨true, 1, 0⟩) = .ok (.finite m) ∧
        m.Rounds 100000 (1 / Decimal.toRat ⟨false, 3 * 10 ^ 99999, 900000⟩ ^ 1)) :=
  ⟨naturalPower_ten_ne (by decide),
    not_rounds_power_third _ 99999 999999 0 (by decide) (by decide)⟩

end Expression

end MonetaryText

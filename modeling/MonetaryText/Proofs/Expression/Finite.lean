import MonetaryText.Amount.Rounding
import MonetaryText.Proofs.Decimal.Value
import MonetaryText.Proofs.Expression.Reading

/-!
Where infinite values come from. Every operation of a precision reports an overflow, and so does the
machine's power of two finite numbers; but an exponent that is not an integer may itself be too large for
a binary number, and the powers with an infinite exponent follow the limits. So a value is finite unless
its expression has a power of that kind (`evaluate_finite_or_unbounded`).
-/

namespace MonetaryText

namespace Binary64

/-- The power of a magnitude with the infinite exponent of a sign: one is kept, the others tend to
infinity or to zero. -/
def limitPower (size : ℚ) (below : Bool) : Binary64 :=
  if size = 1 then finite false leastNormal (-52)
  else if (if below then size < 1 else 1 < size) then infinite false
  else finite false 0 minExponent

/-- The machine's power follows the limits where the exponent is infinite and the base is not. -/
def FollowsLimits (machine : Binary64 → Binary64 → Binary64) : Prop :=
  ∀ negative significand exponent below,
    machine (finite negative significand exponent) (infinite below) =
      limitPower |(exactDecimal negative significand exponent).toRat| below

theorem limitPower_eq_infinite_iff {size : ℚ} {below negative : Bool} :
    limitPower size below = infinite negative ↔
      negative = false ∧ if below then size < 1 else 1 < size := by
  unfold limitPower
  by_cases one : size = 1
  · cases below <;> simp [one]
  · rw [if_neg one]
    cases below <;> simp <;> split <;> simp_all [eq_comm]

/-- A power that is defined in the limits alone. -/
def powerInLimit : Binary64 → Binary64 → Binary64
  | finite negative significand exponent, infinite below =>
    limitPower |(exactDecimal negative significand exponent).toRat| below
  | _, _ => nan

theorem powerInLimit_followsLimits : FollowsLimits powerInLimit := fun _ _ _ _ => rfl

theorem ofRatio_cases (negative : Bool) (numerator denominator : Nat) :
    (∃ significand exponent, ofRatio negative numerator denominator =
      finite negative significand exponent) ∨
    ofRatio negative numerator denominator = infinite negative := by
  unfold ofRatio
  extract_lets scaled start exponent significand
  split
  · split
    · exact .inr rfl
    · exact .inl ⟨_, _, rfl⟩
  · split
    · exact .inr rfl
    · exact .inl ⟨_, _, rfl⟩

/-- The nearest binary number keeps the sign of the decimal. -/
theorem ofDecimal_cases (d : Decimal) :
    (∃ significand exponent, ofDecimal d = finite d.negative significand exponent) ∨
      ofDecimal d = infinite d.negative := by
  unfold ofDecimal
  split
  · exact .inl ⟨_, _, rfl⟩
  · split
    · exact .inr rfl
    · exact ofRatio_cases _ _ _

/-- A binary number that is exactly a decimal is finite and has its value. -/
theorem exists_of_isExactly {x : Binary64} {d : Decimal} (exact : x.isExactly (.finite d) = true) :
    ∃ negative significand exponent, x = finite negative significand exponent ∧
      (exactDecimal negative significand exponent).toRat = d.toRat := by
  cases x with
  | finite negative significand exponent =>
    exact ⟨negative, significand, exponent, rfl, Decimal.sameValue_iff_toRat.mp exact⟩
  | infinite negative => cases exact
  | nan => cases exact

/-- With a finite base only an infinite exponent leads to infinity, and then in the limit. -/
theorem checkedPower_eq_infinite_iff {machine : Binary64 → Binary64 → Binary64}
    (limits : FollowsLimits machine) {negative below : Bool} {significand : Nat} {exponent : Int}
    {d : Decimal} :
    checkedPower machine (finite negative significand exponent) (ofDecimal d) =
        .ok (.infinite below) ↔
      below = false ∧ ofDecimal d = infinite d.negative ∧
        if d.negative then |(exactDecimal negative significand exponent).toRat| < 1
        else 1 < |(exactDecimal negative significand exponent).toRat| := by
  rcases ofDecimal_cases d with ⟨part, place, known⟩ | known
  · rw [known]
    refine iff_of_false ?_ (by simp)
    unfold checkedPower
    split
    · simp
    · simp [isFinite]
    · simp
  · rw [known]
    have limit := limits negative significand exponent d.negative
    have result := @limitPower_eq_infinite_iff
      |(exactDecimal negative significand exponent).toRat| d.negative below
    unfold checkedPower
    rw [limit]
    generalize limitPower |(exactDecimal negative significand exponent).toRat| d.negative = power at *
    cases power with
    | finite => simpa using (not_congr result).mp (by simp)
    | infinite other =>
      simp only [isFinite, Bool.and_false, Bool.false_eq_true, if_false, true_and]
      simpa using result
    | nan => simpa using (not_congr result).mp (by simp)

end Binary64

/-- A decimal is refused for other reasons only. -/
theorem Amount.round_ne_notFinite (profile : NumeralStyle) (d : Decimal) (amount : Number) :
    Amount.round profile d ≠ .error (.notFinite amount) := by
  have signalled {α : Type} (result : Except Signal α) :
      Amount.ofSignal result ≠ .error (.notFinite amount) := by
    cases result <;> simp [Amount.ofSignal, Except.mapError]
  intro refused
  rcases Outcome.bind_eq_error_iff.mp refused with unformed | ⟨unit, _, later⟩
  · exact signalled _ unformed
  · simp only at later
    split at later
    · cases later
    · exact signalled _ later

namespace Extended

variable {context : Context} {x y z : Extended}

theorem isFinite_of_map {result : Except Signal Decimal} (given : result.map finite = .ok z) :
    z.isFinite = true := by
  cases result with
  | error => cases given
  | ok d =>
    cases given
    rfl

theorem isFinite_iff : x.isFinite = true ↔ ∃ d, x = .finite d := by
  cases x <;> simp [isFinite]

@[simp] theorem isFinite_negate (x : Extended) : x.negate.isFinite = x.isFinite := by
  cases x <;> rfl

theorem isFinite_of_add (given : x.add context y = .ok z) (left : x.isFinite = true)
    (right : y.isFinite = true) : z.isFinite = true := by
  obtain ⟨a, rfl⟩ := isFinite_iff.mp left
  obtain ⟨b, rfl⟩ := isFinite_iff.mp right
  exact isFinite_of_map given

theorem isFinite_of_mul (given : x.mul context y = .ok z) (left : x.isFinite = true)
    (right : y.isFinite = true) : z.isFinite = true := by
  obtain ⟨a, rfl⟩ := isFinite_iff.mp left
  obtain ⟨b, rfl⟩ := isFinite_iff.mp right
  exact isFinite_of_map given

/-- An infinite divisor makes the quotient zero. -/
theorem isFinite_of_div (given : x.div context y = .ok z) (left : x.isFinite = true) :
    z.isFinite = true := by
  obtain ⟨a, rfl⟩ := isFinite_iff.mp left
  cases y with
  | infinite =>
    cases given
    rfl
  | finite b => exact isFinite_of_map given

theorem isFinite_of_quantize {mode : RoundingMode} {exponent : Int}
    (given : x.quantize context mode exponent = .ok z) : z.isFinite = true := by
  cases x with
  | infinite => cases given
  | finite a => exact isFinite_of_map given

end Extended

namespace Expression

/-! ### Powers -/

section Power

variable {context : Context}

/-- What holds of the factors and is kept by products holds of the power. -/
theorem powerLoop_induction (factor part : Extended → Prop)
    (squares : ∀ {x z : Extended}, x.mul context x = .ok z → factor x → factor z)
    (products : ∀ {x y z : Extended}, x.mul context y = .ok z → part x → factor y → part z)
    {fuel n : Nat} {base result z : Extended} (given : powerLoop context fuel n base result = .ok z)
    (first : factor base) (second : part result) : part z := by
  induction fuel generalizing n base result with
  | zero =>
    cases given
    exact second
  | succ fuel ih =>
    have later (product : Extended) (holds : part product)
        (continued : (if n / 2 = 0 then pure product else do
          powerLoop context fuel (n / 2) (← base.mul context base) product) = Except.ok z) :
        part z := by
      split at continued
      · cases continued
        exact holds
      · obtain ⟨square, squared, looped⟩ := Outcome.bind_eq_ok_iff.mp continued
        exact ih looped (squares squared first) holds
    unfold powerLoop at given
    simp only at given
    split at given
    · obtain ⟨product, multiplied, continued⟩ := Outcome.bind_eq_ok_iff.mp given
      exact later product (products multiplied second first) continued
    · exact later result second given

/-- Each product of the loop has finite factors. -/
theorem isFinite_of_powerLoop {fuel n : Nat} {base result z : Extended}
    (given : powerLoop context fuel n base result = .ok z) (first : base.isFinite = true)
    (second : result.isFinite = true) : z.isFinite = true :=
  powerLoop_induction (·.isFinite = true) (·.isFinite = true)
    (fun squared finite => Extended.isFinite_of_mul squared finite finite)
    Extended.isFinite_of_mul given first second

theorem isFinite_of_naturalPower {n : Nat} {base z : Extended}
    (given : naturalPower context base n = .ok z) (finite : base.isFinite = true) :
    z.isFinite = true := by
  unfold naturalPower at given
  split at given
  · cases given
    rfl
  · exact isFinite_of_powerLoop given finite rfl

theorem isFinite_of_integerPower {bound position : Nat} {n : Int} {base z : Extended}
    (given : integerPower context bound position base n = .ok z) (finite : base.isFinite = true) :
    z.isFinite = true := by
  unfold integerPower at given
  split at given
  · split at given <;> cases given
  · split at given
    · exact isFinite_of_naturalPower (Outcome.mapError_eq_ok_iff.mp given) finite
    · split at given
      · cases given
      · obtain ⟨_, _, divided⟩ := Outcome.bind_eq_ok_iff.mp (Outcome.mapError_eq_ok_iff.mp given)
        exact Extended.isFinite_of_div divided rfl

/-- A power that is worth infinity: the exponent is beyond all binary numbers, and the base, which is
such a number, is not one and tends to infinity. -/
structure Unbounded (base exponent : Decimal) : Prop where
  fractional : exponent.isInteger = false
  beyond : Binary64.ofDecimal exponent = .infinite exponent.negative
  exact : (Binary64.ofDecimal base).isExactly (.finite base) = true
  grows : if exponent.negative then |base.toRat| < 1 else 1 < |base.toRat|

/-- Exactly these powers of finite numbers are not finite. -/
theorem power_eq_infinite_iff {machine : Binary64 → Binary64 → Binary64}
    (limits : Binary64.FollowsLimits machine) {bound position : Nat} {base exponent : Decimal}
    {below : Bool} :
    power machine context bound position (.finite base) (.finite exponent) = .ok (.infinite below) ↔
      below = false ∧ Unbounded base exponent := by
  unfold power
  by_cases integer : exponent.isInteger = true
  · simp only [integer, if_true]
    constructor
    · intro given
      cases isFinite_of_integerPower given rfl
    · rintro ⟨_, unbounded⟩
      rw [unbounded.fractional] at integer
      cases integer
  · simp only [integer, Bool.false_eq_true, if_false]
    unfold fractionalPower
    simp only
    by_cases exact : (Binary64.ofExtended (.finite base)).isExactly (.finite base) = true
    · obtain ⟨negative, significand, place, known, value⟩ := Binary64.exists_of_isExactly exact
      rw [if_pos exact, Outcome.mapError_eq_ok_iff, known,
        Binary64.checkedPower_eq_infinite_iff limits, value]
      constructor
      · rintro ⟨positive, beyond, grows⟩
        exact ⟨positive, by simpa using integer, beyond, exact, grows⟩
      · rintro ⟨positive, unbounded⟩
        exact ⟨positive, unbounded.beyond, unbounded.grows⟩
    · rw [if_neg exact]
      constructor
      · rintro ⟨⟩
      · rintro ⟨_, unbounded⟩
        exact absurd unbounded.exact exact

end Power

/-! ### Trees -/

/-- A tree and all trees within it. -/
def Tree.subtrees : Tree → List Tree
  | literal number => [literal number]
  | plus operand => plus operand :: operand.subtrees
  | minus operand => minus operand :: operand.subtrees
  | binary operator left right => binary operator left right :: (left.subtrees ++ right.subtrees)

section Value

variable {machine : Binary64 → Binary64 → Binary64} {style : NumeralStyle} {settings : Settings}
  {unit : Int}

/-- An operator finds infinity only where an operand has it, or in an unbounded power. -/
theorem Operator.combine_cases (limits : Binary64.FollowsLimits machine) {operator : Operator}
    {x y z : Extended} (combined : operator.combine machine style settings unit x y = some z)
    (infinite : z.isFinite = false) :
    x.isFinite = false ∨ y.isFinite = false ∨
      operator = .power ∧ ∃ base exponent, x = .finite base ∧ y = .finite exponent ∧
        Unbounded base exponent := by
  have absurdity : z.isFinite ≠ true := by simp [infinite]
  cases x with
  | infinite => exact .inl rfl
  | finite base =>
    cases y with
    | infinite => exact .inr (.inl rfl)
    | finite exponent =>
      right
      right
      cases operator with
      | sum =>
        exact absurd (Extended.isFinite_of_add (Outcome.toOption_eq_some_iff.mp combined) rfl rfl)
          absurdity
      | difference =>
        exact absurd (Extended.isFinite_of_add (Outcome.toOption_eq_some_iff.mp combined) rfl rfl)
          absurdity
      | product =>
        exact absurd (Extended.isFinite_of_mul (Outcome.toOption_eq_some_iff.mp combined) rfl rfl)
          absurdity
      | quotient =>
        simp only [Operator.combine] at combined
        split at combined
        · cases combined
        · obtain ⟨quotient, _, quantized⟩ := Option.bind_eq_some_iff.mp combined
          exact absurd (Extended.isFinite_of_quantize (Outcome.toOption_eq_some_iff.mp quantized))
            absurdity
      | power =>
        cases z with
        | finite => cases infinite
        | infinite below =>
          have raised := Outcome.toOption_eq_some_iff.mp combined
          exact ⟨rfl, base, exponent, rfl, rfl, ((power_eq_infinite_iff limits).mp raised).2⟩

/-- Induction over the tree: infinity is carried up from an unbounded power somewhere below. -/
theorem Tree.exists_unbounded (limits : Binary64.FollowsLimits machine) {tree : Tree} {x : Extended}
    (worth : tree.value machine style settings unit = some x) (infinite : x.isFinite = false) :
    ∃ left right base exponent, .binary .power left right ∈ tree.subtrees ∧
      left.value machine style settings unit = some (.finite base) ∧
      right.value machine style settings unit = some (.finite exponent) ∧
      Unbounded base exponent := by
  induction tree generalizing x with
  | literal number =>
    cases worth
    cases infinite
  | plus operand ih =>
    obtain ⟨left, right, base, exponent, member, found⟩ := ih worth infinite
    exact ⟨left, right, base, exponent, List.mem_cons_of_mem _ member, found⟩
  | minus operand ih =>
    obtain ⟨y, inner, rfl⟩ := Option.map_eq_some_iff.mp worth
    obtain ⟨left, right, base, exponent, member, found⟩ := ih inner (by simpa using infinite)
    exact ⟨left, right, base, exponent, List.mem_cons_of_mem _ member, found⟩
  | binary operator first second firstIh secondIh =>
    obtain ⟨y, firstWorth, continued⟩ := Option.bind_eq_some_iff.mp worth
    obtain ⟨z, secondWorth, combined⟩ := Option.bind_eq_some_iff.mp continued
    rcases Operator.combine_cases limits combined infinite with
      below | below | ⟨rfl, base, exponent, rfl, rfl, unbounded⟩
    · obtain ⟨left, right, base, exponent, member, found⟩ := firstIh firstWorth below
      exact ⟨left, right, base, exponent,
        List.mem_cons_of_mem _ (List.mem_append_left _ member), found⟩
    · obtain ⟨left, right, base, exponent, member, found⟩ := secondIh secondWorth below
      exact ⟨left, right, base, exponent,
        List.mem_cons_of_mem _ (List.mem_append_right _ member), found⟩
    · exact ⟨first, second, base, exponent, List.mem_cons_self, firstWorth, secondWorth, unbounded⟩

end Value

/-- The value of a text is a finite number, as rounding demands, or the text has an unbounded power,
which is worth infinity wherever it stands. -/
theorem evaluate_finite_or_unbounded (machine : Binary64 → Binary64 → Binary64)
    (limits : Binary64.FollowsLimits machine) (nesting : Nat) (style : NumeralStyle)
    (settings : Settings) (text : Text) (x : Extended)
    (given : evaluate machine nesting style settings text = .ok x) :
    (x.isFinite = true ∧ ∀ profile amount,
        Amount.roundNumber profile x.toNumber ≠ .error (.notFinite amount)) ∨
      (x.isFinite = false ∧
        (∀ profile, Amount.roundNumber profile x.toNumber = .error (.notFinite x.toNumber)) ∧
        ∃ unit levels tree left right base exponent,
          Context.unitExponent ⟨settings.precision⟩ style.fractionDigits = .ok unit ∧
          Parses style .expression levels tree text [] ∧
          tree.value machine style settings unit = some x ∧
          .binary .power left right ∈ tree.subtrees ∧
          left.value machine style settings unit = some (.finite base) ∧
          right.value machine style settings unit = some (.finite exponent) ∧
          Unbounded base exponent ∧
          ∀ position, (arithmetic machine style settings unit).apply .power position (.finite base)
            (.finite exponent) = .ok (.infinite false)) := by
  have precise : settings.precision ≤ Context.maxPrecision := by
    by_contra beyond
    rw [evaluate_imprecise text (by omega)] at given
    cases given
  rw [evaluate_precise text precise] at given
  obtain ⟨unit, formed, read⟩ := Outcome.bind_eq_ok_iff.mp given
  obtain ⟨levels, tree, _, parsed, worth⟩ := exists_parse read
  by_cases finite : x.isFinite = true
  · refine .inl ⟨finite, fun profile amount refused => ?_⟩
    cases x with
    | finite d => exact Amount.round_ne_notFinite profile d amount refused
    | infinite => cases finite
  · refine .inr ⟨by simpa using finite, fun profile => ?_, ?_⟩
    · cases x with
      | finite => exact absurd rfl finite
      | infinite => rfl
    · obtain ⟨left, right, base, exponent, member, leftWorth, rightWorth, unbounded⟩ :=
        Tree.exists_unbounded limits worth (by simpa using finite)
      exact ⟨unit, levels, tree, left, right, base, exponent,
        Outcome.mapError_eq_ok_iff.mp formed, parsed, worth, member, leftWorth, rightWorth, unbounded,
        fun _ => (power_eq_infinite_iff limits).mpr ⟨rfl, unbounded⟩⟩

/-- An exponent of 310 digits and a half. -/
theorem evaluate_of_unbounded :
    Binary64.FollowsLimits Binary64.powerInLimit ∧
      evaluate Binary64.powerInLimit standardNesting (.western "en_US" 2 .halfEven) {}
        ("2^1".toList ++ List.replicate 309 '0' ++ ".5".toList) = .ok (.infinite false) ∧
      ∃ tree left right base exponent,
        .binary .power left right ∈ Tree.subtrees tree ∧
        tree.value Binary64.powerInLimit (.western "en_US" 2 .halfEven) {} (-2) =
          some (.infinite false) ∧
        left.value Binary64.powerInLimit (.western "en_US" 2 .halfEven) {} (-2) =
          some (.finite base) ∧
        right.value Binary64.powerInLimit (.western "en_US" 2 .halfEven) {} (-2) =
          some (.finite exponent) ∧
        Unbounded base exponent := by
  have infinite : evaluate Binary64.powerInLimit standardNesting (.western "en_US" 2 .halfEven) {}
      ("2^1".toList ++ List.replicate 309 '0' ++ ".5".toList) = .ok (.infinite false) := by
    decide +kernel
  refine ⟨Binary64.powerInLimit_followsLimits, infinite, ?_⟩
  rcases evaluate_finite_or_unbounded _ Binary64.powerInLimit_followsLimits _ _ _ _ _ infinite with
    ⟨finite, _⟩ | ⟨_, _, unit, levels, tree, left, right, base, exponent, formed, _, worth, member,
      leftWorth, rightWorth, unbounded, _⟩
  · cases finite
  · cases formed
    exact ⟨tree, left, right, base, exponent, member, worth, leftWorth, rightWorth, unbounded⟩

end Expression

end MonetaryText

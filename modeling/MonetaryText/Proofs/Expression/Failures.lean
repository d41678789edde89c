import MonetaryText.Proofs.Expression.Reading

/-!
What can go wrong in an expression. A failure is about the text, and says so, unless it comes from a
power whose exponent is infinite or has too many digits for a message (`escapes_of_read`).
-/

namespace MonetaryText.Expression

/-- Whether a failure says what is wrong with the text, or what has no result. -/
def Failure.isReported : Failure → Bool
  | malformed _ _ | impossible _ _ => true
  | exponentTooLong | exponentInfinite | precisionOutOfRange => false

/-- The exponents that a power does not report on. -/
inductive Escapes (bound : Nat) : Extended → Failure → Prop where
  | infinite {negative : Bool} : Escapes bound (.infinite negative) .exponentInfinite
  | tooLong {exponent : Decimal} (whole : exponent.isInteger = true)
      (beyond : bound < exponent.truncate.natAbs)
      (long : longestInteger < Digits.count exponent.truncate.natAbs) :
      Escapes bound (.finite exponent) .exponentTooLong

/-! ### Operations -/

theorem isReported_of_ofSignal {α : Type} {result : Except Signal α} {failure : Failure}
    (fails : ofSignal result = .error failure) : failure.isReported = true := by
  cases result with
  | ok a => cases fails
  | error signal =>
    cases fails
    rfl

theorem isReported_of_numeralValue {style : NumeralStyle} {position : Nat} {text : Text}
    {failure : Failure} (fails : numeralValue style position text = .error failure) :
    failure.isReported = true := by
  unfold numeralValue at fails
  split at fails <;> cases fails <;> rfl

theorem isReported_of_divide {style : NumeralStyle} {context : Context} {unit : Int} {position : Nat}
    {x y : Extended} {failure : Failure}
    (fails : divide style context unit position x y = .error failure) :
    failure.isReported = true := by
  unfold divide at fails
  split at fails
  · cases fails
    rfl
  · exact isReported_of_ofSignal fails

theorem isReported_of_fractionalPower {machine : Binary64 → Binary64 → Binary64} {position : Nat}
    {base : Extended} {exponent : Decimal} {failure : Failure}
    (fails : fractionalPower machine position base exponent = .error failure) :
    failure.isReported = true := by
  unfold fractionalPower at fails
  simp only at fails
  split at fails
  · cases known : Binary64.checkedPower machine (Binary64.ofExtended base)
        (.ofDecimal exponent) with
    | ok z =>
      rw [known] at fails
      cases fails
    | error error =>
      rw [known] at fails
      cases fails
      rfl
  · cases fails
    rfl

/-- Only the size of an exponent goes unreported. -/
theorem integerPower_eq_error_iff {context : Context} {bound position : Nat} {base : Extended} {n : Int}
    {failure : Failure} (silent : failure.isReported = false) :
    integerPower context bound position base n = .error failure ↔
      failure = .exponentTooLong ∧ bound < n.natAbs ∧ longestInteger < Digits.count n.natAbs := by
  unfold integerPower
  constructor
  · intro fails
    split at fails
    · rename_i beyond
      split at fails
      · rename_i long
        cases fails
        exact ⟨rfl, beyond, long⟩
      · cases fails
        cases silent
    · split at fails
      · cases silent.symm.trans (isReported_of_ofSignal fails)
      · split at fails
        · cases fails
          cases silent
        · cases silent.symm.trans (isReported_of_ofSignal fails)
  · rintro ⟨rfl, beyond, long⟩
    rw [if_pos beyond, if_pos long]

theorem power_eq_error_iff {machine : Binary64 → Binary64 → Binary64} {context : Context}
    {bound position : Nat} {x y : Extended} {failure : Failure} (silent : failure.isReported = false) :
    power machine context bound position x y = .error failure ↔ Escapes bound y failure := by
  cases y with
  | infinite negative =>
    constructor
    · rintro ⟨⟩
      exact .infinite
    · rintro ⟨⟩
      rfl
  | finite exponent =>
    unfold power
    by_cases whole : exponent.isInteger = true
    · simp only [if_pos whole]
      rw [integerPower_eq_error_iff silent]
      constructor
      · rintro ⟨rfl, beyond, long⟩
        exact .tooLong whole beyond long
      · intro escapes
        cases escapes with
        | tooLong _ beyond long => exact ⟨rfl, beyond, long⟩
    · simp only [if_neg whole]
      constructor
      · intro fails
        cases silent.symm.trans (isReported_of_fractionalPower fails)
      · intro escapes
        cases escapes with
        | tooLong inside => exact absurd inside whole

/-! ### Readers -/

theorem Parses.suffix {style : NumeralStyle} {place : Place} {levels : Nat} {tree : Tree}
    {text rest : Text} (parsed : Parses style place levels tree text rest) : rest <:+ text := by
  induction parsed with
  | literal => exact ((List.suffix_append _ _).trans (List.suffix_cons _ _)).trans (List.suffix_append _ _)
  | parentheses _ _ ih =>
    exact (((List.suffix_cons _ _).trans ih).trans (List.suffix_cons _ _)).trans (List.suffix_append _ _)
  | plus _ _ ih | minus _ _ ih => exact (ih.trans (List.suffix_cons _ _)).trans (List.suffix_append _ _)
  | power _ _ first last | product _ _ _ first last | sum _ _ _ first last =>
    exact (last.trans (List.suffix_cons _ _)).trans first
  | bare _ ih | factor _ ih | term _ ih => exact ih
  | blanks _ _ ih => exact (List.suffix_append _ _).trans ih

namespace Cursor

theorem skipBlanks_suffix (cursor : Cursor) : cursor.skipBlanks.rest <:+ cursor.rest :=
  List.dropWhile_suffix _

theorem advance_suffix (cursor : Cursor) (count : Nat) : (cursor.advance count).rest <:+ cursor.rest :=
  List.drop_suffix _ _

end Cursor

section Readers

variable (machine : Binary64 → Binary64 → Binary64) (style : NumeralStyle) (settings : Settings)
  (unit : Int)

/-- Somewhere in the text stands a power whose exponent is read, has a value, and is not reported on. -/
def HasEscape (text : Text) (failure : Failure) : Prop :=
  ∃ middle rest levels tree exponent, ('^' :: middle) <:+ text ∧
    Parses style .factor levels tree middle rest ∧
    tree.value machine style settings unit = some exponent ∧
    Escapes settings.greatestPower exponent failure

/-- What the reader fails for unreported stands in the text. -/
def Traced (reader : Reader Extended) : Prop :=
  ∀ cursor failure, reader cursor = .error failure → failure.isReported = false →
    HasEscape machine style settings unit cursor.rest failure

variable {machine style settings unit} {nesting : Nat}

theorem HasEscape.of_suffix {text later : Text} {failure : Failure}
    (escape : HasEscape machine style settings unit later failure) (suffix : later <:+ text) :
    HasEscape machine style settings unit text failure := by
  obtain ⟨middle, rest, levels, tree, exponent, inside, facts⟩ := escape
  exact ⟨middle, rest, levels, tree, exponent, inside.trans suffix, facts⟩

/-- All operators but the power report on what they fail for. -/
theorem escapes_of_apply {operator : Operator} {position : Nat} {x y : Extended} {failure : Failure}
    (fails : (arithmetic machine style settings unit).apply operator position x y = .error failure)
    (silent : failure.isReported = false) :
    operator = .power ∧ Escapes settings.greatestPower y failure := by
  cases operator with
  | sum | difference | product => cases silent.symm.trans (isReported_of_ofSignal fails)
  | quotient => cases silent.symm.trans (isReported_of_divide fails)
  | power => exact ⟨rfl, (power_eq_error_iff silent).mp fails⟩

theorem productOperator?_ne_power (c : Char) : productOperator? c ≠ some .power := by
  unfold productOperator?
  split <;> simp

theorem sumOperator?_ne_power (c : Char) : sumOperator? c ≠ some .power := by
  unfold sumOperator?
  split <;> simp

/-- The operators of a chain report, so that a failure comes from an operand. -/
theorem chain_traced {operator? : Char → Option Operator} {operand : Reader Extended}
    (reports : ∀ c, operator? c ≠ some .power)
    (shortens : ∀ cursor x later, operand cursor = .ok (x, later) → later.rest <:+ cursor.rest)
    (traced : Traced machine style settings unit operand) (fuel : Nat) (x : Extended) :
    Traced machine style settings unit
      (chain (arithmetic machine style settings unit) operator? operand fuel x) := by
  intro cursor failure fails silent
  induction fuel generalizing x cursor with
  | zero => cases fails
  | succ fuel ih =>
    unfold chain at fails
    simp only at fails
    have behind := (cursor.skipBlanks.advance_suffix 1).trans cursor.skipBlanks_suffix
    split at fails
    · cases fails
    · rename_i operator found
      obtain ⟨c, _, known⟩ := Option.bind_eq_some_iff.mp found
      rcases Outcome.bind_eq_error_iff.mp fails with inner | ⟨⟨y, later⟩, read, fails⟩
      · exact (traced _ _ inner silent).of_suffix behind
      · rcases Outcome.bind_eq_error_iff.mp fails with applied | ⟨z, _, continued⟩
        · obtain ⟨rfl, _⟩ := escapes_of_apply applied silent
          exact absurd known (reports c)
        · exact (ih _ _ continued).of_suffix ((shortens _ _ _ read).trans behind)

theorem Sound.shortens {place : Place} {own budget : Nat} {reader : Reader Extended}
    (sound : Sound machine style settings unit place own budget reader) :
    ∀ cursor x later, reader cursor = .ok (x, later) → later.rest <:+ cursor.rest := by
  intro cursor x later given
  obtain ⟨_, _, _, parsed, _⟩ := sound _ _ _ given
  exact parsed.suffix

theorem chained_traced {place : Place} {own budget : Nat} {operator? : Char → Option Operator}
    {operand : Reader Extended} (reports : ∀ c, operator? c ≠ some .power)
    (sound : Sound machine style settings unit place own budget operand)
    (traced : Traced machine style settings unit operand) :
    Traced machine style settings unit (fun cursor => do
      let (x, cursor) ← operand cursor
      chain (arithmetic machine style settings unit) operator? operand cursor.rest.length x
        cursor) := by
  intro cursor failure fails silent
  rcases Outcome.bind_eq_error_iff.mp fails with inner | ⟨⟨x, later⟩, read, chained⟩
  · exact traced _ _ inner silent
  · exact (chain_traced reports sound.shortens traced _ _ _ _ chained silent).of_suffix
      (sound.shortens _ _ _ read)

theorem primary_traced {budget : Nat}
    (inner : Traced machine style settings unit
      (expression style (arithmetic machine style settings unit) budget)) :
    Traced machine style settings unit
      (primary style (arithmetic machine style settings unit) (budget + 1)) := by
  intro cursor failure fails silent
  unfold primary at fails
  simp only at fails
  split at fails
  · cases fails
    cases silent
  · rcases Outcome.bind_eq_error_iff.mp fails with content | ⟨⟨x, later⟩, _, closed⟩
    · exact (inner _ _ content silent).of_suffix
        ((cursor.skipBlanks.advance_suffix 1).trans cursor.skipBlanks_suffix)
    · simp only at closed
      split at closed <;> cases closed
      cases silent
  · split at fails
    · rcases Outcome.bind_eq_error_iff.mp fails with value | ⟨x, _, done⟩
      · cases silent.symm.trans (isReported_of_numeralValue value)
      · cases done
    · cases fails
      cases silent

/-- A power fails for its base, for its exponent, or for what it makes of the two. -/
theorem factor_traced {budget : Nat}
    (primaries : Traced machine style settings unit
      (primary style (arithmetic machine style settings unit) budget))
    (factors : Traced machine style settings unit
      (factor style (arithmetic machine style settings unit) budget)) :
    Traced machine style settings unit
      (factor style (arithmetic machine style settings unit) (budget + 1)) := by
  intro cursor failure fails silent
  unfold factor at fails
  simp only at fails
  have start := cursor.skipBlanks_suffix
  have behind := (cursor.skipBlanks.advance_suffix 1).trans start
  split at fails
  · exact (factors _ _ fails silent).of_suffix behind
  · rcases Outcome.bind_eq_error_iff.mp fails with operand | ⟨⟨x, later⟩, _, done⟩
    · exact (factors _ _ operand silent).of_suffix behind
    · cases done
  · rename_i noPlus noMinus
    rcases Outcome.bind_eq_error_iff.mp fails with base | ⟨⟨x, middle⟩, read, continued⟩
    · exact (primaries _ _ base silent).of_suffix start
    · have unsigned := Cursor.ne_sign_of_head? noPlus noMinus
      obtain ⟨_, _, _, taken, _⟩ := (readers_sound budget).1 _ _ _ unsigned read
      have left := middle.skipBlanks_suffix.trans (taken.suffix.trans start)
      simp only at continued
      split at continued
      · rename_i head
        have power : ('^' :: (middle.skipBlanks.advance 1).rest) <:+ cursor.rest := by
          rw [← Cursor.rest_eq_cons head]
          exact left
        rcases Outcome.bind_eq_error_iff.mp continued with exponent | ⟨⟨y, last⟩, value, applied⟩
        · exact (factors _ _ exponent silent).of_suffix ((List.suffix_cons _ _).trans power)
        · rcases Outcome.bind_eq_error_iff.mp applied with combined | ⟨z, _, done⟩
          -- Here alone something goes unreported: the exponent has been read, so it has a tree.
          · obtain ⟨levels, tree, _, parsed, worth⟩ := (readers_sound budget).2.1 _ _ _ value
            exact ⟨_, _, levels, tree, y, power, parsed, worth, (escapes_of_apply combined silent).2⟩
          · cases done
      · cases continued

/-- Induction on the budget, as for what the readers give. -/
theorem readers_traced (budget : Nat) :
    Traced machine style settings unit
        (primary style (arithmetic machine style settings unit) budget) ∧
      Traced machine style settings unit
        (factor style (arithmetic machine style settings unit) budget) ∧
      Traced machine style settings unit
        (term style (arithmetic machine style settings unit) budget) ∧
      Traced machine style settings unit
        (expression style (arithmetic machine style settings unit) budget) := by
  induction budget with
  | zero =>
    refine ⟨?_, ?_, ?_, ?_⟩ <;>
    · rintro cursor failure ⟨⟩ ⟨⟩
  | succ budget ih =>
    obtain ⟨primaries, factors, terms, expressions⟩ := ih
    obtain ⟨_, factorsSound, termsSound, _⟩ := @readers_sound machine style settings unit budget
    exact ⟨primary_traced expressions, factor_traced primaries factors,
      chained_traced productOperator?_ne_power factorsSound factors,
      chained_traced sumOperator?_ne_power termsSound terms⟩

theorem escapes_of_read {budget : Nat} {text : Text} {failure : Failure}
    (fails : read style (arithmetic machine style settings unit) budget text = .error failure)
    (silent : failure.isReported = false) :
    HasEscape machine style settings unit text failure := by
  rcases Outcome.bind_eq_error_iff.mp fails with inner | ⟨⟨x, later⟩, _, ended⟩
  · exact (readers_traced budget).2.2.2 _ _ inner silent
  · simp only at ended
    split at ended <;> cases ended <;> cases silent

/-- Why an evaluation fails without a report: for lack of a precision, or for a power. -/
theorem escapes_of_evaluate {text : Text} {failure : Failure}
    (fails : evaluate machine nesting style settings text = .error failure)
    (silent : failure.isReported = false) :
    failure = .precisionOutOfRange ∧ Context.maxPrecision < settings.precision ∨
      ∃ unit, Context.unitExponent ⟨settings.precision⟩ style.fractionDigits = .ok unit ∧
        HasEscape machine style settings unit text failure := by
  by_cases precise : settings.precision ≤ Context.maxPrecision
  · rw [evaluate_precise text precise] at fails
    rcases Outcome.bind_eq_error_iff.mp fails with unformed | ⟨unit, formed, inner⟩
    · cases silent.symm.trans (isReported_of_ofSignal unformed)
    · exact .inr ⟨unit, Outcome.mapError_eq_ok_iff.mp formed, escapes_of_read inner silent⟩
  · rw [evaluate_imprecise text (by omega)] at fails
    cases fails
    exact .inl ⟨rfl, by omega⟩

end Readers

end MonetaryText.Expression

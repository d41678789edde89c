import MonetaryText.Proofs.Expression.Parse

/-!
What the readers of expressions give for texts that are put together from parts they take. Each part
must be followed by something that does not belong to it. Main statement: in every style, an expression
of one numeral is worth the number that the numeral is read as (`read_numeral`).
-/

namespace MonetaryText.Expression

section Complete

variable (machine : Binary64 → Binary64 → Binary64) (style : NumeralStyle) (settings : Settings)
  (unit : Int)

/-- The reader takes `text` from before `rest` and gives `x`. Blanks behind may be left. -/
def Takes (reader : Reader Extended) (text rest : Text) (x : Extended) : Prop :=
  ∀ position, ∃ later, reader ⟨position, text ++ rest⟩ = .ok (x, later) ∧
    later.skipBlanks.rest = rest ∧ later.rest.length ≤ (text ++ rest).length

/-- The reader takes `text` from before `rest` and goes on with the chain from `x`, with fuel for all
that is left. -/
def Leads (reader : Reader Extended) (operator? : Char → Option Operator)
    (operand : Reader Extended) (text rest : Text) (x : Extended) : Prop :=
  ∀ position, ∃ fuel later, reader ⟨position, text ++ rest⟩ =
      chain (arithmetic machine style settings unit) operator? operand fuel x later ∧
    later.skipBlanks.rest = rest ∧ later.rest.length ≤ fuel ∧
    later.rest.length ≤ (text ++ rest).length

variable {machine style settings unit} {nesting : Nat}

/-- A chain ends where no operator follows. -/
theorem Leads.takes {reader operand : Reader Extended} {operator? : Char → Option Operator}
    {text rest : Text} {x : Extended}
    (leads : Leads machine style settings unit reader operator? operand text rest x)
    (stops : rest.head?.bind operator? = none) : Takes reader text rest x := by
  intro position
  obtain ⟨fuel, later, continued, left, enough, short⟩ := leads position
  cases fuel with
  | zero => exact ⟨later, continued, left, short⟩
  | succ fuel =>
    refine ⟨later.skipBlanks, ?_, ?_, Nat.le_trans later.length_skipBlanks_le short⟩
    · rw [continued]
      simp only [chain, left, stops]
    · rw [Cursor.skipBlanks_skipBlanks, left]

/-- The first operand begins the chain. -/
theorem Takes.leads {operand : Reader Extended} (operator? : Char → Option Operator)
    {text rest : Text} {x : Extended} (takes : Takes operand text rest x) :
    Leads machine style settings unit (fun cursor => do
      let (x, cursor) ← operand cursor
      chain (arithmetic machine style settings unit) operator? operand cursor.rest.length x cursor)
      operator? operand text rest x := by
  intro position
  obtain ⟨later, taken, left, short⟩ := takes position
  refine ⟨later.rest.length, later, ?_, left, Nat.le_refl _, short⟩
  simp only [taken]
  rfl

/-- An operator and an operand lengthen the chain. -/
theorem Leads.step {reader operand : Reader Extended} {operator? : Char → Option Operator}
    {front back rest : Text} {c : Char} {operator : Operator} {x y z : Extended}
    (leads : Leads machine style settings unit reader operator? operand front
      (c :: (back ++ rest)) x)
    (known : operator? c = some operator) (takes : Takes operand back rest y)
    (combined : operator.combine machine style settings unit x y = some z) :
    Leads machine style settings unit reader operator? operand (front ++ c :: back) rest z := by
  intro position
  obtain ⟨fuel, middle, continued, left, enough, short⟩ := leads position
  have skipped := middle.length_skipBlanks_le
  rw [left, List.length_cons] at skipped
  obtain ⟨fuel, rfl⟩ : ∃ less, fuel = less + 1 := ⟨fuel - 1, by omega⟩
  obtain ⟨later, taken, ended, shorter⟩ := takes (middle.skipBlanks.position + 1)
  have cursor : middle.skipBlanks.advance 1 = ⟨middle.skipBlanks.position + 1, back ++ rest⟩ := by
    simp [Cursor.advance, left]
  refine ⟨fuel, later, ?_, ended, by omega, ?_⟩
  · have found : (c :: (back ++ rest)).head?.bind operator? = some operator := known
    rw [List.append_assoc, List.cons_append, continued]
    simp only [chain, left, found, cursor, taken]
    change (do
      let z ← (arithmetic machine style settings unit).apply operator _ x y
      chain _ operator? operand fuel z later) = _
    rw [(apply_eq_ok_iff machine style settings unit).mpr combined]
    rfl
  · simp only [List.length_append, List.length_cons] at short shorter ⊢
    omega

theorem Cursor.exists_skipBlanks_append (position : Nat) {blanks : Text} (text : Text)
    (blank : Text.isBlankText blanks = true)
    (starts : ∀ c, text.head? = some c → Text.isBlank c = false) :
    ∃ behind, Cursor.skipBlanks ⟨position, blanks ++ text⟩ = ⟨behind, text⟩ := by
  refine ⟨position + ((blanks ++ text).takeWhile Text.isBlank).length, ?_⟩
  rw [Cursor.skipBlanks, Text.dropWhile_append_of_isBlankText blank starts]

/-- A run of a numeral ends with the blanks behind it, or before them. -/
theorem numeral_takes {text after rest : Text} {number : Decimal}
    (known : ∀ c ∈ text, style.isNumeralChar c = true) (back : Text.isBlankText after = true)
    (accepted : Numeral.read style text = .ok number)
    (ends : ∀ c, rest.head? = some c → Text.isBlank c = false ∧ style.isNumeralChar c = false) :
    Takes (numeral style (arithmetic machine style settings unit)) (text ++ after) rest
      (.finite number) := by
  intro position
  obtain ⟨run, left⟩ := Text.takeWhile_append_of_head? (text ++ after) fun c head => (ends c head).2
  rw [List.takeWhile_append_of_pos known] at run
  rw [List.dropWhile_append_of_pos known] at left
  have parts : Text.isBlankText (after.takeWhile style.isNumeralChar) = true ∧
      Text.isBlankText (after.dropWhile style.isNumeralChar) = true := by
    rw [← Bool.and_eq_true, ← Text.isBlankText_append, List.takeWhile_append_dropWhile, back]
  have value : numeralValue style position (text ++ after.takeWhile style.isNumeralChar) =
      .ok (.finite number) :=
    numeralValue_eq_ok_iff.mpr
      ⟨number, (Numeral.read_append_of_isBlankText text parts.1).mpr accepted, rfl⟩
  refine ⟨Cursor.advance ⟨position, text ++ after ++ rest⟩
    (text ++ after.takeWhile style.isNumeralChar).length, ?_, ?_, ?_⟩
  · simp only [numeral, run]
    exact Outcome.bind_eq_ok_iff.mpr ⟨_, value, rfl⟩
  all_goals
    have ended := Cursor.rest_advance_takeWhile ⟨position, text ++ after ++ rest⟩ style.isNumeralChar
    simp only [run, left] at ended
  · change (Cursor.rest _).dropWhile Text.isBlank = rest
    rw [ended]
    exact Text.dropWhile_append_of_isBlankText parts.2 fun c head => (ends c head).1
  · have shorter := (List.dropWhile_sublist style.isNumeralChar (l := after)).length_le
    rw [ended]
    simp only [List.length_append]
    omega

theorem literal_takes (levels : Nat) {before run after rest : Text} {c : Char} {number : Decimal}
    (front : Text.isBlankText before = true) (digit : c.isDigit = true)
    (known : ∀ x ∈ run, style.isNumeralChar x = true) (back : Text.isBlankText after = true)
    (accepted : Numeral.read style (c :: run) = .ok number)
    (ends : ∀ c, rest.head? = some c → Text.isBlank c = false ∧ style.isNumeralChar c = false) :
    Takes (primary style (arithmetic machine style settings unit) (levels + 1))
      (before ++ (c :: run) ++ after) rest (.finite number) := by
  intro position
  have first : style.isNumeralChar c = true := NumeralStyle.isNumeralChar_iff.mpr (.inl digit)
  obtain ⟨behind, skipped⟩ := Cursor.exists_skipBlanks_append position (c :: run ++ after ++ rest)
    front (by rintro d ⟨⟩; exact Text.isBlank_of_isDigit digit)
  have numerals : Takes (numeral style (arithmetic machine style settings unit))
      (c :: run ++ after) rest (.finite number) :=
    numeral_takes (List.forall_mem_cons.mpr ⟨first, known⟩) back accepted ends
  obtain ⟨later, taken, ended, short⟩ := numerals behind
  refine ⟨later, ?_, ended, by simp only [List.length_append] at short ⊢; omega⟩
  rw [List.append_assoc before, List.append_assoc before]
  unfold primary
  simp only [skipped]
  split
  · rename_i nothing
    cases nothing
  · rename_i parenthesis
    cases parenthesis
    cases digit
  · rename_i d _ same
    cases same
    rw [if_pos first]
    exact taken

theorem parentheses_takes {levels : Nat} {before text after rest : Text} {x : Extended}
    (front : Text.isBlankText before = true) (back : Text.isBlankText after = true)
    (starts : ∀ c, rest.head? = some c → Text.isBlank c = false)
    (inner : Takes (expression style (arithmetic machine style settings unit) levels) text
      (')' :: (after ++ rest)) x) :
    Takes (primary style (arithmetic machine style settings unit) (levels + 1))
      (before ++ '(' :: text ++ ')' :: after) rest x := by
  intro position
  obtain ⟨behind, skipped⟩ := Cursor.exists_skipBlanks_append position
    ('(' :: (text ++ ')' :: (after ++ rest))) front (by rintro c ⟨⟩; rfl)
  obtain ⟨middle, taken, ended, short⟩ := inner (behind + 1)
  have whole : before ++ '(' :: text ++ ')' :: after ++ rest =
      before ++ '(' :: (text ++ ')' :: (after ++ rest)) := by simp
  refine ⟨middle.skipBlanks.advance 1, ?_, ?_, ?_⟩
  · rw [whole]
    unfold primary
    simp only [skipped, List.head?_cons]
    refine Outcome.bind_eq_ok_iff.mpr ⟨(x, middle), taken, ?_⟩
    simp only [ended, List.head?_cons]
    rfl
  · change (middle.skipBlanks.rest.drop 1).dropWhile Text.isBlank = rest
    rw [ended]
    exact Text.dropWhile_append_of_isBlankText back starts
  · change (middle.skipBlanks.rest.drop 1).length ≤ _
    rw [ended]
    simp only [List.drop_succ_cons, List.drop_zero, List.length_append, List.length_cons]
    omega

/-- What comes first, apart from blanks, is not a sign. -/
def Unsigned (text : Text) : Prop :=
  ∃ before c rest, Text.isBlankText before = true ∧ text = before ++ c :: rest ∧
    Text.isBlank c = false ∧ c ≠ '+' ∧ c ≠ '-'

theorem Unsigned.of_isDigit {before rest : Text} {c : Char} (front : Text.isBlankText before = true)
    (digit : c.isDigit = true) : Unsigned (before ++ c :: rest) :=
  ⟨before, c, rest, front, rfl, Text.isBlank_of_isDigit digit, Numeral.ne_sign_of_isDigit digit⟩

/-- Blanks before a primary may be skipped twice. -/
theorem primary_skipBlanks (operations : Operations Extended) (budget : Nat) (cursor : Cursor) :
    primary style operations budget cursor.skipBlanks = primary style operations budget cursor := by
  cases budget with
  | zero => rfl
  | succ budget => simp only [primary, Cursor.skipBlanks_skipBlanks]

/-- Where a primary stands, no sign is read. -/
theorem factor_eq_primary (operations : Operations Extended) (budget position : Nat) {text : Text}
    (unsigned : Unsigned text) (rest : Text) :
    factor style operations (budget + 1) ⟨position, text ++ rest⟩ = (do
      let (x, later) ← primary style operations budget ⟨position, text ++ rest⟩
      let later := later.skipBlanks
      match later.rest.head? with
      | some '^' => do
        let (y, last) ← factor style operations budget (later.advance 1)
        let z ← operations.apply .power (later.position + 1) x y
        return (z, last)
      | _ => return (x, later)) := by
  obtain ⟨before, c, inside, front, rfl, solid, noPlus, noMinus⟩ := unsigned
  obtain ⟨behind, skipped⟩ := Cursor.exists_skipBlanks_append position (c :: inside ++ rest) front
    (by rintro d ⟨⟩; exact solid)
  rw [← primary_skipBlanks, List.append_assoc, factor]
  simp only [skipped]
  split
  · rename_i sign
    cases sign
    exact absurd rfl noPlus
  · rename_i sign
    cases sign
    exact absurd rfl noMinus
  · rfl

theorem bare_takes {levels : Nat} {text rest : Text} {x : Extended} (unsigned : Unsigned text)
    (takes : Takes (primary style (arithmetic machine style settings unit) (levels + 1)) text rest x)
    (noPower : rest.head? ≠ some '^') :
    Takes (factor style (arithmetic machine style settings unit) (levels + 2)) text rest x := by
  intro position
  obtain ⟨later, taken, ended, short⟩ := takes position
  refine ⟨later.skipBlanks, ?_, ?_, Nat.le_trans later.length_skipBlanks_le short⟩
  · rw [factor_eq_primary _ (levels + 1) position unsigned rest, taken]
    refine Outcome.bind_eq_ok_iff.mpr ⟨(x, later), rfl, ?_⟩
    simp only [ended]
    rfl
  · rw [Cursor.skipBlanks_skipBlanks, ended]

theorem power_takes {levels : Nat} {front back rest : Text} {x y z : Extended}
    (unsigned : Unsigned front)
    (base : Takes (primary style (arithmetic machine style settings unit) (levels + 2)) front
      ('^' :: (back ++ rest)) x)
    (exponent : Takes (factor style (arithmetic machine style settings unit) (levels + 2)) back rest
      y)
    (combined : Operator.power.combine machine style settings unit x y = some z) :
    Takes (factor style (arithmetic machine style settings unit) (levels + 3)) (front ++ '^' :: back)
      rest z := by
  intro position
  obtain ⟨middle, taken, ended, short⟩ := base position
  obtain ⟨later, read, left, shorter⟩ := exponent (middle.skipBlanks.position + 1)
  have cursor : middle.skipBlanks.advance 1 = ⟨middle.skipBlanks.position + 1, back ++ rest⟩ := by
    simp [Cursor.advance, ended]
  refine ⟨later, ?_, left, ?_⟩
  · rw [List.append_assoc, List.cons_append,
      factor_eq_primary _ (levels + 2) position unsigned ('^' :: (back ++ rest)), taken]
    refine Outcome.bind_eq_ok_iff.mpr ⟨(x, middle), rfl, ?_⟩
    simp only [ended, List.head?_cons, cursor]
    refine Outcome.bind_eq_ok_iff.mpr ⟨(y, later), read, ?_⟩
    refine Outcome.bind_eq_ok_iff.mpr ⟨z, ?_, rfl⟩
    exact (apply_eq_ok_iff machine style settings unit).mpr combined
  · simp only [List.length_append, List.length_cons] at shorter ⊢
    omega

/-- A sign takes one level, and stands before a factor. -/
theorem sign_takes {levels : Nat} {before text rest : Text} {x : Extended}
    (front : Text.isBlankText before = true)
    (operand : Takes (factor style (arithmetic machine style settings unit) (levels + 2)) text rest
      x) :
    Takes (factor style (arithmetic machine style settings unit) (levels + 3)) (before ++ '+' :: text)
        rest x ∧
      Takes (factor style (arithmetic machine style settings unit) (levels + 3))
        (before ++ '-' :: text) rest x.negate := by
  have skips (position : Nat) (sign : Char) (solid : Text.isBlank sign = false) :
      ∃ behind, Cursor.skipBlanks ⟨position, before ++ sign :: text ++ rest⟩ =
        ⟨behind, sign :: (text ++ rest)⟩ := by
    rw [List.append_assoc]
    exact Cursor.exists_skipBlanks_append position _ front (by rintro c ⟨⟩; exact solid)
  have longer (sign : Char) : (text ++ rest).length ≤ (before ++ sign :: text ++ rest).length := by
    simp only [List.length_append, List.length_cons]
    omega
  constructor
  · intro position
    obtain ⟨behind, skipped⟩ := skips position '+' (by decide)
    obtain ⟨later, taken, ended, short⟩ := operand (behind + 1)
    refine ⟨later, ?_, ended, Nat.le_trans short (longer '+')⟩
    unfold factor
    simp only [skipped, List.head?_cons]
    exact taken
  · intro position
    obtain ⟨behind, skipped⟩ := skips position '-' (by decide)
    obtain ⟨later, taken, ended, short⟩ := operand (behind + 1)
    refine ⟨later, ?_, ended, Nat.le_trans short (longer '-')⟩
    unfold factor
    simp only [skipped, List.head?_cons]
    exact Outcome.bind_eq_ok_iff.mpr ⟨(x, later), taken, rfl⟩

theorem read_of_takes {budget : Nat} {text : Text} {x : Extended}
    (takes : Takes (expression style (arithmetic machine style settings unit) budget) text [] x) :
    read style (arithmetic machine style settings unit) budget text = .ok x := by
  obtain ⟨later, taken, ended, _⟩ := takes 0
  rw [List.append_nil] at taken
  refine Outcome.bind_eq_ok_iff.mpr ⟨(x, later), taken, ?_⟩
  simp only [ended, List.head?_nil]
  rfl

/-- A numeral alone is an expression, with its sign as an operator. -/
theorem read_numeral (levels : Nat) {text : Text} {number : Decimal}
    (accepted : Numeral.read style text = .ok number) :
    read style (arithmetic machine style settings unit) (levels + 5) text =
      .ok (.finite number) := by
  obtain ⟨before, after, c, run, front, back, digit, known, unsigned, cases⟩ :=
    Numeral.exists_unsigned_of_read accepted
  have operand (levels : Nat) {blanks : Text} (blank : Text.isBlankText blanks = true) :
      Takes (factor style (arithmetic machine style settings unit) (levels + 2))
        (blanks ++ (c :: run) ++ after) [] (.finite number.magnitude) := by
    have starts : Unsigned (blanks ++ (c :: run) ++ after) := by
      rw [List.append_assoc]
      exact .of_isDigit blank digit
    exact bare_takes starts
      (literal_takes levels blank digit known back unsigned (by rintro c ⟨⟩)) (by rintro ⟨⟩)
  have factors : Takes (factor style (arithmetic machine style settings unit) (levels + 3)) text []
      (.finite number) := by
    obtain ⟨negative, coefficient, exponent⟩ := number
    rcases cases with ⟨rfl, rfl | rfl⟩ | ⟨rfl, rfl⟩
    · exact operand (levels + 1) front
    · rw [List.append_assoc, List.cons_append]
      exact (sign_takes front (@operand levels [] rfl)).1
    · rw [List.append_assoc, List.cons_append]
      exact (sign_takes front (@operand levels [] rfl)).2
  have terms : Takes (term style (arithmetic machine style settings unit) (levels + 4)) text []
      (.finite number) := (factors.leads productOperator?).takes rfl
  exact read_of_takes ((terms.leads sumOperator?).takes rfl)

/-- There is no arithmetic of such a precision. -/
theorem evaluate_imprecise (text : Text) (beyond : Context.maxPrecision < settings.precision) :
    evaluate machine nesting style settings text = .error .precisionOutOfRange := by
  unfold evaluate
  simp only [beyond, if_true]
  rfl

/-- The unit of the fraction digits is formed before anything is read. -/
theorem evaluate_precise (text : Text) (precise : settings.precision ≤ Context.maxPrecision) :
    evaluate machine nesting style settings text = (do
      let unit ← ofSignal (Context.unitExponent ⟨settings.precision⟩ style.fractionDigits)
      read style (arithmetic machine style settings unit) (nesting + 5) text) := by
  have within : ¬Context.maxPrecision < settings.precision := by omega
  unfold evaluate
  simp only [within, if_false]

/-- Its value needs a precision, and a unit of the fraction digits. -/
theorem evaluate_numeral {text : Text} {number : Decimal}
    (accepted : Numeral.read style text = .ok number)
    (formed : Context.unitExponent ⟨settings.precision⟩ style.fractionDigits = .ok unit) :
    evaluate machine nesting style settings text = .ok (.finite number) ↔
      settings.precision ≤ Context.maxPrecision := by
  by_cases fits : settings.precision ≤ Context.maxPrecision
  · rw [evaluate_precise text fits, formed]
    exact iff_of_true (read_numeral nesting accepted) fits
  · rw [evaluate_imprecise text (by omega)]
    exact iff_of_false (by rintro ⟨⟩) fits

end Complete

end MonetaryText.Expression

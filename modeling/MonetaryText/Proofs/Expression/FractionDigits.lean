import MonetaryText.Proofs.Expression.Tokens
import MonetaryText.Proofs.Expression.Failures

/-!
What the fraction digits of a style have a say in. Quotients are rounded to them; the check, the numerals
and all other operators are the same for any fraction digits. Hence the value of a text without a quotient
does not depend on them (`evaluate_fractionDigits`).
-/

namespace MonetaryText

theorem Numeral.read_fractionDigits (style : NumeralStyle) (places : Nat) (text : Text) :
    read { style with fractionDigits := places } text = read style text := rfl

namespace Expression

variable {style : NumeralStyle} {places : Nat}

/-! ### The check -/

theorem scan_fractionDigits (style : NumeralStyle) (places position : Nat) (text : Text) :
    scan { style with fractionDigits := places } position text = scan style position text := by
  fun_induction scan style position text with
  | case1 => rw [scan]
  | case2 position c rest digit run ih =>
    rw [scan_digit digit]
    exact congrArg (· >>= _) ih
  | case3 position c rest digit kind known ih =>
    rw [scan_single known, ih]
  | case4 position c rest digit known blank ih =>
    rw [scan_blank blank, ih]
  | case5 position c rest digit known blank =>
    rw [scan, if_neg digit]
    simp only [known, blank]
    rfl

theorem isWellFormed_fractionDigits (calculable allowEmpty : Bool) (text : Text) :
    isWellFormed { style with fractionDigits := places } calculable allowEmpty text =
      isWellFormed style calculable allowEmpty text := by
  simp only [isWellFormed, tokenize, scan_fractionDigits]
  rfl

/-! ### Readers -/

section Readers

variable (machine : Binary64 → Binary64 → Binary64) (style : NumeralStyle) (settings : Settings)
  (unit other : Int) (places : Nat)

/-- A reader gives the same for other fraction digits where there is no quotient. -/
def Unaffected (reader : NumeralStyle → Operations Extended → Nat → Reader Extended)
    (budget : Nat) : Prop :=
  ∀ cursor, '/' ∉ cursor.rest →
    reader { style with fractionDigits := places }
        (arithmetic machine { style with fractionDigits := places } settings other) budget cursor =
      reader style (arithmetic machine style settings unit) budget cursor

theorem apply_fractionDigits {operator : Operator} (known : operator ≠ .quotient) (position : Nat)
    (x y : Extended) :
    (arithmetic machine { style with fractionDigits := places } settings other).apply operator
        position x y =
      (arithmetic machine style settings unit).apply operator position x y := by
  cases operator with
  | quotient => exact absurd rfl known
  | sum | difference | product | power => rfl

variable {machine style settings unit other places}

theorem Cursor.head_mem_rest {cursor : Cursor} {c : Char}
    (head : cursor.skipBlanks.rest.head? = some c) : c ∈ cursor.rest :=
  cursor.skipBlanks_suffix.subset (List.mem_of_mem_head? head)

theorem Cursor.absent_behind {cursor : Cursor} (absent : '/' ∉ cursor.rest) :
    '/' ∉ (cursor.skipBlanks.advance 1).rest := fun member =>
  absent (((cursor.skipBlanks.advance_suffix 1).trans cursor.skipBlanks_suffix).subset member)

theorem eq_of_productOperator?_quotient (c : Char) (known : productOperator? c = some .quotient) :
    c = '/' := by
  unfold productOperator? at known
  split at known <;> cases known
  rfl

theorem sumOperator?_ne_quotient (c : Char) : sumOperator? c ≠ some .quotient := by
  unfold sumOperator?
  split <;> simp

/-- An operator of the chain stands in the text, so that it is no quotient. -/
theorem chain_fractionDigits {operator? : Char → Option Operator}
    {operand : NumeralStyle → Operations Extended → Nat → Reader Extended} {budget : Nat}
    (quotients : ∀ c, operator? c = some .quotient → c = '/')
    (shortens : ∀ cursor x later,
      operand style (arithmetic machine style settings unit) budget cursor = .ok (x, later) →
        later.rest <:+ cursor.rest)
    (operands : Unaffected machine style settings unit other places operand budget)
    (fuel : Nat) (x : Extended) (cursor : Cursor) (absent : '/' ∉ cursor.rest) :
    chain (arithmetic machine { style with fractionDigits := places } settings other) operator?
        (operand { style with fractionDigits := places }
          (arithmetic machine { style with fractionDigits := places } settings other) budget)
        fuel x cursor =
      chain (arithmetic machine style settings unit) operator?
        (operand style (arithmetic machine style settings unit) budget) fuel x cursor := by
  induction fuel generalizing x cursor with
  | zero => rfl
  | succ fuel ih =>
    unfold chain
    simp only
    have behind := Cursor.absent_behind absent
    split
    · rfl
    · rename_i operator found
      obtain ⟨c, head, known⟩ := Option.bind_eq_some_iff.mp found
      have noQuotient : operator ≠ .quotient := by
        rintro rfl
        rw [quotients c known] at head
        exact absent (Cursor.head_mem_rest head)
      rw [operands _ behind]
      apply Outcome.bind_congr
      rintro ⟨y, later⟩ read
      simp only [apply_fractionDigits machine style settings unit other places noQuotient]
      apply Outcome.bind_congr
      intro z _
      exact ih z later fun member => behind ((shortens _ _ _ read).subset member)

theorem chained_fractionDigits {place : Place} {own budget : Nat}
    {operator? : Char → Option Operator}
    {operand chained : NumeralStyle → Operations Extended → Nat → Reader Extended}
    (links : ∀ style operations, chained style operations (budget + 1) = fun cursor => do
      let (x, cursor) ← operand style operations budget cursor
      chain operations operator? (operand style operations budget) cursor.rest.length x cursor)
    (quotients : ∀ c, operator? c = some .quotient → c = '/')
    (sound : Sound machine style settings unit place own budget
      (operand style (arithmetic machine style settings unit) budget))
    (operands : Unaffected machine style settings unit other places operand budget) :
    Unaffected machine style settings unit other places chained (budget + 1) := by
  intro cursor absent
  rw [links, links]
  simp only [operands cursor absent]
  apply Outcome.bind_congr
  rintro ⟨x, later⟩ read
  exact chain_fractionDigits quotients sound.shortens operands _ x later
    fun member => absent ((sound.shortens _ _ _ read).subset member)

theorem primary_fractionDigits {budget : Nat}
    (inner : Unaffected machine style settings unit other places expression budget) :
    Unaffected machine style settings unit other places primary (budget + 1) := by
  intro cursor absent
  unfold primary
  simp only
  split
  · rfl
  · rw [inner _ (Cursor.absent_behind absent)]
  · rfl

theorem factor_fractionDigits {budget : Nat}
    (primaries : Unaffected machine style settings unit other places primary budget)
    (factors : Unaffected machine style settings unit other places factor budget) :
    Unaffected machine style settings unit other places factor (budget + 1) := by
  intro cursor absent
  have start : '/' ∉ cursor.skipBlanks.rest := fun member =>
    absent (cursor.skipBlanks_suffix.subset member)
  have behind := Cursor.absent_behind absent
  unfold factor
  simp only
  split
  · exact factors _ behind
  · rw [factors _ behind]
    rfl
  · rename_i noPlus noMinus
    rw [primaries _ start]
    apply Outcome.bind_congr
    rintro ⟨x, middle⟩ read
    have unsigned := Cursor.ne_sign_of_head? noPlus noMinus
    obtain ⟨_, _, _, taken, _⟩ := (readers_sound budget).1 _ _ _ unsigned read
    have later : '/' ∉ middle.rest := fun member => start (taken.suffix.subset member)
    simp only
    split
    · rw [factors _ (Cursor.absent_behind later)]
      rfl
    · rfl

/-- Induction on the budget, as for what the readers give. -/
theorem readers_fractionDigits (budget : Nat) :
    Unaffected machine style settings unit other places primary budget ∧
      Unaffected machine style settings unit other places factor budget ∧
      Unaffected machine style settings unit other places term budget ∧
      Unaffected machine style settings unit other places expression budget := by
  induction budget with
  | zero => exact ⟨fun _ _ => rfl, fun _ _ => rfl, fun _ _ => rfl, fun _ _ => rfl⟩
  | succ budget ih =>
    obtain ⟨primaries, factors, terms, expressions⟩ := ih
    obtain ⟨_, factorsSound, termsSound, _⟩ := @readers_sound machine style settings unit budget
    exact ⟨primary_fractionDigits expressions, factor_fractionDigits primaries factors,
      chained_fractionDigits (fun _ _ => rfl) eq_of_productOperator?_quotient factorsSound factors,
      chained_fractionDigits (fun _ _ => rfl)
        (fun c known => absurd known (sumOperator?_ne_quotient c)) termsSound terms⟩

theorem read_fractionDigits (budget : Nat) {text : Text} (absent : '/' ∉ text) :
    read { style with fractionDigits := places }
        (arithmetic machine { style with fractionDigits := places } settings other) budget text =
      read style (arithmetic machine style settings unit) budget text := by
  unfold read
  rw [(readers_fractionDigits budget).2.2.2 ⟨0, text⟩ absent]

end Readers

/-- Without a quotient all fraction digits lead to one value, or to one failure. -/
theorem evaluate_fractionDigits {machine : Binary64 → Binary64 → Binary64} {nesting : Nat}
    {settings : Settings} {unit other : Int} {text : Text} (absent : '/' ∉ text)
    (formed : Context.unitExponent ⟨settings.precision⟩ style.fractionDigits = .ok unit)
    (otherFormed : Context.unitExponent ⟨settings.precision⟩ places = .ok other) :
    evaluate machine nesting { style with fractionDigits := places } settings text =
      evaluate machine nesting style settings text := by
  by_cases precise : settings.precision ≤ Context.maxPrecision
  · rw [evaluate_precise text precise, evaluate_precise text precise, formed, otherFormed]
    exact read_fractionDigits _ absent
  · rw [evaluate_imprecise text (by omega), evaluate_imprecise text (by omega)]

end Expression

end MonetaryText

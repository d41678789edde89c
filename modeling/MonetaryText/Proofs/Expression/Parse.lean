import MonetaryText.Proofs.Expression.Tree

/-!
What the readers of expressions take from the front of a text. Behind a numeral stands no character
that could continue it, which is the only way in which what follows matters. Main statement: whatever
a reader gives is the value of a tree that was taken from the text (`exists_parse`), in every style.
-/

namespace MonetaryText.Expression

/-- The tree is taken from the front of `text`, at a place and within levels of nesting, and leaves
`rest`. -/
inductive Parses (style : NumeralStyle) : Place → Nat → Tree → Text → Text → Prop where
  | literal {levels : Nat} {before run rest : Text} {c : Char} {number : Decimal}
      (front : Text.isBlankText before = true) (digit : c.isDigit = true)
      (inside : ∀ d ∈ run, style.isNumeralChar d = true)
      (ends : ∀ d, rest.head? = some d → style.isNumeralChar d = false)
      (accepted : Numeral.read style (c :: run) = .ok number) :
      Parses style .primary levels (.literal number) (before ++ c :: (run ++ rest)) rest
  | parentheses {levels : Nat} {before text rest : Text} {tree : Tree}
      (front : Text.isBlankText before = true)
      (inner : Parses style .expression levels tree text (')' :: rest)) :
      Parses style .primary (levels + 4) tree (before ++ '(' :: text) rest
  | bare {levels : Nat} {tree : Tree} {text rest : Text}
      (only : Parses style .primary levels tree text rest) :
      Parses style .factor levels tree text rest
  | plus {levels : Nat} {before text rest : Text} {tree : Tree}
      (front : Text.isBlankText before = true)
      (operand : Parses style .factor levels tree text rest) :
      Parses style .factor (levels + 1) (.plus tree) (before ++ '+' :: text) rest
  | minus {levels : Nat} {before text rest : Text} {tree : Tree}
      (front : Text.isBlankText before = true)
      (operand : Parses style .factor levels tree text rest) :
      Parses style .factor (levels + 1) (.minus tree) (before ++ '-' :: text) rest
  | power {levels : Nat} {left right : Tree} {text middle rest : Text}
      (base : Parses style .primary (levels + 1) left text ('^' :: middle))
      (exponent : Parses style .factor levels right middle rest) :
      Parses style .factor (levels + 1) (.binary .power left right) text rest
  | factor {levels : Nat} {tree : Tree} {text rest : Text}
      (only : Parses style .factor levels tree text rest) :
      Parses style .term levels tree text rest
  | product {levels : Nat} {c : Char} {operator : Operator} {left right : Tree}
      {text middle rest : Text} (known : productOperator? c = some operator)
      (first : Parses style .term levels left text (c :: middle))
      (last : Parses style .factor levels right middle rest) :
      Parses style .term levels (.binary operator left right) text rest
  | term {levels : Nat} {tree : Tree} {text rest : Text}
      (only : Parses style .term levels tree text rest) :
      Parses style .expression levels tree text rest
  | sum {levels : Nat} {c : Char} {operator : Operator} {left right : Tree}
      {text middle rest : Text} (known : sumOperator? c = some operator)
      (first : Parses style .expression levels left text (c :: middle))
      (last : Parses style .term levels right middle rest) :
      Parses style .expression levels (.binary operator left right) text rest
  | blanks {place : Place} {levels : Nat} {tree : Tree} {text after rest : Text}
      (back : Text.isBlankText after = true)
      (only : Parses style place levels tree text (after ++ rest)) :
      Parses style place levels tree text rest

/-! ### Cursors -/

namespace Cursor

/-- The blanks that are skipped. -/
theorem exists_skipBlanks (cursor : Cursor) :
    ∃ blanks, Text.isBlankText blanks = true ∧ cursor.rest = blanks ++ cursor.skipBlanks.rest :=
  ⟨cursor.rest.takeWhile Text.isBlank, Text.isBlankText_takeWhile _,
    List.takeWhile_append_dropWhile.symm⟩

theorem isBlank_head?_skipBlanks (cursor : Cursor) :
    ∀ c, cursor.skipBlanks.rest.head? = some c → Text.isBlank c = false :=
  Text.head?_dropWhile_isBlank cursor.rest

theorem skipBlanks_eq_self {cursor : Cursor}
    (starts : ∀ c, cursor.rest.head? = some c → Text.isBlank c = false) :
    cursor.skipBlanks = cursor := by
  obtain ⟨position, rest⟩ := cursor
  cases rest with
  | nil => rfl
  | cons c later => simp [skipBlanks, starts c rfl]

theorem skipBlanks_skipBlanks (cursor : Cursor) :
    cursor.skipBlanks.skipBlanks = cursor.skipBlanks :=
  skipBlanks_eq_self cursor.isBlank_head?_skipBlanks

/-- Where neither sign stands, none stands behind the blanks that are skipped once more. -/
theorem ne_sign_of_head? {cursor : Cursor} (noPlus : cursor.skipBlanks.rest.head? ≠ some '+')
    (noMinus : cursor.skipBlanks.rest.head? ≠ some '-') :
    ∀ c, cursor.skipBlanks.skipBlanks.rest.head? = some c → c ≠ '+' ∧ c ≠ '-' := by
  rw [skipBlanks_skipBlanks]
  intro c head
  exact ⟨fun same => noPlus (same ▸ head), fun same => noMinus (same ▸ head)⟩

theorem length_skipBlanks_le (cursor : Cursor) :
    cursor.skipBlanks.rest.length ≤ cursor.rest.length :=
  (List.dropWhile_sublist Text.isBlank).length_le

theorem rest_eq_cons {cursor : Cursor} {c : Char} (head : cursor.rest.head? = some c) :
    cursor.rest = c :: (cursor.advance 1).rest := by
  obtain ⟨position, rest⟩ := cursor
  cases rest with
  | nil => cases head
  | cons first later =>
    cases head
    rfl

theorem rest_advance_takeWhile (cursor : Cursor) (p : Char → Bool) :
    (cursor.advance (cursor.rest.takeWhile p).length).rest = cursor.rest.dropWhile p := by
  change cursor.rest.drop _ = _
  conv => lhs; arg 2; rw [← List.takeWhile_append_dropWhile (p := p) (l := cursor.rest)]
  exact List.drop_left

end Cursor

namespace Parses

variable {style : NumeralStyle} {place : Place} {levels : Nat} {tree : Tree} {text rest : Text}

theorem blanks_append (parsed : Parses style place levels tree text rest) {blanks : Text}
    (blank : Text.isBlankText blanks = true) :
    Parses style place levels tree (blanks ++ text) rest := by
  have longer {before : Text} (front : Text.isBlankText before = true) :
      Text.isBlankText (blanks ++ before) = true := by
    simp [blank, front]
  induction parsed with
  | literal front digit inside ends accepted =>
    simpa using literal (longer front) digit inside ends accepted
  | parentheses front inner => simpa using parentheses (longer front) inner
  | bare only ih => exact bare ih
  | plus front operand => simpa using plus (longer front) operand
  | minus front operand => simpa using minus (longer front) operand
  | power base exponent ih => exact power ih exponent
  | factor only ih => exact factor ih
  | product known first last ih => exact product known ih last
  | term only ih => exact term ih
  | sum known first last ih => exact sum known ih last
  | blanks back only ih => exact .blanks back ih

/-- Blanks that the cursor stands before may be skipped. -/
theorem skipBlanks_right {cursor : Cursor}
    (parsed : Parses style place levels tree text cursor.rest) :
    Parses style place levels tree text cursor.skipBlanks.rest := by
  obtain ⟨skipped, blank, split⟩ := cursor.exists_skipBlanks
  rw [split] at parsed
  exact .blanks blank parsed

end Parses

/-! ### What the readers give -/

section Sound

variable (machine : Binary64 → Binary64 → Binary64) (style : NumeralStyle) (settings : Settings)
  (unit : Int)

/-- Whatever the reader gives is the value of a tree that was taken from the text. Its levels are the
budget without the `own` ones that the place takes itself. -/
def Sound (place : Place) (own budget : Nat) (reader : Reader Extended) : Prop :=
  ∀ cursor x later, reader cursor = .ok (x, later) →
    ∃ levels tree, budget = levels + own ∧
      Parses style place levels tree cursor.rest later.rest ∧
      tree.value machine style settings unit = some x

variable {machine style settings unit}

theorem numeralValue_eq_ok_iff {position : Nat} {run : Text} {x : Extended} :
    numeralValue style position run = .ok x ↔
      ∃ number, Numeral.read style run = .ok number ∧ x = .finite number := by
  unfold numeralValue
  cases Numeral.read style run with
  | ok number => simp [eq_comm]
  | error error => cases error <;> simp

/-- A run of characters of numerals is a literal. A sign does not come to be read as part of it. -/
theorem numeral_sound {cursor later : Cursor} {c : Char} {x : Extended} (levels : Nat)
    (head : cursor.rest.head? = some c) (inside : Text.isBlank c = false)
    (unsigned : c ≠ '+' ∧ c ≠ '-') (known : style.isNumeralChar c = true)
    (given : numeral style (arithmetic machine style settings unit) cursor = .ok (x, later)) :
    ∃ tree, Parses style .primary levels tree cursor.rest later.rest ∧
      tree.value machine style settings unit = some x := by
  unfold numeral at given
  obtain ⟨y, value, same⟩ := Outcome.bind_eq_ok_iff.mp given
  cases same
  obtain ⟨number, accepted, rfl⟩ := numeralValue_eq_ok_iff.mp value
  refine ⟨.literal number, ?_, rfl⟩
  rw [Cursor.rest_advance_takeWhile, Cursor.rest_eq_cons head] at *
  rw [List.takeWhile_cons_of_pos known] at accepted
  rw [List.dropWhile_cons_of_pos known]
  have digit := Numeral.isDigit_of_read accepted inside unsigned
  have parsed := @Parses.literal style levels [] _ _ c number rfl digit
    (List.all_eq_true.mp List.all_takeWhile)
    (fun d found => by
      have stops := List.head?_dropWhile_not style.isNumeralChar (cursor.advance 1).rest
      rw [found] at stops
      exact stops)
    accepted
  rwa [List.nil_append, List.takeWhile_append_dropWhile] at parsed

/-- Operators of one precedence take their operands from left to right. -/
theorem chain_sound {place inner : Place} {levels : Nat} {operator? : Char → Option Operator}
    {operand : Reader Extended}
    (reads : ∀ cursor y later, operand cursor = .ok (y, later) →
      ∃ tree, Parses style inner levels tree cursor.rest later.rest ∧
        tree.value machine style settings unit = some y)
    (step : ∀ {c operator left right text middle rest}, operator? c = some operator →
      Parses style place levels left text (c :: middle) →
      Parses style inner levels right middle rest →
      Parses style place levels (.binary operator left right) text rest)
    (fuel : Nat) {x z : Extended} {cursor later : Cursor} {tree : Tree} {text : Text}
    (first : Parses style place levels tree text cursor.rest)
    (worth : tree.value machine style settings unit = some x)
    (given : chain (arithmetic machine style settings unit) operator? operand fuel x cursor =
      .ok (z, later)) :
    ∃ tree, Parses style place levels tree text later.rest ∧
      tree.value machine style settings unit = some z := by
  induction fuel generalizing x cursor tree with
  | zero =>
    cases given
    exact ⟨tree, first, worth⟩
  | succ fuel ih =>
    unfold chain at given
    simp only at given
    split at given
    · cases given
      exact ⟨tree, first.skipBlanks_right, worth⟩
    · rename_i operator found
      obtain ⟨c, head, known⟩ := Option.bind_eq_some_iff.mp found
      obtain ⟨⟨y, behind⟩, read, applied⟩ := Outcome.bind_eq_ok_iff.mp given
      obtain ⟨w, combined, continued⟩ := Outcome.bind_eq_ok_iff.mp applied
      obtain ⟨right, taken, rightWorth⟩ := reads _ _ _ read
      have before := first.skipBlanks_right
      rw [Cursor.rest_eq_cons head] at before
      refine ih (step known before taken) ?_ continued
      simp only [Tree.value, worth, rightWorth, Option.bind_eq_bind, Option.bind_some]
      exact (apply_eq_ok_iff machine style settings unit).mp combined

/-- A place of the grammar that is a chain of operands of the next one. -/
theorem chained_sound {outer inner : Place} {own budget : Nat}
    {operator? : Char → Option Operator} {operand : Reader Extended}
    (reads : Sound machine style settings unit inner own budget operand)
    (lift : ∀ {levels tree text rest}, Parses style inner levels tree text rest →
      Parses style outer levels tree text rest)
    (step : ∀ {levels c operator left right text middle rest}, operator? c = some operator →
      Parses style outer levels left text (c :: middle) →
      Parses style inner levels right middle rest →
      Parses style outer levels (.binary operator left right) text rest) :
    Sound machine style settings unit outer (own + 1) (budget + 1) (fun cursor => do
      let (x, cursor) ← operand cursor
      chain (arithmetic machine style settings unit) operator? operand cursor.rest.length x
        cursor) := by
  intro cursor x later given
  obtain ⟨⟨y, middle⟩, read, chained⟩ := Outcome.bind_eq_ok_iff.mp given
  obtain ⟨levels, tree, enough, taken, worth⟩ := reads _ _ _ read
  have operands : ∀ cursor y later, operand cursor = .ok (y, later) →
      ∃ tree, Parses style inner levels tree cursor.rest later.rest ∧
        tree.value machine style settings unit = some y := by
    intro cursor y later read
    obtain ⟨others, right, same, parsed, value⟩ := reads _ _ _ read
    obtain rfl : others = levels := by omega
    exact ⟨right, parsed, value⟩
  obtain ⟨whole, parsed, value⟩ := chain_sound operands step _ (lift taken) worth chained
  exact ⟨levels, whole, by omega, parsed, value⟩

/-- A sign, or a numeral or parenthesis that may have an exponent. -/
theorem factor_sound {budget : Nat}
    (operands : Sound machine style settings unit .factor 2 budget
      (factor style (arithmetic machine style settings unit) budget))
    (primaries : ∀ cursor x later,
      (∀ c, cursor.skipBlanks.rest.head? = some c → c ≠ '+' ∧ c ≠ '-') →
      primary style (arithmetic machine style settings unit) budget cursor = .ok (x, later) →
      ∃ levels tree, budget = levels + 1 ∧
        Parses style .primary levels tree cursor.rest later.rest ∧
        tree.value machine style settings unit = some x) :
    Sound machine style settings unit .factor 2 (budget + 1)
      (factor style (arithmetic machine style settings unit) (budget + 1)) := by
  intro cursor x later given
  unfold factor at given
  simp only at given
  obtain ⟨before, front, split⟩ := cursor.exists_skipBlanks
  rw [split]
  split at given
  · rename_i head
    obtain ⟨levels, tree, enough, taken, worth⟩ := operands _ _ _ given
    rw [Cursor.rest_eq_cons head]
    exact ⟨levels + 1, .plus tree, by omega, .plus front taken, worth⟩
  · rename_i head
    obtain ⟨⟨y, middle⟩, read, same⟩ := Outcome.bind_eq_ok_iff.mp given
    cases same
    obtain ⟨levels, tree, enough, taken, worth⟩ := operands _ _ _ read
    rw [Cursor.rest_eq_cons head]
    refine ⟨levels + 1, .minus tree, by omega, .minus front taken, ?_⟩
    rw [Tree.value, worth]
    rfl
  · rename_i noPlus noMinus
    obtain ⟨⟨y, middle⟩, read, continued⟩ := Outcome.bind_eq_ok_iff.mp given
    simp only at continued
    have unsigned := Cursor.ne_sign_of_head? noPlus noMinus
    obtain ⟨levels, tree, enough, taken, worth⟩ := primaries _ _ _ unsigned read
    replace taken := taken.blanks_append front
    split at continued
    · rename_i head
      obtain ⟨⟨w, last⟩, exponent, applied⟩ := Outcome.bind_eq_ok_iff.mp continued
      obtain ⟨z, combined, same⟩ := Outcome.bind_eq_ok_iff.mp applied
      cases same
      obtain ⟨inner, right, same, rightTaken, rightWorth⟩ := operands _ _ _ exponent
      obtain rfl : levels = inner + 1 := by omega
      have base := taken.skipBlanks_right
      rw [Cursor.rest_eq_cons head] at base
      refine ⟨inner + 1, .binary .power tree right, by omega, .power base rightTaken, ?_⟩
      simp only [Tree.value, worth, rightWorth, Option.bind_eq_bind, Option.bind_some]
      exact (apply_eq_ok_iff machine style settings unit).mp combined
    · cases continued
      exact ⟨levels, tree, by omega, .bare taken.skipBlanks_right, worth⟩

theorem primary_sound {budget : Nat}
    (inner : Sound machine style settings unit .expression 4 budget
      (expression style (arithmetic machine style settings unit) budget))
    {cursor later : Cursor} {x : Extended}
    (unsigned : ∀ c, cursor.skipBlanks.rest.head? = some c → c ≠ '+' ∧ c ≠ '-')
    (given : primary style (arithmetic machine style settings unit) (budget + 1) cursor =
      .ok (x, later)) :
    ∃ levels tree, budget + 1 = levels + 1 ∧
      Parses style .primary levels tree cursor.rest later.rest ∧
      tree.value machine style settings unit = some x := by
  unfold primary at given
  simp only at given
  obtain ⟨before, front, split⟩ := cursor.exists_skipBlanks
  rw [split]
  split at given
  · cases given
  · rename_i head
    obtain ⟨⟨y, middle⟩, read, closed⟩ := Outcome.bind_eq_ok_iff.mp given
    simp only at closed
    split at closed
    · rename_i close
      cases closed
      obtain ⟨levels, tree, rfl, taken, worth⟩ := inner _ _ _ read
      have content := taken.skipBlanks_right
      rw [Cursor.rest_eq_cons close] at content
      rw [Cursor.rest_eq_cons head]
      exact ⟨levels + 4, tree, rfl, .parentheses front content, worth⟩
    · cases closed
  · rename_i c noParenthesis head
    split at given
    · rename_i known
      obtain ⟨tree, taken, worth⟩ := numeral_sound budget head
        (cursor.isBlank_head?_skipBlanks c head) (unsigned c head) known given
      exact ⟨budget, tree, rfl, taken.blanks_append front, worth⟩
    · cases given

/-- Induction on the budget: each reader calls the others with less of it. -/
theorem readers_sound (budget : Nat) :
    (∀ cursor x later, (∀ c, cursor.skipBlanks.rest.head? = some c → c ≠ '+' ∧ c ≠ '-') →
      primary style (arithmetic machine style settings unit) budget cursor = .ok (x, later) →
      ∃ levels tree, budget = levels + 1 ∧
        Parses style .primary levels tree cursor.rest later.rest ∧
        tree.value machine style settings unit = some x) ∧
    Sound machine style settings unit .factor 2 budget
      (factor style (arithmetic machine style settings unit) budget) ∧
    Sound machine style settings unit .term 3 budget
      (term style (arithmetic machine style settings unit) budget) ∧
    Sound machine style settings unit .expression 4 budget
      (expression style (arithmetic machine style settings unit) budget) := by
  induction budget with
  | zero =>
    refine ⟨?_, ?_, ?_, ?_⟩
    · rintro cursor x later _ ⟨⟩
    · rintro cursor x later ⟨⟩
    · rintro cursor x later ⟨⟩
    · rintro cursor x later ⟨⟩
  | succ budget ih =>
    obtain ⟨primaries, factors, terms, expressions⟩ := ih
    exact ⟨fun _ _ _ unsigned given => primary_sound expressions unsigned given,
      factor_sound factors primaries, chained_sound factors .factor .product,
      chained_sound terms .term .sum⟩

end Sound

/-- Whatever a whole text is read as is the value of a tree that takes all of it. -/
theorem exists_parse {machine : Binary64 → Binary64 → Binary64} {style : NumeralStyle}
    {settings : Settings} {unit : Int} {budget : Nat} {text : Text} {x : Extended}
    (given : read style (arithmetic machine style settings unit) budget text = .ok x) :
    ∃ levels tree, budget = levels + 4 ∧ Parses style .expression levels tree text [] ∧
      tree.value machine style settings unit = some x := by
  obtain ⟨⟨y, cursor⟩, taken, ended⟩ := Outcome.bind_eq_ok_iff.mp given
  obtain ⟨levels, tree, enough, parsed, worth⟩ := (readers_sound budget).2.2.2 _ _ _ taken
  simp only at ended
  split at ended
  · rename_i finished
    cases ended
    have whole := parsed.skipBlanks_right
    rw [List.head?_eq_none_iff.mp finished] at whole
    exact ⟨levels, tree, enough, whole, worth⟩
  · cases ended
  · cases ended

end MonetaryText.Expression

import MonetaryText.Expression.WellFormed
import MonetaryText.Proofs.Expression.Reading

/-!
The check of tokens and the readers of expressions take the same texts. In between stands one machine
on characters, with a flag for a missing operand and a count of open parentheses (`Admits`). Main
statement: a text that has a value passes the check with numerals that are read, and for a text that
passes it nothing but numerals, nesting and arithmetic can fail (`evaluate_agrees_with_check`).
-/

namespace MonetaryText.Expression

/-- All numerals among the tokens can be read. -/
def NumeralsRead (style : NumeralStyle) (tokens : List Token) : Prop :=
  ∀ token ∈ tokens, token.kind = .number → ∃ number, Numeral.read style token.text = .ok number

/-- The texts that may follow, by whether an operand is due and how many parentheses are open. -/
inductive Admits (style : NumeralStyle) : Bool → Nat → Text → Prop where
  | done : Admits style false 0 []
  | blank {due : Bool} {depth : Nat} {c : Char} {rest : Text} (blank : Text.isBlank c = true)
      (later : Admits style due depth rest) : Admits style due depth (c :: rest)
  | number {depth : Nat} {c : Char} {rest : Text} {number : Decimal} (digit : c.isDigit = true)
      (accepted : Numeral.read style (c :: rest.takeWhile style.isNumeralChar) = .ok number)
      (later : Admits style false depth (rest.dropWhile style.isNumeralChar)) :
      Admits style true depth (c :: rest)
  | sign {depth : Nat} {c : Char} {rest : Text} (known : c = '+' ∨ c = '-')
      (later : Admits style true depth rest) : Admits style true depth (c :: rest)
  | operator {depth : Nat} {c : Char} {rest : Text} (known : c ∈ operators)
      (later : Admits style true depth rest) : Admits style false depth (c :: rest)
  | opening {depth : Nat} {rest : Text} (later : Admits style true (depth + 1) rest) :
      Admits style true depth ('(' :: rest)
  | closing {depth : Nat} {rest : Text} (later : Admits style false depth rest) :
      Admits style false (depth + 1) (')' :: rest)

/-! ### Tokens -/

section Tokens

variable {style : NumeralStyle} {c : Char} {due : Bool} {depth : Nat} {rest : Text}

/-- The kinds of single characters, and what else they are not. -/
theorem singleKind?_eq_some {kind : TokenKind} (known : singleKind? c = some kind) :
    c.isDigit = false ∧ Text.isBlank c = false ∧
      (kind = .operator ∧ c ∈ operators ∨ kind = .opening ∧ c = '(' ∨ kind = .closing ∧ c = ')') := by
  unfold singleKind? at known
  split at known
  · rename_i member
    cases known
    rw [List.contains_eq_mem, decide_eq_true_eq] at member
    have fixed : ∀ c ∈ operators, c.isDigit = false ∧ Text.isBlank c = false :=
      Text.forall_mem_of_all (by decide)
    exact ⟨(fixed c member).1, (fixed c member).2, .inl ⟨rfl, member⟩⟩
  · split at known
    · rename_i same
      cases known
      subst same
      decide
    · split at known
      · rename_i same
        cases known
        subst same
        decide
      · cases known

theorem scan_digit (digit : c.isDigit = true) (position : Nat) :
    scan style position (c :: rest) = (do
      let later ← scan style
        (position + 1 + (rest.takeWhile style.isNumeralChar).length)
        (rest.dropWhile style.isNumeralChar)
      return ⟨.number, Text.trimRight (c :: rest.takeWhile style.isNumeralChar), position⟩ ::
        later) := by
  rw [scan, if_pos digit]

theorem scan_single {kind : TokenKind} (known : singleKind? c = some kind) (position : Nat) :
    scan style position (c :: rest) = (do
      let later ← scan style (position + 1) rest
      return ⟨kind, [c], position⟩ :: later) := by
  rw [scan, if_neg (by simp [(singleKind?_eq_some known).1])]
  simp only [known]

theorem scan_blank (blank : Text.isBlank c = true) (position : Nat) :
    scan style position (c :: rest) = scan style (position + 1) rest := by
  have noDigit : ¬c.isDigit = true := fun digit => by
    rw [Text.isBlank_of_isDigit digit] at blank
    cases blank
  have noKind : singleKind? c = none := by
    cases known : singleKind? c with
    | none => rfl
    | some kind =>
      rw [(singleKind?_eq_some known).2.1] at blank
      cases blank
  rw [scan, if_neg noDigit]
  simp only [noKind, blank, if_true]

/-- What is left of a text that is scanned behind one token. -/
theorem scan_cons_eq_ok {step : Except StrayCharacter (List Token)} {token : Token}
    {tokens : List Token} (given : (do
      let later ← step
      return token :: later) = .ok tokens) :
    ∃ later, step = .ok later ∧ tokens = token :: later := by
  obtain ⟨later, scanned, same⟩ := Outcome.bind_eq_ok_iff.mp given
  cases same
  exact ⟨later, scanned, rfl⟩

/-- The tokens of a text that the machine takes alternate. -/
theorem Admits.exists_tokens {text : Text} (admitted : Admits style due depth text)
    (position : Nat) :
    ∃ tokens, scan style position text = .ok tokens ∧ alternates due depth tokens = true ∧
      NumeralsRead style tokens := by
  induction admitted generalizing position with
  | done => exact ⟨[], by rw [scan], rfl, by rintro token ⟨⟩⟩
  | blank blank later ih =>
    rw [scan_blank blank]
    exact ih (position + 1)
  | number digit accepted later ih =>
    obtain ⟨tokens, scanned, alternating, numerals⟩ := ih _
    rw [scan_digit digit, scanned]
    refine ⟨_, rfl, alternating, List.forall_mem_cons.mpr ⟨fun _ => ?_, numerals⟩⟩
    exact ⟨_, Numeral.read_trimRight.mpr accepted⟩
  | @sign depth c rest known later ih =>
    obtain ⟨tokens, scanned, alternating, numerals⟩ := ih (position + 1)
    have kind : singleKind? c = some .operator := by
      rcases known with rfl | rfl <;> rfl
    rw [scan_single kind, scanned]
    refine ⟨_, rfl, ?_, List.forall_mem_cons.mpr ⟨by rintro ⟨⟩, numerals⟩⟩
    rcases known with rfl | rfl <;> exact alternating
  | operator known later ih =>
    obtain ⟨tokens, scanned, alternating, numerals⟩ := ih (position + 1)
    have kinds : ∀ c ∈ operators, singleKind? c = some .operator :=
      Text.forall_mem_of_all (by decide)
    rw [scan_single (kinds _ known), scanned]
    exact ⟨_, rfl, alternating, List.forall_mem_cons.mpr ⟨by rintro ⟨⟩, numerals⟩⟩
  | opening later ih =>
    obtain ⟨tokens, scanned, alternating, numerals⟩ := ih (position + 1)
    rw [scan_single (show singleKind? '(' = some .opening from rfl), scanned]
    exact ⟨_, rfl, alternating, List.forall_mem_cons.mpr ⟨by rintro ⟨⟩, numerals⟩⟩
  | closing later ih =>
    obtain ⟨tokens, scanned, alternating, numerals⟩ := ih (position + 1)
    rw [scan_single (show singleKind? ')' = some .closing from rfl), scanned]
    exact ⟨_, rfl, alternating, List.forall_mem_cons.mpr ⟨by rintro ⟨⟩, numerals⟩⟩

theorem Admits.of_scan {text : Text} {position : Nat} {tokens : List Token}
    (scanned : scan style position text = .ok tokens) (alternating : alternates due depth tokens = true)
    (numerals : NumeralsRead style tokens) : Admits style due depth text := by
  fun_induction scan style position text generalizing due depth tokens with
  | case1 =>
    cases scanned
    cases due
    · obtain rfl : depth = 0 := by simpa [alternates] using alternating
      exact .done
    · cases alternating
  | case2 position c rest digit run =>
    rename_i ih
    obtain ⟨later, behind, rfl⟩ := scan_cons_eq_ok scanned
    obtain ⟨first, others⟩ := List.forall_mem_cons.mp numerals
    obtain ⟨number, accepted⟩ := first rfl
    cases due
    · cases alternating
    · exact .number digit (Numeral.read_trimRight.mp accepted)
        (ih behind alternating others)
  | case3 position c rest noDigit kind known ih =>
    obtain ⟨later, behind, rfl⟩ := scan_cons_eq_ok scanned
    obtain ⟨_, others⟩ := List.forall_mem_cons.mp numerals
    obtain ⟨_, _, ⟨rfl, member⟩ | ⟨rfl, rfl⟩ | ⟨rfl, rfl⟩⟩ := singleKind?_eq_some known
    · cases due
      · exact .operator member (ih behind alternating others)
      · simp only [alternates, Bool.and_eq_true, Text.occursIn_singleton,
          decide_eq_true_eq, List.mem_cons, List.not_mem_nil, or_false] at alternating
        exact .sign alternating.1 (ih behind alternating.2 others)
    · cases due
      · cases alternating
      · exact .opening (ih behind alternating others)
    · cases due
      · cases depth with
        | zero => cases alternating
        | succ depth => exact .closing (ih behind alternating others)
      · cases alternating
  | case4 position c rest noDigit noKind blank ih =>
    exact .blank blank (ih scanned alternating numerals)
  | case5 position c rest noDigit noKind noBlank => cases scanned

end Tokens

/-! ### Steps of the machine -/

namespace Admits

variable {style : NumeralStyle} {due : Bool} {depth : Nat} {c : Char} {rest blanks : Text}

theorem blanks_append (admitted : Admits style due depth rest)
    (blank : Text.isBlankText blanks = true) : Admits style due depth (blanks ++ rest) := by
  induction blanks with
  | nil => exact admitted
  | cons c blanks ih =>
    rw [Text.isBlankText, List.all_cons, Bool.and_eq_true] at blank
    exact .blank blank.1 (ih blank.2)

theorem of_blank (admitted : Admits style due depth (c :: rest)) (blank : Text.isBlank c = true) :
    Admits style due depth rest := by
  have fixed : ∀ c ∈ ['+', '-', '*', '/', '^', '(', ')'], Text.isBlank c = false :=
    Text.forall_mem_of_all (by decide)
  have solid : Text.isBlank c = false → Admits style due depth rest := by
    intro inside
    rw [blank] at inside
    cases inside
  cases admitted with
  | blank _ later => exact later
  | number digit => exact solid (Text.isBlank_of_isDigit digit)
  | sign known => exact solid (fixed c (by rcases known with rfl | rfl <;> decide))
  | operator known =>
    have subset : ∀ c ∈ operators, c ∈ ['+', '-', '*', '/', '^', '(', ')'] :=
      Text.forall_mem_of_all (by decide)
    exact solid (fixed c (subset c known))
  | opening => exact solid rfl
  | closing => exact solid rfl

theorem skipBlanks {cursor : Cursor} (admitted : Admits style due depth cursor.rest) :
    Admits style due depth cursor.skipBlanks.rest := by
  obtain ⟨position, text⟩ := cursor
  change Admits style due depth (text.dropWhile Text.isBlank)
  induction text with
  | nil => exact admitted
  | cons c rest ih =>
    cases blank : Text.isBlank c with
    | true =>
      rw [List.dropWhile_cons_of_pos blank]
      exact ih (admitted.of_blank blank)
    | false =>
      rw [List.dropWhile_cons_of_neg (by simp [blank])]
      exact admitted

/-- Where an operand is due, a numeral, a sign or a parenthesis comes. -/
theorem of_due (admitted : Admits style true depth (c :: rest)) (solid : Text.isBlank c = false) :
    (c.isDigit = true ∧
        (∃ number, Numeral.read style (c :: rest.takeWhile style.isNumeralChar) = .ok number) ∧
        Admits style false depth (rest.dropWhile style.isNumeralChar)) ∨
      ((c = '+' ∨ c = '-') ∧ Admits style true depth rest) ∨
      (c = '(' ∧ Admits style true (depth + 1) rest) := by
  cases admitted with
  | blank blank later =>
    rw [blank] at solid
    cases solid
  | number digit accepted later => exact .inl ⟨digit, ⟨_, accepted⟩, later⟩
  | sign known later => exact .inr (.inl ⟨known, later⟩)
  | opening later => exact .inr (.inr ⟨rfl, later⟩)

/-- Behind an operand comes an operator, or a parenthesis that closes an open one. -/
theorem of_not_due (admitted : Admits style false depth (c :: rest))
    (solid : Text.isBlank c = false) :
    (c ∈ operators ∧ Admits style true depth rest) ∨
      (c = ')' ∧ ∃ outer, depth = outer + 1 ∧ Admits style false outer rest) := by
  cases admitted with
  | blank blank later =>
    rw [blank] at solid
    cases solid
  | operator known later => exact .inl ⟨known, later⟩
  | closing later => exact .inr ⟨rfl, _, rfl, later⟩

end Admits

/-- Where none of the operators stands behind an operand, only a parenthesis can that closes one. -/
theorem Admits.closing_of_clear {style : NumeralStyle} {depth : Nat} {cursor : Cursor} {c : Char}
    (admitted : Admits style false depth cursor.rest) (head : cursor.skipBlanks.rest.head? = some c)
    (clear : c ∉ operators) :
    c = ')' ∧ ∃ outer, depth = outer + 1 ∧ Admits style false outer (cursor.skipBlanks.advance 1).rest := by
  have remaining := admitted.skipBlanks
  rw [Cursor.rest_eq_cons head] at remaining
  obtain ⟨member, _⟩ | closing := remaining.of_not_due (cursor.isBlank_head?_skipBlanks c head)
  · exact absurd member clear
  · exact closing

/-! ### From values to tokens -/

/-- Whatever a tree is taken from, the machine takes, and has its operand. -/
theorem Parses.admits {style : NumeralStyle} {place : Place} {levels : Nat} {tree : Tree}
    {text rest : Text} (parsed : Parses style place levels tree text rest) {depth : Nat}
    (behind : Admits style false depth rest) : Admits style true depth text := by
  induction parsed generalizing depth with
  | @literal levels before run rest c number front digit inside ends accepted =>
    obtain ⟨nothing, left⟩ := Text.takeWhile_append_of_head? [] ends
    have whole : (run ++ rest).takeWhile style.isNumeralChar = run := by
      rw [List.takeWhile_append_of_pos inside, ← List.nil_append rest, nothing, List.takeWhile_nil,
        List.append_nil]
    refine (Admits.number digit (whole.symm ▸ accepted) ?_).blanks_append front
    rw [List.dropWhile_append_of_pos inside, ← List.nil_append rest, left]
    exact behind
  | parentheses front inner ih => exact (Admits.opening (ih (.closing behind))).blanks_append front
  | bare only ih => exact ih behind
  | plus front operand ih => exact (Admits.sign (.inl rfl) (ih behind)).blanks_append front
  | minus front operand ih => exact (Admits.sign (.inr rfl) (ih behind)).blanks_append front
  | power base exponent left right => exact left (.operator (by decide) (right behind))
  | factor only ih => exact ih behind
  | product known first last left right =>
    refine left (.operator ?_ (right behind))
    rcases eq_of_productOperator? known with rfl | rfl <;> decide
  | term only ih => exact ih behind
  | sum known first last left right =>
    refine left (.operator ?_ (right behind))
    rcases eq_of_sumOperator? known with rfl | rfl <;> decide
  | blanks back only ih => exact ih (behind.blanks_append back)

/-! ### From tokens to failures -/

/-- Nothing is wrong with the text, unless it is nested too deeply. -/
def Failure.IsExcused : Failure → Prop
  | .malformed cause _ => cause = .tooDeep
  | _ => True

/-- The operators that are read at a place, so that none of them is left behind it. -/
def Place.taken : Place → List Char
  | primary => []
  | factor => ['^']
  | term => ['^', '*', '/']
  | expression => ['^', '*', '/', '+', '-']

theorem not_mem_operators {c : Char} (clear : c ∉ Place.expression.taken) : c ∉ operators := by
  have all : ∀ c ∈ operators, c ∈ Place.expression.taken := Text.forall_mem_of_all (by decide)
  exact fun member => clear (all c member)

theorem mem_of_productOperator? (c : Char) (operator : Operator)
    (known : productOperator? c = some operator) : c ∈ operators := by
  rcases eq_of_productOperator? known with rfl | rfl <;> decide

theorem mem_of_sumOperator? (c : Char) (operator : Operator)
    (known : sumOperator? c = some operator) : c ∈ operators := by
  rcases eq_of_sumOperator? known with rfl | rfl <;> decide

/-- A term takes the operators that it knows and those of its factors. -/
theorem Place.not_mem_taken_term (c : Char) (none : productOperator? c = none)
    (clear : c ∉ Place.factor.taken) : c ∉ Place.term.taken := by
  have fixed : ∀ c ∈ Place.term.taken,
      c ∈ Place.factor.taken ∨ (productOperator? c).isSome = true :=
    Text.forall_mem_of_all (by decide)
  intro taken
  rcases fixed c taken with inside | isOperator
  · exact clear inside
  · rw [none] at isOperator
    cases isOperator

theorem Place.not_mem_taken_expression (c : Char) (none : sumOperator? c = none)
    (clear : c ∉ Place.term.taken) : c ∉ Place.expression.taken := by
  have fixed : ∀ c ∈ Place.expression.taken,
      c ∈ Place.term.taken ∨ (sumOperator? c).isSome = true :=
    Text.forall_mem_of_all (by decide)
  intro taken
  rcases fixed c taken with inside | isOperator
  · exact clear inside
  · rw [none] at isOperator
    cases isOperator

/-- What comes out at a place where the machine is due an operand: a text that it takes without, or an
excused failure. -/
def Settles (style : NumeralStyle) (place : Place) (depth : Nat) (before : Text) :
    Except Failure (Extended × Cursor) → Prop
  | .ok (_, later) => Admits style false depth later.rest ∧ later.rest.length ≤ before.length ∧
      ∀ c, later.skipBlanks.rest.head? = some c → c ∉ place.taken
  | .error failure => failure.IsExcused

def Progresses (style : NumeralStyle) (place : Place) (reader : Reader Extended) : Prop :=
  ∀ depth cursor, Admits style true depth cursor.rest →
    Settles style place depth cursor.rest (reader cursor)

section Progress

variable {machine : Binary64 → Binary64 → Binary64} {style : NumeralStyle} {settings : Settings}
  {unit : Int}

theorem Settles.mono {place : Place} {depth : Nat} {before longer : Text}
    {outcome : Except Failure (Extended × Cursor)} (settles : Settles style place depth before outcome)
    (le : before.length ≤ longer.length) : Settles style place depth longer outcome := by
  cases outcome with
  | error failure => exact settles
  | ok given => exact ⟨settles.1, Nat.le_trans settles.2.1 le, settles.2.2⟩

/-- A step that settles, and then another that does from where it left. -/
theorem Settles.bind {inner place : Place} {within depth : Nat} {before outside : Text}
    {step : Except Failure (Extended × Cursor)}
    {next : Extended × Cursor → Except Failure (Extended × Cursor)}
    (first : Settles style inner within before step)
    (second : ∀ x later, Admits style false within later.rest →
      later.rest.length ≤ before.length →
      (∀ c, later.skipBlanks.rest.head? = some c → c ∉ inner.taken) →
      Settles style place depth outside (next (x, later))) :
    Settles style place depth outside (step >>= next) := by
  cases step with
  | error failure => exact first
  | ok given =>
    obtain ⟨x, later⟩ := given
    exact second x later first.1 first.2.1 first.2.2

theorem ofSignal_excused {α : Type} {result : Except Signal α} {failure : Failure}
    (given : ofSignal result = .error failure) : failure.IsExcused := by
  cases result with
  | ok x => cases given
  | error signal =>
    cases given
    trivial

theorem power_excused {context : Context} {bound position : Nat} {x y : Extended} {failure : Failure}
    (given : power machine context bound position x y = .error failure) : failure.IsExcused := by
  unfold power at given
  split at given
  · cases given
    trivial
  · split at given
    · unfold integerPower at given
      split at given
      · split at given <;> (cases given; trivial)
      · split at given
        · exact ofSignal_excused given
        · split at given
          · cases given
            trivial
          · exact ofSignal_excused given
    · unfold fractionalPower at given
      simp only at given
      split at given
      · generalize Binary64.checkedPower machine _ _ = result at given
        cases result with
        | ok z => cases given
        | error error =>
          cases given
          trivial
      · cases given
        trivial

/-- Operators do not fail because of the text. -/
theorem apply_excused {operator : Operator} {position : Nat} {x y : Extended} {failure : Failure}
    (given : (arithmetic machine style settings unit).apply operator position x y = .error failure) :
    failure.IsExcused := by
  cases operator with
  | sum => exact ofSignal_excused given
  | difference => exact ofSignal_excused given
  | product => exact ofSignal_excused given
  | quotient =>
    change divide style _ unit position x y = .error failure at given
    unfold divide at given
    split at given
    · cases given
      trivial
    · exact ofSignal_excused given
  | power => exact power_excused given

theorem Settles.apply {place : Place} {depth : Nat} {before : Text} {operator : Operator}
    {position : Nat} {x y : Extended} {next : Extended → Except Failure (Extended × Cursor)}
    (second : ∀ z, Settles style place depth before (next z)) :
    Settles style place depth before
      ((arithmetic machine style settings unit).apply operator position x y >>= next) := by
  cases result : (arithmetic machine style settings unit).apply operator position x y with
  | error failure => exact apply_excused result
  | ok z => exact second z

theorem Cursor.length_advance_lt {cursor : Cursor} {c : Char}
    (head : cursor.skipBlanks.rest.head? = some c) :
    (cursor.skipBlanks.advance 1).rest.length < cursor.rest.length := by
  have shorter := cursor.length_skipBlanks_le
  rw [Cursor.rest_eq_cons head, List.length_cons] at shorter
  exact shorter

/-- A chain goes on until no operator of its own follows. -/
theorem chain_settles {inner outer : Place} {operator? : Char → Option Operator}
    {operand : Reader Extended} (operands : Progresses style inner operand)
    (known : ∀ c operator, operator? c = some operator → c ∈ operators)
    (stops : ∀ c, operator? c = none → c ∉ inner.taken → c ∉ outer.taken) (fuel : Nat) {depth : Nat}
    {x : Extended} {cursor : Cursor} (admitted : Admits style false depth cursor.rest)
    (clear : ∀ c, cursor.skipBlanks.rest.head? = some c → c ∉ inner.taken)
    (enough : cursor.rest.length ≤ fuel) :
    Settles style outer depth cursor.rest
      (chain (arithmetic machine style settings unit) operator? operand fuel x cursor) := by
  induction fuel generalizing x cursor with
  | zero =>
    refine ⟨admitted, Nat.le_refl _, fun c head => ?_⟩
    have shorter := cursor.length_advance_lt head
    omega
  | succ fuel ih =>
    unfold chain
    simp only
    split
    · rename_i none
      refine ⟨admitted.skipBlanks, cursor.length_skipBlanks_le, fun c head => ?_⟩
      rw [Cursor.skipBlanks_skipBlanks] at head
      rw [head] at none
      exact stops c none (clear c head)
    · rename_i operator found
      obtain ⟨c, head, isOperator⟩ := Option.bind_eq_some_iff.mp found
      have solid := cursor.isBlank_head?_skipBlanks c head
      have shorter := cursor.length_advance_lt head
      have remaining := admitted.skipBlanks
      rw [Cursor.rest_eq_cons head] at remaining
      obtain ⟨_, due⟩ | ⟨rfl, _⟩ := remaining.of_not_due solid
      · refine (operands depth _ due).bind fun y later admitted short clear => ?_
        refine Settles.apply fun z => ?_
        exact (ih admitted clear (by omega)).mono (by omega)
      · have member := known _ _ isOperator
        cases (by decide : ')' ∉ operators) member

theorem chained_progresses {inner outer : Place} {operator? : Char → Option Operator}
    {operand : Reader Extended} (operands : Progresses style inner operand)
    (known : ∀ c operator, operator? c = some operator → c ∈ operators)
    (stops : ∀ c, operator? c = none → c ∉ inner.taken → c ∉ outer.taken) :
    Progresses style outer (fun cursor => do
      let (x, cursor) ← operand cursor
      chain (arithmetic machine style settings unit) operator? operand cursor.rest.length x
        cursor) := by
  intro depth cursor admitted
  refine (operands depth cursor admitted).bind fun x later behind short clear => ?_
  exact (chain_settles operands known stops _ behind clear (Nat.le_refl _)).mono short

theorem numeral_settles {depth : Nat} {cursor : Cursor} {number : Decimal}
    (accepted : Numeral.read style (cursor.rest.takeWhile style.isNumeralChar) = .ok number)
    (admitted : Admits style false depth (cursor.rest.dropWhile style.isNumeralChar)) :
    Settles style .primary depth cursor.rest
      (numeral style (arithmetic machine style settings unit) cursor) := by
  have value : numeralValue style cursor.position (cursor.rest.takeWhile style.isNumeralChar) =
      .ok (.finite number) := numeralValue_eq_ok_iff.mpr ⟨number, accepted, rfl⟩
  have taken : numeral style (arithmetic machine style settings unit) cursor =
      .ok (.finite number, cursor.advance (cursor.rest.takeWhile style.isNumeralChar).length) :=
    Outcome.bind_eq_ok_iff.mpr ⟨_, value, rfl⟩
  rw [taken]
  refine ⟨?_, ?_, fun c _ => List.not_mem_nil⟩
  · rw [Cursor.rest_advance_takeWhile]
    exact admitted
  · exact (List.drop_sublist _ _).length_le

/-- A primary that does not begin with a sign. -/
theorem primary_settles {budget depth : Nat} {cursor : Cursor}
    (inner : Progresses style .expression
      (expression style (arithmetic machine style settings unit) budget))
    (unsigned : ∀ c, cursor.skipBlanks.rest.head? = some c → c ≠ '+' ∧ c ≠ '-')
    (admitted : Admits style true depth cursor.rest) :
    Settles style .primary depth cursor.rest
      (primary style (arithmetic machine style settings unit) (budget + 1) cursor) := by
  have remaining := admitted.skipBlanks
  unfold primary
  simp only
  split
  · rename_i ended
    rw [List.head?_eq_none_iff.mp ended] at remaining
    cases remaining
  · rename_i head
    have shorter := cursor.length_advance_lt head
    rw [Cursor.rest_eq_cons head] at remaining
    obtain ⟨digit, _⟩ | ⟨sign, _⟩ | ⟨_, within⟩ := remaining.of_due rfl
    · cases digit
    · simp at sign
    · refine (inner _ _ within).bind fun x later behind short clear => ?_
      simp only
      split
      · rename_i close
        obtain ⟨_, outer, same, outside⟩ := behind.closing_of_clear close (by decide)
        cases same
        have less := later.length_advance_lt close
        exact ⟨outside, by omega, fun c _ => List.not_mem_nil⟩
      · rename_i noClosing
        cases head : later.skipBlanks.rest.head? with
        | none =>
          have ending := behind.skipBlanks
          rw [List.head?_eq_none_iff.mp head] at ending
          cases ending
        | some c =>
          obtain ⟨rfl, _⟩ := behind.closing_of_clear head (not_mem_operators (clear c head))
          exact absurd head noClosing
  · rename_i c noOpening head
    have solid := cursor.isBlank_head?_skipBlanks c head
    rw [Cursor.rest_eq_cons head] at remaining
    obtain ⟨digit, ⟨number, accepted⟩, behind⟩ | ⟨sign, _⟩ | ⟨rfl, _⟩ := remaining.of_due solid
    · have known : style.isNumeralChar c = true := NumeralStyle.isNumeralChar_iff.mpr (.inl digit)
      have split := Cursor.rest_eq_cons head
      rw [← List.takeWhile_cons_of_pos known, ← split] at accepted
      rw [← List.dropWhile_cons_of_pos known, ← split] at behind
      rw [if_pos known]
      exact (numeral_settles accepted behind).mono cursor.length_skipBlanks_le
    · exact absurd sign (by simpa using unsigned c head)
    · exact absurd rfl noOpening

/-- A sign and what follows it, or a primary that may have an exponent. -/
theorem factor_progresses {budget : Nat}
    (operands : Progresses style .factor
      (factor style (arithmetic machine style settings unit) budget))
    (primaries : ∀ depth cursor,
      (∀ c, cursor.skipBlanks.rest.head? = some c → c ≠ '+' ∧ c ≠ '-') →
      Admits style true depth cursor.rest →
      Settles style .primary depth cursor.rest
        (primary style (arithmetic machine style settings unit) budget cursor)) :
    Progresses style .factor
      (factor style (arithmetic machine style settings unit) (budget + 1)) := by
  intro depth cursor admitted
  have remaining := admitted.skipBlanks
  have signed (sign : Char) (head : cursor.skipBlanks.rest.head? = some sign)
      (known : sign = '+' ∨ sign = '-') :
      Settles style .factor depth cursor.rest
        (factor style (arithmetic machine style settings unit) budget
          (cursor.skipBlanks.advance 1)) := by
    have shorter := cursor.length_advance_lt head
    rw [Cursor.rest_eq_cons head] at remaining
    obtain ⟨digit, _⟩ | ⟨_, operand⟩ | ⟨rfl, _⟩ :=
      remaining.of_due (cursor.isBlank_head?_skipBlanks sign head)
    · obtain ⟨noPlus, noMinus⟩ := Numeral.ne_sign_of_isDigit digit
      exact absurd known (by simp [noPlus, noMinus])
    · exact (operands depth _ operand).mono (by omega)
    · simp at known
  unfold factor
  simp only
  split
  · rename_i head
    exact signed '+' head (.inl rfl)
  · rename_i head
    refine (signed '-' head (.inr rfl)).bind fun x later behind short clear => ?_
    exact ⟨behind, short, clear⟩
  · rename_i noPlus noMinus
    have unsigned := Cursor.ne_sign_of_head? noPlus noMinus
    refine (primaries depth _ unsigned remaining).bind fun x later behind short _ => ?_
    have skipped := cursor.length_skipBlanks_le
    simp only
    split
    · rename_i head
      have shorter := later.length_advance_lt head
      have ending := behind.skipBlanks
      rw [Cursor.rest_eq_cons head] at ending
      obtain ⟨_, exponent⟩ | ⟨closing, _⟩ := ending.of_not_due rfl
      · refine (operands depth _ exponent).bind fun y last after less clear => ?_
        have all : last.rest.length ≤ cursor.rest.length := by omega
        exact Settles.apply fun z => ⟨after, all, clear⟩
      · cases closing
    · rename_i noPower
      have less := later.length_skipBlanks_le
      refine ⟨behind.skipBlanks, by omega, fun c head => ?_⟩
      rw [Cursor.skipBlanks_skipBlanks] at head
      rintro member
      rw [List.mem_singleton.mp member] at head
      exact noPower head

/-- Induction on the budget: each reader calls the others with less of it. -/
theorem readers_progress (budget : Nat) :
    (∀ depth cursor, (∀ c, cursor.skipBlanks.rest.head? = some c → c ≠ '+' ∧ c ≠ '-') →
      Admits style true depth cursor.rest →
      Settles style .primary depth cursor.rest
        (primary style (arithmetic machine style settings unit) budget cursor)) ∧
    Progresses style .factor (factor style (arithmetic machine style settings unit) budget) ∧
    Progresses style .term (term style (arithmetic machine style settings unit) budget) ∧
    Progresses style .expression
      (expression style (arithmetic machine style settings unit) budget) := by
  induction budget with
  | zero => exact ⟨fun _ _ _ _ => rfl, fun _ _ _ => rfl, fun _ _ _ => rfl, fun _ _ _ => rfl⟩
  | succ budget ih =>
    obtain ⟨primaries, factors, terms, expressions⟩ := ih
    refine ⟨fun _ _ unsigned admitted => primary_settles expressions unsigned admitted,
      factor_progresses factors primaries, ?_, ?_⟩
    · exact chained_progresses factors mem_of_productOperator? Place.not_mem_taken_term
    · exact chained_progresses terms mem_of_sumOperator? Place.not_mem_taken_expression

/-- What is read from a text that the machine takes fails only with an excuse. -/
theorem read_excused {budget : Nat} {text : Text} (admitted : Admits style true 0 text)
    {failure : Failure}
    (given : read style (arithmetic machine style settings unit) budget text = .error failure) :
    failure.IsExcused := by
  have settled : Settles style .expression 0 text
      (expression style (arithmetic machine style settings unit) budget ⟨0, text⟩) :=
    (readers_progress budget).2.2.2 0 ⟨0, text⟩ admitted
  rcases Outcome.bind_eq_error_iff.mp given with failed | ⟨⟨x, later⟩, taken, ended⟩
  · rw [failed] at settled
    exact settled
  · rw [taken] at settled
    obtain ⟨behind, _, clear⟩ := settled
    simp only at ended
    split at ended
    · cases ended
    · rename_i close
      obtain ⟨_, outer, same, _⟩ := behind.closing_of_clear close (by decide)
      cases same
    · rename_i c noClosing head
      obtain ⟨rfl, _⟩ := behind.closing_of_clear head (not_mem_operators (clear c head))
      exact absurd rfl noClosing

end Progress

/-- A text passes the check when its tokens do. There are none in a blank text. -/
theorem isWellFormed_iff {style : NumeralStyle} {text : Text} :
    isWellFormed style true false text = true ↔
      ∃ tokens, tokenize style text = .ok tokens ∧ isExpression tokens = true := by
  unfold isWellFormed
  split
  · rename_i blank
    have unscanned : ∀ position, scan style position text = .ok [] := by
      intro position
      induction text generalizing position with
      | nil => rw [scan]
      | cons c rest ih =>
        rw [Text.isBlankText, List.all_cons, Bool.and_eq_true] at blank
        rw [scan_blank blank.1]
        exact ih blank.2 (position + 1)
    simp only [Bool.false_eq_true, false_iff, tokenize, unscanned 0]
    rintro ⟨tokens, same, passed⟩
    cases same
    cases passed
  · simp only [if_true]
    split
    · rename_i tokens scanned
      simp [scanned]
    · rename_i stray scanned
      simp [scanned]

/-- Only of blank texts it matters whether no value is allowed. -/
theorem isWellFormed_of_not_blank {style : NumeralStyle} {calculable allowEmpty : Bool} {text : Text}
    (full : Text.isBlankText text = false) :
    isWellFormed style calculable allowEmpty text = isWellFormed style calculable false text := by
  simp only [isWellFormed, full, Bool.false_eq_true, if_false]

theorem isBlankText_of_isWellFormed {style : NumeralStyle} {calculable : Bool} {text : Text}
    (passed : isWellFormed style calculable false text = true) : Text.isBlankText text = false := by
  cases blank : Text.isBlankText text with
  | false => rfl
  | true => simp [isWellFormed, blank] at passed

/-- A numeral passes the check of expressions. -/
theorem isWellFormed_of_read {style : NumeralStyle} {text : Text} {number : Decimal}
    (accepted : Numeral.read style text = .ok number) :
    isWellFormed style true false text = true := by
  have taken : read style (arithmetic (fun x _ => x) style {} 0) 5 text = .ok (.finite number) :=
    read_numeral 0 accepted
  obtain ⟨levels, tree, _, parsed, _⟩ := exists_parse taken
  obtain ⟨tokens, scanned, alternating, _⟩ := (parsed.admits .done).exists_tokens 0
  exact isWellFormed_iff.mpr ⟨tokens, scanned, alternating⟩

/-- The check of a text and its evaluation agree. A text with a value passes the check, and all its
numerals are read. A text that passes the check and has such numerals is not malformed for the
evaluation either, unless it is nested too deeply. -/
theorem evaluate_agrees_with_check (machine : Binary64 → Binary64 → Binary64) (nesting : Nat)
    (style : NumeralStyle) (settings : Settings) (text : Text) :
    (∀ x, evaluate machine nesting style settings text = .ok x →
      isWellFormed style true false text = true ∧
        ∃ tokens, tokenize style text = .ok tokens ∧ NumeralsRead style tokens) ∧
    (isWellFormed style true false text = true →
      (∃ tokens, tokenize style text = .ok tokens ∧ NumeralsRead style tokens) →
      ∀ cause position, evaluate machine nesting style settings text = .error (.malformed cause position) →
        cause = .tooDeep) := by
  rw [isWellFormed_iff]
  constructor
  · intro x given
    obtain ⟨unit, taken⟩ : ∃ unit,
        read style (arithmetic machine style settings unit) (nesting + 5) text = .ok x := by
      unfold evaluate at given
      split at given
      · cases given
      · obtain ⟨unit, _, taken⟩ := Outcome.bind_eq_ok_iff.mp given
        exact ⟨unit, taken⟩
    obtain ⟨levels, tree, _, parsed, _⟩ := exists_parse taken
    obtain ⟨tokens, scanned, alternating, numerals⟩ := (parsed.admits .done).exists_tokens 0
    exact ⟨⟨tokens, scanned, alternating⟩, tokens, scanned, numerals⟩
  · rintro ⟨tokens, scanned, alternating⟩ ⟨others, again, numerals⟩ cause position failed
    rw [scanned] at again
    cases again
    have admitted := Admits.of_scan scanned alternating numerals
    unfold evaluate at failed
    split at failed
    · cases failed
    · rcases Outcome.bind_eq_error_iff.mp failed with signalled | ⟨unit, _, refused⟩
      · exact ofSignal_excused signalled
      · exact read_excused admitted refused

/-- A blank before an operator ends up in the numeral where blanks separate groups. -/
theorem check_of_blank_groups :
    isWellFormed (.ofConventions "fr_FR" { point := ',', group := '\u202f' } 2 .halfEven) true false
        ['1', ' ', '2', '3', '4', ' ', '*', '2', ',', '5'] = true ∧
      ∃ tokens,
        tokenize (.ofConventions "fr_FR" { point := ',', group := '\u202f' } 2 .halfEven)
          ['1', ' ', '2', '3', '4', ' ', '*', '2', ',', '5'] = .ok tokens ∧
        NumeralsRead (.ofConventions "fr_FR" { point := ',', group := '\u202f' } 2 .halfEven)
          tokens :=
  (evaluate_agrees_with_check Binary64.machinePower standardNesting _ {} _).1
    (.finite ⟨false, 30850, -1⟩) rfl

end MonetaryText.Expression

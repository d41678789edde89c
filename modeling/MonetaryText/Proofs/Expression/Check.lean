import MonetaryText.Proofs.Expression.Rendering
import MonetaryText.Proofs.Expression.Tokens

/-!
The check of tokens, character by character. From a flag for a missing operand and a count of open
parentheses each character either leads on or is refused, whatever follows it, and from everywhere there
is a way to the end (`passes_completion`).
-/

namespace MonetaryText.Expression

/-- What is expected behind a token, and how many parentheses are open there. -/
def next? : Bool → Nat → TokenKind → Text → Option (Bool × Nat)
  | true, depth, .number, _ => some (false, depth)
  | true, depth, .opening, _ => some (true, depth + 1)
  | true, depth, .operator, text =>
    if Text.occursIn text ['+', '-'] then some (true, depth) else none
  | true, _, .closing, _ => none
  | false, depth, .operator, _ => some (true, depth)
  | false, depth + 1, .closing, _ => some (false, depth)
  | false, _, _, _ => none

theorem alternates_cons (due : Bool) (depth : Nat) (token : Token) (rest : List Token) :
    alternates due depth (token :: rest) = true ↔
      ∃ state, next? due depth token.kind token.text = some state ∧
        alternates state.1 state.2 rest = true := by
  cases due with
  | true => cases kind : token.kind <;> simp [alternates, next?, kind, and_assoc]
  | false => cases kind : token.kind <;> cases depth <;> simp [alternates, next?, kind]

/-- The check takes the text from where an operand is due or not and parentheses are open. -/
def Passes (style : NumeralStyle) (due : Bool) (depth : Nat) (text : Text) : Prop :=
  ∃ tokens, scan style 0 text = .ok tokens ∧ alternates due depth tokens = true

section Steps

variable {style : NumeralStyle} {due : Bool} {depth : Nat} {c : Char} {rest : Text}

/-- The check does not look at positions. -/
theorem exists_scan_at {text : Text} {first : Nat} {tokens : List Token}
    (scanned : scan style first text = .ok tokens) (alternating : alternates due depth tokens = true)
    (second : Nat) :
    ∃ others, scan style second text = .ok others ∧ alternates due depth others = true := by
  fun_induction scan style first text generalizing due depth tokens second with
  | case1 =>
    cases scanned
    exact ⟨[], by rw [scan], alternating⟩
  | case2 position c rest digit run =>
    rename_i ih
    obtain ⟨later, behind, rfl⟩ := scan_cons_eq_ok scanned
    obtain ⟨state, known, remaining⟩ := (alternates_cons _ _ _ _).mp alternating
    obtain ⟨others, again, follows⟩ := ih behind remaining (second + 1 + run.length)
    rw [scan_digit digit, again]
    exact ⟨_, rfl, (alternates_cons _ _ _ _).mpr ⟨state, known, follows⟩⟩
  | case3 position c rest noDigit kind known ih =>
    obtain ⟨later, behind, rfl⟩ := scan_cons_eq_ok scanned
    obtain ⟨state, steps, remaining⟩ := (alternates_cons _ _ _ _).mp alternating
    obtain ⟨others, again, follows⟩ := ih behind remaining (second + 1)
    rw [scan_single known, again]
    exact ⟨_, rfl, (alternates_cons _ _ _ _).mpr ⟨state, steps, follows⟩⟩
  | case4 position c rest noDigit noKind blank ih =>
    rw [scan_blank blank]
    exact ih scanned alternating (second + 1)
  | case5 position c rest noDigit noKind noBlank => cases scanned

theorem passes_iff_at {text : Text} (position : Nat) :
    Passes style due depth text ↔
      ∃ tokens, scan style position text = .ok tokens ∧ alternates due depth tokens = true := by
  constructor
  · rintro ⟨tokens, scanned, alternating⟩
    exact exists_scan_at scanned alternating position
  · rintro ⟨tokens, scanned, alternating⟩
    exact exists_scan_at scanned alternating 0

theorem passes_nil : Passes style false 0 [] := ⟨[], by rw [scan], rfl⟩

theorem passes_blank (blank : Text.isBlank c = true) :
    Passes style due depth (c :: rest) ↔ Passes style due depth rest := by
  rw [Passes, scan_blank blank]
  exact (passes_iff_at 1).symm

/-- One token in front, whose kind and text the check looks at. -/
theorem passes_token {token : Token} {text : Text} {position : Nat}
    (scanned : scan style 0 text = (do
      let later ← scan style position rest
      return token :: later)) :
    Passes style due depth text ↔
      ∃ state, next? due depth token.kind token.text = some state ∧
        Passes style state.1 state.2 rest := by
  rw [Passes, scanned]
  constructor
  · rintro ⟨tokens, given, alternating⟩
    obtain ⟨later, behind, rfl⟩ := scan_cons_eq_ok given
    obtain ⟨state, known, follows⟩ := (alternates_cons _ _ _ _).mp alternating
    exact ⟨state, known, (passes_iff_at position).mpr ⟨later, behind, follows⟩⟩
  · rintro ⟨state, known, passes⟩
    obtain ⟨later, behind, follows⟩ := (passes_iff_at position).mp passes
    rw [behind]
    exact ⟨_, rfl, (alternates_cons _ _ _ _).mpr ⟨state, known, follows⟩⟩

theorem passes_single {kind : TokenKind} (known : singleKind? c = some kind) :
    Passes style due depth (c :: rest) ↔
      ∃ state, next? due depth kind [c] = some state ∧ Passes style state.1 state.2 rest :=
  passes_token (scan_single known 0)

theorem passes_digit (digit : c.isDigit = true) :
    Passes style due depth (c :: rest) ↔
      due = true ∧ Passes style false depth (rest.dropWhile style.isNumeralChar) := by
  rw [passes_token (scan_digit digit 0)]
  cases due <;> simp [next?]

/-- What the check takes begins with a numeral or a character that it expects. -/
theorem Passes.begins (passes : Passes style due depth (c :: rest)) (solid : Text.isBlank c = false) :
    c.isDigit = true ∧ due = true ∨
      ∃ kind state, singleKind? c = some kind ∧ next? due depth kind [c] = some state := by
  cases digit : c.isDigit with
  | true => exact .inl ⟨rfl, ((passes_digit digit).mp passes).1⟩
  | false =>
    cases known : singleKind? c with
    | some kind =>
      obtain ⟨state, expected, _⟩ := (passes_single known).mp passes
      exact .inr ⟨kind, state, rfl, expected⟩
    | none =>
      obtain ⟨tokens, scanned, _⟩ := passes
      rw [scan, if_neg (by simp [digit])] at scanned
      simp only [known, solid, Bool.false_eq_true, if_false] at scanned
      cases scanned

/-- Where an operand is due, nothing else than a numeral, a sign or a parenthesis can come. -/
theorem not_passes_due (solid : Text.isBlank c = false) (noDigit : c.isDigit = false)
    (unsigned : c ≠ '+' ∧ c ≠ '-') (noOpening : c ≠ '(') : ¬Passes style true depth (c :: rest) := by
  intro passes
  rcases passes.begins solid with ⟨digit, _⟩ | ⟨kind, state, known, expected⟩
  · rw [noDigit] at digit
    cases digit
  · obtain ⟨_, _, ⟨rfl, _⟩ | ⟨rfl, rfl⟩ | ⟨rfl, rfl⟩⟩ := singleKind?_eq_some known
    · simp [next?, unsigned] at expected
    · exact noOpening rfl
    · cases expected

/-- Behind an operand, nothing else than an operator or a parenthesis that closes one can come. -/
theorem not_passes_not_due (solid : Text.isBlank c = false) (noOperator : c ∉ operators)
    (noClosing : c = ')' → depth = 0) : ¬Passes style false depth (c :: rest) := by
  intro passes
  rcases passes.begins solid with ⟨_, due⟩ | ⟨kind, state, known, expected⟩
  · cases due
  · obtain ⟨_, _, ⟨rfl, member⟩ | ⟨rfl, rfl⟩ | ⟨rfl, rfl⟩⟩ := singleKind?_eq_some known
    · exact noOperator member
    · cases expected
    · obtain rfl := noClosing rfl
      cases expected

/-- A numeral of one digit in parentheses, if an operand is due, and all parentheses that are open. -/
def completion (due : Bool) (depth : Nat) : Text :=
  (if due then ['(', '1', ')'] else []) ++ List.replicate depth ')'

theorem passes_completion (plain : style.PartsOperands) (due : Bool) (depth : Nat) :
    Passes style due depth (completion due depth) := by
  have closings (depth : Nat) : Passes style false depth (List.replicate depth ')') := by
    induction depth with
    | zero => exact passes_nil
    | succ depth ih => exact (passes_single rfl).mpr ⟨(false, depth), rfl, ih⟩
  cases due with
  | false => exact closings depth
  | true =>
    have ends : style.isNumeralChar ')' = false := plain.isNumeralChar_eq_false (by simp)
    refine (passes_single (show singleKind? '(' = some .opening from rfl)).mpr
      ⟨(true, depth + 1), rfl, (passes_digit rfl).mpr ⟨rfl, ?_⟩⟩
    change Passes style false (depth + 1) ((')' :: List.replicate depth ')').dropWhile _)
    rw [List.dropWhile_cons_of_neg (by simp [ends])]
    exact closings (depth + 1)

end Steps

end MonetaryText.Expression

import MonetaryText.Expression.WellFormed
import MonetaryText.Proofs.Expression.Scanning
import MonetaryText.Proofs.Expression.Tree

/-!
The grammar of expressions over tokens. The check of tokens knows no precedence: it has a flag for a missing
operand and counts open parentheses. Nevertheless it takes exactly what the grammar derives
(`isExpression_iff_derives`), since an operator may join any two expressions (`Derives.join`).
-/

namespace MonetaryText.Expression

/-- An operator that is one of the given characters. -/
def Token.IsOperator (token : Token) (known : List Char) : Prop :=
  token.kind = .operator ∧ ∃ c ∈ known, token.text = [c]

/-- The tokens that are derived from a place of the grammar:

    expression := term (('+' | '-') term)*
    term       := factor (('*' | '/') factor)*
    factor     := ('+' | '-') factor | primary ('^' factor)?
    primary    := numeral | '(' expression ')'
-/
inductive Derives : Place → List Token → Prop where
  | numeral {token : Token} (kind : token.kind = .number) : Derives .primary [token]
  | parentheses {opening closing : Token} {inner : List Token} (opens : opening.kind = .opening)
      (content : Derives .expression inner) (closes : closing.kind = .closing) :
      Derives .primary (opening :: inner ++ [closing])
  | bare {tokens : List Token} (only : Derives .primary tokens) : Derives .factor tokens
  | sign {token : Token} {tokens : List Token} (known : token.IsOperator ['+', '-'])
      (operand : Derives .factor tokens) : Derives .factor (token :: tokens)
  | power {token : Token} {left right : List Token} (known : token.IsOperator ['^'])
      (base : Derives .primary left) (exponent : Derives .factor right) :
      Derives .factor (left ++ token :: right)
  | factor {tokens : List Token} (only : Derives .factor tokens) : Derives .term tokens
  | product {token : Token} {left right : List Token} (known : token.IsOperator ['*', '/'])
      (first : Derives .term left) (last : Derives .factor right) :
      Derives .term (left ++ token :: right)
  | term {tokens : List Token} (only : Derives .term tokens) : Derives .expression tokens
  | sum {token : Token} {left right : List Token} (known : token.IsOperator ['+', '-'])
      (first : Derives .expression left) (last : Derives .term right) :
      Derives .expression (left ++ token :: right)

/-- A token that is an operator is one of those that there are. -/
def Token.IsKnown (token : Token) : Prop := token.kind = .operator → token.IsOperator operators

/-! ### From derivations to the check -/

section Checked

variable {token : Token} {tokens rest : List Token} {known : List Char} {depth : Nat}

theorem alternates_operator (isOperator : token.kind = .operator) :
    alternates false depth (token :: rest) = alternates true depth rest := by
  simp [alternates, isOperator]

theorem alternates_sign (isSign : token.IsOperator ['+', '-']) :
    alternates true depth (token :: rest) = alternates true depth rest := by
  obtain ⟨kind, c, member, text⟩ := isSign
  have sign : c = '+' ∨ c = '-' := by simpa using member
  rcases sign with rfl | rfl <;> simp [alternates, kind, text]

/-- Behind what is derived, an operand has been found, whatever was open before and whatever follows. -/
theorem Derives.alternates_append {place : Place} (derived : Derives place tokens) (depth : Nat)
    (rest : List Token) : alternates true depth (tokens ++ rest) = alternates false depth rest := by
  induction derived generalizing depth rest with
  | numeral kind => simp [alternates, kind]
  | parentheses opens content closes ih =>
    simp [alternates, opens, closes, ih, List.append_assoc]
  | bare only ih | factor only ih | term only ih => exact ih depth rest
  | sign known operand ih => rw [List.cons_append, alternates_sign known, ih]
  | power known base exponent first second | product known base exponent first second
  | sum known base exponent first second =>
    rw [List.append_assoc, first, List.cons_append, alternates_operator known.1, second]

theorem Token.IsOperator.mono {others : List Char} (isOperator : token.IsOperator known)
    (among : known ⊆ others) : token.IsOperator others := by
  obtain ⟨kind, c, member, text⟩ := isOperator
  exact ⟨kind, c, among member, text⟩

theorem Token.IsOperator.isKnown (isOperator : token.IsOperator known) (among : known ⊆ operators) :
    token.IsKnown := by
  exact fun _ => isOperator.mono among

/-- The operators in what is derived are those of the grammar. -/
theorem Derives.isKnown {place : Place} (derived : Derives place tokens) :
    ∀ token ∈ tokens, token.IsKnown := by
  have other {token : Token} {kind : TokenKind} (is : token.kind = kind)
      (noOperator : kind ≠ .operator) : token.IsKnown :=
    fun isOperator => absurd (is.symm.trans isOperator) noOperator
  induction derived with
  | numeral kind => simpa using other kind (by decide)
  | parentheses opens content closes ih =>
    simpa [or_imp, forall_and] using ⟨other opens (by decide), ih, other closes (by decide)⟩
  | bare only ih | factor only ih | term only ih => exact ih
  | sign known operand ih => exact List.forall_mem_cons.mpr ⟨known.isKnown (by decide), ih⟩
  | power known _ _ first second | product known _ _ first second | sum known _ _ first second =>
    exact List.forall_mem_append.mpr
      ⟨first, List.forall_mem_cons.mpr ⟨known.isKnown (by decide), second⟩⟩

end Checked

/-! ### Operators between expressions -/

theorem Token.IsOperator.cases {token : Token} (isOperator : token.IsOperator operators) :
    token.IsOperator ['+', '-'] ∨ token.IsOperator ['*', '/'] ∨ token.IsOperator ['^'] := by
  obtain ⟨kind, c, member, text⟩ := isOperator
  have groups : c ∈ ['+', '-'] ∨ c ∈ ['*', '/'] ∨ c ∈ ['^'] := by
    simpa [operators, or_assoc] using member
  rcases groups with sum | product | power
  · exact .inl ⟨kind, c, sum, text⟩
  · exact .inr (.inl ⟨kind, c, product, text⟩)
  · exact .inr (.inr ⟨kind, c, power, text⟩)

/-- The place that a power of what stands at a place has. -/
def Place.ofPower : Place → Place
  | primary => factor
  | place => place

namespace Derives

variable {place : Place} {token : Token} {tokens front left right : List Token}

/-- An exponent goes to the last operand, behind the signs and operators that bind less tightly. -/
theorem append_power (known : token.IsOperator ['^']) (first : Derives place left)
    (last : Derives .factor right) : Derives place.ofPower (left ++ token :: right) := by
  induction first with
  | numeral kind => exact .power known (.numeral kind) last
  | parentheses opens content closes => exact .power known (.parentheses opens content closes) last
  | bare only ih => exact ih
  | sign isSign operand ih => exact .sign isSign ih
  | power other base exponent _ ih => simpa [Place.ofPower] using Derives.power other base ih
  | factor only ih => exact .factor ih
  | product other first operand _ ih => simpa [Place.ofPower] using Derives.product other first ih
  | term only ih => exact .term ih
  | sum other first operand _ ih => simpa [Place.ofPower] using Derives.sum other first ih

/-- Behind any expression goes any operator with a factor. -/
theorem append_factor (known : token.IsOperator operators) (first : Derives .expression left)
    (last : Derives .factor right) : Derives .expression (left ++ token :: right) := by
  obtain sum | product | power := known.cases
  · exact .sum sum first (.factor last)
  · cases first with
    | term only => exact .term (.product product only last)
    | sum other before operand => simpa using Derives.sum other before (.product product operand last)
  · exact append_power power first last

/-- What goes in front of every factor goes in front of everything that is derived. -/
theorem prepend (starts : ∀ {right}, Derives .factor right → Derives .expression (front ++ right))
    (derived : Derives place tokens) : Derives .expression (front ++ tokens) := by
  induction derived with
  | numeral kind => exact starts (.bare (.numeral kind))
  | parentheses opens content closes => exact starts (.bare (.parentheses opens content closes))
  | bare only ih | factor only ih | term only ih => exact ih
  | sign known operand => exact starts (.sign known operand)
  | power known base exponent => exact starts (.power known base exponent)
  | product known first last ih =>
    simpa using append_factor (known.mono (by decide)) ih last
  | sum known first last ih => simpa using Derives.sum known ih last

/-- Two expressions are one with an operator between them, whichever it is. -/
theorem join (known : token.IsOperator operators) (first : Derives .expression left)
    (last : Derives .expression right) : Derives .expression (left ++ token :: right) := by
  have starts {right : List Token} (factor : Derives .factor right) :
      Derives .expression (left ++ [token] ++ right) := by
    simpa using append_factor known first factor
  simpa using prepend starts last

theorem signed (isSign : token.IsOperator ['+', '-']) (operand : Derives .expression tokens) :
    Derives .expression (token :: tokens) := by
  have starts {right : List Token} (factor : Derives .factor right) :
      Derives .expression ([token] ++ right) := .term (.factor (.sign isSign factor))
  exact prepend starts operand

end Derives

/-! ### From the check to derivations -/

/-- What stands before the next parenthesis that closes an open one: an expression where an operand is due, and
otherwise nothing, or an operator with an expression. -/
def Operands : Bool → List Token → Prop
  | true, tokens => Derives .expression tokens
  | false, tokens =>
    tokens = [] ∨ ∃ token rest, tokens = token :: rest ∧ token.IsOperator operators ∧
      Derives .expression rest

/-- Open parentheses are closed one after the other. -/
inductive Closes : Nat → List Token → Prop where
  | done : Closes 0 []
  | closing {depth : Nat} {token : Token} {between rest : List Token} (closes : token.kind = .closing)
      (operands : Operands false between) (later : Closes depth rest) :
      Closes (depth + 1) (token :: between ++ rest)

theorem Operands.behind {operand tokens : List Token} (operands : Operands false tokens)
    (derived : Derives .primary operand) : Derives .expression (operand ++ tokens) := by
  have first : Derives .expression operand := .term (.factor (.bare derived))
  obtain rfl | ⟨token, rest, rfl, known, later⟩ := operands
  · simpa using first
  · exact first.join known later

/-- Where the check goes through, an expression ends before the parentheses are closed that are open. -/
theorem exists_operands {due : Bool} {depth : Nat} {tokens : List Token}
    (passes : alternates due depth tokens = true) (known : ∀ token ∈ tokens, token.IsKnown) :
    ∃ front rest, tokens = front ++ rest ∧ Operands due front ∧ Closes depth rest := by
  induction tokens generalizing due depth with
  | nil =>
    obtain ⟨rfl, rfl⟩ : due = false ∧ depth = 0 := by simpa [alternates] using passes
    exact ⟨[], [], rfl, .inl rfl, .done⟩
  | cons token tokens ih =>
    obtain ⟨here, later⟩ := List.forall_mem_cons.mp known
    cases due with
    | true =>
      cases kind : token.kind with
      | number =>
        obtain ⟨front, rest, rfl, operands, closes⟩ := ih (by simpa [alternates, kind] using passes) later
        exact ⟨token :: front, rest, rfl, operands.behind (.numeral kind), closes⟩
      | opening =>
        obtain ⟨inner, _, rfl, content, closes⟩ :=
          ih (by simpa [alternates, kind] using passes) later
        cases closes with
        | @closing _ closing between rest closes operands outer =>
          have whole := operands.behind (.parentheses kind content closes)
          exact ⟨_, rest, by simp, whole, outer⟩
      | operator =>
        obtain ⟨_, c, _, text⟩ := here kind
        have isSign : (c = '+' ∨ c = '-') ∧ alternates true depth tokens = true := by
          simpa [alternates, kind, text] using passes
        obtain ⟨front, rest, rfl, operand, closes⟩ := ih isSign.2 later
        have sign : token.IsOperator ['+', '-'] := ⟨kind, c, by simpa using isSign.1, text⟩
        exact ⟨token :: front, rest, rfl, operand.signed sign, closes⟩
      | closing => simp [alternates, kind] at passes
    | false =>
      cases kind : token.kind with
      | operator =>
        obtain ⟨front, rest, rfl, operand, closes⟩ :=
          ih (by simpa [alternates, kind] using passes) later
        exact ⟨token :: front, rest, rfl, .inr ⟨token, front, rfl, here kind, operand⟩, closes⟩
      | closing =>
        cases depth with
        | zero => simp [alternates, kind] at passes
        | succ depth =>
          obtain ⟨between, rest, rfl, operands, outer⟩ :=
            ih (by simpa [alternates, kind] using passes) later
          exact ⟨[], _, rfl, .inl rfl, .closing kind operands outer⟩
      | number | opening => simp [alternates, kind] at passes

/-- The operators among the tokens of a text are those of the grammar. -/
theorem isKnown_of_tokenize {style : NumeralStyle} {text : Text} {tokens : List Token}
    (scanned : tokenize style text = .ok tokens) : ∀ token ∈ tokens, token.IsKnown := by
  intro token member isOperator
  have tiles : Tiles style text 0 tokens := tiles_of_scan scanned List.drop_zero
  obtain ⟨c, same, kind⟩ := (tiles.pieces token member).2.single (by rw [isOperator]; decide)
  obtain ⟨_, _, ⟨_, among⟩ | ⟨other, _⟩ | ⟨other, _⟩⟩ := singleKind?_eq_some kind
  · exact ⟨isOperator, c, among, same⟩
  · cases isOperator.symm.trans other
  · cases isOperator.symm.trans other

/-- The check takes exactly the tokens that the grammar derives. What derives from it has no other operators
than those that there are, and neither have the tokens of a text. -/
theorem isExpression_iff_derives (tokens : List Token) :
    (isExpression tokens = true ∧ (∀ token ∈ tokens, token.IsKnown) ↔ Derives .expression tokens) ∧
      ∀ style text, tokenize style text = .ok tokens →
        (isExpression tokens = true ↔ Derives .expression tokens) := by
  have both : isExpression tokens = true ∧ (∀ token ∈ tokens, token.IsKnown) ↔
      Derives .expression tokens := by
    constructor
    · rintro ⟨passes, known⟩
      obtain ⟨front, rest, rfl, derived, closes⟩ := exists_operands passes known
      cases closes
      rwa [List.append_nil]
    · intro derived
      have passes := derived.alternates_append 0 []
      rw [List.append_nil] at passes
      exact ⟨passes, derived.isKnown⟩
  refine ⟨both, fun style text scanned => ?_⟩
  rw [← both, and_iff_left (isKnown_of_tokenize scanned)]

/-- Signs may stand in front of a parenthesis and of an exponent. Parentheses the wrong way round are not derived,
though there are as many of each. -/
theorem isExpression_iff_derives_of_signs :
    (∃ tokens, tokenize (.western "en_US" 2 .halfEven) "-(1 + 2)^-3*4".toList = .ok tokens ∧
      tokens.length = 11 ∧ Derives .expression tokens) ∧
    ∃ tokens, tokenize (.western "en_US" 2 .halfEven) "1)+(2".toList = .ok tokens ∧
      tokens.length = 5 ∧ ¬Derives .expression tokens := by
  have signed : (tokenize (.western "en_US" 2 .halfEven) "-(1 + 2)^-3*4".toList).toOption =
      some [⟨.operator, ['-'], 0⟩, ⟨.opening, ['('], 1⟩, ⟨.number, ['1'], 2⟩, ⟨.operator, ['+'], 4⟩,
        ⟨.number, ['2'], 6⟩, ⟨.closing, [')'], 7⟩, ⟨.operator, ['^'], 8⟩, ⟨.operator, ['-'], 9⟩,
        ⟨.number, ['3'], 10⟩, ⟨.operator, ['*'], 11⟩, ⟨.number, ['4'], 12⟩] := by
    decide +kernel
  have turned : (tokenize (.western "en_US" 2 .halfEven) "1)+(2".toList).toOption =
      some [⟨.number, ['1'], 0⟩, ⟨.closing, [')'], 1⟩, ⟨.operator, ['+'], 2⟩, ⟨.opening, ['('], 3⟩,
        ⟨.number, ['2'], 4⟩] := by
    decide +kernel
  replace signed := Outcome.toOption_eq_some_iff.mp signed
  replace turned := Outcome.toOption_eq_some_iff.mp turned
  refine ⟨⟨_, signed, rfl, ?_⟩, ⟨_, turned, rfl, fun derived => ?_⟩⟩
  · exact ((isExpression_iff_derives _).2 _ _ signed).mp rfl
  · cases ((isExpression_iff_derives _).2 _ _ turned).mpr derived

end MonetaryText.Expression

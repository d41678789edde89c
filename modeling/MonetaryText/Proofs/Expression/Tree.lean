import MonetaryText.Expression.Evaluate
import MonetaryText.Proofs.Numeral.Notation
import MonetaryText.Proofs.Outcome

/-!
Expressions as trees, what a tree is worth, and which texts render it. A rendering writes the
literals in the notation of the style, has any blanks around operators and parentheses, and any
parentheses beyond those that the precedence of the operators demands.
-/

namespace MonetaryText.Expression

inductive Tree where
  | literal (number : Decimal)
  | plus (operand : Tree)
  | minus (operand : Tree)
  | binary (operator : Operator) (left right : Tree)
  deriving DecidableEq, Repr

/-! ### Values -/

section Value

variable (machine : Binary64 → Binary64 → Binary64) (style : NumeralStyle) (settings : Settings)
  (unit : Int)

/-- What an operator makes of two operands in decimal arithmetic of the precision of the settings.
A quotient is rounded to the exponent `unit` by the mode of the style. -/
def Operator.combine : Operator → Extended → Extended → Option Extended
  | .sum, x, y => (x.add ⟨settings.precision⟩ y).toOption
  | .difference, x, y => (x.sub ⟨settings.precision⟩ y).toOption
  | .product, x, y => (x.mul ⟨settings.precision⟩ y).toOption
  | .quotient, x, y =>
    if y.isZero then none
    else do
      let z ← (x.div ⟨settings.precision⟩ y).toOption
      (z.quantize ⟨settings.precision⟩ style.rounding unit).toOption
  | .power, x, y =>
    (Expression.power machine ⟨settings.precision⟩ settings.greatestPower 0 x y).toOption

/-- The value of a tree, if each of its operations has one. A sign flips that of a zero, too. -/
def Tree.value : Tree → Option Extended
  | literal number => some (.finite number)
  | plus operand => operand.value
  | minus operand => operand.value.map Extended.negate
  | binary operator left right => do
    let x ← left.value
    let y ← right.value
    operator.combine machine style settings unit x y

/-- The position of an exponent shows in failures only. -/
theorem toOption_power (context : Context) (bound position : Nat) (x y : Extended) :
    (power machine context bound position x y).toOption =
      (power machine context bound 0 x y).toOption := by
  unfold power
  split
  · rfl
  · split
    · unfold integerPower
      split
      · split <;> rfl
      · split
        · rfl
        · split <;> rfl
    · unfold fractionalPower
      simp only
      split
      · cases Binary64.checkedPower machine (Binary64.ofExtended x) _ <;> rfl
      · rfl

/-- The operations that an expression is read with find what the operator makes of its operands. -/
theorem apply_eq_ok_iff {operator : Operator} {position : Nat} {x y z : Extended} :
    (arithmetic machine style settings unit).apply operator position x y = .ok z ↔
      operator.combine machine style settings unit x y = some z := by
  cases operator with
  | sum => exact Outcome.mapError_eq_ok_iff.trans Outcome.toOption_eq_some_iff.symm
  | difference => exact Outcome.mapError_eq_ok_iff.trans Outcome.toOption_eq_some_iff.symm
  | product => exact Outcome.mapError_eq_ok_iff.trans Outcome.toOption_eq_some_iff.symm
  | quotient =>
    change divide style ⟨settings.precision⟩ unit position x y = .ok z ↔ _
    by_cases zero : y.isZero = true
    · simp [divide, Operator.combine, zero]
    · simp only [divide, Operator.combine, if_neg zero]
      refine Outcome.mapError_eq_ok_iff.trans ?_
      rw [Outcome.bind_eq_ok_iff]
      simp only [Option.bind_eq_bind, Option.bind_eq_some_iff, Outcome.toOption_eq_some_iff]
  | power =>
    rw [← Outcome.toOption_eq_some_iff]
    change (power machine _ _ position x y).toOption = some z ↔ _
    rw [toOption_power]
    rfl

end Value

/-! ### Renderings -/

theorem eq_of_productOperator? {c : Char} {operator : Operator}
    (known : productOperator? c = some operator) : c = '*' ∨ c = '/' := by
  unfold productOperator? at known
  split at known
  · exact .inl rfl
  · exact .inr rfl
  · cases known

theorem eq_of_sumOperator? {c : Char} {operator : Operator}
    (known : sumOperator? c = some operator) : c = '+' ∨ c = '-' := by
  unfold sumOperator? at known
  split at known
  · exact .inl rfl
  · exact .inr rfl
  · cases known

/-- The places of the grammar, from the one that takes every expression to the one that takes only
numerals and what stands in parentheses. -/
inductive Place where
  | expression | term | factor | primary
  deriving DecidableEq, Repr

/-- The texts that stand for a tree at a place, nested within a number of levels: four for a
parenthesis, one for a sign or a power. What binds less tightly than the place demands is written
there in parentheses. -/
inductive Renders (style : NumeralStyle) : Place → Nat → Tree → Text → Prop where
  | literal {levels : Nat} {before text after : Text} {number : Decimal}
      (front : Text.isBlankText before = true) (back : Text.isBlankText after = true)
      (written : Numeral.Writes style text number) :
      Renders style .primary levels (.literal number) (before ++ text ++ after)
  | parentheses {levels : Nat} {before text after : Text} {tree : Tree}
      (front : Text.isBlankText before = true) (back : Text.isBlankText after = true)
      (inner : Renders style .expression levels tree text) :
      Renders style .primary (levels + 4) tree (before ++ '(' :: text ++ ')' :: after)
  | bare {levels : Nat} {tree : Tree} {text : Text} (only : Renders style .primary levels tree text) :
      Renders style .factor levels tree text
  | plus {levels : Nat} {before text : Text} {tree : Tree}
      (front : Text.isBlankText before = true) (operand : Renders style .factor levels tree text) :
      Renders style .factor (levels + 1) (.plus tree) (before ++ '+' :: text)
  | minus {levels : Nat} {before text : Text} {tree : Tree}
      (front : Text.isBlankText before = true) (operand : Renders style .factor levels tree text) :
      Renders style .factor (levels + 1) (.minus tree) (before ++ '-' :: text)
  | power {levels : Nat} {left right : Tree} {front back : Text}
      (base : Renders style .primary (levels + 1) left front)
      (exponent : Renders style .factor levels right back) :
      Renders style .factor (levels + 1) (.binary .power left right) (front ++ '^' :: back)
  | factor {levels : Nat} {tree : Tree} {text : Text}
      (only : Renders style .factor levels tree text) : Renders style .term levels tree text
  | product {levels : Nat} {c : Char} {operator : Operator} {left right : Tree} {front back : Text}
      (known : productOperator? c = some operator) (first : Renders style .term levels left front)
      (last : Renders style .factor levels right back) :
      Renders style .term levels (.binary operator left right) (front ++ c :: back)
  | term {levels : Nat} {tree : Tree} {text : Text}
      (only : Renders style .term levels tree text) : Renders style .expression levels tree text
  | sum {levels : Nat} {c : Char} {operator : Operator} {left right : Tree} {front back : Text}
      (known : sumOperator? c = some operator) (first : Renders style .expression levels left front)
      (last : Renders style .term levels right back) :
      Renders style .expression levels (.binary operator left right) (front ++ c :: back)

namespace Renders

variable {style : NumeralStyle} {place : Place} {levels : Nat} {tree : Tree} {text blanks : Text}

/-- Blanks behind change nothing. -/
theorem append_blanks (rendered : Renders style place levels tree text)
    (blank : Text.isBlankText blanks = true) :
    Renders style place levels tree (text ++ blanks) := by
  have longer {after : Text} (back : Text.isBlankText after = true) :
      Text.isBlankText (after ++ blanks) = true := by
    simp [blank, back]
  induction rendered with
  | literal front back written => simpa using literal front (longer back) written
  | parentheses front back inner => simpa using parentheses front (longer back) inner
  | bare only ih => exact bare ih
  | plus front operand ih => simpa using plus front ih
  | minus front operand ih => simpa using minus front ih
  | power base exponent _ ih => simpa using power base ih
  | factor only ih => exact factor ih
  | product known first last _ ih => simpa using product known first ih
  | term only ih => exact term ih
  | sum known first last _ ih => simpa using sum known first ih

end Renders

end MonetaryText.Expression

import Mathlib.Algebra.BigOperators.Group.List.Basic
import Mathlib.Algebra.Order.BigOperators.Group.List
import MonetaryText.Proofs.Expression.Finite
import MonetaryText.Proofs.Expression.PlainAmount
import MonetaryText.Proofs.Expression.Rendering

/-!
Sums, differences and products lose nothing as long as each result fits the precision at the exponent
that its operands give it. Then an expression is worth exactly its rational value, and a sum is one and
the same decimal for every order of its terms and however they are put in parentheses
(`evaluate_exact`).
-/

namespace MonetaryText

namespace Decimal

/-! ### Sums of many terms -/

/-- The decimal that an exact addition of all terms leads to, in whatever order. -/
structure IsSum (d : Decimal) (terms : List Decimal) : Prop where
  value : d.toRat = (terms.map toRat).sum
  exponent : ∀ k, k ≤ d.exponent ↔ ∀ term ∈ terms, k ≤ term.exponent
  sign : d.isZero = true → (d.negative = true ↔ ∀ term ∈ terms, term.negative = true)

theorem toRat_nonpos_of_negative {d : Decimal} (negative : d.negative = true) : d.toRat ≤ 0 := by
  rw [toRat_eq_abs, negative]
  simp

theorem IsSum.singleton (d : Decimal) : d.IsSum [d] :=
  ⟨by simp, by simp, by simp⟩

/-- Terms that are all negative have no positive sum. -/
theorem IsSum.toRat_nonpos {d : Decimal} {terms : List Decimal} (sum : d.IsSum terms)
    (negative : ∀ term ∈ terms, term.negative = true) : d.toRat ≤ 0 := by
  have below : ∀ value ∈ terms.map toRat, value ≤ 0 := by
    intro value member
    obtain ⟨term, inside, rfl⟩ := List.mem_map.mp member
    exact toRat_nonpos_of_negative (negative term inside)
  rw [sum.value]
  simpa using List.sum_le_card_nsmul _ 0 below

theorem IsSum.add {a b : Decimal} {front back : List Decimal} (first : a.IsSum front)
    (second : b.IsSum back) : (a.exactSum b).IsSum (front ++ back) where
  value := by
    rw [toRat_exactSum, first.value, second.value, List.map_append, List.sum_append]
  exponent k := by
    change k ≤ min a.exponent b.exponent ↔ _
    rw [le_min_iff, first.exponent, second.exponent]
    simp [or_imp, forall_and]
  sign zero := by
    have total : a.toRat + b.toRat = 0 := by
      rw [← toRat_exactSum, toRat_eq_zero_iff]
      exact zero
    have none : a.signedAt (min a.exponent b.exponent) + b.signedAt (min a.exponent b.exponent) = 0 :=
      by simpa [exactSum, isZero] using zero
    -- Two terms without positive value can only cancel out if both are zero.
    have both (left : a.toRat ≤ 0) (right : b.toRat ≤ 0) : a.isZero = true ∧ b.isZero = true := by
      constructor <;> rw [← toRat_eq_zero_iff] <;> linarith
    have negative : (a.exactSum b).negative = (a.negative && b.negative) := by
      simp [exactSum, none]
    rw [negative, Bool.and_eq_true, List.forall_mem_append]
    constructor
    · rintro ⟨left, right⟩
      obtain ⟨leftZero, rightZero⟩ :=
        both (toRat_nonpos_of_negative left) (toRat_nonpos_of_negative right)
      exact ⟨(first.sign leftZero).mp left, (second.sign rightZero).mp right⟩
    · rintro ⟨left, right⟩
      obtain ⟨leftZero, rightZero⟩ := both (first.toRat_nonpos left) (second.toRat_nonpos right)
      exact ⟨(first.sign leftZero).mpr left, (second.sign rightZero).mpr right⟩

/-- The order of the terms does not matter. -/
theorem IsSum.eq_of_perm {a b : Decimal} {front back : List Decimal} (first : a.IsSum front)
    (second : b.IsSum back) (same : front.Perm back) : a = b := by
  refine eq_of_toRat ?_ (eq_of_forall_le_iff fun k => ?_) fun zero => ?_
  · rw [first.value, second.value, (same.map toRat).sum_eq]
  · rw [first.exponent, second.exponent]
    simp only [same.mem_iff]
  · have value : a.toRat = b.toRat := by rw [first.value, second.value, (same.map toRat).sum_eq]
    have other : b.isZero = true := by rwa [← toRat_eq_zero_iff, ← value, toRat_eq_zero_iff]
    rw [Bool.eq_iff_iff, first.sign zero, second.sign other]
    simp only [same.mem_iff]

end Decimal

/-! ### Results that fit -/

/-- A value that arithmetic of the precision has room for at an exponent. -/
structure Fits (precision : Nat) (value : ℚ) (exponent : Int) : Prop where
  digits : |value| < 10 ^ (precision + exponent)
  low : Context.minExponent ≤ exponent
  high : |value| < 10 ^ Context.maxExponent

/-- With few digits the magnitude takes care of itself. -/
theorem Fits.of_digits {precision : Nat} {value : ℚ} {exponent : Int}
    (digits : |value| < 10 ^ (precision + exponent)) (low : Context.minExponent ≤ exponent)
    (few : precision + exponent ≤ Context.maxExponent) : Fits precision value exponent :=
  ⟨digits, low, digits.trans_le (zpow_le_zpow_right₀ (by norm_num) few)⟩

/-- What fits is not rounded. -/
theorem Context.finish_of_room {context : Context} {d : Decimal} (pos : 0 < context.precision)
    (room : Fits context.precision d.toRat d.exponent) (whole : d.exponent ≤ maxExponent) :
    context.finish d = .ok d := by
  refine finish_of_fits ((Decimal.digitCount_le_iff pos).mpr room.digits) ?_ ?_
  · have low := room.low
    unfold tiny
    omega
  · by_cases zero : d.isZero = true
    · rwa [Decimal.leadingExponent_of_isZero zero]
    · exact ((Decimal.leadingExponent_lt_iff (by simpa using zero)).mpr room.high).le

namespace Expression

/-- A tree of signs, sums, differences and products over literals, with its rational value and the
exponent at which it is natural: the smaller one for sums and differences, the sum of both for
products. Each result has room there. -/
inductive Tree.Exact (precision : Nat) : Tree → ℚ → Int → Prop where
  | literal (number : Decimal) : Exact precision (.literal number) number.toRat number.exponent
  | plus {tree : Tree} {q : ℚ} {e : Int} (operand : Exact precision tree q e) :
      Exact precision (.plus tree) q e
  | minus {tree : Tree} {q : ℚ} {e : Int} (operand : Exact precision tree q e) :
      Exact precision (.minus tree) (-q) e
  | sum {left right : Tree} {p q : ℚ} {e f : Int} (first : Exact precision left p e)
      (second : Exact precision right q f) (room : Fits precision (p + q) (min e f)) :
      Exact precision (.binary .sum left right) (p + q) (min e f)
  | difference {left right : Tree} {p q : ℚ} {e f : Int} (first : Exact precision left p e)
      (second : Exact precision right q f) (room : Fits precision (p - q) (min e f)) :
      Exact precision (.binary .difference left right) (p - q) (min e f)
  | product {left right : Tree} {p q : ℚ} {e f : Int} (first : Exact precision left p e)
      (second : Exact precision right q f) (room : Fits precision (p * q) (e + f)) :
      Exact precision (.binary .product left right) (p * q) (e + f)

/-- The terms that are added up to a tree. A subtracted one is added with the other sign. -/
def Tree.summands : Tree → List Tree
  | binary .sum left right => left.summands ++ right.summands
  | binary .difference left right => left.summands ++ [minus right]
  | tree => [tree]

/-- The last digit of each literal is in front of the point or behind it, as in a text. -/
def Tree.IsWritten : Tree → Prop
  | literal number => number.exponent ≤ 0
  | plus operand => operand.IsWritten
  | minus operand => operand.IsWritten
  | binary _ left right => left.IsWritten ∧ right.IsWritten

theorem Renders.isWritten {style : NumeralStyle} {place : Place} {levels : Nat} {tree : Tree}
    {text : Text} (rendered : Renders style place levels tree text) : tree.IsWritten := by
  induction rendered with
  | literal front back written => cases written <;> simp [Tree.IsWritten]
  | parentheses front back inner ih => exact ih
  | bare only ih => exact ih
  | plus front operand ih => exact ih
  | minus front operand ih => exact ih
  | power base exponent left right => exact ⟨left, right⟩
  | factor only ih => exact ih
  | product known first last left right => exact ⟨left, right⟩
  | term only ih => exact ih
  | sum known first last left right => exact ⟨left, right⟩

/-- A numeral without a sign renders the literal that it is read as. -/
theorem Renders.of_read {style : NumeralStyle} (parts : style.PartsDigits) {levels : Nat} {text : Text}
    {coefficient : Nat} {exponent : Int}
    (accepted : Numeral.read style text = .ok ⟨false, coefficient, exponent⟩)
    (bare : Text.splitSign (Text.trim text) = (false, text)) :
    Renders style .primary levels (.literal ⟨false, coefficient, exponent⟩) text := by
  obtain ⟨body, signed, written⟩ := (Numeral.read_eq_ok_iff parts).mp accepted
  rw [bare] at signed
  obtain rfl := (Prod.mk.inj signed).2
  simpa [Decimal.magnitude] using @literal style levels [] text [] _ rfl rfl written

/-- Next to a plus sign no parentheses are needed around either operand. -/
theorem Renders.sum_of_primaries {style : NumeralStyle} {levels : Nat} {left right : Tree}
    {front back : Text} (first : Renders style .primary levels left front)
    (last : Renders style .primary levels right back) :
    Renders style .expression levels (.binary .sum left right) (front ++ '+' :: back) :=
  @sum style levels '+' .sum left right front back rfl (.term (.factor (.bare first)))
    (.factor (.bare last))

section Value

variable {machine : Binary64 → Binary64 → Binary64} {style : NumeralStyle} {settings : Settings}
  {unit : Int} {left right tree : Tree} {a b : Decimal} {q : ℚ} {e : Int}

theorem value_sum (first : left.value machine style settings unit = some (.finite a))
    (second : right.value machine style settings unit = some (.finite b))
    (room : Fits settings.precision (a.toRat + b.toRat) (min a.exponent b.exponent))
    (whole : min a.exponent b.exponent ≤ 0) :
    (Tree.binary .sum left right).value machine style settings unit =
      some (.finite (a.exactSum b)) := by
  have high : min a.exponent b.exponent ≤ Context.maxExponent := whole.trans (by decide)
  have kept : Context.finish ⟨settings.precision⟩ (a.exactSum b) = .ok (a.exactSum b) :=
    Context.finish_of_room (Nat.lt_of_lt_of_le (by decide) settings.precision_ge)
      (by rw [Decimal.toRat_exactSum]; exact room) high
  simp only [Tree.value, first, second, Option.bind_eq_bind, Option.bind_some, Operator.combine,
    Extended.add, Decimal.add, kept]
  rfl

theorem value_minus (worth : tree.value machine style settings unit = some (.finite a)) :
    (Tree.minus tree).value machine style settings unit = some (.finite a.negate) := by
  simp only [Tree.value, worth]
  rfl

/-- A difference is the sum with the other sign. -/
theorem value_difference (first : left.value machine style settings unit = some (.finite a))
    (second : right.value machine style settings unit = some (.finite b))
    (room : Fits settings.precision (a.toRat - b.toRat) (min a.exponent b.exponent))
    (whole : min a.exponent b.exponent ≤ 0) :
    (Tree.binary .difference left right).value machine style settings unit =
      some (.finite (a.exactSum b.negate)) := by
  have room : Fits settings.precision (a.toRat + b.negate.toRat) (min a.exponent b.exponent) := by
    rwa [Decimal.toRat_negate, ← sub_eq_add_neg]
  rw [← value_sum first (value_minus second) room whole]
  simp only [Tree.value, first, second]
  rfl

theorem value_product (first : left.value machine style settings unit = some (.finite a))
    (second : right.value machine style settings unit = some (.finite b))
    (room : Fits settings.precision (a.toRat * b.toRat) (a.exponent + b.exponent))
    (whole : a.exponent + b.exponent ≤ 0) :
    (Tree.binary .product left right).value machine style settings unit =
      some (.finite (a.exactProduct b)) := by
  have high : a.exponent + b.exponent ≤ Context.maxExponent := whole.trans (by decide)
  have kept : Context.finish ⟨settings.precision⟩ (a.exactProduct b) = .ok (a.exactProduct b) :=
    Context.finish_of_room (Nat.lt_of_lt_of_le (by decide) settings.precision_ge)
      (by rw [Decimal.toRat_exactProduct]; exact room) high
  simp only [Tree.value, first, second, Option.bind_eq_bind, Option.bind_some, Operator.combine,
    Extended.mul, Decimal.mul, kept]
  rfl

/-- What an exact tree is worth: its rational value, which is also the sum of its terms. -/
structure Tree.IsWorth (machine : Binary64 → Binary64 → Binary64) (style : NumeralStyle)
    (settings : Settings) (unit : Int) (tree : Tree) (q : ℚ) (e : Int) (d : Decimal)
    (terms : List Decimal) : Prop where
  worth : tree.value machine style settings unit = some (.finite d)
  value : d.toRat = q
  exponent : d.exponent = e
  whole : e ≤ 0
  summands : tree.summands.map (Tree.value machine style settings unit) =
    terms.map fun term => some (.finite term)
  sum : d.IsSum terms

theorem Tree.IsWorth.single {d : Decimal}
    (worth : tree.value machine style settings unit = some (.finite d)) (value : d.toRat = q)
    (exponent : d.exponent = e) (whole : e ≤ 0) (single : tree.summands = [tree]) :
    tree.IsWorth machine style settings unit q e d [d] :=
  ⟨worth, value, exponent, whole, by simp [single, worth], .singleton d⟩

/-- Induction over the tree: each operation has exact operands, and room for its result. -/
theorem Tree.Exact.exists_isWorth (machine : Binary64 → Binary64 → Binary64) (style : NumeralStyle)
    (unit : Int) (exact : tree.Exact settings.precision q e) (written : tree.IsWritten) :
    ∃ d terms, tree.IsWorth machine style settings unit q e d terms := by
  induction exact with
  | literal number => exact ⟨number, _, .single rfl rfl rfl written rfl⟩
  | plus operand ih =>
    obtain ⟨d, _, known⟩ := ih written
    exact ⟨d, _, .single known.worth known.value known.exponent known.whole rfl⟩
  | minus operand ih =>
    obtain ⟨d, _, known⟩ := ih written
    exact ⟨d.negate, _, .single (value_minus known.worth) (by rw [Decimal.toRat_negate, known.value])
      known.exponent known.whole rfl⟩
  | sum first second room leftIh rightIh =>
    obtain ⟨a, front, left⟩ := leftIh written.1
    obtain ⟨b, back, right⟩ := rightIh written.2
    obtain ⟨rfl, rfl⟩ : a.toRat = _ ∧ a.exponent = _ := ⟨left.value, left.exponent⟩
    obtain ⟨rfl, rfl⟩ : b.toRat = _ ∧ b.exponent = _ := ⟨right.value, right.exponent⟩
    have whole : min a.exponent b.exponent ≤ 0 := min_le_of_left_le left.whole
    exact ⟨a.exactSum b, front ++ back,
      { worth := value_sum left.worth right.worth room whole
        value := Decimal.toRat_exactSum a b
        exponent := rfl
        whole
        summands := by simp only [summands, List.map_append, left.summands, right.summands]
        sum := left.sum.add right.sum }⟩
  | difference first second room leftIh rightIh =>
    obtain ⟨a, front, left⟩ := leftIh written.1
    obtain ⟨b, _, right⟩ := rightIh written.2
    obtain ⟨rfl, rfl⟩ : a.toRat = _ ∧ a.exponent = _ := ⟨left.value, left.exponent⟩
    obtain ⟨rfl, rfl⟩ : b.toRat = _ ∧ b.exponent = _ := ⟨right.value, right.exponent⟩
    have whole : min a.exponent b.exponent ≤ 0 := min_le_of_left_le left.whole
    exact ⟨a.exactSum b.negate, front ++ [b.negate],
      { worth := value_difference left.worth right.worth room whole
        value := by rw [Decimal.toRat_exactSum, Decimal.toRat_negate, sub_eq_add_neg]
        exponent := rfl
        whole
        summands := by
          simp only [summands, List.map_append, left.summands, List.map_cons, List.map_nil,
            value_minus right.worth]
        sum := left.sum.add (.singleton _) }⟩
  | product first second room leftIh rightIh =>
    obtain ⟨a, _, left⟩ := leftIh written.1
    obtain ⟨b, _, right⟩ := rightIh written.2
    obtain ⟨rfl, rfl⟩ : a.toRat = _ ∧ a.exponent = _ := ⟨left.value, left.exponent⟩
    obtain ⟨rfl, rfl⟩ : b.toRat = _ ∧ b.exponent = _ := ⟨right.value, right.exponent⟩
    have whole : a.exponent + b.exponent ≤ 0 := add_nonpos left.whole right.whole
    exact ⟨a.exactProduct b, _, .single (value_product left.worth right.worth room whole)
      (Decimal.toRat_exactProduct a b) rfl whole rfl⟩

/-- Trees with the same terms are worth the same decimal. -/
theorem Tree.IsWorth.eq_of_perm {other : Tree} {p : ℚ} {f : Int} {front back : List Decimal}
    (first : tree.IsWorth machine style settings unit q e a front)
    (second : other.IsWorth machine style settings unit p f b back)
    (same : tree.summands.Perm other.summands) : a = b := by
  have terms := same.map (Tree.value machine style settings unit)
  rw [first.summands, second.summands] at terms
  refine first.sum.eq_of_perm second.sum ((List.map_perm_map_iff fun x y equal => ?_).mp terms)
  exact Extended.finite.inj (Option.some.inj equal)

end Value

/-- Without such an arithmetic, or a unit in it, every text fails in the same way. -/
theorem evaluate_unready {machine : Binary64 → Binary64 → Binary64} {nesting : Nat}
    {style : NumeralStyle} {settings : Settings} (unready : ¬(settings.precision ≤ Context.maxPrecision ∧
      style.fractionDigits ≤ 2 * (999999 + settings.precision))) (text other : Text) :
    evaluate machine nesting style settings text = evaluate machine nesting style settings other := by
  by_cases precise : settings.precision ≤ Context.maxPrecision
  · have beyond : 2 * (999999 + settings.precision) < style.fractionDigits := by omega
    rw [evaluate_precise text precise, evaluate_precise other precise]
    simp only [Context.unitExponent, beyond, if_true]
    rfl
  · rw [evaluate_imprecise text (by omega), evaluate_imprecise other (by omega)]

/-- Sums, differences and products are exact where every result has room. A text of them is worth its
rational value, as soon as there is such an arithmetic, and the unit of the fraction digits in it; and
two texts that add up the same terms are worth the same decimal. -/
theorem evaluate_exact (machine : Binary64 → Binary64 → Binary64) (nesting : Nat)
    (style : NumeralStyle) (plain : style.PartsOperands) (settings : Settings) (tree : Tree)
    (text : Text) (q : ℚ) (e : Int)
    (rendered : Renders style .expression (nesting + 1) tree text)
    (exact : tree.Exact settings.precision q e) :
    (∃ d : Decimal, d.toRat = q ∧ d.exponent = e ∧
      (evaluate machine nesting style settings text = .ok (.finite d) ↔
        settings.precision ≤ Context.maxPrecision ∧
          style.fractionDigits ≤ 2 * (999999 + settings.precision))) ∧
    ∀ other otherText p f, Renders style .expression (nesting + 1) other otherText →
      other.Exact settings.precision p f → tree.summands.Perm other.summands →
      evaluate machine nesting style settings text = evaluate machine nesting style settings otherText := by
  by_cases ready : settings.precision ≤ Context.maxPrecision ∧
      style.fractionDigits ≤ 2 * (999999 + settings.precision)
  · obtain ⟨unit, formed⟩ : ∃ unit,
        Context.unitExponent ⟨settings.precision⟩ style.fractionDigits = .ok unit :=
      Context.exists_unitExponent_iff.mpr ready.2
    have found {other : Tree} {otherText : Text} {d : Decimal}
        (rendered : Renders style .expression (nesting + 1) other otherText)
        (worth : other.value machine style settings unit = some (.finite d)) :
        evaluate machine nesting style settings otherText = .ok (.finite d) :=
      (evaluate_eq_ok_iff_renders machine nesting style plain settings otherText _).mpr
        ⟨ready.1, unit, formed, other, rendered, worth⟩
    obtain ⟨d, terms, known⟩ := exact.exists_isWorth machine style unit rendered.isWritten
    refine ⟨⟨d, known.value, known.exponent, iff_of_true (found rendered known.worth) ready⟩, ?_⟩
    intro other otherText p f otherRendered otherExact same
    obtain ⟨c, otherTerms, otherKnown⟩ := otherExact.exists_isWorth machine style unit
      otherRendered.isWritten
    rw [found rendered known.worth, found otherRendered otherKnown.worth,
      known.eq_of_perm otherKnown same]
  · obtain ⟨d, terms, known⟩ := exact.exists_isWorth machine style 0 rendered.isWritten
    refine ⟨⟨d, known.value, known.exponent, iff_of_false (fun given => ready ?_) ready⟩,
      fun _ otherText _ _ _ _ _ => evaluate_unready ready text otherText⟩
    obtain ⟨precise, unit, formed, _⟩ :=
      (evaluate_eq_ok_iff_renders machine nesting style plain settings text _).mp given
    exact ⟨precise, Context.exists_unitExponent_iff.mp ⟨unit, formed⟩⟩

/-- Binary numbers would round here. -/
theorem evaluate_exact_of_tenths :
    ∃ tree other : Tree,
      Renders (.western "en_US" 2 .halfEven) .expression (standardNesting + 1) tree "0.1+0.2".toList ∧
      Renders (.western "en_US" 2 .halfEven) .expression (standardNesting + 1) other "0.2+0.1".toList ∧
      tree.Exact 100 (3 / 10) (-1) ∧ other.Exact 100 (3 / 10) (-1) ∧
      tree.summands.Perm other.summands ∧
      (∃ d : Decimal, d.toRat = 3 / 10 ∧ d.exponent = -1 ∧
        evaluate Binary64.machinePower standardNesting (.western "en_US" 2 .halfEven) {} "0.1+0.2".toList =
          .ok (.finite d)) ∧
      evaluate Binary64.machinePower standardNesting (.western "en_US" 2 .halfEven) {} "0.1+0.2".toList =
        evaluate Binary64.machinePower standardNesting (.western "en_US" 2 .halfEven) {} "0.2+0.1".toList := by
  have plain : (NumeralStyle.western "en_US" 2 .halfEven).PartsOperands := by decide
  have tenth : Renders (.western "en_US" 2 .halfEven) .primary (standardNesting + 1)
      (.literal ⟨false, 1, -1⟩) "0.1".toList := .of_read plain.partsDigits rfl rfl
  have fifth : Renders (.western "en_US" 2 .halfEven) .primary (standardNesting + 1)
      (.literal ⟨false, 2, -1⟩) "0.2".toList := .of_read plain.partsDigits rfl rfl
  have room : Fits 100 (3 / 10) (-1) :=
    .of_digits (by norm_num [abs_of_pos]) (by decide) (by decide)
  have total : Decimal.toRat ⟨false, 1, -1⟩ + Decimal.toRat ⟨false, 2, -1⟩ = 3 / 10 := by
    norm_num [Decimal.toRat]
  have exact : Tree.Exact 100 (.binary .sum (.literal ⟨false, 1, -1⟩) (.literal ⟨false, 2, -1⟩))
      (3 / 10) (-1) := by
    rw [← total] at room ⊢
    exact .sum (.literal _) (.literal _) room
  have reversed : Tree.Exact 100 (.binary .sum (.literal ⟨false, 2, -1⟩) (.literal ⟨false, 1, -1⟩))
      (3 / 10) (-1) := by
    rw [← total, add_comm] at room ⊢
    exact .sum (.literal _) (.literal _) room
  have first := tenth.sum_of_primaries fifth
  have second := fifth.sum_of_primaries tenth
  obtain ⟨⟨d, value, place, worth⟩, reordered⟩ :=
    evaluate_exact Binary64.machinePower standardNesting _ plain {} _ _ _ _ first exact
  exact ⟨_, _, first, second, exact, reversed, .swap _ _ _, ⟨d, value, place, worth.mpr (by decide)⟩,
    reordered _ _ _ _ second reversed (.swap _ _ _)⟩

/-- A separator that is an operator belongs to the numeral, and a unit of the fraction digits that is
out of range, like a precision that no arithmetic has, fails without a look at the text. -/
theorem evaluate_inexact_of_unfit :
    ∃ (grouped : NumeralStyle) (boundless : Settings) (tree : Tree),
      tree.Exact 100 3 0 ∧ tree.Exact boundless.precision 3 0 ∧
      Renders grouped .expression (standardNesting + 1) tree "1+2".toList ∧
      evaluate Binary64.machinePower standardNesting grouped {} "1+2".toList = .ok (.finite (.ofNat 12)) ∧
      Renders (.western "en_US" 3000000 .halfEven) .expression (standardNesting + 1) tree "1+2".toList ∧
      evaluate Binary64.machinePower standardNesting (.western "en_US" 3000000 .halfEven) {} "1+2".toList =
        .error (.impossible (.signal .invalidOperation) none) ∧
      Renders (.western "en_US" 2 .halfEven) .expression (standardNesting + 1) tree "1+2".toList ∧
      evaluate Binary64.machinePower standardNesting (.western "en_US" 2 .halfEven) boundless "1+2".toList =
        .error .precisionOutOfRange := by
  let grouped : NumeralStyle :=
    { locale := "en_US", point := '.', group := '+', groups := [['+']], groupLengths := [3]
      fractionDigits := 2, rounding := .halfEven, group_mem := by decide, point_not_mem := by decide
      lengths_pos := by decide }
  have rendered (style : NumeralStyle) (parts : style.PartsDigits)
      (one : Numeral.read style ['1'] = .ok (.ofNat 1))
      (two : Numeral.read style ['2'] = .ok (.ofNat 2)) :
      Renders style .expression (standardNesting + 1)
        (.binary .sum (.literal (.ofNat 1)) (.literal (.ofNat 2))) "1+2".toList :=
    (Renders.of_read parts one rfl).sum_of_primaries (.of_read parts two rfl)
  have exact (precision : Nat) (pos : 1 ≤ precision) :
      Tree.Exact precision (.binary .sum (.literal (.ofNat 1)) (.literal (.ofNat 2))) 3 0 := by
    have value : (Decimal.ofNat 1).toRat + (Decimal.ofNat 2).toRat = 3 := by
      norm_num [Decimal.toRat, Decimal.ofNat]
    have small {exponent : Int} (above : 1 ≤ exponent) : |(3 : ℚ)| < 10 ^ exponent :=
      lt_of_lt_of_le (by norm_num : |(3 : ℚ)| < 10 ^ (1 : Int))
        (zpow_le_zpow_right₀ (by norm_num) above)
    have room : Fits precision 3 0 := ⟨small (by omega), by decide, small (by decide)⟩
    rw [← value] at room ⊢
    exact .sum (.literal _) (.literal _) room
  exact ⟨grouped, { precision := 1000000000000000000 }, _, exact 100 (by decide),
    exact _ (by decide), rendered grouped (by decide) rfl rfl, rfl,
    rendered _ (by decide) rfl rfl, rfl,
    rendered _ (by decide) rfl rfl, rfl⟩

end Expression

end MonetaryText

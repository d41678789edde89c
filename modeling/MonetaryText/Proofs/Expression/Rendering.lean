import MonetaryText.Expression.Token
import MonetaryText.Proofs.Expression.Reading

/-!
Renderings are what expressions are read from, in styles whose separators are neither digits nor
operators nor parentheses. What is taken from a text is a rendering of its tree
(`Parses.exists_rendering`), and each rendering is taken where a character follows that may follow its
place (`Renders.complete`). Main statement: an expression has a value exactly when its text renders a
tree that has this value, nested no deeper than the readers go (`evaluate_eq_ok_iff_renders`).
-/

namespace MonetaryText

/-- No separator is a digit, an operator or a parenthesis. -/
def NumeralStyle.PartsOperands (style : NumeralStyle) : Prop :=
  ∀ c ∈ style.separators,
    c.isDigit = false ∧ c ∉ Expression.operators ∧ c ≠ '(' ∧ c ≠ ')'

instance (style : NumeralStyle) : Decidable style.PartsOperands :=
  List.decidableBAll _ _

theorem NumeralStyle.PartsOperands.partsDigits {style : NumeralStyle}
    (plain : style.PartsOperands) : style.PartsDigits := fun c member => (plain c member).1

theorem NumeralStyle.PartsOperands.isNumeralChar_eq_false {style : NumeralStyle}
    (plain : style.PartsOperands) {c : Char}
    (known : c ∈ Expression.operators ∨ c = '(' ∨ c = ')') : style.isNumeralChar c = false := by
  have fixed : ∀ c ∈ '(' :: ')' :: Expression.operators,
      c.isDigit = false ∧ c ≠ Separator.noBreakSpace :=
    Text.forall_mem_of_all (by decide)
  have member : c ∈ '(' :: ')' :: Expression.operators := by
    rcases known with operator | rfl | rfl <;> simp_all
  obtain ⟨noDigit, noSpace⟩ := fixed c member
  refine Bool.eq_false_iff.mpr ?_
  rw [Ne, NumeralStyle.isNumeralChar_iff]
  rintro (digit | separates | space)
  · rw [noDigit] at digit
    cases digit
  · obtain ⟨_, noOperator, noOpening, noClosing⟩ := plain c separates
    rcases known with operator | same | same
    · exact noOperator operator
    · exact noOpening same
    · exact noClosing same
  · exact noSpace space

namespace Expression

open NumeralStyle (PartsOperands)

/-- What is taken from a text is a rendering in front of the rest. -/
theorem Parses.exists_rendering {style : NumeralStyle} (plain : style.PartsOperands) {place : Place}
    {levels : Nat} {tree : Tree} {text rest : Text}
    (parsed : Parses style place levels tree text rest) :
    ∃ front, text = front ++ rest ∧ Renders style place levels tree front := by
  induction parsed with
  | @literal levels before run rest c number front digit inside ends accepted =>
    obtain ⟨body, after, blank, split, written⟩ :=
      Numeral.exists_writes_of_read plain.partsDigits digit accepted
    refine ⟨before ++ body ++ after, ?_, .literal front blank written⟩
    rw [List.append_assoc before, ← split]
    simp
  | @parentheses levels before text rest tree front inner ih =>
    obtain ⟨body, rfl, rendered⟩ := ih
    exact ⟨before ++ '(' :: body ++ ')' :: [], by simp, .parentheses front rfl rendered⟩
  | bare only ih =>
    obtain ⟨front, split, rendered⟩ := ih
    exact ⟨front, split, .bare rendered⟩
  | @plus levels before text rest tree front operand ih =>
    obtain ⟨body, rfl, rendered⟩ := ih
    exact ⟨before ++ '+' :: body, by simp, .plus front rendered⟩
  | @minus levels before text rest tree front operand ih =>
    obtain ⟨body, rfl, rendered⟩ := ih
    exact ⟨before ++ '-' :: body, by simp, .minus front rendered⟩
  | power base exponent baseText exponentText =>
    obtain ⟨front, rfl, left⟩ := baseText
    obtain ⟨back, rfl, right⟩ := exponentText
    exact ⟨front ++ '^' :: back, by simp, .power left right⟩
  | factor only ih =>
    obtain ⟨front, split, rendered⟩ := ih
    exact ⟨front, split, .factor rendered⟩
  | @product levels c operator left right text middle rest known first last firstText lastText =>
    obtain ⟨front, rfl, left⟩ := firstText
    obtain ⟨back, rfl, right⟩ := lastText
    exact ⟨front ++ c :: back, by simp, .product known left right⟩
  | term only ih =>
    obtain ⟨front, split, rendered⟩ := ih
    exact ⟨front, split, .term rendered⟩
  | @sum levels c operator left right text middle rest known first last firstText lastText =>
    obtain ⟨front, rfl, left⟩ := firstText
    obtain ⟨back, rfl, right⟩ := lastText
    exact ⟨front ++ c :: back, by simp, .sum known left right⟩
  | @blanks place levels tree text after rest back only ih =>
    obtain ⟨front, rfl, rendered⟩ := ih
    exact ⟨front ++ after, by simp, rendered.append_blanks back⟩

/-! ### What may follow -/

/-- The characters that may stand behind what is read at a place. -/
def Place.follow : Place → List Char
  | expression => [')']
  | term => [')', '+', '-']
  | factor => [')', '+', '-', '*', '/']
  | primary => [')', '+', '-', '*', '/', '^']

def Follows (place : Place) (rest : Text) : Prop := ∀ c, rest.head? = some c → c ∈ place.follow

namespace Follows

variable {place : Place} {rest : Text}

theorem mono {other : Place} (follows : Follows place rest)
    (subset : ∀ c ∈ place.follow, c ∈ other.follow) : Follows other rest :=
  fun c head => subset c (follows c head)

theorem primary (follows : Follows place rest) : Follows .primary rest :=
  follows.mono (Text.forall_mem_of_all (by cases place <;> decide))

/-- A chain ends where only others than its operators may follow. -/
theorem operator?_eq_none {operator? : Char → Option Operator} (follows : Follows place rest)
    (others : ∀ c ∈ place.follow, operator? c = none) : rest.head?.bind operator? = none := by
  rw [Option.bind_eq_none_iff]
  exact fun c head => others c (follows c head)

/-- Whatever follows is neither a blank nor part of a numeral. -/
theorem ends {style : NumeralStyle} (plain : style.PartsOperands) (follows : Follows place rest) :
    ∀ c, rest.head? = some c → Text.isBlank c = false ∧ style.isNumeralChar c = false := by
  intro c head
  have fixed : ∀ c ∈ Place.primary.follow,
      Text.isBlank c = false ∧ (c ∈ operators ∨ c = '(' ∨ c = ')') :=
    Text.forall_mem_of_all (by decide)
  obtain ⟨inside, known⟩ := fixed c (follows.primary c head)
  exact ⟨inside, plain.isNumeralChar_eq_false known⟩

theorem of_cons {c : Char} (member : c ∈ place.follow) (rest : Text) : Follows place (c :: rest) := by
  rintro d ⟨⟩
  exact member

end Follows

/-! ### Completeness -/

section Complete

variable {machine : Binary64 → Binary64 → Binary64} {style : NumeralStyle} {settings : Settings}
  {unit : Int}

/-- What the readers do with a rendering at a place. Terms and expressions are chains, which may go on
behind it. -/
def Completes (machine : Binary64 → Binary64 → Binary64) (style : NumeralStyle) (settings : Settings)
    (unit : Int) (levels : Nat) (text : Text) (x : Extended) : Place → Prop
  | .primary => ∀ rest, Follows .primary rest →
      Takes (primary style (arithmetic machine style settings unit) (levels + 1)) text rest x
  | .factor => ∀ rest, Follows .factor rest →
      Takes (factor style (arithmetic machine style settings unit) (levels + 2)) text rest x
  | .term => ∀ rest, Follows .factor rest →
      Leads machine style settings unit
        (term style (arithmetic machine style settings unit) (levels + 3)) productOperator?
        (factor style (arithmetic machine style settings unit) (levels + 2)) text rest x
  | .expression => ∀ rest, Follows .term rest →
      Leads machine style settings unit
        (expression style (arithmetic machine style settings unit) (levels + 4)) sumOperator?
        (term style (arithmetic machine style settings unit) (levels + 3)) text rest x

/-- Behind a term no operator of a term follows, so that the chain ends. -/
theorem Completes.term_takes {levels : Nat} {text rest : Text} {x : Extended}
    (completes : Completes machine style settings unit levels text x .term)
    (follows : Follows .term rest) :
    Takes (term style (arithmetic machine style settings unit) (levels + 3)) text rest x :=
  (completes rest (follows.mono (Text.forall_mem_of_all (by decide)))).takes
    (follows.operator?_eq_none (Text.forall_mem_of_all (by decide)))

theorem Completes.expression_takes {levels : Nat} {text rest : Text} {x : Extended}
    (completes : Completes machine style settings unit levels text x .expression)
    (follows : Follows .expression rest) :
    Takes (expression style (arithmetic machine style settings unit) (levels + 4)) text rest x :=
  (completes rest (follows.mono (Text.forall_mem_of_all (by decide)))).takes
    (follows.operator?_eq_none (Text.forall_mem_of_all (by decide)))

theorem Renders.unsigned {levels : Nat} {tree : Tree} {text : Text}
    (rendered : Renders style .primary levels tree text) : Unsigned text := by
  cases rendered with
  | @literal _ before text after number front back written =>
    obtain ⟨c, head, digit⟩ := written.head?_isDigit
    obtain ⟨rest, rfl⟩ := List.head?_eq_some_iff.mp head
    rw [List.append_assoc]
    exact .of_isDigit front digit
  | @parentheses _ before text after _ front back inner =>
    exact ⟨before, '(', text ++ ')' :: after, front, by simp, by decide, by decide, by decide⟩

/-- Each rendering of a tree with a value is taken as this value. -/
theorem Renders.complete (plain : style.PartsOperands) {place : Place} {levels : Nat} {tree : Tree}
    {text : Text} (rendered : Renders style place levels tree text) {x : Extended}
    (worth : tree.value machine style settings unit = some x) :
    Completes machine style settings unit levels text x place := by
  induction rendered generalizing x with
  | literal front back written =>
    cases worth
    obtain ⟨c, head, digit⟩ := written.head?_isDigit
    obtain ⟨run, rfl⟩ := List.head?_eq_some_iff.mp head
    have known : ∀ x ∈ run, style.isNumeralChar x = true := fun x member =>
      NumeralStyle.isNumeralChar_iff.mpr
        ((written.all x (List.mem_cons_of_mem c member)).imp_right .inl)
    exact fun rest follows => literal_takes _ front digit known back
      (Numeral.read_of_writes plain.partsDigits written) (follows.ends plain)
  | @parentheses levels before text after tree front back inner ih =>
    intro rest follows
    have closing : Follows .expression (')' :: (after ++ rest)) := Follows.of_cons (by decide) _
    have content := (ih worth).expression_takes closing
    exact parentheses_takes front back (fun c head => (follows.ends plain c head).1) content
  | bare only ih =>
    intro rest follows
    refine bare_takes only.unsigned (ih worth rest follows.primary) fun power => ?_
    exact absurd (follows '^' power) (by decide)
  | plus front operand ih =>
    exact fun rest follows => (sign_takes front (ih worth rest follows)).1
  | minus front operand ih =>
    obtain ⟨y, inner, rfl⟩ := Option.map_eq_some_iff.mp worth
    exact fun rest follows => (sign_takes front (ih inner rest follows)).2
  | @power levels first second front back base exponent left right =>
    obtain ⟨y, baseWorth, continued⟩ := Option.bind_eq_some_iff.mp worth
    obtain ⟨z, exponentWorth, combined⟩ := Option.bind_eq_some_iff.mp continued
    intro rest follows
    have behind : Follows .primary ('^' :: (back ++ rest)) := Follows.of_cons (by decide) _
    exact power_takes base.unsigned (left baseWorth _ behind) (right exponentWorth rest follows) combined
  | factor only ih => exact fun rest follows => Takes.leads productOperator? (ih worth rest follows)
  | @product levels c operator first second front back known _ _ left right =>
    obtain ⟨y, firstWorth, continued⟩ := Option.bind_eq_some_iff.mp worth
    obtain ⟨z, secondWorth, combined⟩ := Option.bind_eq_some_iff.mp continued
    intro rest follows
    have behind : Follows .factor (c :: (back ++ rest)) :=
      Follows.of_cons (by rcases eq_of_productOperator? known with rfl | rfl <;> decide) _
    exact (left firstWorth _ behind).step known (right secondWorth rest follows) combined
  | term only ih =>
    exact fun rest follows => Takes.leads sumOperator? ((ih worth).term_takes follows)
  | @sum levels c operator first second front back known _ _ left right =>
    obtain ⟨y, firstWorth, continued⟩ := Option.bind_eq_some_iff.mp worth
    obtain ⟨z, secondWorth, combined⟩ := Option.bind_eq_some_iff.mp continued
    intro rest follows
    have behind : Follows .term (c :: (back ++ rest)) :=
      Follows.of_cons (by rcases eq_of_sumOperator? known with rfl | rfl <;> decide) _
    exact (left firstWorth _ behind).step known ((right secondWorth).term_takes follows) combined

end Complete

/-- An expression has a value exactly when its text renders a tree that has this value. That takes a
precision that arithmetic can have, and a unit of the fraction digits within its range. -/
theorem evaluate_eq_ok_iff_renders (machine : Binary64 → Binary64 → Binary64) (nesting : Nat)
    (style : NumeralStyle) (plain : style.PartsOperands) (settings : Settings) (text : Text)
    (x : Extended) :
    evaluate machine nesting style settings text = .ok x ↔
      settings.precision ≤ Context.maxPrecision ∧
      ∃ unit, Context.unitExponent ⟨settings.precision⟩ style.fractionDigits = .ok unit ∧
        ∃ tree, Renders style .expression (nesting + 1) tree text ∧
          tree.value machine style settings unit = some x := by
  unfold evaluate
  by_cases fits : settings.precision ≤ Context.maxPrecision
  · have within : ¬Context.maxPrecision < settings.precision := by omega
    simp only [within, if_false, fits, true_and]
    constructor
    · intro given
      obtain ⟨unit, formed, given⟩ := Outcome.bind_eq_ok_iff.mp given
      obtain ⟨levels, tree, enough, parsed, worth⟩ := exists_parse given
      obtain rfl : levels = nesting + 1 := by omega
      obtain ⟨front, whole, rendered⟩ := parsed.exists_rendering plain
      rw [List.append_nil] at whole
      exact ⟨unit, Outcome.mapError_eq_ok_iff.mp formed, tree, whole ▸ rendered, worth⟩
    · rintro ⟨unit, formed, tree, rendered, worth⟩
      refine Outcome.bind_eq_ok_iff.mpr ⟨unit, Outcome.mapError_eq_ok_iff.mpr formed, ?_⟩
      have ending : Follows .expression [] := by
        rintro c ⟨⟩
      exact read_of_takes ((rendered.complete plain worth).expression_takes ending)
  · have beyond : Context.maxPrecision < settings.precision := by omega
    simp only [beyond, if_true, fits, false_and, iff_false]
    rintro ⟨⟩

/-- The sign is put to the power, and the product comes last. -/
theorem exists_rendering_of_signed_power :
    (NumeralStyle.western "en_US" 2 .halfEven).PartsOperands ∧
      ∃ tree, Renders (.western "en_US" 2 .halfEven) .expression (standardNesting + 1) tree
          ['-', '2', '^', '(', '3', '-', '1', ')', '*', ' ', '4'] ∧
        tree.value Binary64.machinePower (.western "en_US" 2 .halfEven) {} (-2) =
          some (.finite (.ofInt (-16))) := by
  have plain : (NumeralStyle.western "en_US" 2 .halfEven).PartsOperands := by decide
  obtain ⟨_, unit, formed, tree, rendered, worth⟩ :=
    (evaluate_eq_ok_iff_renders Binary64.machinePower standardNesting _ plain {} _ _).mp
      (show evaluate Binary64.machinePower standardNesting (.western "en_US" 2 .halfEven) {}
        ['-', '2', '^', '(', '3', '-', '1', ')', '*', ' ', '4'] =
          .ok (.finite (.ofInt (-16))) by rfl)
  cases formed
  exact ⟨plain, tree, rendered, worth⟩

/-- Where the unit of the fraction digits is out of range, an expression without a quotient has no
value either, although its tree has one. -/
theorem evaluate_one_of_unit_out_of_range :
    (NumeralStyle.western "en_US" 3000000 .halfEven).PartsOperands ∧
      Renders (.western "en_US" 3000000 .halfEven) .expression (standardNesting + 1) (.literal (.ofNat 1))
        ['1'] ∧
      (Tree.literal (.ofNat 1)).value Binary64.machinePower (.western "en_US" 3000000 .halfEven) {}
        (-3000000) = some (.finite (.ofNat 1)) ∧
      evaluate Binary64.machinePower standardNesting (.western "en_US" 3000000 .halfEven) {} ['1'] =
        .error (.impossible (.signal .invalidOperation) none) := by
  have plain : (NumeralStyle.western "en_US" 3000000 .halfEven).PartsOperands := by decide
  have one : Numeral.Writes (.western "en_US" 3000000 .halfEven) ['1'] (.ofNat 1) :=
    @Numeral.Writes.integer _ ['1'] [] ⟨by decide, Text.forall_mem_of_all (by decide)⟩
      (by rintro group ⟨⟩)
  exact ⟨plain, .term (.factor (.bare (@Renders.literal _ _ [] ['1'] [] _ rfl rfl one))), rfl, rfl⟩

end Expression

end MonetaryText

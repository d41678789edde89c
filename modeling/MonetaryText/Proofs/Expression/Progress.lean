import Mathlib.Logic.Relation
import MonetaryText.Proofs.Expression.Parse

/-!
Why the reading of an expression ends. What is read takes at least one character (`readers_forward`), so each
round of a loop and each part of a place that encloses it begin further on. A part that begins where its
reader does belongs to a place of a lower level. The characters that are left and the level therefore
bound the nesting (`need_lt_of_calls`), and a budget beyond that bound makes no difference
(`agrees_of_need_le`). Main statement: `readers_advance`.
-/

namespace MonetaryText.Expression

/-! ### Cursors -/

namespace Cursor

/-- The other cursor stands in the same text, here or further on. -/
def Reaches (cursor later : Cursor) : Prop :=
  ∃ front, cursor.rest = front ++ later.rest ∧ later.position = cursor.position + front.length

def Advances (cursor later : Cursor) : Prop :=
  cursor.Reaches later ∧ cursor.position < later.position

variable {cursor middle later : Cursor} {c : Char}

theorem Reaches.refl (cursor : Cursor) : cursor.Reaches cursor := ⟨[], rfl, rfl⟩

theorem Reaches.trans (first : cursor.Reaches middle) (second : middle.Reaches later) :
    cursor.Reaches later := by
  obtain ⟨front, split, place⟩ := first
  obtain ⟨back, rest, position⟩ := second
  refine ⟨front ++ back, by rw [split, rest, List.append_assoc], ?_⟩
  rw [position, place, List.length_append, Nat.add_assoc]

/-- The end of the text stays where it is. -/
theorem Reaches.end_eq (reaches : cursor.Reaches later) :
    later.position + later.rest.length = cursor.position + cursor.rest.length := by
  obtain ⟨front, split, place⟩ := reaches
  rw [split, place, List.length_append, Nat.add_assoc]

theorem Reaches.position_le (reaches : cursor.Reaches later) : cursor.position ≤ later.position := by
  obtain ⟨front, _, place⟩ := reaches
  omega

theorem Advances.length_lt (advances : cursor.Advances later) :
    later.rest.length < cursor.rest.length := by
  have ends := advances.1.end_eq
  have further := advances.2
  omega

theorem Advances.trans_reaches (first : cursor.Advances middle) (second : middle.Reaches later) :
    cursor.Advances later :=
  ⟨first.1.trans second, Nat.lt_of_lt_of_le first.2 second.position_le⟩

theorem Reaches.trans_advances (first : cursor.Reaches middle) (second : middle.Advances later) :
    cursor.Advances later :=
  ⟨first.trans second.1, Nat.lt_of_le_of_lt first.position_le second.2⟩

theorem reaches_skipBlanks (cursor : Cursor) : cursor.Reaches cursor.skipBlanks :=
  ⟨cursor.rest.takeWhile Text.isBlank, List.takeWhile_append_dropWhile.symm, rfl⟩

theorem advances_advance (head : cursor.rest.head? = some c) : cursor.Advances (cursor.advance 1) :=
  ⟨⟨[c], rest_eq_cons head, rfl⟩, Nat.lt_succ_self _⟩

theorem advances_skipBlanks (head : cursor.skipBlanks.rest.head? = some c) :
    cursor.Advances (cursor.skipBlanks.advance 1) :=
  cursor.reaches_skipBlanks.trans_advances (advances_advance head)

theorem Advances.of_drop {text : Text} {position : Nat}
    (advances : Advances ⟨position, text.drop position⟩ later) :
    position < later.position ∧ later.position ≤ text.length ∧
      later.rest = text.drop later.position := by
  obtain ⟨⟨front, split, place⟩, further⟩ := advances
  simp only at split place further
  have whole := congrArg List.length split
  rw [List.length_drop, List.length_append] at whole
  refine ⟨further, by omega, ?_⟩
  rw [place, ← List.drop_drop, split, List.drop_left]

end Cursor

/-! ### What is read -/

section Readers

variable {α : Type} (style : NumeralStyle) (operations : Operations α)

def Place.reader : Place → Nat → Reader α
  | expression => Expression.expression style operations
  | term => Expression.term style operations
  | factor => Expression.factor style operations
  | primary => Expression.primary style operations

/-- The places that are loops, of which operands and with which operators. -/
inductive Place.Loops : Place → Place → (Char → Option Operator) → Prop where
  | sum : Loops .expression .term sumOperator?
  | product : Loops .term .factor productOperator?

/-- What a reader leaves is further on than where it began. -/
def Forward (reader : Reader α) : Prop :=
  ∀ cursor x later, reader cursor = .ok (x, later) → cursor.Advances later

variable {style operations} {inner outer : Place} {operator? : Char → Option Operator}
  {operand : Reader α}

theorem chain_reaches (forward : Forward operand) {fuel : Nat} {x y : α} {cursor last : Cursor}
    (given : chain operations operator? operand fuel x cursor = .ok (y, last)) :
    cursor.Reaches last := by
  induction fuel generalizing x cursor with
  | zero =>
    cases given
    exact .refl _
  | succ fuel ih =>
    unfold chain at given
    simp only at given
    split at given
    · cases given
      exact cursor.reaches_skipBlanks
    · rename_i operator found
      obtain ⟨c, head, _⟩ := Option.bind_eq_some_iff.mp found
      obtain ⟨⟨z, later⟩, read, given⟩ := Outcome.bind_eq_ok_iff.mp given
      obtain ⟨value, _, given⟩ := Outcome.bind_eq_ok_iff.mp given
      exact ((Cursor.advances_skipBlanks head).1.trans (forward _ _ _ read).1).trans (ih given)

theorem chain_of_rest_nil {cursor : Cursor} (ends : cursor.rest = []) (fuel : Nat) (x : α) :
    chain operations operator? operand fuel x cursor = .ok (x, cursor) := by
  obtain ⟨position, rest⟩ := cursor
  obtain rfl : rest = [] := ends
  cases fuel <;> rfl

/-- More fuel than there are characters makes no difference to a loop. -/
theorem chain_eq_chain (forward : Forward operand) {fuel other : Nat} {x : α} {cursor : Cursor}
    (enough : cursor.rest.length ≤ fuel) (more : cursor.rest.length ≤ other) :
    chain operations operator? operand fuel x cursor =
      chain operations operator? operand other x cursor := by
  induction fuel generalizing other x cursor with
  | zero =>
    have ends := List.length_eq_zero_iff.mp (Nat.le_zero.mp enough)
    rw [chain_of_rest_nil ends, chain_of_rest_nil ends]
  | succ fuel ih =>
    cases other with
    | zero =>
      have ends := List.length_eq_zero_iff.mp (Nat.le_zero.mp more)
      rw [chain_of_rest_nil ends, chain_of_rest_nil ends]
    | succ other =>
      unfold chain
      simp only
      split
      · rfl
      · rename_i operator found
        obtain ⟨c, head, _⟩ := Option.bind_eq_some_iff.mp found
        refine Outcome.bind_congr fun (y, later) read => Outcome.bind_congr fun z _ => ?_
        have advances := (Cursor.advances_skipBlanks head).trans_reaches (forward _ _ _ read).1
        have fewer : later.rest.length < cursor.rest.length := advances.length_lt
        exact ih (show later.rest.length ≤ fuel by omega) (show later.rest.length ≤ other by omega)

theorem Place.Loops.reader_succ (loops : outer.Loops inner operator?) (budget : Nat)
    (cursor : Cursor) :
    outer.reader style operations (budget + 1) cursor =
      inner.reader style operations budget cursor >>= fun (x, later) =>
        chain operations operator? (inner.reader style operations budget) later.rest.length x
          later := by
  cases loops <;> rfl

theorem Place.Loops.forward (loops : outer.Loops inner operator?) {budget : Nat}
    (forward : Forward (inner.reader style operations budget)) :
    Forward (outer.reader style operations (budget + 1)) := by
  intro cursor x last given
  rw [loops.reader_succ] at given
  obtain ⟨⟨first, later⟩, read, given⟩ := Outcome.bind_eq_ok_iff.mp given
  exact (forward _ _ _ read).trans_reaches (chain_reaches forward given)

theorem numeral_advances {cursor later : Cursor} {c : Char} {x : α}
    (head : cursor.rest.head? = some c) (known : style.isNumeralChar c = true)
    (given : numeral style operations cursor = .ok (x, later)) : cursor.Advances later := by
  obtain ⟨value, _, given⟩ := Outcome.bind_eq_ok_iff.mp given
  cases given
  refine ⟨⟨cursor.rest.takeWhile style.isNumeralChar, ?_, rfl⟩, ?_⟩
  · rw [Cursor.rest_advance_takeWhile, List.takeWhile_append_dropWhile]
  · have run : 0 < (cursor.rest.takeWhile style.isNumeralChar).length := by
      rw [Cursor.rest_eq_cons head, List.takeWhile_cons_of_pos known]
      exact Nat.succ_pos _
    exact Nat.lt_add_of_pos_right run

theorem factor_forward {budget : Nat} (factors : Forward (factor style operations budget))
    (primaries : Forward (primary style operations budget)) :
    Forward (factor style operations (budget + 1)) := by
  intro cursor x last given
  unfold factor at given
  simp only at given
  split at given
  · rename_i head
    exact (Cursor.advances_skipBlanks head).trans_reaches (factors _ _ _ given).1
  · rename_i head
    obtain ⟨⟨y, later⟩, read, given⟩ := Outcome.bind_eq_ok_iff.mp given
    cases given
    exact (Cursor.advances_skipBlanks head).trans_reaches (factors _ _ _ read).1
  · obtain ⟨⟨y, later⟩, base, given⟩ := Outcome.bind_eq_ok_iff.mp given
    have advances := cursor.reaches_skipBlanks.trans_advances (primaries _ _ _ base)
    simp only at given
    split at given
    · rename_i head
      obtain ⟨⟨z, behind⟩, exponent, given⟩ := Outcome.bind_eq_ok_iff.mp given
      obtain ⟨power, _, given⟩ := Outcome.bind_eq_ok_iff.mp given
      cases given
      have passed := (Cursor.advances_skipBlanks head).trans_reaches (factors _ _ _ exponent).1
      exact advances.trans_reaches passed.1
    · cases given
      exact advances.trans_reaches later.reaches_skipBlanks

theorem primary_forward {budget : Nat} (expressions : Forward (expression style operations budget)) :
    Forward (primary style operations (budget + 1)) := by
  intro cursor x last given
  unfold primary at given
  simp only at given
  split at given
  · cases given
  · rename_i head
    obtain ⟨⟨y, later⟩, read, given⟩ := Outcome.bind_eq_ok_iff.mp given
    have inside := (Cursor.advances_skipBlanks head).trans_reaches (expressions _ _ _ read).1
    simp only at given
    split at given
    · rename_i closing
      cases given
      exact inside.trans_reaches (Cursor.advances_skipBlanks closing).1
    · cases given
  · rename_i c _ head
    split at given
    · rename_i known
      exact cursor.reaches_skipBlanks.trans_advances (numeral_advances head known given)
    · cases given

theorem readers_forward (budget : Nat) (place : Place) :
    Forward (place.reader style operations budget) := by
  induction budget generalizing place with
  | zero =>
    intro cursor x later given
    cases place <;> cases given
  | succ budget ih =>
    cases place with
    | expression => exact Place.Loops.sum.forward (ih .term)
    | term => exact Place.Loops.product.forward (ih .factor)
    | factor => exact factor_forward (ih .factor) (ih .primary)
    | primary => exact primary_forward (ih .expression)

end Readers

/-! ### Calls -/

section Calls

variable {α : Type} (style : NumeralStyle) (operations : Operations α)

/-- Some reader of the place gives a value, and leaves the cursor there. -/
def Reads (place : Place) (cursor : Cursor) (x : α) (later : Cursor) : Prop :=
  ∃ budget, place.reader style operations budget cursor = .ok (x, later)

/-- The operator that a loop goes on with. -/
def Cursor.nextOperator? (cursor : Cursor) (operator? : Char → Option Operator) : Option Operator :=
  cursor.skipBlanks.rest.head?.bind operator?

/-- One round of a loop: an operator follows the value so far, then an operand, and so there is a new value. -/
inductive Round (inner : Place) (operator? : Char → Option Operator) :
    α × Cursor → α × Cursor → Prop where
  | mk {x y z : α} {cursor later : Cursor} {operator : Operator}
      (follows : cursor.nextOperator? operator? = some operator)
      (operand : Reads style operations inner (cursor.skipBlanks.advance 1) y later)
      (applied : operations.apply operator (cursor.skipBlanks.position + 1) x y = .ok z) :
      Round inner operator? (x, cursor) (z, later)

/-- What a loop has come to, behind its first operand and any rounds. -/
def Rounds (inner : Place) (operator? : Char → Option Operator) (start : Cursor)
    (state : α × Cursor) : Prop :=
  ∃ x later, Reads style operations inner start x later ∧
    Relation.ReflTransGen (Round style operations inner operator?) (x, later) state

/-- The parts that are read for a place: the operands of a loop one after the other, what stands behind a sign, a
base and then its exponent, or what stands behind an opening parenthesis. -/
inductive Calls : Place × Cursor → Place × Cursor → Prop where
  | first {outer inner : Place} {operator? : Char → Option Operator} {cursor : Cursor}
      (loops : outer.Loops inner operator?) : Calls (outer, cursor) (inner, cursor)
  | next {outer inner : Place} {operator? : Char → Option Operator} {start cursor : Cursor} {x : α}
      {operator : Operator} (loops : outer.Loops inner operator?)
      (rounds : Rounds style operations inner operator? start (x, cursor))
      (follows : cursor.nextOperator? operator? = some operator) :
      Calls (outer, start) (inner, cursor.skipBlanks.advance 1)
  | signed {cursor : Cursor} {c : Char} (sign : c = '+' ∨ c = '-')
      (head : cursor.skipBlanks.rest.head? = some c) :
      Calls (.factor, cursor) (.factor, cursor.skipBlanks.advance 1)
  | base {cursor : Cursor} (noPlus : cursor.skipBlanks.rest.head? ≠ some '+')
      (noMinus : cursor.skipBlanks.rest.head? ≠ some '-') :
      Calls (.factor, cursor) (.primary, cursor.skipBlanks)
  | exponent {cursor later : Cursor} {x : α} (noPlus : cursor.skipBlanks.rest.head? ≠ some '+')
      (noMinus : cursor.skipBlanks.rest.head? ≠ some '-')
      (base : Reads style operations .primary cursor.skipBlanks x later)
      (power : later.skipBlanks.rest.head? = some '^') :
      Calls (.factor, cursor) (.factor, later.skipBlanks.advance 1)
  | opening {cursor : Cursor} (head : cursor.skipBlanks.rest.head? = some '(') :
      Calls (.primary, cursor) (.expression, cursor.skipBlanks.advance 1)

/-- How loosely the operators of a place bind. -/
def Place.level : Place → Nat
  | primary => 1
  | factor => 2
  | term => 3
  | expression => 4

/-- Begins further on, or no earlier and at a lower level. -/
def Within (inside outside : Place × Cursor) : Prop :=
  outside.2.Reaches inside.2 ∧
    (outside.2.position < inside.2.position ∨ inside.1.level < outside.1.level)

/-- A budget that is enough to read a place at a cursor. -/
def need (call : Place × Cursor) : Nat := 4 * call.2.rest.length + call.1.level

variable {style operations} {inner outer : Place} {operator? : Char → Option Operator}

theorem Reads.advances {cursor later : Cursor} {x : α}
    (reads : Reads style operations inner cursor x later) : cursor.Advances later := by
  obtain ⟨budget, given⟩ := reads
  exact readers_forward budget inner _ _ _ given

theorem Cursor.advances_of_nextOperator? {cursor : Cursor} {operator : Operator}
    (follows : cursor.nextOperator? operator? = some operator) :
    cursor.Advances (cursor.skipBlanks.advance 1) := by
  obtain ⟨c, head, _⟩ := Option.bind_eq_some_iff.mp follows
  exact advances_skipBlanks head

theorem Round.advances {state next : α × Cursor}
    (round : Round style operations inner operator? state next) : state.2.Advances next.2 := by
  cases round with
  | mk follows operand applied =>
    exact (Cursor.advances_of_nextOperator? follows).trans_reaches operand.advances.1

theorem Rounds.advances {start : Cursor} {state : α × Cursor}
    (rounds : Rounds style operations inner operator? start state) : start.Advances state.2 := by
  obtain ⟨x, later, first, rounds⟩ := rounds
  induction rounds with
  | refl => exact first.advances
  | tail _ round ih => exact ih.trans_reaches round.advances.1

theorem Within.trans {inside between outside : Place × Cursor} (first : Within inside between)
    (second : Within between outside) : Within inside outside := by
  have near := first.1.position_le
  have far := second.1.position_le
  refine ⟨second.1.trans first.1, ?_⟩
  rcases first.2 with _ | _ <;> rcases second.2 with _ | _ <;> omega

theorem Place.Loops.level_lt (loops : outer.Loops inner operator?) : inner.level < outer.level := by
  cases loops <;> decide

theorem Cursor.Advances.within {cursor later : Cursor} (advances : cursor.Advances later)
    (inside outside : Place) : Within (inside, later) (outside, cursor) :=
  ⟨advances.1, .inl advances.2⟩

/-- Only the first part of a loop and the base of a power may begin where their reader does. -/
theorem Calls.within {call caller : Place × Cursor} (calls : Calls style operations caller call) :
    Within call caller := by
  cases calls with
  | first loops => exact ⟨.refl _, .inr loops.level_lt⟩
  | next loops rounds follows =>
    have passed := rounds.advances.trans_reaches (Cursor.advances_of_nextOperator? follows).1
    exact passed.within _ _
  | signed _ head | opening head => exact (Cursor.advances_skipBlanks head).within _ _
  | base => exact ⟨Cursor.reaches_skipBlanks _, .inr (Nat.lt_succ_self 1)⟩
  | exponent _ _ base power =>
    have operand := (Cursor.reaches_skipBlanks _).trans_advances base.advances
    exact (operand.trans_reaches (Cursor.advances_skipBlanks power).1).within _ _

theorem within_of_transGen {call caller : Place × Cursor}
    (calls : Relation.TransGen (Calls style operations) caller call) : Within call caller := by
  induction calls with
  | single calls => exact calls.within
  | tail _ calls ih => exact calls.within.trans ih

theorem Place.level_pos (place : Place) : 0 < place.level := by
  cases place <;> decide

theorem Place.level_le (place : Place) : place.level ≤ 4 := by
  cases place <;> decide

theorem need_lt_of_calls {call caller : Place × Cursor}
    (calls : Calls style operations caller call) : need call < need caller := by
  obtain ⟨reaches, later⟩ := calls.within
  have ends := reaches.end_eq
  have le := reaches.position_le
  have most := call.1.level_le
  have least := caller.1.level_pos
  unfold need
  -- A character is worth as much as all levels together.
  rcases later with further | lower <;> omega

end Calls

/-! ### Budgets -/

section Budgets

variable {α β γ : Type}

/-- Both outcomes are the same, and do not say that the text is nested too deeply. -/
structure Agrees (outcome other : Except Failure β) : Prop where
  shallow : outcome ≠ tooDeep
  same : outcome = other

theorem Agrees.ok (x : β) : Agrees (.ok x) (.ok x) := ⟨nofun, rfl⟩

theorem Agrees.of_ne {outcome : Except Failure β} (shallow : outcome ≠ tooDeep) :
    Agrees outcome outcome := ⟨shallow, rfl⟩

/-- Where a position is told, the nesting is not what is wrong. -/
theorem Agrees.malformed (cause : Malformation) (position : Nat) :
    Agrees (.error (.malformed cause position) : Except Failure β)
      (.error (.malformed cause position)) :=
  .of_ne nofun

theorem Agrees.bind {step other : Except Failure β} {next following : β → Except Failure γ}
    (first : Agrees step other)
    (second : ∀ x, step = .ok x → Agrees (next x) (following x)) :
    Agrees (step >>= next) (other >>= following) := by
  obtain ⟨shallow, rfl⟩ := first
  cases step with
  | ok x => exact second x rfl
  | error failure =>
    refine .of_ne fun deep => shallow ?_
    cases deep
    rfl

/-- What all budgets agree on that are enough. -/
theorem Agrees.exists_outcome {attempt : Nat → Except Failure β} {enough : Nat}
    (agrees : ∀ budget, enough ≤ budget → Agrees (attempt budget) (attempt enough)) :
    ∃ outcome, outcome ≠ tooDeep ∧ ∀ budget, enough ≤ budget → attempt budget = outcome :=
  ⟨attempt enough, (agrees enough (Nat.le_refl enough)).shallow,
    fun budget more => (agrees budget more).same⟩

/-- Neither numerals nor operators are a matter of nesting. -/
structure Operations.Shallow (operations : Operations α) : Prop where
  numeral : ∀ position text, operations.numeral position text ≠ tooDeep
  apply : ∀ operator position x y, operations.apply operator position x y ≠ tooDeep

variable {style : NumeralStyle} {operations : Operations α} {place inner outer : Place}
  {operator? : Char → Option Operator} {budget other : Nat}

theorem chain_agrees (shallow : operations.Shallow) {start cursor : Cursor} {x : α} (fuel : Nat)
    (agree : ∀ cursor x operator, Rounds style operations inner operator? start (x, cursor) →
      cursor.nextOperator? operator? = some operator →
      Agrees (inner.reader style operations budget (cursor.skipBlanks.advance 1))
        (inner.reader style operations other (cursor.skipBlanks.advance 1)))
    (rounds : Rounds style operations inner operator? start (x, cursor)) :
    Agrees (chain operations operator? (inner.reader style operations budget) fuel x cursor)
      (chain operations operator? (inner.reader style operations other) fuel x cursor) := by
  induction fuel generalizing x cursor with
  | zero => exact .ok (x, cursor)
  | succ fuel ih =>
    unfold chain
    simp only
    split
    · exact .ok (x, cursor.skipBlanks)
    · rename_i operator follows
      refine (agree cursor x operator rounds follows).bind fun (y, later) operand => ?_
      refine (Agrees.of_ne (shallow.apply _ _ _ _)).bind fun z applied => ih ?_
      obtain ⟨first, behind, read, before⟩ := rounds
      exact ⟨first, behind, read, before.tail (.mk follows ⟨budget, operand⟩ applied)⟩

variable {cursor : Cursor}

theorem Place.Loops.agrees (loops : outer.Loops inner operator?) (shallow : operations.Shallow)
    (agree : ∀ call, Calls style operations (outer, cursor) call →
      Agrees (call.1.reader style operations budget call.2)
        (call.1.reader style operations other call.2)) :
    Agrees (outer.reader style operations (budget + 1) cursor)
      (outer.reader style operations (other + 1) cursor) := by
  rw [loops.reader_succ, loops.reader_succ]
  refine (agree _ (.first loops)).bind fun (x, later) read => ?_
  refine chain_agrees shallow _ ?_ ⟨x, later, ⟨budget, read⟩, .refl⟩
  exact fun cursor x operator rounds follows => agree _ (.next loops rounds follows)

theorem factor_agrees (shallow : operations.Shallow)
    (agree : ∀ call, Calls style operations (.factor, cursor) call →
      Agrees (call.1.reader style operations budget call.2)
        (call.1.reader style operations other call.2)) :
    Agrees (factor style operations (budget + 1) cursor)
      (factor style operations (other + 1) cursor) := by
  unfold factor
  simp only
  split
  · rename_i head
    exact agree _ (.signed (.inl rfl) head)
  · rename_i head
    exact (agree _ (.signed (.inr rfl) head)).bind fun _ _ => .ok _
  · rename_i noPlus noMinus
    refine (agree _ (.base noPlus noMinus)).bind ?_
    rintro ⟨x, later⟩ base
    simp only
    split
    · rename_i power
      refine (agree _ (.exponent noPlus noMinus ⟨budget, base⟩ power)).bind ?_
      rintro ⟨y, last⟩ -
      exact (Agrees.of_ne (shallow.apply _ _ _ _)).bind fun z _ => .ok (z, last)
    · exact .ok _

theorem primary_agrees (shallow : operations.Shallow)
    (agree : ∀ call, Calls style operations (.primary, cursor) call →
      Agrees (call.1.reader style operations budget call.2)
        (call.1.reader style operations other call.2)) :
    Agrees (primary style operations (budget + 1) cursor)
      (primary style operations (other + 1) cursor) := by
  unfold primary
  simp only
  split
  · exact .malformed _ _
  · rename_i head
    refine (agree _ (.opening head)).bind ?_
    rintro ⟨x, later⟩ -
    simp only
    split
    · exact .ok _
    · exact .malformed _ _
  · split
    · exact (Agrees.of_ne (shallow.numeral _ _)).bind fun x _ => .ok _
    · exact .malformed _ _

/-- With another budget, something else comes out only where it does for one of the parts. -/
theorem reader_agrees (shallow : operations.Shallow)
    (agree : ∀ call, Calls style operations (place, cursor) call →
      Agrees (call.1.reader style operations budget call.2)
        (call.1.reader style operations other call.2)) :
    Agrees (place.reader style operations (budget + 1) cursor)
      (place.reader style operations (other + 1) cursor) := by
  cases place with
  | expression => exact Place.Loops.sum.agrees shallow agree
  | term => exact Place.Loops.product.agrees shallow agree
  | factor => exact factor_agrees shallow agree
  | primary => exact primary_agrees shallow agree

theorem agrees_of_need_le (shallow : operations.Shallow) (enough : need (place, cursor) ≤ budget)
    (more : need (place, cursor) ≤ other) :
    Agrees (place.reader style operations budget cursor)
      (place.reader style operations other cursor) := by
  have positive : 0 < need (place, cursor) := Nat.lt_add_left _ place.level_pos
  induction budget generalizing place cursor other with
  | zero => omega
  | succ budget ih =>
    obtain ⟨other, rfl⟩ := Nat.exists_eq_succ_of_ne_zero (Nat.ne_of_gt (Nat.lt_of_lt_of_le positive more))
    refine reader_agrees shallow fun (part, further) calls => ?_
    have less := need_lt_of_calls calls
    have covered : need (part, further) ≤ budget := by omega
    have coveredMore : need (part, further) ≤ other := by omega
    exact ih covered coveredMore (Nat.lt_add_left _ part.level_pos)

/-- The end of a whole text is looked at without going deeper. -/
theorem read_agrees (shallow : operations.Shallow) {text : Text}
    (enough : need (.expression, ⟨0, text⟩) ≤ budget) (more : need (.expression, ⟨0, text⟩) ≤ other) :
    Agrees (read style operations budget text) (read style operations other text) := by
  refine (agrees_of_need_le shallow enough more).bind ?_
  rintro ⟨x, later⟩ -
  simp only
  split
  · exact .ok x
  · exact .malformed _ _
  · exact .malformed _ _

end Budgets

/-! ### Decimal arithmetic -/

section Arithmetic

variable (machine : Binary64 → Binary64 → Binary64) (style : NumeralStyle) (settings : Settings)
  (unit : Int)

theorem ofSignal_ne_tooDeep {α : Type} (result : Except Signal α) : ofSignal result ≠ tooDeep := by
  cases result <;> nofun

theorem integerPower_ne_tooDeep (context : Context) (bound position : Nat) (base : Extended) (n : Int) :
    integerPower context bound position base n ≠ tooDeep := by
  unfold integerPower
  split
  · split <;> nofun
  · split
    · exact ofSignal_ne_tooDeep _
    · split
      · nofun
      · exact ofSignal_ne_tooDeep _

theorem fractionalPower_ne_tooDeep (position : Nat) (base : Extended) (exponent : Decimal) :
    fractionalPower machine position base exponent ≠ tooDeep := by
  unfold fractionalPower
  simp only
  split
  · generalize Binary64.checkedPower machine _ _ = result
    cases result <;> nofun
  · nofun

theorem shallow_arithmetic : (arithmetic machine style settings unit).Shallow where
  numeral position text := by
    change numeralValue style position text ≠ tooDeep
    unfold numeralValue
    split <;> nofun
  apply operator position x y := by
    cases operator with
    | sum | difference | product => exact ofSignal_ne_tooDeep _
    | quotient =>
      change divide style _ unit position x y ≠ tooDeep
      unfold divide
      split
      · nofun
      · exact ofSignal_ne_tooDeep _
    | power =>
      change power machine _ settings.greatestPower position x y ≠ tooDeep
      unfold power
      split
      · nofun
      · split
        · exact integerPower_ne_tooDeep _ _ _ _ _
        · exact fractionalPower_ne_tooDeep _ _ _ _

/-- Whatever is read, from wherever in a text, takes at least one character and none behind its end. The rounds of
the loops begin further and further on, and never run out of fuel. A part begins no earlier than what it is
part of, and further on unless its place is of a lower level; so nothing is within itself without end. What is
read depends on these parts alone, and with four levels of budget for each character, and four more, the
outcome is the one for any greater budget. -/
theorem readers_advance (text : Text) :
    let operations := arithmetic machine style settings unit
    (∀ place position x later, Reads style operations place ⟨position, text.drop position⟩ x later →
        position < later.position ∧ later.position ≤ text.length ∧
          later.rest = text.drop later.position) ∧
      (∀ outer inner operator?, Place.Loops outer inner operator? →
        (∀ start state, Rounds style operations inner operator? start state →
          start.position < state.2.position ∧
            ∀ next, Round style operations inner operator? state next →
              state.2.position < next.2.position) ∧
        ∀ budget fuel x cursor, cursor.rest.length ≤ fuel →
          chain operations operator? (inner.reader style operations budget) fuel x cursor =
            chain operations operator? (inner.reader style operations budget) cursor.rest.length x
              cursor) ∧
      (∀ caller call, Relation.TransGen (Calls style operations) caller call →
        caller.2.position ≤ call.2.position ∧
          (caller.1.level ≤ call.1.level → caller.2.position < call.2.position)) ∧
      (WellFounded fun call caller => Calls style operations caller call) ∧
      (∀ place cursor budget other,
        (∀ call, Calls style operations (place, cursor) call →
          Agrees (call.1.reader style operations budget call.2)
            (call.1.reader style operations other call.2)) →
        Agrees (place.reader style operations (budget + 1) cursor)
          (place.reader style operations (other + 1) cursor)) ∧
      (∀ (place : Place) position, ∃ outcome, outcome ≠ tooDeep ∧
        ∀ budget, 4 * text.length + 4 ≤ budget →
          place.reader style operations budget ⟨position, text.drop position⟩ = outcome) ∧
      ∃ outcome, outcome ≠ tooDeep ∧ ∀ budget, 4 * text.length + 4 ≤ budget →
        read style operations budget text = outcome := by
  intro operations
  have shallow : operations.Shallow := shallow_arithmetic machine style settings unit
  have decreasing {call caller} (calls : Calls style operations caller call) :
      need call < need caller := need_lt_of_calls calls
  refine ⟨fun _ _ _ _ reads => reads.advances.of_drop, fun _ inner _ _ => ⟨?_, ?_⟩, ?_,
    Subrelation.wf decreasing (measure need).wf, fun _ _ _ _ => reader_agrees shallow, ?_, ?_⟩
  · exact fun _ _ rounds => ⟨rounds.advances.2, fun _ round => round.advances.2⟩
  · exact fun budget _ _ _ enough => chain_eq_chain (readers_forward budget inner) enough (Nat.le_refl _)
  · intro caller call calls
    obtain ⟨reaches, further⟩ := within_of_transGen calls
    exact ⟨reaches.position_le, fun noLower => further.resolve_right (Nat.not_lt.mpr noLower)⟩
  · intro place position
    have enough : need (place, ⟨position, text.drop position⟩) ≤ 4 * text.length + 4 := by
      have shorter : (text.drop position).length ≤ text.length := by simp
      exact Nat.add_le_add (Nat.mul_le_mul_left 4 shorter) place.level_le
    exact Agrees.exists_outcome fun budget more =>
      agrees_of_need_le shallow (Nat.le_trans enough more) enough
  · have enough : need (.expression, ⟨0, text⟩) ≤ 4 * text.length + 4 := Nat.le_refl _
    exact Agrees.exists_outcome fun budget more =>
      read_agrees shallow (Nat.le_trans enough more) enough

/-- Two parentheses are open where the text ends, and that is reported, with any budget that is enough. -/
theorem readers_advance_of_open_parentheses :
    (∃ state, Rounds (.western "en_US" 2 .halfEven)
        (arithmetic Binary64.machinePower (.western "en_US" 2 .halfEven) {} (-2)) .term sumOperator?
        ⟨2, "1+2".toList⟩ state ∧ 2 < state.2.position) ∧
      (∃ later, Reads (.western "en_US" 2 .halfEven)
        (arithmetic Binary64.machinePower (.western "en_US" 2 .halfEven) {} (-2)) .expression
        ⟨2, "1+2".toList⟩ (.finite (.ofNat 3)) later ∧ 2 < later.position ∧ later.position ≤ 5) ∧
      (∃ cursor, Relation.TransGen (Calls (.western "en_US" 2 .halfEven)
        (arithmetic Binary64.machinePower (.western "en_US" 2 .halfEven) {} (-2)))
        (.expression, ⟨1, "(1+2".toList⟩) (.expression, cursor) ∧ 1 < cursor.position) ∧
      ∀ budget, 24 ≤ budget → read (.western "en_US" 2 .halfEven)
        (arithmetic Binary64.machinePower (.western "en_US" 2 .halfEven) {} (-2)) budget
        "((1+2".toList = .error (.malformed .missingClosing (some 5)) := by
  obtain ⟨forward, loops, calls, _, _, _, outcome, _, same⟩ :=
    readers_advance Binary64.machinePower (.western "en_US" 2 .halfEven) {} (-2) "((1+2".toList
  refine ⟨Exists.imp (fun _ rounds => ⟨rounds, ((loops _ _ _ .sum).1 _ _ rounds).1⟩) ?rounds,
    Exists.imp (fun _ inside => ⟨inside, (forward _ _ _ _ inside).1, (forward _ _ _ _ inside).2.1⟩) ?inside,
    Exists.imp (fun _ nested => ⟨nested, (calls _ _ nested).2 (Nat.le_refl _)⟩) ?nested,
    fun budget enough => ?ends⟩
  case rounds =>
    exact ⟨_, .finite (.ofNat 1), ⟨3, "+2".toList⟩, ⟨24, rfl⟩, .single (.mk rfl ⟨24, rfl⟩ rfl)⟩
  case inside => exact ⟨⟨5, []⟩, 24, rfl⟩
  case nested =>
    exact ⟨_, (((Relation.TransGen.single (.first .sum)).tail (.first .product)).tail
      (.base (by decide) (by decide))).tail (.opening rfl)⟩
  case ends =>
    rw [same budget enough, ← same 24 (Nat.le_refl _)]
    rfl

end Arithmetic

end MonetaryText.Expression

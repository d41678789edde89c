import MonetaryText.Proofs.Expression.Check

/-!
Where a malformed text is reported. The readers and the check of tokens move over a text together: in
front of the reported position stands what the check takes, and there the text ends, a numeral is
rejected, or a character stands that the check refuses whatever follows (`malformed_at_first_fault`).
-/

namespace MonetaryText.Expression

/-! ### Moves -/

/-- The text goes on as another one does, or at least with no character of numerals. -/
def GoesOn (style : NumeralStyle) (rest text : Text) : Prop :=
  ∀ c, text.head? = some c → rest.head? = some c ∨ style.isNumeralChar c = false

theorem goesOn_completion {style : NumeralStyle} (plain : style.PartsOperands) (due : Bool)
    (depth : Nat) (rest : Text) : GoesOn style rest (completion due depth) := by
  intro c head
  refine .inr (plain.isNumeralChar_eq_false (.inr ?_))
  cases due with
  | true =>
    cases head
    exact .inl rfl
  | false =>
    cases depth with
    | zero => cases head
    | succ depth =>
      cases head
      exact .inr rfl

/-- The check takes what stands between two cursors, and is then due an operand or not, with so many
parentheses open. It does so whatever follows, as long as that continues no numeral. -/
def Moves (style : NumeralStyle) (due : Bool) (depth : Nat) (start : Cursor) (dueThen : Bool)
    (depthThen : Nat) (stop : Cursor) : Prop :=
  ∃ front, start.rest = front ++ stop.rest ∧ stop.position = start.position + front.length ∧
    ∀ text, GoesOn style stop.rest text →
      (Passes style due depth (front ++ text) ↔ Passes style dueThen depthThen text)

namespace Moves

variable {style : NumeralStyle} {due dueThen dueLast : Bool} {depth depthThen depthLast : Nat}
  {start middle stop cursor : Cursor} {c : Char}

theorem refl (style : NumeralStyle) (due : Bool) (depth : Nat) (cursor : Cursor) :
    Moves style due depth cursor due depth cursor :=
  ⟨[], rfl, rfl, fun _ _ => .rfl⟩

theorem trans (first : Moves style due depth start dueThen depthThen middle)
    (second : Moves style dueThen depthThen middle dueLast depthLast stop) :
    Moves style due depth start dueLast depthLast stop := by
  obtain ⟨front, split, place, takes⟩ := first
  obtain ⟨back, rest, position, follows⟩ := second
  refine ⟨front ++ back, by rw [split, rest, List.append_assoc], ?_, fun text continues => ?_⟩
  · rw [position, place, List.length_append, Nat.add_assoc]
  · have later : GoesOn style middle.rest (back ++ text) := by
      rw [rest]
      cases back with
      | nil => exact continues
      | cons d others => exact fun e head => .inl head
    rw [List.append_assoc, takes _ later, follows text continues]

theorem length_le (moves : Moves style due depth start dueThen depthThen stop) :
    stop.rest.length ≤ start.rest.length := by
  obtain ⟨front, split, _, _⟩ := moves
  rw [split, List.length_append]
  omega

theorem skipBlanks (style : NumeralStyle) (due : Bool) (depth : Nat) (cursor : Cursor) :
    Moves style due depth cursor due depth cursor.skipBlanks := by
  refine ⟨cursor.rest.takeWhile Text.isBlank, List.takeWhile_append_dropWhile.symm, rfl,
    fun text _ => ?_⟩
  have blank : ∀ c ∈ cursor.rest.takeWhile Text.isBlank, Text.isBlank c = true :=
    List.all_eq_true.mp List.all_takeWhile
  generalize cursor.rest.takeWhile Text.isBlank = blanks at blank
  induction blanks with
  | nil => exact .rfl
  | cons c others ih =>
    obtain ⟨first, later⟩ := List.forall_mem_cons.mp blank
    exact (passes_blank first).trans (ih later)

/-- A sign, an operator or a parenthesis is one step. -/
theorem single {kind : TokenKind} (head : cursor.rest.head? = some c)
    (known : singleKind? c = some kind)
    (expected : next? due depth kind [c] = some (dueThen, depthThen)) :
    Moves style due depth cursor dueThen depthThen (cursor.advance 1) := by
  refine ⟨[c], Cursor.rest_eq_cons head, rfl, fun text _ => ?_⟩
  change Passes style due depth (c :: text) ↔ _
  rw [passes_single known, expected]
  simp

theorem numeral (head : cursor.rest.head? = some c) (digit : c.isDigit = true) :
    Moves style true depth cursor false depth
      (cursor.advance (cursor.rest.takeWhile style.isNumeralChar).length) := by
  refine ⟨cursor.rest.takeWhile style.isNumeralChar, ?_, rfl, fun text continues => ?_⟩
  · rw [Cursor.rest_advance_takeWhile, List.takeWhile_append_dropWhile]
  · rw [Cursor.rest_advance_takeWhile] at continues
    have ends : ∀ d, text.head? = some d → style.isNumeralChar d = false := by
      intro d first
      rcases continues d first with same | other
      · have stops := List.head?_dropWhile_not style.isNumeralChar cursor.rest
        rw [same] at stops
        exact stops
      · exact other
    have known : style.isNumeralChar c = true := NumeralStyle.isNumeralChar_iff.mpr (.inl digit)
    have inside : ∀ d ∈ (cursor.advance 1).rest.takeWhile style.isNumeralChar,
        style.isNumeralChar d = true := List.all_eq_true.mp List.all_takeWhile
    rw [Cursor.rest_eq_cons head, List.takeWhile_cons_of_pos known, List.cons_append,
      passes_digit digit, List.dropWhile_append_of_pos inside]
    have left : text.dropWhile style.isNumeralChar = text := by
      cases text with
      | nil => rfl
      | cons d others => exact List.dropWhile_cons_of_neg (by simp [ends d rfl])
    rw [left]
    simp

end Moves

/-! ### Faults -/

/-- Nothing can go on here as this text does: it ends, its numeral is rejected, or the check refuses the
next character whatever follows. -/
inductive Faulty (style : NumeralStyle) (due : Bool) (depth : Nat) : Text → Prop where
  | ended : Faulty style due depth []
  | numeral {rest : Text} {error : Numeral.Error}
      (some : rest.takeWhile style.isNumeralChar ≠ [])
      (rejected : Numeral.read style (rest.takeWhile style.isNumeralChar) = .error error) :
      Faulty style due depth rest
  | character {c : Char} {rest : Text} (solid : Text.isBlank c = false)
      (refused : ∀ text, ¬Passes style due depth (c :: text)) : Faulty style due depth (c :: rest)

namespace Faulty

variable {style : NumeralStyle} {depth : Nat} {cursor : Cursor} {c : Char}

/-- Where an operand is due, a character that begins none is a fault. -/
theorem of_due (head : cursor.skipBlanks.rest.head? = some c) (unsigned : c ≠ '+' ∧ c ≠ '-')
    (noOpening : c ≠ '(') (unknown : ¬style.isNumeralChar c = true) :
    Faulty style true depth cursor.skipBlanks.rest := by
  have solid := cursor.isBlank_head?_skipBlanks c head
  have noDigit : c.isDigit = false := by
    refine Bool.eq_false_iff.mpr fun digit => unknown ?_
    exact NumeralStyle.isNumeralChar_iff.mpr (.inl digit)
  rw [Cursor.rest_eq_cons head]
  exact .character solid fun text => not_passes_due solid noDigit unsigned noOpening

/-- Behind an operand, the end of the text is a fault, and so is what neither goes on with an operator nor
closes a parenthesis that is open. -/
theorem of_not_due
    (clear : ∀ c, cursor.skipBlanks.rest.head? = some c → c ∉ Place.expression.taken)
    (noClosing : cursor.skipBlanks.rest.head? = some ')' → depth = 0) :
    Faulty style false depth cursor.skipBlanks.rest := by
  cases head : cursor.skipBlanks.rest.head? with
  | none =>
    rw [List.head?_eq_none_iff.mp head]
    exact .ended
  | some c =>
    have solid := cursor.isBlank_head?_skipBlanks c head
    have noOperator := not_mem_operators (clear c head)
    rw [Cursor.rest_eq_cons head]
    refine .character solid fun text => not_passes_not_due solid noOperator ?_
    rintro rfl
    exact noClosing head

end Faulty

/-- The failure is reported at a fault that the check reaches from the cursor. -/
def FaultAt (style : NumeralStyle) (depth : Nat) (start : Cursor) (failure : Failure) : Prop :=
  ∃ cause stop due within, failure = .malformed cause (some stop.position) ∧
    Moves style true depth start due within stop ∧ Faulty style due within stop.rest

theorem FaultAt.behind {style : NumeralStyle} {depth within : Nat} {start inside : Cursor}
    {failure : Failure} (entered : Moves style true depth start true within inside)
    (fault : FaultAt style within inside failure) : FaultAt style depth start failure := by
  obtain ⟨cause, stop, due, deep, same, moves, faulty⟩ := fault
  exact ⟨cause, stop, due, deep, same, entered.trans moves, faulty⟩

/-- What comes out at a place that begins at a cursor: an operand that the check takes, with no operator
of the place behind it, or a failure at the first fault. -/
def Locates (style : NumeralStyle) (place : Place) (depth : Nat) (start : Cursor) :
    Except Failure (Extended × Cursor) → Prop
  | .ok (_, later) => Moves style true depth start false depth later ∧
      ∀ c, later.skipBlanks.rest.head? = some c → c ∉ place.taken
  | .error failure => failure.IsExcused ∨ FaultAt style depth start failure

section Readers

variable {machine : Binary64 → Binary64 → Binary64} {style : NumeralStyle} {settings : Settings}
  {unit : Int}

/-- An operand is read where the check expects one, and then something that locates its faults. -/
theorem Locates.bind {inner place : Place} {within depth : Nat} {start inside : Cursor}
    {step : Except Failure (Extended × Cursor)}
    {next : Extended × Cursor → Except Failure (Extended × Cursor)}
    (entered : Moves style true depth start true within inside)
    (first : Locates style inner within inside step)
    (second : ∀ x later, Moves style true within inside false within later →
      (∀ c, later.skipBlanks.rest.head? = some c → c ∉ inner.taken) →
      Locates style place depth start (next (x, later))) :
    Locates style place depth start (step >>= next) := by
  cases step with
  | error failure => exact first.imp_right (FaultAt.behind entered)
  | ok given =>
    obtain ⟨x, later⟩ := given
    exact second x later first.1 first.2

/-- What begins behind a sign is located from before it. -/
theorem Locates.behind {place : Place} {depth : Nat} {start inside : Cursor}
    {outcome : Except Failure (Extended × Cursor)}
    (entered : Moves style true depth start true depth inside)
    (located : Locates style place depth inside outcome) : Locates style place depth start outcome := by
  cases outcome with
  | error failure => exact located.imp_right (FaultAt.behind entered)
  | ok given => exact ⟨entered.trans located.1, located.2⟩

theorem Locates.apply {place : Place} {depth : Nat} {start : Cursor} {operator : Operator}
    {position : Nat} {x y : Extended} {next : Extended → Except Failure (Extended × Cursor)}
    (second : ∀ z, Locates style place depth start (next z)) :
    Locates style place depth start
      ((arithmetic machine style settings unit).apply operator position x y >>= next) := by
  cases result : (arithmetic machine style settings unit).apply operator position x y with
  | error failure => exact .inl (apply_excused result)
  | ok z => exact second z

theorem chain_locates {inner outer : Place} {operator? : Char → Option Operator}
    {operand : Reader Extended}
    (operands : ∀ depth cursor, Locates style inner depth cursor (operand cursor))
    (known : ∀ c operator, operator? c = some operator → c ∈ operators)
    (stops : ∀ c, operator? c = none → c ∉ inner.taken → c ∉ outer.taken) (fuel : Nat) {depth : Nat}
    {x : Extended} {start cursor : Cursor} (reached : Moves style true depth start false depth cursor)
    (clear : ∀ c, cursor.skipBlanks.rest.head? = some c → c ∉ inner.taken)
    (enough : cursor.rest.length ≤ fuel) :
    Locates style outer depth start
      (chain (arithmetic machine style settings unit) operator? operand fuel x cursor) := by
  induction fuel generalizing x cursor with
  | zero =>
    refine ⟨reached, fun c head => ?_⟩
    have shorter := cursor.length_advance_lt head
    omega
  | succ fuel ih =>
    have skipped := reached.trans (.skipBlanks style false depth cursor)
    unfold chain
    simp only
    split
    · rename_i none
      refine ⟨skipped, fun c head => ?_⟩
      rw [Cursor.skipBlanks_skipBlanks] at head
      rw [head] at none
      exact stops c none (clear c head)
    · rename_i operator found
      obtain ⟨c, head, isOperator⟩ := Option.bind_eq_some_iff.mp found
      have kinds : ∀ c ∈ operators, singleKind? c = some .operator :=
        Text.forall_mem_of_all (by decide)
      have entered := skipped.trans (.single head (kinds c (known c operator isOperator)) rfl)
      have shorter := cursor.length_advance_lt head
      refine (operands depth _).bind entered fun y later moved clear => .apply fun z => ?_
      have less := moved.length_le
      exact ih (entered.trans moved) clear (show later.rest.length ≤ fuel by omega)

theorem chained_locates {inner outer : Place} {operator? : Char → Option Operator}
    {operand : Reader Extended}
    (operands : ∀ depth cursor, Locates style inner depth cursor (operand cursor))
    (known : ∀ c operator, operator? c = some operator → c ∈ operators)
    (stops : ∀ c, operator? c = none → c ∉ inner.taken → c ∉ outer.taken) (depth : Nat)
    (cursor : Cursor) :
    Locates style outer depth cursor (do
      let (x, cursor) ← operand cursor
      chain (arithmetic machine style settings unit) operator? operand cursor.rest.length x
        cursor) := by
  refine (operands depth cursor).bind (.refl style true depth cursor) fun x later moved clear => ?_
  exact chain_locates operands known stops _ moved clear (Nat.le_refl _)

/-- A numeral that is read begins with a digit; the others are faults. -/
theorem numeral_locates {depth : Nat} {start cursor : Cursor} {c : Char}
    (reached : Moves style true depth start true depth cursor)
    (head : cursor.rest.head? = some c) (solid : Text.isBlank c = false)
    (unsigned : c ≠ '+' ∧ c ≠ '-') (known : style.isNumeralChar c = true) :
    Locates style .primary depth start
      (numeral style (arithmetic machine style settings unit) cursor) := by
  have run : cursor.rest.takeWhile style.isNumeralChar =
      c :: (cursor.advance 1).rest.takeWhile style.isNumeralChar := by
    rw [Cursor.rest_eq_cons head, List.takeWhile_cons_of_pos known]
  have value : (arithmetic machine style settings unit).numeral cursor.position
      (cursor.rest.takeWhile style.isNumeralChar) =
        numeralValue style cursor.position (cursor.rest.takeWhile style.isNumeralChar) := rfl
  unfold numeral
  simp only [value]
  cases given : Numeral.read style (cursor.rest.takeWhile style.isNumeralChar) with
  | ok number =>
    have digit := Numeral.isDigit_of_read (run ▸ given) solid unsigned
    rw [numeralValue_eq_ok_iff.mpr ⟨number, given, rfl⟩]
    exact ⟨reached.trans (.numeral head digit), fun c _ => List.not_mem_nil⟩
  | error error =>
    have faulty : Faulty style true depth cursor.rest := .numeral (by simp [run]) given
    unfold numeralValue
    rw [given]
    cases error with
    | noDigits => exact .inl trivial
    | empty => exact .inr ⟨_, cursor, true, depth, rfl, reached, faulty⟩
    | malformed locale text => exact .inr ⟨_, cursor, true, depth, rfl, reached, faulty⟩

/-- No primary is read at a sign, since the check would take that. -/
theorem primary_locates {budget depth : Nat} {cursor : Cursor}
    (inner : ∀ depth cursor, Locates style .expression depth cursor
      (expression style (arithmetic machine style settings unit) budget cursor))
    (unsigned : ∀ c, cursor.skipBlanks.rest.head? = some c → c ≠ '+' ∧ c ≠ '-') :
    Locates style .primary depth cursor
      (primary style (arithmetic machine style settings unit) (budget + 1) cursor) := by
  have reached := Moves.skipBlanks style true depth cursor
  unfold primary
  simp only
  split
  · rename_i ended
    refine .inr ⟨_, cursor.skipBlanks, true, depth, rfl, reached, ?_⟩
    rw [List.head?_eq_none_iff.mp ended]
    exact .ended
  · rename_i head
    have entered := reached.trans
      (.single head (show singleKind? '(' = some .opening from rfl) rfl)
    refine (inner (depth + 1) _).bind entered fun x later moved clear => ?_
    have closes := (entered.trans moved).trans (.skipBlanks style false (depth + 1) later)
    simp only
    split
    · rename_i close
      exact ⟨closes.trans (.single close (show singleKind? ')' = some .closing from rfl) rfl),
        fun c _ => List.not_mem_nil⟩
    · rename_i noClosing
      refine .inr ⟨_, later.skipBlanks, false, depth + 1, rfl, closes, .of_not_due clear ?_⟩
      exact fun close => absurd close noClosing
  · rename_i c noOpening head
    have solid := cursor.isBlank_head?_skipBlanks c head
    split
    · rename_i known
      exact numeral_locates reached head solid (unsigned c head) known
    · rename_i unknown
      have noParenthesis : c ≠ '(' := by
        rintro rfl
        exact noOpening rfl
      exact .inr ⟨_, cursor.skipBlanks, true, depth, rfl, reached,
        .of_due head (unsigned c head) noParenthesis unknown⟩

theorem factor_locates {budget : Nat}
    (operands : ∀ depth cursor, Locates style .factor depth cursor
      (factor style (arithmetic machine style settings unit) budget cursor))
    (primaries : ∀ depth cursor,
      (∀ c, cursor.skipBlanks.rest.head? = some c → c ≠ '+' ∧ c ≠ '-') →
      Locates style .primary depth cursor
        (primary style (arithmetic machine style settings unit) budget cursor)) (depth : Nat)
    (cursor : Cursor) :
    Locates style .factor depth cursor
      (factor style (arithmetic machine style settings unit) (budget + 1) cursor) := by
  have reached := Moves.skipBlanks style true depth cursor
  unfold factor
  simp only
  split
  · rename_i head
    have entered := reached.trans (.single head (show singleKind? '+' = some .operator from rfl) rfl)
    exact (operands depth _).behind entered
  · rename_i head
    have entered := reached.trans (.single head (show singleKind? '-' = some .operator from rfl) rfl)
    refine (operands depth _).bind entered fun x later moved clear => ?_
    exact ⟨entered.trans moved, clear⟩
  · rename_i noPlus noMinus
    have unsigned := Cursor.ne_sign_of_head? noPlus noMinus
    refine (primaries depth _ unsigned).bind reached fun x later moved _ => ?_
    have behind := (reached.trans moved).trans (.skipBlanks style false depth later)
    simp only
    split
    · rename_i head
      have entered := behind.trans
        (.single head (show singleKind? '^' = some .operator from rfl) rfl)
      refine (operands depth _).bind entered fun y last moved clear => ?_
      exact .apply fun z => ⟨entered.trans moved, clear⟩
    · rename_i noPower
      refine ⟨behind, fun c head member => ?_⟩
      rw [Cursor.skipBlanks_skipBlanks, List.mem_singleton.mp member] at head
      exact noPower head

/-- Induction on the budget, as for what the readers give. -/
theorem readers_locate (budget : Nat) :
    (∀ depth cursor, (∀ c, cursor.skipBlanks.rest.head? = some c → c ≠ '+' ∧ c ≠ '-') →
      Locates style .primary depth cursor
        (primary style (arithmetic machine style settings unit) budget cursor)) ∧
    (∀ depth cursor, Locates style .factor depth cursor
      (factor style (arithmetic machine style settings unit) budget cursor)) ∧
    (∀ depth cursor, Locates style .term depth cursor
      (term style (arithmetic machine style settings unit) budget cursor)) ∧
    ∀ depth cursor, Locates style .expression depth cursor
      (expression style (arithmetic machine style settings unit) budget cursor) := by
  induction budget with
  | zero => exact ⟨fun _ _ _ => .inl rfl, fun _ _ => .inl rfl, fun _ _ => .inl rfl, fun _ _ => .inl rfl⟩
  | succ budget ih =>
    obtain ⟨primaries, factors, terms, expressions⟩ := ih
    refine ⟨fun _ _ unsigned => primary_locates expressions unsigned,
      factor_locates factors primaries, ?_, ?_⟩
    · exact chained_locates factors mem_of_productOperator? Place.not_mem_taken_term
    · exact chained_locates terms mem_of_sumOperator? Place.not_mem_taken_expression

/-- A whole text that is malformed is reported at its first fault. -/
theorem faultAt_of_read {budget : Nat} {text : Text} {failure : Failure}
    (failed : read style (arithmetic machine style settings unit) budget text = .error failure) :
    failure.IsExcused ∨ FaultAt style 0 ⟨0, text⟩ failure := by
  have located : Locates style .expression 0 ⟨0, text⟩
      (expression style (arithmetic machine style settings unit) budget ⟨0, text⟩) :=
    (readers_locate budget).2.2.2 0 ⟨0, text⟩
  rcases Outcome.bind_eq_error_iff.mp failed with inner | ⟨⟨x, later⟩, taken, ended⟩
  · rw [inner] at located
    exact located
  · rw [taken] at located
    obtain ⟨moved, clear⟩ := located
    have reached := moved.trans (.skipBlanks style false 0 later)
    have faulty : Faulty style false 0 later.skipBlanks.rest := .of_not_due clear fun _ => rfl
    simp only at ended
    split at ended
    · cases ended
    · cases ended
      exact .inr ⟨_, later.skipBlanks, false, 0, rfl, reached, faulty⟩
    · cases ended
      exact .inr ⟨_, later.skipBlanks, false, 0, rfl, reached, faulty⟩

end Readers

/-- The check as a whole begins where an operand is due and no parenthesis is open. -/
theorem isWellFormed_iff_passes {style : NumeralStyle} {text : Text} :
    isWellFormed style true false text = true ↔ Passes style true 0 text := isWellFormed_iff

/-- What the check refuses behind a text that it reaches it refuses in the whole text, blank or not. -/
theorem Moves.isWellFormed_eq_false {style : NumeralStyle} {due : Bool} {depth : Nat}
    {front rest : Text} {c : Char} {stop : Nat} (solid : Text.isBlank c = false)
    (refused : ∀ text, ¬Passes style due depth (c :: text))
    (moves : Moves style true 0 ⟨0, front ++ c :: rest⟩ due depth ⟨stop, c :: rest⟩)
    (allowEmpty : Bool) (text : Text) :
    isWellFormed style true allowEmpty (front ++ c :: text) = false := by
  obtain ⟨taken, split, _, takes⟩ := moves
  obtain rfl : front = taken := List.append_cancel_right split
  have full : Text.isBlankText (front ++ c :: text) = false := by simp [Text.isBlankText, solid]
  rw [isWellFormed_of_not_blank full, ← Bool.not_eq_true, isWellFormed_iff_passes]
  have goes : GoesOn style (c :: rest) (c :: text) := fun _ head => .inl head
  rw [takes _ goes]
  exact refused text

/-- A malformed text is reported where it first goes wrong, if it is not nested too deeply. What stands in
front of the position can go on to an expression; and there the text ends, or its numeral is rejected, or
the next character leaves no way to go on. -/
theorem malformed_at_first_fault (machine : Binary64 → Binary64 → Binary64) (nesting : Nat)
    (style : NumeralStyle) (plain : style.PartsOperands) (settings : Settings) (text : Text)
    (cause : Malformation) (position : Option Nat) (shallow : cause ≠ .tooDeep)
    (failed : evaluate machine nesting style settings text = .error (.malformed cause position)) :
    ∃ p, position = some p ∧ p ≤ text.length ∧
      (∃ rest, isWellFormed style true false (text.take p ++ rest) = true) ∧
      (p = text.length ∨
        ((text.drop p).takeWhile style.isNumeralChar ≠ [] ∧
          ∃ error, Numeral.read style ((text.drop p).takeWhile style.isNumeralChar) = .error error) ∨
        ∀ allowEmpty rest,
          isWellFormed style true allowEmpty (text.take (p + 1) ++ rest) = false) := by
  obtain ⟨unit, given⟩ : ∃ unit, read style (arithmetic machine style settings unit) (nesting + 5)
      text = .error (.malformed cause position) := by
    unfold evaluate at failed
    split at failed
    · cases failed
    · rcases Outcome.bind_eq_error_iff.mp failed with signalled | ⟨unit, _, given⟩
      · exact absurd (ofSignal_excused signalled) shallow
      · exact ⟨unit, given⟩
  obtain excused | ⟨_, ⟨p, rest⟩, due, depth, same, moves, faulty⟩ := faultAt_of_read given
  · exact absurd excused shallow
  cases same
  have ⟨front, split, place, takes⟩ := moves
  dsimp only at *
  obtain rfl : p = front.length := by simpa using place
  obtain rfl : text = front ++ rest := split
  refine ⟨_, rfl, ?_, ⟨completion due depth, ?_⟩, ?_⟩
  · rw [List.length_append]
    omega
  · rw [isWellFormed_iff_passes, List.take_left]
    have goes := goesOn_completion plain due depth rest
    exact (takes _ goes).mpr (passes_completion plain due depth)
  · rw [List.drop_left]
    cases faulty with
    | ended => exact .inl (by simp)
    | numeral some rejected => exact .inr (.inl ⟨some, _, rejected⟩)
    | @character c later solid refused =>
      refine .inr (.inr fun allowEmpty others => ?_)
      have through : (front ++ c :: later).take (front.length + 1) ++ others =
          front ++ c :: others := by
        rw [List.take_length_add_append]
        simp
      rw [through]
      exact moves.isWellFormed_eq_false solid refused allowEmpty others

/-- In `12 + (3 4`, the blank is no part of a numeral and a parenthesis is missing. -/
theorem malformed_at_missing_parenthesis :
    (NumeralStyle.western "en_US" 2 .halfEven).PartsOperands ∧
      Malformation.missingClosing ≠ .tooDeep ∧
      evaluate Binary64.machinePower standardNesting (.western "en_US" 2 .halfEven) {} "12 + (3 4".toList =
        .error (.malformed .missingClosing (some 8)) ∧
      (∃ rest, isWellFormed (.western "en_US" 2 .halfEven) true false
        ("12 + (3 ".toList ++ rest) = true) ∧
      ∀ allowEmpty rest, isWellFormed (.western "en_US" 2 .halfEven) true allowEmpty
        ("12 + (3 4".toList ++ rest) = false := by
  have plain : (NumeralStyle.western "en_US" 2 .halfEven).PartsOperands := by decide
  have failed : evaluate Binary64.machinePower standardNesting (.western "en_US" 2 .halfEven) {}
      "12 + (3 4".toList = .error (.malformed .missingClosing (some 8)) := rfl
  obtain ⟨p, same, _, extended, ended | ⟨_, _, rejected⟩ | refused⟩ := malformed_at_first_fault
    Binary64.machinePower _ _ plain {} _ _ _ (by decide) failed
  · cases same
    cases ended
  · cases same
    cases rejected
  · cases same
    exact ⟨plain, by decide, failed, extended, refused⟩

end MonetaryText.Expression

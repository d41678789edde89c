import MonetaryText.Text.Basic

/-!
Trimming takes blanks from both ends of a text and nothing else. A text that neither begins nor ends
with a blank stays as it is, and blanks that are put around a text do not change what is left of it.
-/

namespace MonetaryText.Text

/-- What holds of all characters of a fixed text is found one by one. -/
theorem forall_mem_of_all {p : Char → Prop} [DecidablePred p] {text : Text}
    (all : text.all (fun c => decide (p c)) = true) : ∀ c ∈ text, p c := by
  intro c member
  exact of_decide_eq_true (List.all_eq_true.mp all c member)

theorem isBlank_of_isDigit {c : Char} (digit : c.isDigit = true) : isBlank c = false := by
  have bounds : 48 ≤ c.toNat ∧ c.toNat ≤ 57 := by
    simp only [Char.isDigit, Bool.and_eq_true, decide_eq_true_eq] at digit
    exact ⟨UInt32.le_iff_toNat_le.mp digit.1, UInt32.le_iff_toNat_le.mp digit.2⟩
  simp only [isBlank, Bool.or_eq_false_iff, Bool.and_eq_false_iff, decide_eq_false_iff_not,
    beq_eq_false_iff_ne]
  omega

/-- A run that comes to its end within a text does not see what follows. -/
theorem takeWhile_append_of_head? {p : Char → Bool} (text : Text) {rest : Text}
    (stops : ∀ c, rest.head? = some c → p c = false) :
    (text ++ rest).takeWhile p = text.takeWhile p ∧
      (text ++ rest).dropWhile p = text.dropWhile p ++ rest := by
  induction text with
  | nil =>
    cases rest with
    | nil => exact ⟨rfl, rfl⟩
    | cons c later => simp [stops c rfl]
  | cons c text ih => cases known : p c <;> simp [known, ih]

@[simp] theorem isBlankText_append (front back : Text) :
    isBlankText (front ++ back) = (isBlankText front && isBlankText back) := by
  simp [isBlankText]

@[simp] theorem isBlankText_takeWhile (text : Text) :
    isBlankText (text.takeWhile isBlank) = true := List.all_takeWhile

theorem isBlank_of_mem {blanks : Text} (blank : isBlankText blanks = true) :
    ∀ c ∈ blanks, isBlank c = true := List.all_eq_true.mp blank

/-- What stands behind blanks, up to where something else begins. -/
theorem dropWhile_append_of_isBlankText {blanks rest : Text} (blank : isBlankText blanks = true)
    (starts : ∀ c, rest.head? = some c → isBlank c = false) :
    (blanks ++ rest).dropWhile isBlank = rest := by
  rw [List.dropWhile_append_of_pos (isBlank_of_mem blank)]
  cases rest with
  | nil => rfl
  | cons c later => exact List.dropWhile_cons_of_neg (by simp [starts c rfl])

theorem head?_dropWhile_isBlank (text : Text) :
    ∀ c, (text.dropWhile isBlank).head? = some c → isBlank c = false := by
  intro c found
  have stops := List.head?_dropWhile_not isBlank text
  rw [found] at stops
  exact stops

theorem trimLeft_eq_self {text : Text} (starts : ∀ c, text.head? = some c → isBlank c = false) :
    trimLeft text = text := @dropWhile_append_of_isBlankText [] text rfl starts

theorem trimRight_eq_self {text : Text} (ends : ∀ c, text.getLast? = some c → isBlank c = false) :
    trimRight text = text := by
  have reversed : trimLeft text.reverse = text.reverse := trimLeft_eq_self (by simpa using ends)
  unfold trimLeft at reversed
  rw [trimRight, reversed, List.reverse_reverse]

theorem trim_eq_self {text : Text} (starts : ∀ c, text.head? = some c → isBlank c = false)
    (ends : ∀ c, text.getLast? = some c → isBlank c = false) : trim text = text := by
  rw [trim, trimLeft_eq_self starts, trimRight_eq_self ends]

/-- Trimming stops at both ends of a text that neither begins nor ends with a blank. -/
theorem trim_append_append {text : Text} {first last : Char} (head : text.head? = some first)
    (starts : isBlank first = false) (tail : text.getLast? = some last)
    (ends : isBlank last = false) (front back : Text) :
    trim (front ++ text ++ back) = trimLeft front ++ text ++ trimRight back := by
  have left : trimLeft (front ++ (text ++ back)) = trimLeft front ++ (text ++ back) :=
    (takeWhile_append_of_head? front (by simp [List.head?_append, head, starts])).2
  have right : (back.reverse ++ (trimLeft front ++ text).reverse).dropWhile isBlank =
      back.reverse.dropWhile isBlank ++ (trimLeft front ++ text).reverse :=
    (takeWhile_append_of_head? back.reverse (by simp [List.head?_append, tail, ends])).2
  rw [trim, List.append_assoc, left, ← List.append_assoc, trimRight, List.reverse_append, right,
    List.reverse_append, List.reverse_reverse, trimRight]

theorem trimRight_eq_nil_iff (text : Text) : trimRight text = [] ↔ isBlankText text = true := by
  rw [trimRight, List.reverse_eq_nil_iff, dropWhile_isBlank_eq_nil_iff, isBlankText,
    List.all_reverse, isBlankText]

theorem trimRight_append_of_isBlankText (text : Text) {blanks : Text}
    (blank : isBlankText blanks = true) : trimRight (text ++ blanks) = trimRight text := by
  unfold trimRight
  rw [List.reverse_append, List.dropWhile_append_of_pos]
  simpa using isBlank_of_mem blank

theorem trim_append_of_isBlankText (text : Text) {blanks : Text}
    (blank : isBlankText blanks = true) : trim (text ++ blanks) = trim text := by
  unfold trim trimLeft
  rw [List.dropWhile_append]
  split
  · rename_i empty
    rw [List.isEmpty_iff.mp empty, (dropWhile_isBlank_eq_nil_iff blanks).mpr blank]
  · exact trimRight_append_of_isBlankText _ blank

/-- What trimming on the right takes away. -/
theorem exists_trimRight (text : Text) :
    ∃ after, isBlankText after = true ∧ text = trimRight text ++ after := by
  refine ⟨(text.reverse.takeWhile isBlank).reverse, ?_, ?_⟩
  · rw [isBlankText, List.all_reverse]
    exact List.all_takeWhile
  · rw [trimRight, ← List.reverse_append, List.takeWhile_append_dropWhile, List.reverse_reverse]

theorem exists_trim (text : Text) :
    ∃ before after, isBlankText before = true ∧ isBlankText after = true ∧
      text = before ++ trim text ++ after := by
  obtain ⟨after, blank, split⟩ := exists_trimRight (trimLeft text)
  refine ⟨text.takeWhile isBlank, after, isBlankText_takeWhile text, blank, ?_⟩
  rw [List.append_assoc, trim, ← split, trimLeft, List.takeWhile_append_dropWhile]

/-- Trimming keeps what a text begins with, unless that is a blank. -/
theorem exists_trim_cons {c : Char} (rest : Text) (inside : isBlank c = false) :
    ∃ front after, isBlankText after = true ∧ trim (c :: rest) = c :: front ∧
      rest = front ++ after := by
  have left : trimLeft (c :: rest) = c :: rest := by simp [trimLeft, inside]
  obtain ⟨after, blank, split⟩ := exists_trimRight (c :: rest)
  unfold trim
  rw [left]
  cases right : trimRight (c :: rest) with
  | nil =>
    rw [right, List.nil_append] at split
    simp [← split, isBlankText, inside] at blank
  | cons first front =>
    rw [right, List.cons_append] at split
    obtain ⟨rfl, remains⟩ := List.cons.inj split
    exact ⟨front, after, blank, rfl, remains⟩

/-- Only the two signs are split off. -/
theorem splitSign_of_ne {c : Char} (rest : Text) (unsigned : c ≠ '+' ∧ c ≠ '-') :
    splitSign (c :: rest) = (false, c :: rest) := by
  unfold splitSign
  split
  · rename_i same
    cases same
    exact absurd rfl unsigned.2
  · rename_i same
    cases same
    exact absurd rfl unsigned.1
  · rfl

/-- A text is its sign, if it has one, and the rest. -/
theorem eq_of_splitSign {text body : Text} {negative : Bool}
    (split : splitSign text = (negative, body)) :
    negative = true ∧ text = '-' :: body ∨
      negative = false ∧ (text = body ∨ text = '+' :: body) := by
  unfold splitSign at split
  split at split
  · cases split
    exact .inl ⟨rfl, rfl⟩
  · cases split
    exact .inr ⟨rfl, .inr rfl⟩
  · cases split
    exact .inr ⟨rfl, .inl rfl⟩

end MonetaryText.Text

/-!
Text as amounts see it: a list of code points, so that positions, lengths and cuts count code
points.
-/

namespace MonetaryText

abbrev Text := List Char

namespace Text

/-- Blanks are the characters that may stand around a numeral: white space of every script and
the four information separators. -/
def isBlank (c : Char) : Bool :=
  let code := c.toNat
  (0x09 ≤ code && code ≤ 0x0D) || (0x1C ≤ code && code ≤ 0x20) || code == 0x85 || code == 0xA0 ||
    code == 0x1680 || (0x2000 ≤ code && code ≤ 0x200A) || code == 0x2028 || code == 0x2029 ||
    code == 0x202F || code == 0x205F || code == 0x3000

def trimLeft (text : Text) : Text := text.dropWhile isBlank

def trimRight (text : Text) : Text := (text.reverse.dropWhile isBlank).reverse

def trim (text : Text) : Text := trimRight (trimLeft text)

def isBlankText (text : Text) : Bool := text.all isBlank

theorem dropWhile_isBlank_eq_nil_iff (text : Text) :
    text.dropWhile isBlank = [] ↔ isBlankText text = true := by
  unfold isBlankText
  induction text with
  | nil => simp
  | cons c rest ih => cases h : isBlank c <;> simp [h, ih]

theorem isBlankText_trimLeft (text : Text) : isBlankText (trimLeft text) = isBlankText text := by
  have parts := List.takeWhile_append_dropWhile (p := isBlank) (l := text)
  unfold trimLeft isBlankText
  conv => rhs; rw [← parts, List.all_append, List.all_takeWhile, Bool.true_and]

/-- Trimming leaves nothing of blank text and something of any other. -/
theorem trim_eq_nil_iff (text : Text) : trim text = [] ↔ isBlankText text = true := by
  unfold trim trimRight
  rw [List.reverse_eq_nil_iff, dropWhile_isBlank_eq_nil_iff, ← isBlankText_trimLeft text]
  simp [isBlankText]

/-- Splits a leading sign from the rest; the flag tells a minus sign. -/
def splitSign : Text → Bool × Text
  | '-' :: rest => (true, rest)
  | '+' :: rest => (false, rest)
  | rest => (false, rest)

/-- The order of texts by their code points, a beginning before what it begins. -/
def precedes : Text → Text → Bool
  | [], _ => true
  | _ :: _, [] => false
  | a :: front, b :: back => a.toNat < b.toNat || (a == b && precedes front back)

/-- Whether a text stands somewhere within another one. The empty text stands within every one. -/
def occursIn (part : Text) : Text → Bool
  | [] => part.isEmpty
  | c :: rest => part.isPrefixOf (c :: rest) || occursIn part rest

@[simp] theorem occursIn_singleton (c : Char) (text : Text) : occursIn [c] text = decide (c ∈ text) := by
  induction text with
  | nil => rfl
  | cons d rest ih => simp [occursIn, List.isPrefixOf, ih, Bool.beq_eq_decide_eq]

/-- The parts between the marks of a text, one more than there are marks. -/
def splitOn (mark : Char) (text : Text) : List Text :=
  text.foldr
    (fun c parts =>
      if c = mark then [] :: parts
      else (c :: parts.headD []) :: parts.drop 1)
    [[]]

@[simp] theorem intercalate_splitOn (mark : Char) (text : Text) :
    [mark].intercalate (splitOn mark text) = text := by
  have joined : splitOn mark text ≠ [] ∧ [mark].intercalate (splitOn mark text) = text := by
    unfold splitOn
    induction text with
    | nil => exact ⟨by simp, rfl⟩
    | cons c rest ih =>
      rw [List.foldr_cons]
      generalize List.foldr _ [[]] rest = parts at *
      obtain ⟨first, others, rfl⟩ := List.exists_cons_of_ne_nil ih.1
      split
      · subst c
        exact ⟨by simp, by simp [← ih.2, List.intercalate]⟩
      · refine ⟨by simp, ?_⟩
        cases others <;> simp_all [List.intercalate]
  exact joined.2

end Text

end MonetaryText

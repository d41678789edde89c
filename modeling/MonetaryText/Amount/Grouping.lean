import MonetaryText.Text.Basic

/-!
Groups of digits. They are counted from the decimal point, that is from the right: the first length
is that of the group next to the point and the last length repeats. Lengths are positive, and the
groups in order make up the digits.
-/

namespace MonetaryText.Amount

/-- The lengths that are left behind the first group. -/
def laterLengths : List Nat → List Nat
  | _ :: second :: rest => second :: rest
  | lengths => lengths

theorem mem_of_mem_laterLengths {lengths : List Nat} :
    ∀ length ∈ laterLengths lengths, length ∈ lengths := by
  match lengths with
  | [] => exact fun _ member => member
  | [_] => exact fun _ member => member
  | _ :: _ :: _ => exact fun _ member => List.mem_cons_of_mem _ member

/-- Cuts a text into pieces of the given lengths from the front, the last one possibly shorter.
The length of the text is fuel enough as long as no length is zero. -/
def pieces : Nat → List Nat → Text → List Text
  | 0, _, _ => []
  | _ + 1, _, [] => []
  | _ + 1, [], text => [text]
  | fuel + 1, lengths@(length :: _), text =>
    text.take length :: pieces fuel (laterLengths lengths) (text.drop length)

theorem flatten_pieces (fuel : Nat) (lengths : List Nat) (text : Text)
    (positive : ∀ length ∈ lengths, 0 < length) (enough : text.length ≤ fuel) :
    (pieces fuel lengths text).flatten = text := by
  induction fuel generalizing lengths text with
  | zero => simp_all [pieces]
  | succ fuel ih =>
    match text, lengths with
    | [], _ => simp [pieces]
    | c :: rest, [] => simp [pieces]
    | c :: rest, length :: others =>
      have first := positive length List.mem_cons_self
      have later : ∀ other ∈ laterLengths (length :: others), 0 < other :=
        fun other member => positive other (mem_of_mem_laterLengths other member)
      simp only [pieces, List.flatten_cons]
      rw [ih _ _ later (by simp at enough ⊢; omega), List.take_append_drop]

/-- The groups of a text of digits, the leftmost first. -/
def groups (lengths : List Nat) (digits : Text) : List Text :=
  ((pieces digits.length lengths digits.reverse).map List.reverse).reverse

/-- Groups only add separators. -/
theorem flatten_groups (lengths : List Nat) (digits : Text)
    (positive : ∀ length ∈ lengths, 0 < length) : (groups lengths digits).flatten = digits := by
  unfold groups
  rw [← List.reverse_flatten, flatten_pieces _ _ _ positive (by simp), List.reverse_reverse]

/-- The digits with a separator between groups. -/
def grouped (lengths : List Nat) (separator digits : Text) : Text :=
  separator.intercalate (groups lengths digits)

end MonetaryText.Amount

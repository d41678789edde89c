import MonetaryText.Binary64.Basic
import MonetaryText.Decimal.Arithmetic

/-!
The decimal that stands for a binary number: the fewest digits that lead back to it, of several the
nearest. The search compares, for one digit count after the other, the two neighbours of the number
on that decimal grid with the interval of numbers that round to it.
-/

namespace MonetaryText.Binary64

/-- The decimals `c * 10 ^ exponent` within the interval around a number. All quantities are
integers in a common unit: `unit` is one step of the grid, `value` the number itself. -/
structure Grid where
  unit : Nat
  value : Nat
  low : Nat
  high : Nat
  closed : Bool

namespace Grid

/-- The grid at `exponent` for `significand * 2 ^ power`, in quarters of the last place. Below a
power of two the gap is half as wide. Both ends round to the number iff its significand is even. -/
def around (significand : Nat) (power exponent : Int) : Grid :=
  let quarter := power - 2
  let scale := tenPow (-exponent).toNat <<< quarter.toNat
  let below := if significand = leastNormal && minExponent < power then 1 else 2
  { unit := tenPow exponent.toNat <<< (-quarter).toNat
    value := 4 * significand * scale
    low := (4 * significand - below) * scale
    high := (4 * significand + 2) * scale
    closed := significand % 2 = 0 }

def holds (grid : Grid) (c : Nat) : Bool :=
  if grid.closed then grid.low ≤ c * grid.unit && c * grid.unit ≤ grid.high
  else grid.low < c * grid.unit && c * grid.unit < grid.high

/-- The point of the grid that is chosen, if one of the two neighbours lies in the interval. Of
two the nearer wins, at equal distance the even one. -/
def nearest? (grid : Grid) : Option Nat :=
  let below := grid.value / grid.unit
  let above := below + 1
  let shortfall := grid.value - below * grid.unit
  let excess := above * grid.unit - grid.value
  match grid.holds below, grid.holds above with
  | false, false => none
  | true, false => some below
  | false, true => some above
  | true, true =>
    if shortfall < excess || (shortfall == excess && below % 2 == 0) then some below else some above

end Grid

/-- Tries digit counts upwards from `digits`; seventeen digits always suffice. -/
def search (significand : Nat) (power leading : Int) : Nat → Nat → Decimal
  | 0, _ => exactDecimal false significand power
  | fuel + 1, digits =>
    let exponent := leading - digits + 1
    match (Grid.around significand power exponent).nearest? with
    | some c => Decimal.dropZeros digits ⟨false, c, exponent⟩
    | none => search significand power leading fuel (digits + 1)

/-- The shortest decimal that rounds to a nonzero finite number. -/
def shortest (significand : Nat) (power : Int) : Decimal :=
  search significand power (exactDecimal false significand power).leadingExponent 17 1

/-- Leading digits from four places behind the point up to sixteen before it are written in place,
with at least one digit behind the point. Others keep their own exponent. -/
def inPlace (d : Decimal) : Decimal :=
  if -4 ≤ d.leadingExponent && d.leadingExponent < 16 && -1 < d.exponent then
    d.rescale .down (-1)
  else d

/-- The decimal that is read from the written form of a finite number. -/
def written (negative : Bool) (significand : Nat) (power : Int) : Decimal :=
  if significand = 0 then ⟨negative, 0, -1⟩
  else { inPlace (shortest significand power) with negative }

end MonetaryText.Binary64

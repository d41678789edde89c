import MonetaryText.Decimal.Basic

/-!
Rounding to a multiple of a power of ten. A mode decides from the remainder of one division
whether the quotient grows by one; without a remainder it never does.
-/

namespace MonetaryText

inductive RoundingMode where
  | halfUp
  | halfEven
  | halfDown
  | up
  | down
  | ceiling
  | floor
deriving DecidableEq, Repr

namespace RoundingMode

def all : List RoundingMode := [halfUp, halfEven, halfDown, up, down, ceiling, floor]

def name : RoundingMode → String
  | halfUp => "ROUND_HALF_UP"
  | halfEven => "ROUND_HALF_EVEN"
  | halfDown => "ROUND_HALF_DOWN"
  | up => "ROUND_UP"
  | down => "ROUND_DOWN"
  | ceiling => "ROUND_CEILING"
  | floor => "ROUND_FLOOR"

def ofName? (name : String) : Option RoundingMode := all.find? (·.name == name)

theorem ofName?_name (mode : RoundingMode) : ofName? mode.name = some mode := by
  cases mode <;> rfl

/-- Whether a magnitude of `quotient` and `remainder / divisor` goes away from zero. -/
def goesAway (mode : RoundingMode) (negative : Bool) (quotient remainder divisor : Nat) : Bool :=
  match mode with
  | halfUp => divisor ≤ 2 * remainder
  | halfEven => divisor < 2 * remainder || (divisor == 2 * remainder && quotient % 2 == 1)
  | halfDown => divisor < 2 * remainder
  | up => 0 < remainder
  | down => false
  | ceiling => 0 < remainder && !negative
  | floor => 0 < remainder && negative

/-- The magnitude `n / divisor` as an integer. -/
def quotient (mode : RoundingMode) (negative : Bool) (n divisor : Nat) : Nat :=
  if mode.goesAway negative (n / divisor) (n % divisor) divisor then n / divisor + 1
  else n / divisor

/-- What needs no rounding is not rounded. -/
theorem quotient_of_dvd (mode : RoundingMode) (negative : Bool) (n : Nat) {divisor : Nat}
    (pos : 0 < divisor) (exact : divisor ∣ n) :
    mode.quotient negative n divisor = n / divisor := by
  have rest := Nat.mod_eq_zero_of_dvd exact
  cases mode <;> simp [quotient, goesAway, rest] <;> omega

theorem quotient_eq_or_eq_succ (mode : RoundingMode) (negative : Bool) (n divisor : Nat) :
    mode.quotient negative n divisor = n / divisor ∨
      mode.quotient negative n divisor = n / divisor + 1 := by
  unfold quotient
  split <;> simp

end RoundingMode

/-- The decimal at another exponent: exact when the exponent falls, rounded once when it rises.
A rise beyond all digits is cut to one place beyond them, which no mode tells apart. -/
def Decimal.rescale (mode : RoundingMode) (d : Decimal) (exponent : Int) : Decimal :=
  if exponent ≤ d.exponent then
    ⟨d.negative, d.coefficient * tenPow (d.exponent - exponent).toNat, exponent⟩
  else
    let places := min (exponent - d.exponent).toNat (d.digitCount + 1)
    ⟨d.negative, mode.quotient d.negative d.coefficient (tenPow places), exponent⟩

@[simp] theorem Decimal.exponent_rescale (mode : RoundingMode) (d : Decimal) (exponent : Int) :
    (d.rescale mode exponent).exponent = exponent := by
  unfold rescale
  split <;> rfl

end MonetaryText

import VisualNovel.Number.Floating

/-!
# The shortest decimal

A floating-point number is written with the fewest decimal digits that read back as the same number,
and among those with the digits nearest to it. The digits of one length form a grid, and if any
point of a grid reads back, one of the two neighbours of the number on that grid does; so the two
neighbours are tried on grids of one digit, two digits and so on, the nearer one first.
-/

namespace VisualNovel.Number

/-- The power of ten of the leading digit of `num / den`. -/
def leadingPower (num den : Nat) : Int :=
  if den ≤ num then ((Nat.toDigits 10 (num / den)).length : Int) - 1
  else -((Nat.toDigits 10 ((den - 1) / num)).length : Int)

/-- The fraction `num / den` divided by `10 ^ power`, as a numerator and a denominator. -/
def scaleDownDecimal (num den : Nat) (power : Int) : Nat × Nat :=
  if 0 ≤ power then (num, den * Nat.pow 10 power.toNat)
  else (num * Nat.pow 10 (-power).toNat, den)

namespace Format

/-- The number `digits · 10 ^ power` with the given count of digits that reads back as
`coefficient · 2 ^ exponent`, if there is one. -/
def decimalOfLength (format : Format) (coefficient : Nat) (exponent : Int) (length : Nat) :
    Option (Nat × Int) :=
  let (num, den) := scaleDown coefficient 1 (-exponent)
  let power := leadingPower num den - length + 1
  let (n, d) := scaleDownDecimal num den power
  let readsBack (digits : Nat) : Bool :=
    format.ofScientific false digits power = .finite false coefficient exponent
  let below := n / d
  let nearer := divideToEven n d
  let farther := if nearer = below then below + 1 else below
  if readsBack nearer then some (nearer, power)
  else if readsBack farther then some (farther, power)
  else none

/-- Seventeen digits are enough for the formats in use. -/
def maxLength : Nat := 17

/-- The digits and the power of ten of the shortest decimal of `coefficient · 2 ^ exponent`. The
neighbour above a number whose digits are all nines is a power of ten, which one digit writes. -/
def shortest (format : Format) (coefficient : Nat) (exponent : Int) : Nat × Int :=
  if coefficient = 0 then (0, 0)
  else
    match (List.range maxLength).findSome? fun n =>
      format.decimalOfLength coefficient exponent (n + 1) with
    | some (digits, power) => if digits = 10 then (1, power + 1) else (digits, power)
    | none => (coefficient * Nat.pow 2 exponent.toNat, 0)

end Format

end VisualNovel.Number

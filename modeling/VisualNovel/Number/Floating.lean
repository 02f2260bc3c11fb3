import VisualNovel.Number.Decimal

/-!
# Binary floating point

Numbers with a fraction are kept in a binary format and compared by value. A finite number is
`coefficient · 2 ^ exponent`; a format says how many binary digits the coefficient has and between
which bounds the exponent lies. `Format.round` takes an exact quotient to the nearest number of the
format, a tie to the one with the even coefficient, and beyond the largest number to infinity. All
of it is exact arithmetic on `Nat`.

Two formats are in use: `single` for what a stage or a dialog keeps, `double` for the comparisons of
conditions and for the numbers of a JSON text on their way to `single`.
-/

namespace VisualNovel.Number

/-- A floating-point number. Zero has a sign, and not a number is a value of its own. -/
inductive Floating where
  /-- The number `coefficient · 2 ^ exponent`, with its sign. -/
  | finite (negative : Bool) (coefficient : Nat) (exponent : Int)
  /-- An infinite number. -/
  | infinite (negative : Bool)
  /-- Not a number. -/
  | nan
  deriving DecidableEq, Repr

/-- A binary format. -/
structure Format where
  /-- The number of binary digits of a coefficient. -/
  precision : Nat
  /-- The least exponent. -/
  minExponent : Int
  /-- The greatest exponent. -/
  maxExponent : Int

namespace Format

/-- The format of 32 bits. -/
def single : Format := ⟨24, -149, 104⟩

/-- The format of 64 bits. -/
def double : Format := ⟨53, -1074, 971⟩

end Format

/-! ## Rounding -/

/-- The quotient nearest to `num / den`, a tie going to the even one. -/
def divideToEven (num den : Nat) : Nat :=
  let quotient := num / den
  let double := 2 * (num % den)
  if double < den then quotient
  else if den < double then quotient + 1
  else if quotient % 2 = 0 then quotient
  else quotient + 1

/-- The fraction `num / den` divided by `2 ^ exponent`, as a numerator and a denominator. -/
def scaleDown (num den : Nat) (exponent : Int) : Nat × Nat :=
  if 0 ≤ exponent then (num, den * Nat.pow 2 exponent.toNat)
  else (num * Nat.pow 2 (-exponent).toNat, den)

namespace Format

/-- The exponent at which the coefficient of `num / den` has as many digits as the format has, or
the least exponent where that is greater. -/
def exponentOf (format : Format) (num den : Nat) : Int :=
  let low : Int := (Nat.log2 num : Int) - Nat.log2 den - format.precision
  let (n, d) := scaleDown num den low
  let exponent := if Nat.pow 2 format.precision ≤ n / d then low + 1 else low
  max exponent format.minExponent

/-- The number of the format nearest to `num / den`. -/
def round (format : Format) (negative : Bool) (num den : Nat) : Floating :=
  if num = 0 then .finite negative 0 format.minExponent
  else
    let exponent := format.exponentOf num den
    let (n, d) := scaleDown num den exponent
    let coefficient := divideToEven n d
    let (coefficient, exponent) :=
      if coefficient = Nat.pow 2 format.precision then (coefficient / 2, exponent + 1)
      else (coefficient, exponent)
    if format.maxExponent < exponent then .infinite negative
    else .finite negative coefficient exponent

/-- The number of the format nearest to `significand · 10 ^ power`. A power so far out that the
result is infinite or zero in either format is not computed. -/
def ofScientific (format : Format) (negative : Bool) (significand : Nat) (power : Int) : Floating :=
  if significand = 0 then format.round negative 0 1
  else
    let magnitude : Int := power + (Nat.toDigits 10 significand).length
    if magnitude > 400 then .infinite negative
    else if magnitude < -400 then format.round negative 0 1
    else if 0 ≤ power then format.round negative (significand * Nat.pow 10 power.toNat) 1
    else format.round negative significand (Nat.pow 10 (-power).toNat)

/-- The number of the format that a literal denotes. -/
def ofDecimal (format : Format) : Decimal → Floating
  | .finite negative significand power => format.ofScientific negative significand power
  | .infinite negative => .infinite negative
  | .nan => .nan

/-- The number that a text denotes in the format. -/
def read (format : Format) (s : String) : Option Floating :=
  (Decimal.read s).map format.ofDecimal

/-- The number of the format nearest to a whole number. -/
def ofInt (format : Format) (i : Int) : Floating :=
  format.round (i < 0) i.natAbs 1

/-- A number of another format, rounded to this one. -/
def convert (format : Format) : Floating → Floating
  | .finite negative coefficient exponent =>
    let (n, d) := scaleDown coefficient 1 (-exponent)
    format.round negative n d
  | .infinite negative => .infinite negative
  | .nan => .nan

end Format

namespace Floating

/-! ## Comparing -/

/-- The number as a multiple of `2 ^ unit`, for a unit not above its exponent. -/
def inUnits (negative : Bool) (coefficient : Nat) (exponent unit : Int) : Int :=
  let magnitude : Int := (coefficient * Nat.pow 2 (exponent - unit).toNat : Nat)
  if negative then -magnitude else magnitude

/-- How two numbers compare by value; nothing compares with not a number. -/
def compare? : Floating → Floating → Option Ordering
  | .nan, _ => none
  | _, .nan => none
  | .infinite a, .infinite b => some (if a = b then .eq else if a then .lt else .gt)
  | .infinite a, .finite .. => some (if a then .lt else .gt)
  | .finite .., .infinite b => some (if b then .gt else .lt)
  | .finite a m e, .finite b n f =>
    let unit := min e f
    some (compare (inUnits a m e unit) (inUnits b n f unit))

/-- Whether the first number is less than the second. -/
def lessThan (x y : Floating) : Bool :=
  x.compare? y == some .lt

/-- Whether the first number is at most the second. -/
def atMost (x y : Floating) : Bool :=
  x.compare? y == some .lt || x.compare? y == some .eq

/-- Whether two numbers have the same value: zero has it whatever its sign, and not a number does
not have it even with itself. -/
def sameValue (x y : Floating) : Bool :=
  x.compare? y == some .eq

/-! ## Bounding -/

/-- The number, or the nearer bound if it lies outside them; not a number stays. -/
def clamp (x low high : Floating) : Floating :=
  if x.lessThan low then low else if high.lessThan x then high else x

/-- The number, or the bound if it is not above it; not a number becomes the bound. -/
def atLeast (x low : Floating) : Floating :=
  if low.lessThan x then x else low

/-! ## Multiplying and dividing -/

/-- The product with a positive finite number, rounded. -/
def scaleBy (format : Format) (x y : Floating) : Floating :=
  match x, y with
  | .finite a m e, .finite _ n f =>
    let (num, den) := scaleDown (m * n) 1 (-(e + f))
    format.round a num den
  | _, _ => x

/-- The quotient by a positive finite number, rounded. -/
def divideBy (format : Format) (x y : Floating) : Floating :=
  match x, y with
  | .finite a m e, .finite _ n f =>
    let (num, den) := scaleDown m n (f - e)
    format.round a num den
  | _, _ => x

/-- Whether the number is zero. -/
def isZero : Floating → Bool
  | .finite _ coefficient _ => coefficient == 0
  | _ => false

/-- Whether the number is infinite. -/
def isInfinite : Floating → Bool
  | .infinite _ => true
  | _ => false

end Floating

/-- A number in the format of 32 bits. -/
abbrev Single : Type :=
  Floating

/-- A whole number in the format of 32 bits. -/
def Single.ofNat (n : Nat) : Single :=
  Format.single.ofInt n

end VisualNovel.Number

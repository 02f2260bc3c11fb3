/-!
# Whole numbers of a fixed width

Scripts and stories count in two ranges: coordinates, sizes and levels are signed numbers of 32
bits, frames and speeds are unsigned numbers of 32 bits. Here they are `Int` and `Nat`; a number
from outside is checked against its range when it is read, and arithmetic checks its result. A
result outside the range is a `Crash`: the computation has no answer, and what asked for it ends.
-/

namespace VisualNovel

/-- Why a computation has no answer. -/
inductive Crash where
  /-- The result of an operation on whole numbers lies outside their range. -/
  | overflow
  /-- A text was to be cut at an offset that is no position in it. -/
  | cut
  deriving DecidableEq, Repr

/-- A computation that may have no answer. -/
abbrev Safe (α : Type) : Type :=
  Except Crash α

namespace Number

/-! ## The two ranges -/

/-- Whether a number fits in 32 bits with a sign. -/
def fitsSigned (i : Int) : Bool :=
  -2147483648 ≤ i && i ≤ 2147483647

/-- The largest unsigned number of 32 bits. -/
def maxCount : Nat := 4294967295

/-- The result of an operation on signed numbers. -/
def signed (i : Int) : Safe Int :=
  if fitsSigned i then .ok i else .error .overflow

/-- The result of an operation on unsigned numbers. -/
def count (n : Nat) : Safe Nat :=
  if n ≤ maxCount then .ok n else .error .overflow

/-- A number between two bounds, or the nearer bound. -/
def bounded (value low high : Int) : Int :=
  max low (min value high)

/-! ## Reading -/

/-- The number that the digits spell, most significant first. -/
def ofDigits (ds : List Char) : Nat :=
  ds.foldl (fun n d => 10 * n + (d.toNat - '0'.toNat)) 0

/-- The number that a text of digits spells; at least one digit is needed. -/
def readDigits (cs : List Char) : Option Nat :=
  if cs.isEmpty || !cs.all Char.isDigit then none else some (ofDigits cs)

/-- A signed number: digits after an optional sign. -/
def readSigned (s : String) : Option Int :=
  let value : Option Int :=
    match s.toList with
    | '-' :: cs => (readDigits cs).map fun n => -(n : Int)
    | '+' :: cs => (readDigits cs).map fun n => (n : Int)
    | cs => (readDigits cs).map fun n => (n : Int)
  value.filter fitsSigned

/-- An unsigned number of any size: digits after an optional plus sign. -/
def readNatural (s : String) : Option Nat :=
  match s.toList with
  | '+' :: cs => readDigits cs
  | cs => readDigits cs

/-- An unsigned number. -/
def readCount (s : String) : Option Nat :=
  (readNatural s).filter (· ≤ maxCount)

end Number

end VisualNovel

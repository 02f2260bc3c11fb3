import VisualNovel.Number.Shortest

/-!
# JSON values

Stories, settings and the messages between an engine and its host are written as JSON. A value keeps
the members of an object in their order, repetitions included, because a record refuses a repeated
member and a dictionary does not. A number keeps the difference between whole numbers and decimals,
because a whole number is wanted as such.

A string literal can be well formed and still denote no text: its escapes may name half of a
surrogate pair. Such a literal, and an object with such a member name, is `ill`. It is skipped
without complaint where a value is not looked at, and refused wherever one is.
-/

namespace VisualNovel

open Number

namespace Json

/-- A number as it is written. -/
inductive Numeral where
  /-- Digits only, after an optional minus sign. -/
  | whole (value : Int)
  /-- A number with a fraction or a power of ten: `significand · 10 ^ power`. -/
  | decimal (negative : Bool) (significand : Nat) (power : Int)
  deriving DecidableEq, Repr

end Json

/-- A JSON value. -/
inductive Json where
  /-- The value `null`. -/
  | null
  /-- A truth value. -/
  | bool (value : Bool)
  /-- A number. -/
  | number (value : Json.Numeral)
  /-- A text. -/
  | text (value : String)
  /-- A literal that denotes no text. -/
  | ill
  /-- A list of values. -/
  | array (items : List Json)
  /-- Named values. -/
  | object (members : List (String × Json))

namespace Json

instance : Inhabited Json := ⟨null⟩

/-! ## Numbers in a format

A decimal becomes a number of 64 bits in two steps: its leading digits, as many as fit in a word of
64 bits, are rounded, and the result is multiplied or divided by a rounded power of ten. A result
beyond the largest number is refused. -/

/-- The leading digits that fit in 64 bits, with the power of ten that makes up for the others. -/
def leadingDigits (significand : Nat) (power : Int) : Nat × Int :=
  if significand < 18446744073709551616 then (significand, power)
  else leadingDigits (significand / 10) (power + 1)
termination_by significand
decreasing_by omega

/-- The rounded power of ten. -/
def tenTo (n : Nat) : Floating :=
  Format.double.round false (Nat.pow 10 n) 1

/-- A number times a power of ten, in steps of at most `10 ^ 308`. -/
def timesTenTo (x : Floating) (power : Int) : Option Floating :=
  if x.isZero then some x
  else if 308 < power then none
  else if 0 ≤ power then
    let product := x.scaleBy .double (tenTo power.toNat)
    if product.isInfinite then none else some product
  else if -308 ≤ power then some (x.divideBy .double (tenTo (-power).toNat))
  else timesTenTo (x.divideBy .double (tenTo 308)) (power + 308)
termination_by power.natAbs
decreasing_by omega

/-- The number of 64 bits that a decimal denotes. -/
def doubleOfDecimal (negative : Bool) (significand : Nat) (power : Int) : Option Floating :=
  let (digits, power) := leadingDigits significand power
  timesTenTo (Format.double.round negative digits 1) power

/-- The number of 32 bits that a numeral denotes. A whole number of 64 bits is rounded once, any
other numeral by way of 64 bits. -/
def Numeral.single? : Numeral → Option Single
  | .whole i =>
    if -9223372036854775808 ≤ i && i < 18446744073709551616 then some (Format.single.ofInt i)
    else (doubleOfDecimal (i < 0) i.natAbs 0).map Format.single.convert
  | .decimal negative significand power =>
    (doubleOfDecimal negative significand power).map Format.single.convert

/-- A number of 32 bits as its shortest decimal; one that is not finite is written `null`. -/
def ofSingle : Single → Json
  | .finite negative coefficient exponent =>
    let (digits, power) := Format.single.shortest coefficient exponent
    .number (.decimal negative digits power)
  | .infinite _ => .null
  | .nan => .null

/-- A whole number. -/
def ofInt (i : Int) : Json := .number (.whole i)

/-- A whole number. -/
def ofNat (n : Nat) : Json := .number (.whole n)

/-- A value that may be absent, written `null` then. -/
def ofOption {α : Type} (write : α → Json) : Option α → Json
  | none => .null
  | some a => write a

end Json

end VisualNovel

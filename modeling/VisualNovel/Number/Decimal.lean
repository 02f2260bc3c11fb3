import VisualNovel.Number.Bounded

/-!
# Decimal literals

The written form of a number with a fraction: an optional sign, digits with an optional point
(a digit must stand on at least one side of it), and an optional power of ten. The words `inf`,
`infinity` and `nan` are literals too, in any letter case. What a literal means in a floating-point
format is a matter of `VisualNovel.Number.Floating`; here it is an exact number.
-/

namespace VisualNovel.Number

/-- The exact meaning of a decimal literal. -/
inductive Decimal where
  /-- The number `significand · 10 ^ exponent`, with its sign. -/
  | finite (negative : Bool) (significand : Nat) (exponent : Int)
  /-- An infinite number. -/
  | infinite (negative : Bool)
  /-- Not a number. -/
  | nan
  deriving DecidableEq, Repr

namespace Decimal

/-- The leading digits of a text, and the rest of it. -/
def spanDigits (cs : List Char) : List Char × List Char :=
  (cs.takeWhile Char.isDigit, cs.dropWhile Char.isDigit)

/-- The digits after a point, if a point comes next. -/
def spanFraction : List Char → List Char × List Char
  | '.' :: cs => spanDigits cs
  | cs => ([], cs)

/-- A power of ten that ends the literal: digits after an optional sign. -/
def readPower : List Char → Option Int
  | '-' :: cs => (readDigits cs).map fun n => -(n : Int)
  | '+' :: cs => (readDigits cs).map fun n => (n : Int)
  | cs => (readDigits cs).map fun n => (n : Int)

/-- What follows the digits of a literal: nothing, or a power of ten. -/
def readExponent : List Char → Option Int
  | [] => some 0
  | c :: cs => if c = 'e' || c = 'E' then readPower cs else none

/-- A literal after its sign. -/
def readUnsigned (negative : Bool) (cs : List Char) : Option Decimal :=
  let word := cs.map Char.toLower
  if word = "inf".toList || word = "infinity".toList then some (.infinite negative)
  else if word = "nan".toList then some .nan
  else
    let (whole, afterWhole) := spanDigits cs
    let (fraction, afterFraction) := spanFraction afterWhole
    if whole.isEmpty && fraction.isEmpty then none
    else
      (readExponent afterFraction).map fun power =>
        .finite negative (ofDigits (whole ++ fraction)) (power - fraction.length)

/-- The meaning of a literal; none if the text is no literal. -/
def read (s : String) : Option Decimal :=
  match s.toList with
  | '-' :: cs => readUnsigned true cs
  | '+' :: cs => readUnsigned false cs
  | cs => readUnsigned false cs

end Decimal

end VisualNovel.Number

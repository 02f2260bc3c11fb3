import VisualNovel.Json.Basic

/-!
# Reading JSON

A reader for the whole grammar. Blanks are the four of the grammar; a number has no leading zeros; a
string holds no control characters, and an escaped surrogate must come in a pair. A whole number
written `-0` is a decimal, since no whole number is negative and zero.

Every step of the reader takes at least one character, so its recursion is bounded by the length of
the text.
-/

namespace VisualNovel.Json

open Number

/-! ## Blanks -/

/-- A blank of the grammar. -/
def isSpace (c : Char) : Bool :=
  c = ' ' || c = '\n' || c = '\t' || c = '\r'

/-- The text after leading blanks. -/
def skipSpace (cs : List Char) : List Char :=
  cs.dropWhile isSpace

/-! ## Numbers -/

/-- The digits of a whole part: a zero, or digits that do not begin with one. -/
def spanWhole : List Char → Option (List Char × List Char)
  | '0' :: cs => if (cs.head?.map Char.isDigit).getD false then none else some (['0'], cs)
  | cs =>
    let (digits, rest) := Decimal.spanDigits cs
    if digits.isEmpty then none else some (digits, rest)

/-- The digits after a point, none if there is no point. -/
def spanPoint : List Char → Option (Option (List Char) × List Char)
  | '.' :: cs =>
    let (digits, rest) := Decimal.spanDigits cs
    if digits.isEmpty then none else some (some digits, rest)
  | cs => some (none, cs)

/-- The digits of a power of ten, with its sign. -/
def spanSigned (cs : List Char) : Option (Int × List Char) :=
  let (negative, cs) :=
    match cs with
    | '-' :: cs => (true, cs)
    | '+' :: cs => (false, cs)
    | cs => (false, cs)
  let (digits, rest) := Decimal.spanDigits cs
  if digits.isEmpty then none
  else
    let n : Int := ofDigits digits
    some (if negative then -n else n, rest)

/-- A power of ten, none if there is none. -/
def spanPower : List Char → Option (Option Int × List Char)
  | c :: cs =>
    if c = 'e' || c = 'E' then (spanSigned cs).map fun (power, rest) => (some power, rest)
    else some (none, c :: cs)
  | [] => some (none, [])

/-- A number after its sign. -/
def readMagnitude (negative : Bool) (cs : List Char) : Option (Numeral × List Char) := do
  let (whole, cs) ← spanWhole cs
  let (fraction, cs) ← spanPoint cs
  let (power, cs) ← spanPower cs
  let digits := ofDigits (whole ++ fraction.getD [])
  if fraction.isNone && power.isNone && !(negative && digits == 0) then
    let value : Int := digits
    return (.whole (if negative then -value else value), cs)
  else
    return (.decimal negative digits (power.getD 0 - (fraction.getD []).length), cs)

/-- A number. -/
def readNumeral : List Char → Option (Numeral × List Char)
  | '-' :: cs => readMagnitude true cs
  | cs => readMagnitude false cs

/-! ## Text -/

/-- The value of a digit of base sixteen. -/
def hexValue (c : Char) : Option Nat :=
  if c.isDigit then some (c.toNat - '0'.toNat)
  else if 'a' ≤ c && c ≤ 'f' then some (c.toNat - 'a'.toNat + 10)
  else if 'A' ≤ c && c ≤ 'F' then some (c.toNat - 'A'.toNat + 10)
  else none

/-- The value of four digits of base sixteen. -/
def hexValue4 (a b c d : Char) : Option Nat := do
  let a ← hexValue a
  let b ← hexValue b
  let c ← hexValue c
  let d ← hexValue d
  return ((a * 16 + b) * 16 + c) * 16 + d

/-- The character of a one-letter escape. -/
def escaped (c : Char) : Option Char :=
  if c = '"' || c = '\\' || c = '/' then some c
  else if c = 'b' then some (Char.ofNat 8)
  else if c = 'f' then some (Char.ofNat 12)
  else if c = 'n' then some '\n'
  else if c = 'r' then some '\r'
  else if c = 't' then some '\t'
  else none

/-- Whether a unit of sixteen bits is the first half of a pair. -/
def isHighHalf (n : Nat) : Bool :=
  0xD800 ≤ n && n < 0xDC00

/-- Whether a unit of sixteen bits is the second half of a pair. -/
def isLowHalf (n : Nat) : Bool :=
  0xDC00 ≤ n && n < 0xE000

/-- The character of a pair of units. -/
def ofHalves (high low : Nat) : Char :=
  Char.ofNat (0x10000 + (high - 0xD800) * 0x400 + (low - 0xDC00))

/-- A literal's text with one more character in front; no text stays none. -/
def pushChar (c : Char) : Option (List Char) × List Char → Option (List Char) × List Char
  | (chars, rest) => (chars.map (c :: ·), rest)

/-- The characters of a literal up to its closing quote, and what follows the quote. The characters
are none if the literal denotes no text. -/
def readLiteral : List Char → Option (Option (List Char) × List Char)
  | [] => none
  | '"' :: rest => some (some [], rest)
  | '\\' :: 'u' :: a :: b :: c :: d :: rest =>
    match hexValue4 a b c d with
    | none => none
    | some unit =>
      if isHighHalf unit then
        match rest with
        | '\\' :: 'u' :: e :: f :: g :: h :: rest =>
          match hexValue4 e f g h with
          | none => none
          | some second =>
            if isLowHalf second then (readLiteral rest).map (pushChar (ofHalves unit second))
            else (readLiteral rest).map fun (_, rest) => (none, rest)
        | rest => (readLiteral rest).map fun (_, rest) => (none, rest)
      else if isLowHalf unit then (readLiteral rest).map fun (_, rest) => (none, rest)
      else (readLiteral rest).map (pushChar (Char.ofNat unit))
  | '\\' :: c :: rest =>
    match escaped c with
    | none => none
    | some c => (readLiteral rest).map (pushChar c)
  | c :: rest => if c.toNat < 32 then none else (readLiteral rest).map (pushChar c)

/-! ## Values -/

/-- The object with the given members, which is ill if one of the names is no text. -/
def objectOf (members : List (Option (List Char) × Json)) : Json :=
  match members.mapM fun (name, value) => name.map fun name => (String.ofList name, value) with
  | some members => .object members
  | none => .ill

mutual

/-- A value and what follows it, within the given number of steps. -/
def readValue : Nat → List Char → Option (Json × List Char)
  | 0, _ => none
  | steps + 1, cs =>
    match skipSpace cs with
    | 'n' :: 'u' :: 'l' :: 'l' :: rest => some (.null, rest)
    | 't' :: 'r' :: 'u' :: 'e' :: rest => some (.bool true, rest)
    | 'f' :: 'a' :: 'l' :: 's' :: 'e' :: rest => some (.bool false, rest)
    | '"' :: rest =>
      (readLiteral rest).map fun
        | (some chars, rest) => (.text (String.ofList chars), rest)
        | (none, rest) => (.ill, rest)
    | '[' :: rest =>
      match skipSpace rest with
      | ']' :: rest => some (.array [], rest)
      | rest => (readItems steps rest).map fun (items, rest) => (.array items, rest)
    | '{' :: rest =>
      match skipSpace rest with
      | '}' :: rest => some (.object [], rest)
      | rest => (readMembers steps rest).map fun (members, rest) => (objectOf members, rest)
    | rest => (readNumeral rest).map fun (value, rest) => (.number value, rest)

/-- The items of a list up to its closing bracket, at least one. -/
def readItems : Nat → List Char → Option (List Json × List Char)
  | 0, _ => none
  | steps + 1, cs =>
    match readValue steps cs with
    | none => none
    | some (item, rest) =>
      match skipSpace rest with
      | ']' :: rest => some ([item], rest)
      | ',' :: rest => (readItems steps rest).map fun (items, rest) => (item :: items, rest)
      | _ => none

/-- The members of an object up to its closing brace, at least one. -/
def readMembers : Nat → List Char → Option (List (Option (List Char) × Json) × List Char)
  | 0, _ => none
  | steps + 1, cs =>
    match skipSpace cs with
    | '"' :: rest =>
      match readLiteral rest with
      | none => none
      | some (name, rest) =>
        match skipSpace rest with
        | ':' :: rest =>
          match readValue steps rest with
          | none => none
          | some (value, rest) =>
            match skipSpace rest with
            | '}' :: rest => some ([(name, value)], rest)
            | ',' :: rest =>
              (readMembers steps rest).map fun (members, rest) => ((name, value) :: members, rest)
            | _ => none
        | _ => none
    | _ => none

end

/-- The value that a text writes; nothing but blanks may follow it. -/
def read (s : String) : Option Json :=
  match readValue (2 * s.length + 2) s.toList with
  | some (value, rest) => if (skipSpace rest).isEmpty then some value else none
  | none => none

end VisualNovel.Json

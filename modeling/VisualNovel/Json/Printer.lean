import VisualNovel.Json.Basic

/-!
# Writing JSON

The compact written form: no blanks, members in their order, text escaped only where the grammar
requires it. A decimal is written positionally while its leading digit stands between the millionths
and the trillions, with at least one digit after the point, and beyond that with a power of ten.
-/

namespace VisualNovel.Json

/-! ## Text -/

/-- The sixteen digits. -/
def hexDigit (n : Nat) : Char :=
  if n < 10 then Char.ofNat ('0'.toNat + n) else Char.ofNat ('a'.toNat + n - 10)

/-- A character inside a literal. -/
def escapeChar (c : Char) : List Char :=
  if c = '"' then ['\\', '"']
  else if c = '\\' then ['\\', '\\']
  else if c = '\n' then ['\\', 'n']
  else if c = '\r' then ['\\', 'r']
  else if c = '\t' then ['\\', 't']
  else if c.toNat = 8 then ['\\', 'b']
  else if c.toNat = 12 then ['\\', 'f']
  else if c.toNat < 32 then ['\\', 'u', '0', '0', hexDigit (c.toNat / 16), hexDigit (c.toNat % 16)]
  else [c]

/-- A text as a literal. -/
def quote (s : String) : String :=
  "\"" ++ String.ofList (s.toList.flatMap escapeChar) ++ "\""

/-! ## Numbers -/

/-- The powers of ten of a leading digit that is written positionally. -/
def isPositional (leading : Int) : Bool :=
  -6 ≤ leading && leading ≤ 12

/-- Digits written positionally, with a point. -/
def positional (digits : List Char) (power : Int) : List Char :=
  if 0 ≤ power then digits ++ List.replicate power.toNat '0' ++ ['.', '0']
  else
    let fraction := (-power).toNat
    if fraction < digits.length then
      digits.take (digits.length - fraction) ++ ['.'] ++ digits.drop (digits.length - fraction)
    else ['0', '.'] ++ List.replicate (fraction - digits.length) '0' ++ digits

/-- Digits written with a power of ten, whose sign is always written. -/
def scientific (digits : List Char) (leading : Int) : List Char :=
  let mantissa :=
    match digits with
    | d :: e :: rest => d :: '.' :: e :: rest
    | ds => ds
  let sign := if 0 ≤ leading then '+' else '-'
  mantissa ++ ['e', sign] ++ Nat.toDigits 10 leading.natAbs

/-- A number in its written form. -/
def Numeral.render : Numeral → String
  | .whole i =>
    if i < 0 then "-" ++ String.ofList (Nat.toDigits 10 i.natAbs)
    else String.ofList (Nat.toDigits 10 i.natAbs)
  | .decimal negative significand power =>
    let digits := Nat.toDigits 10 significand
    let leading := power + digits.length - 1
    let magnitude :=
      if isPositional leading then positional digits power else scientific digits leading
    String.ofList (if negative then '-' :: magnitude else magnitude)

/-! ## Values -/

/-- Texts in a row, with commas between them. -/
def commaSeparated : List String → String
  | [] => ""
  | [s] => s
  | s :: t :: rest => s ++ "," ++ commaSeparated (t :: rest)

mutual

/-- The compact written form of a value. -/
def render : Json → String
  | .null => "null"
  | .bool true => "true"
  | .bool false => "false"
  | .number value => value.render
  | .text value => quote value
  | .ill => "null"
  | .array items => "[" ++ commaSeparated (renderItems items) ++ "]"
  | .object members => "\x7b" ++ commaSeparated (renderMembers members) ++ "\x7d"

/-- The written forms of the items of a list. -/
def renderItems : List Json → List String
  | [] => []
  | item :: items => render item :: renderItems items

/-- The written forms of the members of an object. -/
def renderMembers : List (String × Json) → List String
  | [] => []
  | (name, value) :: members => (quote name ++ ":" ++ render value) :: renderMembers members

end

end VisualNovel.Json

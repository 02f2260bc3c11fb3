import VisualNovel.Text.Split
import VisualNovel.Text.Alphanumeric

/-!
# Placeholders

A placeholder is a name in parentheses after a sigil: `($name)` stands for the value of a variable
and `(@name)` for a parameter of a reusable script. Spaces may stand before the sigil, and blanks
around the name; the name holds letters and numbers of any script, underscores and spaces.

A line is cut into `pieces`, from left to right: placeholders, and the single characters between
them. `fill` puts values in the place of the placeholders. What it puts in is not looked at again.
How a value is asked for is left open: asking may fail, or leave notes behind.
-/

namespace VisualNovel

namespace Placeholder

/-- The sigil of variables. -/
def variableSigil : Char := '$'

/-- The sigil of parameters. -/
def parameterSigil : Char := '@'

/-- A character of a name. -/
def isNameChar (c : Char) : Bool :=
  c = '_' || c = ' ' || Text.isAlphanumeric c

/-- Whether a text is a name. -/
def isName (cs : List Char) : Bool :=
  !cs.isEmpty && cs.all isNameChar

/-- The placeholder at the start of what follows an opening parenthesis: its name, and the number of
characters it takes up to its closing parenthesis. -/
def read? (sigil : Char) (cs : List Char) : Option (List Char × Nat) :=
  let spaces := (cs.takeWhile (· = ' ')).length
  match cs.drop spaces with
  | [] => none
  | c :: body =>
    if c = sigil then
      match Text.cutChars ')' body with
      | none => none
      | some (inside, _) =>
        let name := Text.trimChars inside
        if isName name then some (name, spaces + 1 + inside.length + 1) else none
    else none

/-- A part of a line. -/
inductive Piece where
  /-- A character that belongs to no placeholder. -/
  | plain (c : Char)
  /-- A placeholder, as it is written and by its name. -/
  | hole (source : List Char) (name : String)
  deriving DecidableEq, Repr

/-- The pieces of a line, after a number of characters that a placeholder has taken already. -/
def piecesAfter (sigil : Char) : Nat → List Char → List Piece
  | _, [] => []
  | taken + 1, _ :: cs => piecesAfter sigil taken cs
  | 0, c :: cs =>
    if c = '(' then
      match read? sigil cs with
      | some (name, length) =>
        .hole (c :: cs.take length) (String.ofList name) :: piecesAfter sigil length cs
      | none => .plain c :: piecesAfter sigil 0 cs
    else .plain c :: piecesAfter sigil 0 cs

/-- The pieces of a line. -/
def pieces (sigil : Char) (cs : List Char) : List Piece :=
  piecesAfter sigil 0 cs

/-- What a placeholder has taken is passed over. -/
theorem piecesAfter_eq (sigil : Char) (taken : Nat) (cs : List Char) :
    piecesAfter sigil taken cs = pieces sigil (cs.drop taken) := by
  induction cs generalizing taken with
  | nil => simp [pieces, piecesAfter]
  | cons c cs ih =>
    cases taken with
    | zero => rfl
    | succ taken => simpa [piecesAfter] using ih taken

/-- The name that a piece asks a value for. -/
def Piece.name? : Piece → Option String
  | .plain _ => none
  | .hole _ name => some name

/-- The names of the placeholders of a line, from left to right. -/
def names (sigil : Char) (line : String) : List String :=
  (pieces sigil line.toList).filterMap Piece.name?

variable {m : Type → Type} [Monad m]

/-- The pieces with values in the place of placeholders, and whether there was one. The values are
asked for from left to right. A placeholder without a value stays as it is written; where asking can
fail, the first failure ends the filling. -/
def fillPieces (value : String → m (Option String)) : List Piece → m (List Char × Bool)
  | [] => return ([], false)
  | .plain c :: rest => do
    let (filled, some?) ← fillPieces value rest
    return (c :: filled, some?)
  | .hole source name :: rest => do
    match ← value name with
    | none =>
      let (filled, some?) ← fillPieces value rest
      return (source ++ filled, some?)
    | some text =>
      let (filled, _) ← fillPieces value rest
      return (text.toList ++ filled, true)

/-- A line with values in the place of its placeholders, and whether there was one. -/
def fill (sigil : Char) (value : String → m (Option String)) (line : String) :
    m (String × Bool) := do
  let (filled, some?) ← fillPieces value (pieces sigil line.toList)
  return (String.ofList filled, some?)

/-- Whether a placeholder begins at one of the opening parentheses of a text. -/
def occursIn (sigil : Char) : List Char → Bool
  | [] => false
  | c :: cs => (c = '(' && (read? sigil cs).isSome) || occursIn sigil cs

/-- Whether a line has a placeholder. -/
def occurs (sigil : Char) (line : String) : Bool :=
  occursIn sigil line.toList

end Placeholder

end VisualNovel

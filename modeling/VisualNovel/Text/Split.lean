import VisualNovel.Text.Blank

/-!
# Cutting text

Separators, lines and first occurrences. A separator never stays in the pieces:

* `split` cuts at every separator, so `n` separators give `n + 1` pieces;
* `splitAtMost` stops cutting when the last allowed piece is reached, and that piece keeps the
  separators it holds;
* `cut` cuts once, at the first separator;
* `lines` cuts a script at its line feeds.

`breakOn` finds the first occurrence of a whole text, and `cutAtByte` cuts at an offset counted in
bytes of the UTF-8 form, which is a position only where a character begins.
-/

namespace VisualNovel.Text

/-! ## Separators -/

/-- The pieces of a text between its separators. -/
def splitChars (sep : Char) : List Char → List (List Char)
  | [] => [[]]
  | c :: cs =>
    if c = sep then [] :: splitChars sep cs
    else
      match splitChars sep cs with
      | [] => [[c]]
      | piece :: pieces => (c :: piece) :: pieces

/-- The text before and the text after the first separator. -/
def cutChars (sep : Char) : List Char → Option (List Char × List Char)
  | [] => none
  | c :: cs =>
    if c = sep then some ([], cs)
    else (cutChars sep cs).map fun (before, after) => (c :: before, after)

/-- The pieces of a text between its first separators, at most as many as asked for. -/
def splitAtMostChars (sep : Char) : Nat → List Char → List (List Char)
  | 0, _ => []
  | 1, cs => [cs]
  | n + 2, cs =>
    match cutChars sep cs with
    | none => [cs]
    | some (before, after) => before :: splitAtMostChars sep (n + 1) after

/-- The pieces of a text between its separators. -/
def split (sep : Char) (s : String) : List String :=
  (splitChars sep s.toList).map String.ofList

/-- The pieces of a text between its first separators, at most as many as asked for. -/
def splitAtMost (sep : Char) (n : Nat) (s : String) : List String :=
  (splitAtMostChars sep n s.toList).map String.ofList

/-- The text before and the text after the first separator. -/
def cut (sep : Char) (s : String) : Option (String × String) :=
  (cutChars sep s.toList).map fun (before, after) => (String.ofList before, String.ofList after)

/-! ## Lines -/

/-- A line without the one carriage return that may end it. -/
def dropReturn : List Char → List Char
  | [] => []
  | [c] => if c = '\r' then [] else [c]
  | c :: d :: cs => c :: dropReturn (d :: cs)

/-- The lines among the pieces between line feeds. The last piece ends with no line feed: it is a
line only if it holds something, and its carriage return, if it ends with one, is its own. -/
def linesOfPieces : List (List Char) → List (List Char)
  | [] => []
  | [final] => if final.isEmpty then [] else [final]
  | piece :: next :: pieces => dropReturn piece :: linesOfPieces (next :: pieces)

/-- The lines of a text. A line ends with a line feed, or with a carriage return and a line feed;
a final line feed begins no further line. -/
def linesChars (cs : List Char) : List (List Char) :=
  linesOfPieces (splitChars '\n' cs)

/-- The lines of a text. -/
def lines (s : String) : List String :=
  (linesChars s.toList).map String.ofList

/-! ## Occurrences -/

/-- The text before and the text after the first occurrence of `needle`. -/
def breakOn (needle : List Char) : List Char → Option (List Char × List Char)
  | [] => if needle.isEmpty then some ([], []) else none
  | c :: cs =>
    if needle.isPrefixOf (c :: cs) then some ([], (c :: cs).drop needle.length)
    else (breakOn needle cs).map fun (before, after) => (c :: before, after)

/-- Whether `needle` occurs in `s`. -/
def contains (s needle : String) : Bool :=
  (breakOn needle.toList s.toList).isSome

/-- Whether `s` begins with `start`. -/
def startsWith (s start : String) : Bool :=
  start.toList.isPrefixOf s.toList

/-- Whether `s` ends with `final`. -/
def endsWith (s final : String) : Bool :=
  final.toList.isSuffixOf s.toList

/-! ## Bytes -/

/-- The number of bytes of the UTF-8 form. -/
def byteLength : List Char → Nat
  | [] => 0
  | c :: cs => c.utf8Size + byteLength cs

/-- The text before and the text after a byte offset. An offset inside a character, or past the
end of the text, is no position. -/
def cutAtByte : Nat → List Char → Option (List Char × List Char)
  | 0, cs => some ([], cs)
  | _ + 1, [] => none
  | n + 1, c :: cs =>
    if c.utf8Size ≤ n + 1 then
      (cutAtByte (n + 1 - c.utf8Size) cs).map fun (before, after) => (c :: before, after)
    else none

end VisualNovel.Text

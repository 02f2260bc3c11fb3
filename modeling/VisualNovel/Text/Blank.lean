/-!
# Blank characters

The characters that may surround a tag, a field or a keyword without being part of it, and the
trimming that takes them away. Blanks are the characters with the Unicode property `White_Space`;
the byte order mark `U+FEFF` is not among them, so it is part of the text it stands in.

The functions on `List Char` do the work; `trim` is their form on `String`.
-/

namespace VisualNovel.Text

/-- A character with the Unicode property `White_Space`. -/
def isBlank (c : Char) : Bool :=
  let n := c.toNat
  (9 ≤ n && n ≤ 13) || n == 0x20 || n == 0x85 || n == 0xA0 || n == 0x1680 ||
    (0x2000 ≤ n && n ≤ 0x200A) || n == 0x2028 || n == 0x2029 || n == 0x202F ||
    n == 0x205F || n == 0x3000

/-- The text after its leading characters that satisfy `p`. -/
def dropStart (p : Char → Bool) (cs : List Char) : List Char :=
  cs.dropWhile p

/-- The text before its trailing characters that satisfy `p`. -/
def dropEnd (p : Char → Bool) (cs : List Char) : List Char :=
  (cs.reverse.dropWhile p).reverse

/-- The text between its leading and its trailing blanks. -/
def trimChars (cs : List Char) : List Char :=
  dropEnd isBlank (dropStart isBlank cs)

/-- The text between its leading and its trailing blanks. -/
def trim (s : String) : String :=
  String.ofList (trimChars s.toList)

/-- Trimming a string is trimming its characters. -/
@[simp] theorem toList_trim (s : String) : (trim s).toList = trimChars s.toList := by
  simp [trim]

end VisualNovel.Text

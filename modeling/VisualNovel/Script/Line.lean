import VisualNovel.Text.Split

/-!
# Lines of a script

A line of a script is blank, a comment, a tag or spoken text:

* a comment begins with `#`;
* a tag is a name in angle brackets, with arguments after a colon if it has any;
* `<line>` stands for an empty line of spoken text;
* anything else is spoken as it is written.

A tag may stand between blanks. Spoken text keeps its blanks, and loses only the line ends that it
may still carry.
-/

namespace VisualNovel

/-- A tag: its name, and its arguments if it has a colon. -/
structure Tag where
  /-- The name of the tag. -/
  name : String
  /-- What follows the colon, without blanks around it. -/
  arguments : Option String
  deriving DecidableEq, Repr

namespace Tag

/-- A character of a tag's name after the first one. -/
def isNameChar (c : Char) : Bool :=
  c = '_' || c.isAlphanum

/-- Whether a text is the name of a tag: a small letter, then letters, digits and underscores, all
of them ASCII. -/
def isName : List Char → Bool
  | [] => false
  | c :: cs => c.isLower && cs.all isNameChar

/-- What stands between the angle brackets of a text. -/
def inside? : List Char → Option (List Char)
  | '<' :: cs => if cs.getLast? = some '>' then some cs.dropLast else none
  | _ => none

/-- A name, and what follows the first colon if there is one. -/
def nameAndArguments (cs : List Char) : List Char × Option (List Char) :=
  match Text.cutChars ':' cs with
  | some (name, arguments) => (name, some (Text.trimChars arguments))
  | none => (cs, none)

/-- The tag that a text is. -/
def read? (s : String) : Option Tag := do
  let inside ← inside? s.toList
  let (name, arguments) := nameAndArguments inside
  if isName name then some ⟨String.ofList name, arguments.map String.ofList⟩ else none

/-- The names of the tags that open, turn and close the blocks of conditions. -/
def blockNames : List String :=
  ["case", "or_case", "case_else", "case_end"]

/-- Whether the tag belongs to a block of conditions. -/
def isBlock (tag : Tag) : Bool :=
  blockNames.contains tag.name

end Tag

/-- A line of a script. -/
inductive Line where
  /-- A line without characters. -/
  | blank
  /-- A remark to the reader of the script. -/
  | comment
  /-- An instruction. -/
  | tag (tag : Tag)
  /-- Spoken text. -/
  | spoken (text : String)
  deriving DecidableEq, Repr

namespace Line

/-- The line that stands for an empty line of spoken text. -/
def emptySpoken : String := "<line>"

/-- What a line is. -/
def read (s : String) : Line :=
  if s.isEmpty then .blank
  else if s.toList.head? = some '#' then .comment
  else if s = emptySpoken then .spoken ""
  else
    match Tag.read? s with
    | some found => .tag found
    | none => .spoken s

/-- Whether a text stands in angle brackets. -/
def isBracketed (cs : List Char) : Bool :=
  cs.head? = some '<' && cs.getLast? = some '>'

/-- A line without what does not belong to it: a line in angle brackets loses the blanks around it,
any other its line ends. -/
def tidy (s : String) : String :=
  let inner := Text.trimChars s.toList
  if isBracketed inner then String.ofList inner
  else String.ofList (Text.dropEnd (fun c => c = '\r' || c = '\n') s.toList)

/-- Whether a line is a tag that belongs to a block of conditions. Such lines are looked at even
where lines are skipped. -/
def isBlockTag (s : String) : Bool :=
  match Tag.read? s with
  | some found => found.isBlock
  | none => false

end Line

end VisualNovel

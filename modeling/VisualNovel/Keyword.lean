import VisualNovel.Failure
import VisualNovel.Text.Blank
import VisualNovel.Text.Lowercase

/-!
# Keywords

Directions, places and other choices are written as keywords: fixed words, matched without regard to
surrounding blanks and to letter case. A vocabulary lists the keywords of one choice and what to say
of any other text.
-/

namespace VisualNovel

/-- A text as it is matched against keywords. -/
def keywordForm (s : String) : String :=
  Text.lowercase (Text.trim s)

/-- The keywords of a choice. -/
structure Vocabulary (α : Type) where
  /-- The keywords with what they stand for. -/
  words : List (String × α)
  /-- What is wrong with any other text. -/
  complaint : Complaint

namespace Vocabulary

variable {α : Type}

/-- What a text stands for, if it is a keyword. -/
def read? (v : Vocabulary α) (s : String) : Option α :=
  v.words.lookup (keywordForm s)

/-- What a text stands for; the error shows the text as it was written. -/
def read (v : Vocabulary α) (s : String) : Except ArgumentError α :=
  match v.read? s with
  | some a => .ok a
  | none => .error (.invalid s v.complaint)

end Vocabulary

end VisualNovel

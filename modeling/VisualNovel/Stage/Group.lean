import VisualNovel.Json.Record
import VisualNovel.Keyword

/-!
# Groups of sprites

Every sprite belongs to one of four groups, and a script reaches it through its group. A group is
spelled in three ways: by its name in JSON and in the names of tags, and by a keyword in arguments.
The spellings differ for the sprites of the dialog only.
-/

namespace VisualNovel

/-- The groups of sprites. -/
inductive Group where
  /-- What stands behind everything else; one is visible at a time. -/
  | background
  /-- The people of the story. -/
  | character
  /-- Things. -/
  | object
  /-- What belongs to the dialog and goes away with it. -/
  | dialogSprite
  deriving DecidableEq, Repr

namespace Group

/-- All groups. -/
def all : List Group :=
  [.background, .character, .object, .dialogSprite]

/-- The name of a group in JSON and in the names of tags. -/
def name : Group → String
  | .background => "background"
  | .character => "character"
  | .object => "object"
  | .dialogSprite => "dialog_sprite"

/-- The keywords for groups in arguments. -/
def vocabulary : Vocabulary Group where
  words := [("background", .background), ("character", .character), ("object", .object),
    ("dialog sprite", .dialogSprite)]
  complaint := .unknownGroup

/-- A group in JSON. -/
def toJson (group : Group) : Json :=
  .text group.name

/-- The group in a JSON value. -/
def ofJson? (j : Json) : Option Group :=
  j.bare? all name

end Group

end VisualNovel

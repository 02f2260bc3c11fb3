import VisualNovel.Dict
import VisualNovel.Stage.Group
import VisualNovel.Stage.Sprite

/-!
# The stage

The stage holds the sprites of a scene in their four groups, the size of the display, and whether a
cover is passing over the screen. In a group, sprites are found by the name of their asset; scripts
reach a visible sprite by its nickname, and where several share one, they reach the first in the
order of the names.
-/

namespace VisualNovel

/-- The sprites of a group, by the names of their assets. -/
abbrev Cast : Type :=
  Dict Sprite

namespace Cast

/-- The cast with a sprite under its name. -/
def add (cast : Cast) (sprite : Sprite) : Cast :=
  cast.insert sprite.name sprite

/-- The first visible sprite with a nickname, with the name it is kept under. -/
def visible? (cast : Cast) (nickname : String) : Option (String × Sprite) :=
  cast.findEntry? fun sprite => sprite.visible && sprite.nickname == nickname

/-- The visible sprites. -/
def visible (cast : Cast) : List Sprite :=
  cast.values.filter (·.visible)

/-- The cast with all sprites hidden. -/
def hideAll (cast : Cast) : Cast :=
  cast.map Sprite.hidden

/-- The cast with the sprite of a name changed, if there is one. -/
def change (cast : Cast) (name : String) (f : Sprite → Sprite) : Cast :=
  match cast.find? name with
  | some sprite => cast.insert name (f sprite)
  | none => cast

end Cast

/-- The stage. -/
structure Stage where
  /-- The width of the display. -/
  displayWidth : Int
  /-- The height of the display. -/
  displayHeight : Int
  /-- The backgrounds. -/
  background : Cast := .empty
  /-- The characters. -/
  character : Cast := .empty
  /-- The objects. -/
  object : Cast := .empty
  /-- The sprites of the dialog. -/
  dialog : Cast := .empty
  /-- Whether a cover is passing over the screen. -/
  coverActive : Bool := false
  deriving DecidableEq, Repr

namespace Stage

/-- The sprites of a group. -/
def cast (stage : Stage) : Group → Cast
  | .background => stage.background
  | .character => stage.character
  | .object => stage.object
  | .dialogSprite => stage.dialog

/-- The stage with other sprites in a group. -/
def setCast (stage : Stage) (group : Group) (cast : Cast) : Stage :=
  match group with
  | .background => { stage with background := cast }
  | .character => { stage with character := cast }
  | .object => { stage with object := cast }
  | .dialogSprite => { stage with dialog := cast }

/-- The visible sprite with a nickname. -/
def visible? (stage : Stage) (group : Group) (nickname : String) : Option Sprite :=
  ((stage.cast group).visible? nickname).map Prod.snd

/-- The stage with the visible sprite of a nickname changed. Without such a sprite, and where the
change comes to nothing, the stage stays as it is. -/
def changeVisible (stage : Stage) (group : Group) (nickname : String)
    (change : Sprite → Safe (Option Sprite)) : Safe Stage :=
  match (stage.cast group).visible? nickname with
  | none => .ok stage
  | some (name, sprite) => do
    match ← change sprite with
    | none => return stage
    | some changed => return stage.setCast group ((stage.cast group).insert name changed)

/-- The stage without sprites. The cover stays. -/
def clear (stage : Stage) : Stage :=
  { stage with background := .empty, character := .empty, object := .empty, dialog := .empty }

end Stage

end VisualNovel

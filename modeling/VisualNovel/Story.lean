import VisualNovel.Failure
import VisualNovel.Stage.Group
import VisualNovel.Text.Split

/-!
# Stories

A story is what its author writes: chapters with their scenes, reusable scripts, the sizes of the
pictures and the names of the fonts. Playing a scene means reading the script of its chapter and
then its own; `Story.sceneLines` is that text, by lines.
-/

namespace VisualNovel

open Json

/-! ## Scenes and chapters -/

/-- A scene, by its chapter and its name there. -/
structure SceneRef where
  /-- The chapter. -/
  chapter : String
  /-- The scene. -/
  scene : String
  deriving DecidableEq, Repr

/-- The written form of a scene. -/
def SceneRef.render (ref : SceneRef) : String :=
  ref.chapter ++ "/" ++ ref.scene

/-- A scene in JSON. -/
def SceneRef.toJson (ref : SceneRef) : Json :=
  .object [("chapter", .text ref.chapter), ("scene", .text ref.scene)]

/-- The scene in a JSON value. -/
def SceneRef.ofJson? (j : Json) : Option SceneRef := do
  let fields ← j.fields? ["chapter", "scene"]
  let chapter ← fields.required "chapter" text?
  let scene ← fields.required "scene" text?
  return { chapter, scene }

/-- A chapter: a script that precedes each of its scenes, and the scenes. -/
structure Chapter where
  /-- The script of the chapter. -/
  script : String := ""
  /-- The scripts of the scenes. -/
  scenes : Dict String := .empty
  deriving DecidableEq, Repr

/-- A chapter in JSON. -/
def Chapter.toJson (chapter : Chapter) : Json :=
  .object [("script", .text chapter.script), ("scenes", ofDict .text chapter.scenes)]

/-- The chapter in a JSON value. -/
def Chapter.ofJson? (j : Json) : Option Chapter := do
  let fields ← j.fields? ["script", "scenes"]
  let script ← fields.withDefault "script" "" text?
  let scenes ← fields.withDefault "scenes" .empty (dict? text?)
  return { script, scenes }

/-! ## Pictures -/

/-- The size of a picture. -/
structure Size where
  /-- The width in pixels. -/
  width : Int
  /-- The height in pixels. -/
  height : Int
  deriving DecidableEq, Repr

/-- A size in JSON. -/
def Size.toJson (size : Size) : Json :=
  .object [("width", ofInt size.width), ("height", ofInt size.height)]

/-- The size in a JSON value. -/
def Size.ofJson? (j : Json) : Option Size := do
  let fields ← j.fields? ["width", "height"]
  let width ← fields.required "width" signed?
  let height ← fields.required "height" signed?
  return { width, height }

/-- The pictures of a story, by group and name. A group that is listed without pictures is not the
same as one that is not listed. -/
structure Assets where
  /-- The backgrounds. -/
  background : Option (Dict Size) := none
  /-- The characters. -/
  character : Option (Dict Size) := none
  /-- The objects. -/
  object : Option (Dict Size) := none
  /-- The sprites of the dialog. -/
  dialogSprite : Option (Dict Size) := none
  deriving DecidableEq, Repr

namespace Assets

/-- The pictures of a group. -/
def ofGroup (assets : Assets) : Group → Option (Dict Size)
  | .background => assets.background
  | .character => assets.character
  | .object => assets.object
  | .dialogSprite => assets.dialogSprite

/-- The pictures with those of one group replaced. -/
def setGroup (assets : Assets) (group : Group) (sizes : Dict Size) : Assets :=
  match group with
  | .background => { assets with background := some sizes }
  | .character => { assets with character := some sizes }
  | .object => { assets with object := some sizes }
  | .dialogSprite => { assets with dialogSprite := some sizes }

/-- The size of a picture. -/
def find? (assets : Assets) (group : Group) (name : String) : Option Size :=
  (assets.ofGroup group).bind (·.find? name)

/-- The pictures with one more. -/
def insert (assets : Assets) (group : Group) (name : String) (size : Size) : Assets :=
  assets.setGroup group (((assets.ofGroup group).getD .empty).insert name size)

/-- The pictures in JSON. -/
def toJson (assets : Assets) : Json :=
  .object (Group.all.filterMap fun group =>
    (assets.ofGroup group).map fun sizes => (group.name, ofDict Size.toJson sizes))

/-- The pictures with those of one more member of a JSON object. -/
def addMember? (assets : Assets) (member : String × Json) : Option Assets := do
  let group ← named? Group.all Group.name member.1
  let sizes ← dict? Size.ofJson? member.2
  return assets.setGroup group sizes

/-- The pictures in a JSON value. -/
def ofJson? : Json → Option Assets
  | .object members => members.foldlM addMember? {}
  | _ => none

end Assets

/-! ## Stories -/

/-- A story. -/
structure Story where
  /-- The scene to begin with. -/
  startup : Option SceneRef := none
  /-- The chapters. -/
  chapters : Dict Chapter := .empty
  /-- The reusable scripts. -/
  reusables : Dict String := .empty
  /-- The pictures. -/
  assets : Assets := {}
  /-- The names of the fonts. -/
  fonts : Dict Unit := .empty
  deriving DecidableEq, Repr

namespace Story

/-- A story in JSON. -/
def toJson (story : Story) : Json :=
  .object [
    ("startup", ofOption SceneRef.toJson story.startup),
    ("chapters", ofDict Chapter.toJson story.chapters),
    ("reusables", ofDict .text story.reusables),
    ("sprites", story.assets.toJson),
    ("fonts", .array (story.fonts.names.map .text))]

/-- A set of names in a JSON value. -/
def names? (j : Json) : Option (Dict Unit) :=
  (list? text? j).map fun names => .ofEntries (names.map fun name => (name, ()))

/-- The story in a JSON value. -/
def ofJson? (j : Json) : Option Story := do
  let fields ← j.fields? ["startup", "chapters", "reusables", "sprites", "fonts"]
  let startup ← fields.withDefault "startup" none (option? SceneRef.ofJson?)
  let chapters ← fields.withDefault "chapters" .empty (dict? Chapter.ofJson?)
  let reusables ← fields.withDefault "reusables" .empty (dict? text?)
  let assets ← fields.withDefault "sprites" {} Assets.ofJson?
  let fonts ← fields.withDefault "fonts" .empty names?
  return { startup, chapters, reusables, assets, fonts }

/-- The story with the script of a chapter set. -/
def setChapter (story : Story) (name script : String) : Story :=
  let chapter := (story.chapters.find? name).getD {}
  { story with chapters := story.chapters.insert name { chapter with script } }

/-- The story with a scene set. -/
def setScene (story : Story) (chapter scene script : String) : Story :=
  let found := (story.chapters.find? chapter).getD {}
  let scenes := found.scenes.insert scene script
  { story with chapters := story.chapters.insert chapter { found with scenes } }

/-- Why a scene cannot be played, if it cannot: its chapter is not there, or has no such scene. -/
def checkScene (story : Story) (ref : SceneRef) : Except StoryError Unit :=
  match story.chapters.find? ref.chapter with
  | none => .error (.unknownChapter ref.chapter)
  | some chapter =>
    if chapter.scenes.contains ref.scene then .ok ()
    else .error (.unknownScene ref.chapter ref.scene)

/-- The text of a scene: the script of its chapter, a line end, and its own script. -/
def sceneText (story : Story) (ref : SceneRef) : Except StoryError String :=
  match story.chapters.find? ref.chapter with
  | none => .error (.unknownChapter ref.chapter)
  | some chapter =>
    match chapter.scenes.find? ref.scene with
    | none => .error (.unknownScene ref.chapter ref.scene)
    | some script => .ok (chapter.script ++ "\n" ++ script)

/-- The lines of a scene. -/
def sceneLines (story : Story) (ref : SceneRef) : Except StoryError (List String) :=
  (story.sceneText ref).map Text.lines

end Story

end VisualNovel

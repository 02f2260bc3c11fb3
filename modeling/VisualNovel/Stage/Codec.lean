import VisualNovel.Stage.Basic

/-!
# The stage in JSON

A host reads the stage and its sprites as JSON, and writes back the state of animations that it has
advanced. Directions and sides go by their names, a delay of a movement is a pair, a stop of a
movement is a pair of a side and a number.
-/

namespace VisualNovel

open Json

/-! ## Animations -/

/-- A speed in JSON. -/
def Speed.toJson {δ : Type} (name : δ → String) (speed : Speed δ) : Json :=
  .object [("percent", ofNat speed.percent), ("direction", .text (name speed.direction))]

/-- The speed in a JSON value. Any percentage is taken as it is. -/
def Speed.ofJson? {δ : Type} (all : List δ) (name : δ → String) (j : Json) : Option (Speed δ) := do
  let fields ← j.fields? ["percent", "direction"]
  let percent ← fields.required "percent" count?
  let direction ← fields.required "direction" (bare? all name)
  return { percent, direction }

/-- A fade in JSON. -/
def Fade.toJson (fade : Fade) : Json :=
  .object [
    ("current", ofOption ofSingle fade.current),
    ("until", ofOption ofSingle fade.goal),
    ("speed", ofOption (Speed.toJson FadeDirection.name) fade.speed),
    ("delay_frames", ofNat fade.delay),
    ("is_fading", .bool fade.active),
    ("stop_script", ofOption .text fade.stopScript)]

/-- The fade in a JSON value. -/
def Fade.ofJson? (j : Json) : Option Fade := do
  let fields ← j.fields? ["current", "until", "speed", "delay_frames", "is_fading", "stop_script"]
  let current ← fields.optional "current" single?
  let goal ← fields.optional "until" single?
  let speed ← fields.optional "speed" (Speed.ofJson? FadeDirection.all FadeDirection.name)
  let delay ← fields.required "delay_frames" count?
  let active ← fields.required "is_fading" bool?
  let stopScript ← fields.optional "stop_script" text?
  return { current, goal, speed, delay, active, stopScript }

/-- A velocity in JSON. -/
def Velocity.toJson (velocity : Velocity) : Json :=
  .object [("x", ofInt velocity.x), ("y", ofInt velocity.y)]

/-- The velocity in a JSON value. -/
def Velocity.ofJson? (j : Json) : Option Velocity := do
  let fields ← j.fields? ["x", "y"]
  let x ← fields.required "x" signed?
  let y ← fields.required "y" signed?
  return { x, y }

/-- The side in a JSON value. -/
def Side.ofJson? (j : Json) : Option Side :=
  j.bare? Side.all Side.name

/-- A movement in JSON. -/
def Movement.toJson (movement : Movement) : Json :=
  .object [
    ("speed", ofOption Velocity.toJson movement.velocity),
    ("delay", .array [ofNat movement.delay.1, ofNat movement.delay.2]),
    ("stops", .array (movement.stops.map fun stop => .array [.text stop.1.name, ofInt stop.2])),
    ("is_moving", .bool movement.active),
    ("stop_script", ofOption .text movement.stopScript)]

/-- The movement in a JSON value. -/
def Movement.ofJson? (j : Json) : Option Movement := do
  let fields ← j.fields? ["speed", "delay", "stops", "is_moving", "stop_script"]
  let velocity ← fields.optional "speed" Velocity.ofJson?
  let delay ← fields.required "delay" (pair? count? count?)
  let stops ← fields.required "stops" (list? (pair? Side.ofJson? signed?))
  let active ← fields.required "is_moving" bool?
  let stopScript ← fields.optional "stop_script" text?
  return { velocity, delay, stops, active, stopScript }

/-- A change of scale in JSON. -/
def Scale.toJson (scale : Scale) : Json :=
  .object [
    ("current", ofOption ofSingle scale.current),
    ("until", ofOption ofSingle scale.goal),
    ("by", ofOption (Speed.toJson ScaleDirection.name) scale.speed),
    ("delay_frames", ofNat scale.delay),
    ("is_scaling", .bool scale.active),
    ("stop_script", ofOption .text scale.stopScript)]

/-- The change of scale in a JSON value. -/
def Scale.ofJson? (j : Json) : Option Scale := do
  let fields ← j.fields? ["current", "until", "by", "delay_frames", "is_scaling", "stop_script"]
  let current ← fields.optional "current" single?
  let goal ← fields.optional "until" single?
  let speed ← fields.optional "by" (Speed.ofJson? ScaleDirection.all ScaleDirection.name)
  let delay ← fields.required "delay_frames" count?
  let active ← fields.required "is_scaling" bool?
  let stopScript ← fields.optional "stop_script" text?
  return { current, goal, speed, delay, active, stopScript }

/-- A turn in JSON. -/
def Turn.toJson (turn : Turn) : Json :=
  .object [
    ("current", ofOption ofSingle turn.current),
    ("until", ofOption ofSingle turn.goal),
    ("speed", ofOption (Speed.toJson TurnDirection.name) turn.speed),
    ("delay_frames", ofNat turn.delay),
    ("is_rotating", .bool turn.active),
    ("stop_script", ofOption .text turn.stopScript)]

/-- The turn in a JSON value. -/
def Turn.ofJson? (j : Json) : Option Turn := do
  let fields ← j.fields? ["current", "until", "speed", "delay_frames", "is_rotating", "stop_script"]
  let current ← fields.optional "current" single?
  let goal ← fields.optional "until" single?
  let speed ← fields.optional "speed" (Speed.ofJson? TurnDirection.all TurnDirection.name)
  let delay ← fields.required "delay_frames" count?
  let active ← fields.required "is_rotating" bool?
  let stopScript ← fields.optional "stop_script" text?
  return { current, goal, speed, delay, active, stopScript }

/-- The animation in a JSON value. -/
def Animation.ofJson? (j : Json) : Option Animation :=
  j.bare? Animation.all Animation.name

/-! ## Sprites -/

/-- A sprite in JSON. -/
def Sprite.toJson (sprite : Sprite) : Json :=
  .object [
    ("name", .text sprite.name),
    ("general_alias", .text sprite.nickname),
    ("width", ofInt sprite.width),
    ("height", ofInt sprite.height),
    ("x", ofInt sprite.x),
    ("y", ofInt sprite.y),
    ("visible", .bool sprite.visible),
    ("flipped_horizontally", .bool sprite.flippedHorizontally),
    ("flipped_vertically", .bool sprite.flippedVertically),
    ("fade", sprite.fade.toJson),
    ("movement", sprite.movement.toJson),
    ("scale", sprite.scale.toJson),
    ("rotation", sprite.turn.toJson)]

/-- The names of the fields of a sprite. -/
def Sprite.fieldNames : List String :=
  ["name", "general_alias", "width", "height", "x", "y", "visible", "flipped_horizontally",
    "flipped_vertically", "fade", "movement", "scale", "rotation"]

/-- The sprite in a JSON value. -/
def Sprite.ofJson? (j : Json) : Option Sprite := do
  let fields ← j.fields? fieldNames
  let name ← fields.required "name" text?
  let nickname ← fields.required "general_alias" text?
  let width ← fields.required "width" signed?
  let height ← fields.required "height" signed?
  let x ← fields.required "x" signed?
  let y ← fields.required "y" signed?
  let visible ← fields.required "visible" bool?
  let flippedHorizontally ← fields.required "flipped_horizontally" bool?
  let flippedVertically ← fields.required "flipped_vertically" bool?
  let fade ← fields.required "fade" Fade.ofJson?
  let movement ← fields.required "movement" Movement.ofJson?
  let scale ← fields.required "scale" Scale.ofJson?
  let turn ← fields.required "rotation" Turn.ofJson?
  return {
    name, nickname, width, height, x, y, visible, flippedHorizontally, flippedVertically,
    fade, movement, scale, turn }

/-! ## The stage -/

/-- The sprites of a group in JSON. -/
def Cast.toJson (cast : Cast) : Json :=
  .object [("sprites", ofDict Sprite.toJson cast)]

/-- The sprites of a group in a JSON value. -/
def Cast.ofJson? (j : Json) : Option Cast := do
  let fields ← j.fields? ["sprites"]
  fields.required "sprites" (dict? Sprite.ofJson?)

/-- The stage in JSON. -/
def Stage.toJson (stage : Stage) : Json :=
  .object [
    ("display_width", ofInt stage.displayWidth),
    ("display_height", ofInt stage.displayHeight),
    ("background", Cast.toJson stage.background),
    ("character", Cast.toJson stage.character),
    ("object", Cast.toJson stage.object),
    ("dialog", Cast.toJson stage.dialog),
    ("cover_animating", .bool stage.coverActive)]

/-- The stage in a JSON value. -/
def Stage.ofJson? (j : Json) : Option Stage := do
  let fields ← j.fields? ["display_width", "display_height", "background", "character", "object",
    "dialog", "cover_animating"]
  let displayWidth ← fields.required "display_width" signed?
  let displayHeight ← fields.required "display_height" signed?
  let background ← fields.required "background" Cast.ofJson?
  let character ← fields.required "character" Cast.ofJson?
  let object ← fields.required "object" Cast.ofJson?
  let dialog ← fields.required "dialog" Cast.ofJson?
  let coverActive ← fields.required "cover_animating" bool?
  return { displayWidth, displayHeight, background, character, object, dialog, coverActive }

/-! ## Edits by the host -/

/-- The sprite with one field set to a JSON value. A field that a host does not edit is passed
over. -/
def Sprite.edit? (sprite : Sprite) (field : String) (value : Json) : Option Sprite :=
  match field with
  | "fade" => (Fade.ofJson? value).map fun fade => { sprite with fade }
  | "fade_current" => (option? single? value).map fun current =>
    { sprite with fade := { sprite.fade with current } }
  | "fade_until" => (option? single? value).map fun goal =>
    { sprite with fade := { sprite.fade with goal } }
  | "is_fading" => value.bool?.map fun active => sprite.setActive active .fade
  | "is_moving" => value.bool?.map fun active => sprite.setActive active .move
  | "is_rotating" => value.bool?.map fun active => sprite.setActive active .turn
  | "is_scaling" => value.bool?.map fun active => sprite.setActive active .scale
  | "movement" => (Movement.ofJson? value).map fun movement => { sprite with movement }
  | "rotation" => (Turn.ofJson? value).map fun turn => { sprite with turn }
  | "scale" => (Scale.ofJson? value).map fun scale => { sprite with scale }
  | "x" => value.signed?.map fun x => { sprite with x }
  | "y" => value.signed?.map fun y => { sprite with y }
  | _ => some sprite

/-- The sprite after a row of edits, and whether all of them could be made; the first that cannot
ends the row. -/
def Sprite.editAll (sprite : Sprite) : List (String × Json) → Sprite × Bool
  | [] => (sprite, true)
  | (field, value) :: edits =>
    match sprite.edit? field value with
    | some edited => edited.editAll edits
    | none => (sprite, false)

end VisualNovel

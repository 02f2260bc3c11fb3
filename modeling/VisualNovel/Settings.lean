import VisualNovel.Story

/-!
# Settings

What a host may set for an engine. Every setting has a default, so that settings in JSON need to
name only those that differ.
-/

namespace VisualNovel

open Json

/-- The settings of an engine. -/
structure Settings where
  /-- The width of the display. -/
  displayWidth : Int := 640
  /-- The height of the display. -/
  displayHeight : Int := 480
  /-- How many events the history keeps. -/
  historyLimit : Nat := 1000
  /-- How many times variables are put into a line. -/
  variablePasses : Nat := 4
  /-- The scene to begin with, in place of the story's own. -/
  startup : Option SceneRef := none
  deriving DecidableEq, Repr

namespace Settings

/-- Settings in JSON. -/
def toJson (settings : Settings) : Json :=
  .object [
    ("display_width", ofInt settings.displayWidth),
    ("display_height", ofInt settings.displayHeight),
    ("history_limit", ofNat settings.historyLimit),
    ("variable_passes", ofNat settings.variablePasses),
    ("startup", ofOption SceneRef.toJson settings.startup)]

/-- The settings in a JSON value. -/
def ofJson? (j : Json) : Option Settings := do
  let fields ← j.fields? ["display_width", "display_height", "history_limit", "variable_passes",
    "startup"]
  let displayWidth ← fields.withDefault "display_width" 640 signed?
  let displayHeight ← fields.withDefault "display_height" 480 signed?
  let historyLimit ← fields.withDefault "history_limit" 1000 size?
  let variablePasses ← fields.withDefault "variable_passes" 4 size?
  let startup ← fields.withDefault "startup" none (option? SceneRef.ofJson?)
  return { displayWidth, displayHeight, historyLimit, variablePasses, startup }

end Settings

end VisualNovel

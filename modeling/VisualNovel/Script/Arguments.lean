import VisualNovel.Script.Shape

/-!
# The shapes of arguments

What each tag wants to be given, field by field, in the order in which a script writes them.
-/

namespace VisualNovel

namespace Field

/-- A field of text. -/
abbrev text (name : String) : Field := ⟨name, .text⟩

/-- A field with a signed number. -/
abbrev integer (name : String) : Field := ⟨name, .integer⟩

/-- A field with an unsigned number. -/
abbrev count (name : String) : Field := ⟨name, .count⟩

/-- A field with a fraction. -/
abbrev decimal (name : String) : Field := ⟨name, .decimal⟩

/-- A field that takes the rest. -/
abbrev free (name : String) : Field := ⟨name, .free⟩

end Field

namespace Shape

/-! ## Sprites -/

/-- A sprite by its asset, and the alias it gets. -/
abbrev load : Shape := [.text "name", .text "alias"]

/-- A name alone. -/
abbrev name : Shape := [.text "name"]

/-- An alias alone. -/
abbrev nickname : Shape := [.text "alias"]

/-- A place on one axis. -/
abbrev position : Shape := [.text "alias", .text "position"]

/-- A centre. -/
abbrev center : Shape := [.text "alias", .integer "x", .integer "y"]

/-- A sprite to be aligned with. -/
abbrev alignment : Shape := [.text "alias", .text "other_type", .text "other_alias"]

/-- Where a side has to arrive. -/
abbrev stopAtSide : Shape := [.text "alias", .text "side", .text "position"]

/-- A place to arrive at. -/
abbrev stopAtPlace : Shape := [.text "alias", .text "position"]

/-- A script to start at the end. -/
abbrev afterStop : Shape := [.text "alias", .text "script"]

/-- A movement along both axes. -/
abbrev move : Shape :=
  [.text "alias", .integer "x", .text "x_direction", .integer "y", .text "y_direction"]

/-- The delays of a movement. -/
abbrev moveDelay : Shape := [.text "alias", .count "x", .count "y"]

/-- A delay. -/
abbrev delay : Shape := [.text "alias", .count "frames"]

/-- A value of an animation. -/
abbrev value : Shape := [.text "alias", .decimal "value"]

/-- A value of an animation, or a word. -/
abbrev valueOrWord : Shape := [.text "alias", .text "value"]

/-- A speed. -/
abbrev speed : Shape := [.text "alias", .count "percent", .text "direction"]

/-! ## Sound and text -/

/-- A volume. -/
abbrev volume : Shape := [.integer "value"]

/-- A number alone. -/
abbrev number : Shape := [.integer "value"]

/-- A pause after a punctuation mark. -/
abbrev punctuation : Shape := [.text "previous_letter", .integer "frames"]

/-- How far to move the next line. -/
abbrev adjustment : Shape := [.integer "adjust_y"]

/-- How the dialog looks, and which scripts it starts. -/
abbrev dialog : Shape :=
  [.integer "width", .integer "height", .decimal "animation_speed", .text "intro_animation",
    .text "outro_animation", .text "anchor", .text "bg_color_hex", .integer "padding_x",
    .integer "padding_y", .integer "opacity", .text "rounded_corners",
    .text "reusable_on_intro_starting", .text "reusable_on_intro_finished",
    .text "reusable_on_outro_starting", .text "reusable_on_outro_finished",
    .text "reusable_on_halt", .text "reusable_on_unhalt", .text "border_color_hex",
    .integer "border_opacity", .integer "border_width"]

/-! ## The course of the story -/

/-- A number of frames. -/
abbrev frames : Shape := [.count "frames"]

/-- What to wait for, in one word. -/
abbrev waitForScreen : Shape := [.text "target"]

/-- Which animation to wait for. -/
abbrev waitForSprite : Shape := [.text "sprite_type", .text "alias", .text "animation"]

/-- A script and its parameters. -/
abbrev callWith : Shape := [.text "name", .free "arguments"]

/-- A script and when to start it. -/
abbrev after : Shape := [.count "frames", .text "name"]

/-- A script, its parameters, and when to start it. -/
abbrev afterWith : Shape := [.count "frames", .text "name", .free "arguments"]

/-- A scene. -/
abbrev scene : Shape := [.text "chapter", .text "scene"]

/-- A scene, and the cover under which it begins. -/
abbrev sceneWithFade : Shape :=
  [.text "hex_color", .count "fade_in_speed", .count "fade_out_speed", .count "hold_frames",
    .text "chapter", .text "scene"]

/-- A condition. -/
abbrev condition : Shape := [.text "value1", .text "operator", .text "value2"]

/-- A condition, and the name of its block. -/
abbrev namedCondition : Shape :=
  [.text "value1", .text "operator", .text "value2", .text "name"]

/-- Another condition for the block of a name. -/
abbrev orCondition : Shape :=
  [.text "name", .text "value1", .text "operator", .text "value2"]

/-- A variable and its value. -/
abbrev setVariable : Shape := [.text "name", .free "value"]

end Shape

end VisualNovel

import VisualNovel.Dict
import VisualNovel.Json.Record
import VisualNovel.Keyword

/-!
# The dialog

Spoken text appears in a dialog. A script defines how the dialog looks, how it comes in and goes
out, and which reusable scripts to start at six moments of its life. The dialog outlives the scenes.
-/

namespace VisualNovel

open Json Number

/-! ## Choices -/

/-- How a dialog comes in. -/
inductive DialogIntro where
  /-- At once. -/
  | noAnimation
  /-- From the left. -/
  | leftToRight
  /-- From the right. -/
  | rightToLeft
  /-- By getting opaque. -/
  | fadeIn
  /-- By growing, in height first. -/
  | scaleUpHeightThenWidth
  /-- By growing, in width first. -/
  | scaleUpWidthThenHeight
  /-- By growing both ways. -/
  | scaleUpWidthAndHeight
  deriving DecidableEq, Repr

namespace DialogIntro

/-- All ways to come in. -/
def all : List DialogIntro :=
  [.noAnimation, .leftToRight, .rightToLeft, .fadeIn, .scaleUpHeightThenWidth,
    .scaleUpWidthThenHeight, .scaleUpWidthAndHeight]

/-- The name of a way to come in, in JSON. -/
def name : DialogIntro → String
  | .noAnimation => "no_animation"
  | .leftToRight => "left_to_right"
  | .rightToLeft => "right_to_left"
  | .fadeIn => "fade_in"
  | .scaleUpHeightThenWidth => "scale_up_height_then_width"
  | .scaleUpWidthThenHeight => "scale_up_width_then_height"
  | .scaleUpWidthAndHeight => "scale_up_width_and_height"

/-- The keywords for ways to come in. -/
def vocabulary : Vocabulary DialogIntro where
  words := [("no animation", .noAnimation), ("left to right", .leftToRight),
    ("right to left", .rightToLeft), ("fade in", .fadeIn),
    ("scale up height then width", .scaleUpHeightThenWidth),
    ("scale up width then height", .scaleUpWidthThenHeight),
    ("scale up width and height", .scaleUpWidthAndHeight)]
  complaint := .unknownDialogIntro

end DialogIntro

/-- How a dialog goes out. -/
inductive DialogOutro where
  /-- At once. -/
  | noAnimation
  /-- To the right. -/
  | goRight
  /-- To the left. -/
  | goLeft
  /-- Upwards. -/
  | goUp
  /-- Downwards. -/
  | goDown
  /-- By getting transparent. -/
  | fadeOut
  /-- By shrinking, in height first. -/
  | scaleDownHeightThenWidth
  /-- By shrinking, in width first. -/
  | scaleDownWidthThenHeight
  /-- By shrinking both ways. -/
  | scaleDownWidthAndHeight
  deriving DecidableEq, Repr

namespace DialogOutro

/-- All ways to go out. -/
def all : List DialogOutro :=
  [.noAnimation, .goRight, .goLeft, .goUp, .goDown, .fadeOut, .scaleDownHeightThenWidth,
    .scaleDownWidthThenHeight, .scaleDownWidthAndHeight]

/-- The name of a way to go out, in JSON. -/
def name : DialogOutro → String
  | .noAnimation => "no_animation"
  | .goRight => "go_right"
  | .goLeft => "go_left"
  | .goUp => "go_up"
  | .goDown => "go_down"
  | .fadeOut => "fade_out"
  | .scaleDownHeightThenWidth => "scale_down_height_then_width"
  | .scaleDownWidthThenHeight => "scale_down_width_then_height"
  | .scaleDownWidthAndHeight => "scale_down_width_and_height"

/-- The keywords for ways to go out. -/
def vocabulary : Vocabulary DialogOutro where
  words := [("no animation", .noAnimation), ("go right", .goRight), ("go left", .goLeft),
    ("go up", .goUp), ("go down", .goDown), ("fade out", .fadeOut),
    ("scale down height then width", .scaleDownHeightThenWidth),
    ("scale down width then height", .scaleDownWidthThenHeight),
    ("scale down width and height", .scaleDownWidthAndHeight)]
  complaint := .unknownDialogOutro

end DialogOutro

/-- Where a dialog stands. -/
inductive DialogAnchor where
  /-- In the middle of the left edge. -/
  | midLeft
  /-- In the lower left corner. -/
  | bottomLeft
  /-- In the upper left corner. -/
  | topLeft
  /-- In the middle of the lower edge. -/
  | midBottom
  /-- In the lower right corner. -/
  | bottomRight
  /-- In the middle of the right edge. -/
  | midRight
  /-- In the upper right corner. -/
  | topRight
  /-- In the middle of the upper edge. -/
  | midTop
  /-- In the centre. -/
  | center
  deriving DecidableEq, Repr

namespace DialogAnchor

/-- All places of a dialog. -/
def all : List DialogAnchor :=
  [.midLeft, .bottomLeft, .topLeft, .midBottom, .bottomRight, .midRight, .topRight, .midTop,
    .center]

/-- The name of a place, in JSON. -/
def name : DialogAnchor → String
  | .midLeft => "mid_left"
  | .bottomLeft => "bottom_left"
  | .topLeft => "top_left"
  | .midBottom => "mid_bottom"
  | .bottomRight => "bottom_right"
  | .midRight => "mid_right"
  | .topRight => "top_right"
  | .midTop => "mid_top"
  | .center => "center"

/-- The keywords for the places of a dialog. -/
def vocabulary : Vocabulary DialogAnchor where
  words := [("mid left", .midLeft), ("bottom left", .bottomLeft), ("top left", .topLeft),
    ("mid bottom", .midBottom), ("bottom right", .bottomRight), ("mid right", .midRight),
    ("top right", .topRight), ("mid top", .midTop), ("center", .center)]
  complaint := .unknownDialogAnchor

end DialogAnchor

/-- How text appears in the dialog. -/
inductive TextIntro where
  /-- At once. -/
  | sudden
  /-- By getting opaque. -/
  | fadeIn
  /-- Letter by letter. -/
  | gradualLetter
  /-- Letter by letter, each getting opaque. -/
  | gradualLetterFadeIn
  deriving DecidableEq, Repr

namespace TextIntro

/-- All ways for text to appear. -/
def all : List TextIntro :=
  [.sudden, .fadeIn, .gradualLetter, .gradualLetterFadeIn]

/-- The name of a way for text to appear, in JSON. -/
def name : TextIntro → String
  | .sudden => "sudden"
  | .fadeIn => "fade_in"
  | .gradualLetter => "gradual_letter"
  | .gradualLetterFadeIn => "gradual_letter_fade_in"

/-- The keywords for ways for text to appear. -/
def vocabulary : Vocabulary TextIntro where
  words := [("sudden", .sudden), ("fade in", .fadeIn), ("gradual letter", .gradualLetter),
    ("gradual letter fade in", .gradualLetterFadeIn)]
  complaint := .unknownTextIntro

end TextIntro

/-! ## Looks -/

/-- How a dialog looks. -/
structure DialogStyle where
  /-- The width in pixels. -/
  width : Int
  /-- The height in pixels. -/
  height : Int
  /-- How fast it comes in and goes out. -/
  animationSpeed : Single
  /-- How it comes in. -/
  intro : DialogIntro
  /-- How it goes out. -/
  outro : DialogOutro
  /-- Where it stands. -/
  anchor : DialogAnchor
  /-- The colour behind the text. -/
  backgroundColor : String
  /-- The space to the left and the right of the text. -/
  paddingX : Int
  /-- The space above and below the text. -/
  paddingY : Int
  /-- The opacity of the background. -/
  opacity : Int
  /-- Whether the corners are round. -/
  roundedCorners : Bool
  /-- The colour of the border. -/
  borderColor : String
  /-- The opacity of the border. -/
  borderOpacity : Int
  /-- The width of the border. -/
  borderWidth : Int
  deriving DecidableEq, Repr

namespace DialogStyle

/-- The looks of a dialog in JSON. -/
def toJson (style : DialogStyle) : Json :=
  .object [
    ("width", ofInt style.width),
    ("height", ofInt style.height),
    ("animation_speed", ofSingle style.animationSpeed),
    ("intro", .text style.intro.name),
    ("outro", .text style.outro.name),
    ("anchor", .text style.anchor.name),
    ("bg_color_hex", .text style.backgroundColor),
    ("padding_x", ofInt style.paddingX),
    ("padding_y", ofInt style.paddingY),
    ("opacity", ofInt style.opacity),
    ("rounded_corners", .bool style.roundedCorners),
    ("border_color_hex", .text style.borderColor),
    ("border_opacity", ofInt style.borderOpacity),
    ("border_width", ofInt style.borderWidth)]

/-- The names of the fields of a style. -/
def fieldNames : List String :=
  ["width", "height", "animation_speed", "intro", "outro", "anchor", "bg_color_hex", "padding_x",
    "padding_y", "opacity", "rounded_corners", "border_color_hex", "border_opacity",
    "border_width"]

/-- The looks of a dialog in a JSON value. -/
def ofJson? (j : Json) : Option DialogStyle := do
  let fields ← j.fields? fieldNames
  let width ← fields.required "width" signed?
  let height ← fields.required "height" signed?
  let animationSpeed ← fields.required "animation_speed" single?
  let intro ← fields.required "intro" (bare? DialogIntro.all DialogIntro.name)
  let outro ← fields.required "outro" (bare? DialogOutro.all DialogOutro.name)
  let anchor ← fields.required "anchor" (bare? DialogAnchor.all DialogAnchor.name)
  let backgroundColor ← fields.required "bg_color_hex" text?
  let paddingX ← fields.required "padding_x" signed?
  let paddingY ← fields.required "padding_y" signed?
  let opacity ← fields.required "opacity" signed?
  let roundedCorners ← fields.required "rounded_corners" bool?
  let borderColor ← fields.required "border_color_hex" text?
  let borderOpacity ← fields.required "border_opacity" signed?
  let borderWidth ← fields.required "border_width" signed?
  return {
    width, height, animationSpeed, intro, outro, anchor, backgroundColor, paddingX, paddingY,
    opacity, roundedCorners, borderColor, borderOpacity, borderWidth }

end DialogStyle

/-! ## Hooks -/

/-- The reusable scripts to start at the moments of a dialog's life. -/
structure DialogHooks where
  /-- When it begins to come in. -/
  introStarting : Option String := none
  /-- When it has come in. -/
  introFinished : Option String := none
  /-- When it begins to go out. -/
  outroStarting : Option String := none
  /-- When it has gone out. -/
  outroFinished : Option String := none
  /-- When the story halts. -/
  onHalt : Option String := none
  /-- When the story goes on. -/
  onUnhalt : Option String := none
  deriving DecidableEq, Repr

/-- The script that a text names: none for blanks and for the word `none`. -/
def hookName (s : String) : Option String :=
  let name := Text.trim s
  if name.isEmpty || Text.sameAsciiCase name "none" then none else some name

/-! ## State -/

/-- The two animations of a dialog. -/
inductive DialogPhase where
  /-- Coming in. -/
  | intro
  /-- Going out. -/
  | outro
  deriving DecidableEq, Repr

/-- The dialog of a session. -/
structure Dialog where
  /-- How it looks, if it is defined. -/
  style : Option DialogStyle := none
  /-- The scripts to start. -/
  hooks : DialogHooks := {}
  /-- Whether it is shown. -/
  visible : Bool := false
  /-- The animation that is going on. -/
  animating : Option DialogPhase := none
  /-- Whether text is appearing, as the host reports. -/
  textAnimating : Bool := false
  /-- Whether the text stays when the story goes on the next time. -/
  keepText : Bool := false
  /-- The fonts that are loaded. -/
  loadedFonts : Dict Unit := .empty
  deriving DecidableEq, Repr

/-- Whether the dialog is defined. -/
def Dialog.isDefined (dialog : Dialog) : Bool :=
  dialog.style.isSome

end VisualNovel

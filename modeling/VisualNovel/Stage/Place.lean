import VisualNovel.Keyword

/-!
# Places on the display

A sprite is put at a place by a keyword, such as the end of the display, or by a number of pixels. A
keyword for the horizontal axis and one for the vertical axis never coincide, while a number is a
place on either.

What a place means depends on the size of the display and of the sprite:

* `Horizontal.resolve` and `Vertical.resolve` give the coordinate of the sprite's left or upper
  edge;
* `Horizontal.stop?` and `Vertical.stop?` give the edge of a moving sprite, and where that edge is
  when the sprite has reached the place. A bare number does not say which edge is meant.
-/

namespace VisualNovel

open Number

/-- The sides of a sprite. -/
inductive Side where
  /-- The left edge. -/
  | left
  /-- The right edge. -/
  | right
  /-- The upper edge. -/
  | top
  /-- The lower edge. -/
  | bottom
  deriving DecidableEq, Repr

namespace Side

/-- All sides. -/
def all : List Side :=
  [.left, .right, .top, .bottom]

/-- The name of a side in JSON. -/
def name : Side → String
  | .left => "Left"
  | .right => "Right"
  | .top => "Top"
  | .bottom => "Bottom"

/-- The keywords for sides. -/
def vocabulary : Vocabulary Side where
  words := [("left", .left), ("right", .right), ("top", .top), ("bottom", .bottom)]
  complaint := .side

end Side

/-- What a text says in a vocabulary that also takes numbers. -/
def Vocabulary.readOrNumber {α : Type} (v : Vocabulary α) (number : Int → α) (s : String) :
    Except ArgumentError α :=
  match v.read? s with
  | some a => .ok a
  | none =>
    match readSigned (keywordForm s) with
    | some i => .ok (number i)
    | none => .error (.invalid s v.complaint)

/-! ## The horizontal axis -/

/-- Places on the horizontal axis. -/
inductive Horizontal where
  /-- At the left end, inside. -/
  | start
  /-- At the right end, inside. -/
  | finish
  /-- Outside, just before the left end. -/
  | beforeStart
  /-- Outside, just after the right end. -/
  | afterFinish
  /-- At a number of pixels. -/
  | pixels (x : Int)
  deriving DecidableEq, Repr

namespace Horizontal

/-- The keywords for horizontal places. -/
def vocabulary : Vocabulary Horizontal where
  words := [("start of display", .start), ("end of display", .finish),
    ("before start of display", .beforeStart), ("after end of display", .afterFinish)]
  complaint := .unknownHorizontalPlace

/-- The place that a text names. -/
def read (s : String) : Except ArgumentError Horizontal :=
  vocabulary.readOrNumber .pixels s

/-- The left edge of a sprite of some width at the place. -/
def resolve (place : Horizontal) (display width : Int) : Safe Int :=
  match place with
  | .start => .ok 0
  | .finish => signed (display - width)
  | .beforeStart => signed (-width)
  | .afterFinish => .ok display
  | .pixels x => .ok x

/-- The edge that reaches the place first, and where it is then. -/
def stop? (place : Horizontal) (display width : Int) : Safe (Option (Side × Int)) :=
  match place with
  | .beforeStart => do return some (.left, ← signed (-width))
  | .start => .ok (some (.left, 0))
  | .finish => .ok (some (.right, display))
  | .afterFinish => .ok (some (.left, display))
  | .pixels _ => .ok none

end Horizontal

/-! ## The vertical axis -/

/-- Places on the vertical axis. -/
inductive Vertical where
  /-- At the upper end, inside. -/
  | top
  /-- At the lower end, inside. -/
  | bottom
  /-- Outside, just above the upper end. -/
  | aboveTop
  /-- Outside, just below the lower end. -/
  | belowBottom
  /-- At a number of pixels. -/
  | pixels (y : Int)
  deriving DecidableEq, Repr

namespace Vertical

/-- The keywords for vertical places. -/
def vocabulary : Vocabulary Vertical where
  words := [("top of display", .top), ("bottom of display", .bottom),
    ("above top of display", .aboveTop), ("below bottom of display", .belowBottom)]
  complaint := .unknownVerticalPlace

/-- The place that a text names. -/
def read (s : String) : Except ArgumentError Vertical :=
  vocabulary.readOrNumber .pixels s

/-- The upper edge of a sprite of some height at the place. -/
def resolve (place : Vertical) (display height : Int) : Safe Int :=
  match place with
  | .top => .ok 0
  | .bottom => signed (display - height)
  | .aboveTop => signed (-height)
  | .belowBottom => .ok display
  | .pixels y => .ok y

/-- The edge that reaches the place first, and where it is then. -/
def stop? (place : Vertical) (display height : Int) : Safe (Option (Side × Int)) :=
  match place with
  | .aboveTop => do return some (.top, ← signed (-height))
  | .top => .ok (some (.top, 0))
  | .bottom => .ok (some (.bottom, display))
  | .belowBottom => .ok (some (.top, display))
  | .pixels _ => .ok none

end Vertical

end VisualNovel

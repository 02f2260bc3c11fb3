import VisualNovel.Stage.Animation

/-!
# Sprites

A sprite is a picture on the stage: an asset by its name, under a nickname that scripts use, with a
size, the coordinates of its upper left corner, and its animations. Its centre is found by halving
its size, and a half is cut towards zero.
-/

namespace VisualNovel

open Number

/-- A picture on the stage. -/
structure Sprite where
  /-- The name of the asset. -/
  name : String
  /-- The name under which scripts reach the sprite while it is visible. -/
  nickname : String
  /-- The width in pixels. -/
  width : Int
  /-- The height in pixels. -/
  height : Int
  /-- The left edge. -/
  x : Int := 0
  /-- The upper edge. -/
  y : Int := 0
  /-- Whether it is shown. -/
  visible : Bool := false
  /-- Whether it is flipped from left to right. -/
  flippedHorizontally : Bool := false
  /-- Whether it is flipped from top to bottom. -/
  flippedVertically : Bool := false
  /-- Its fade. -/
  fade : Fade := {}
  /-- Its movement. -/
  movement : Movement := {}
  /-- Its change of scale. -/
  scale : Scale := {}
  /-- Its turn. -/
  turn : Turn := {}
  deriving DecidableEq, Repr

namespace Sprite

/-! ## Showing and flipping -/

/-- The sprite shown. -/
def shown (sprite : Sprite) : Sprite :=
  { sprite with visible := true }

/-- The sprite hidden. -/
def hidden (sprite : Sprite) : Sprite :=
  { sprite with visible := false }

/-- The sprite flipped once more along the chosen axes. -/
def flip (sprite : Sprite) (horizontally vertically : Bool) : Sprite :=
  { sprite with
    flippedHorizontally := sprite.flippedHorizontally ^^ horizontally
    flippedVertically := sprite.flippedVertically ^^ vertically }

/-! ## Position -/

/-- The centre. -/
def center (sprite : Sprite) : Safe (Int × Int) := do
  let x ← signed (sprite.x + sprite.width.tdiv 2)
  let y ← signed (sprite.y + sprite.height.tdiv 2)
  return (x, y)

/-- The sprite with its centre on a vertical line. -/
def centeredX (sprite : Sprite) (x : Int) : Safe Sprite := do
  let x ← signed (x - sprite.width.tdiv 2)
  return { sprite with x }

/-- The sprite with its centre on a horizontal line. -/
def centeredY (sprite : Sprite) (y : Int) : Safe Sprite := do
  let y ← signed (y - sprite.height.tdiv 2)
  return { sprite with y }

/-- The sprite with its centre at a point. -/
def centeredAt (sprite : Sprite) (x y : Int) : Safe Sprite := do
  let sprite ← sprite.centeredX x
  sprite.centeredY y

/-- The right edge. -/
def rightEdge (sprite : Sprite) : Safe Int :=
  signed (sprite.x + sprite.width)

/-- The lower edge. -/
def lowerEdge (sprite : Sprite) : Safe Int :=
  signed (sprite.y + sprite.height)

/-! ## Animations -/

/-- Whether an animation is switched on. -/
def isActive (sprite : Sprite) : Animation → Bool
  | .fade => sprite.fade.active
  | .move => sprite.movement.active
  | .scale => sprite.scale.active
  | .turn => sprite.turn.active

/-- The sprite with an animation switched on or off. -/
def setActive (sprite : Sprite) (active : Bool) : Animation → Sprite
  | .fade => { sprite with fade := { sprite.fade with active } }
  | .move => { sprite with movement := { sprite.movement with active } }
  | .scale => { sprite with scale := { sprite.scale with active } }
  | .turn => { sprite with turn := { sprite.turn with active } }

/-- The script to start at the end of an animation. -/
def stopScript (sprite : Sprite) : Animation → Option String
  | .fade => sprite.fade.stopScript
  | .move => sprite.movement.stopScript
  | .scale => sprite.scale.stopScript
  | .turn => sprite.turn.stopScript

/-- The sprite with a script to start at the end of an animation. -/
def setStopScript (sprite : Sprite) (stopScript : Option String) : Animation → Sprite
  | .fade => { sprite with fade := { sprite.fade with stopScript } }
  | .move => { sprite with movement := { sprite.movement with stopScript } }
  | .scale => { sprite with scale := { sprite.scale with stopScript } }
  | .turn => { sprite with turn := { sprite.turn with stopScript } }

/-- Whether one of the animations is in progress. -/
def isAnimating (sprite : Sprite) : Bool :=
  sprite.fade.inProgress || sprite.movement.active || sprite.scale.active || sprite.turn.active

/-- Whether all of the animations are in progress. -/
def isFullyAnimating (sprite : Sprite) : Bool :=
  sprite.fade.inProgress && sprite.movement.active && sprite.scale.active && sprite.turn.active

end Sprite

end VisualNovel

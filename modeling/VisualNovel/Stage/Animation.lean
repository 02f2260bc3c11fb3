import VisualNovel.Keyword
import VisualNovel.Number.Floating
import VisualNovel.Stage.Place

/-!
# Animations of a sprite

A sprite can fade, move, change its scale and turn. For each of the four the stage keeps what a
script has asked for: from where, to where, how fast, after how many frames, and which script to
start when it is over. The frames between are drawn by the host, which reports the end.

A fade is in progress while it is switched on and has not reached its goal; without a goal it goes
on until it is switched off. The other three are in progress while they are switched on.
-/

namespace VisualNovel

open Number

/-! ## Directions and speeds -/

/-- Whether a fade brings a sprite in or takes it away. -/
inductive FadeDirection where
  /-- Towards opaque. -/
  | fadeIn
  /-- Towards transparent. -/
  | fadeOut
  deriving DecidableEq, Repr

/-- Whether a sprite grows or shrinks. -/
inductive ScaleDirection where
  /-- Growing. -/
  | scaleUp
  /-- Shrinking. -/
  | scaleDown
  deriving DecidableEq, Repr

/-- Which way a sprite turns. -/
inductive TurnDirection where
  /-- To the right. -/
  | clockwise
  /-- To the left. -/
  | counterclockwise
  deriving DecidableEq, Repr

/-- Both directions of a fade. -/
def FadeDirection.all : List FadeDirection :=
  [.fadeIn, .fadeOut]

/-- The name of a direction in JSON. -/
def FadeDirection.name : FadeDirection → String
  | .fadeIn => "FadeIn"
  | .fadeOut => "FadeOut"

/-- The keywords for the directions of a fade. -/
def FadeDirection.vocabulary : Vocabulary FadeDirection where
  words := [("fade in", .fadeIn), ("fade out", .fadeOut)]
  complaint := .fadeDirection

/-- Both directions of a change of scale. -/
def ScaleDirection.all : List ScaleDirection :=
  [.scaleUp, .scaleDown]

/-- The name of a direction in JSON. -/
def ScaleDirection.name : ScaleDirection → String
  | .scaleUp => "ScaleUp"
  | .scaleDown => "ScaleDown"

/-- The keywords for the directions of a change of scale. -/
def ScaleDirection.vocabulary : Vocabulary ScaleDirection where
  words := [("scale up", .scaleUp), ("scale down", .scaleDown)]
  complaint := .scaleDirection

/-- Both directions of a turn. -/
def TurnDirection.all : List TurnDirection :=
  [.clockwise, .counterclockwise]

/-- The name of a direction in JSON. -/
def TurnDirection.name : TurnDirection → String
  | .clockwise => "Clockwise"
  | .counterclockwise => "Counterclockwise"

/-- The keywords for the directions of a turn. -/
def TurnDirection.vocabulary : Vocabulary TurnDirection where
  words := [("clockwise", .clockwise), ("counterclockwise", .counterclockwise)]
  complaint := .turnDirection

/-- A speed with its direction. -/
structure Speed (δ : Type) where
  /-- The speed in percent. -/
  percent : Nat
  /-- The direction. -/
  direction : δ
  deriving DecidableEq, Repr

/-- The speed of a percentage, which lies between one and a hundred. -/
def Speed.ofPercent {δ : Type} (percent : Nat) (direction : δ) : Except ArgumentError (Speed δ) :=
  if 1 ≤ percent && percent ≤ 100 then .ok ⟨percent, direction⟩
  else .error (.invalid (toString percent) .speed)

/-! ## The four animations -/

/-- A fade. -/
structure Fade where
  /-- The opacity now. -/
  current : Option Single := none
  /-- The opacity to reach. -/
  goal : Option Single := none
  /-- How fast. -/
  speed : Option (Speed FadeDirection) := none
  /-- Frames to let pass between two steps. -/
  delay : Nat := 0
  /-- Whether the fade is switched on. -/
  active : Bool := false
  /-- The script to start at the end. -/
  stopScript : Option String := none
  deriving DecidableEq, Repr

/-- Whether the fade is switched on and not at its goal. -/
def Fade.inProgress (fade : Fade) : Bool :=
  fade.active &&
    match fade.current, fade.goal with
    | some current, some goal => !current.sameValue goal
    | _, _ => true

/-- The pixels that a sprite moves in a frame. -/
structure Velocity where
  /-- To the right. -/
  x : Int
  /-- Downwards. -/
  y : Int
  deriving DecidableEq, Repr

/-- A movement. -/
structure Movement where
  /-- How fast. -/
  velocity : Option Velocity := none
  /-- Frames to let pass between two steps, on either axis. -/
  delay : Nat × Nat := (0, 0)
  /-- Where a side has to arrive for the movement to end. -/
  stops : List (Side × Int) := []
  /-- Whether the movement is switched on. -/
  active : Bool := false
  /-- The script to start at the end. -/
  stopScript : Option String := none
  deriving DecidableEq, Repr

/-- The movement with a stop for a side, in place of the stop that the side may have had. -/
def Movement.addStop (movement : Movement) (side : Side) (position : Int) : Movement :=
  { movement with
    stops := movement.stops.filter (fun stop => stop.1 != side) ++ [(side, position)] }

/-- A change of scale. -/
structure Scale where
  /-- The scale now. -/
  current : Option Single := none
  /-- The scale to reach. -/
  goal : Option Single := none
  /-- How fast. -/
  speed : Option (Speed ScaleDirection) := none
  /-- Frames to let pass between two steps. -/
  delay : Nat := 0
  /-- Whether the change is switched on. -/
  active : Bool := false
  /-- The script to start at the end. -/
  stopScript : Option String := none
  deriving DecidableEq, Repr

/-- A turn. -/
structure Turn where
  /-- The angle now. -/
  current : Option Single := none
  /-- The angle to reach; without one the sprite turns for ever. -/
  goal : Option Single := none
  /-- How fast. -/
  speed : Option (Speed TurnDirection) := none
  /-- Frames to let pass between two steps. -/
  delay : Nat := 0
  /-- Whether the turn is switched on. -/
  active : Bool := false
  /-- The script to start at the end. -/
  stopScript : Option String := none
  deriving DecidableEq, Repr

/-! ## Naming an animation -/

/-- The four animations, each of which can end by itself. -/
inductive Animation where
  /-- A fade. -/
  | fade
  /-- A movement. -/
  | move
  /-- A change of scale. -/
  | scale
  /-- A turn. -/
  | turn
  deriving DecidableEq, Repr

namespace Animation

/-- All animations. -/
def all : List Animation :=
  [.fade, .move, .scale, .turn]

/-- The name of an animation in JSON. -/
def name : Animation → String
  | .fade => "fade"
  | .move => "move"
  | .scale => "scale"
  | .turn => "rotate"

end Animation

end VisualNovel

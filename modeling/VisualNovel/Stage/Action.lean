import VisualNovel.Dialog
import VisualNovel.Script.Arguments
import VisualNovel.Script.Instruction
import VisualNovel.Stage.Basic
import VisualNovel.Story

/-!
# Acting on sprites

What the tags about sprites do to the stage.

Loading puts a sprite of the story on the stage, hidden. Showing it makes it visible: a background
takes the place of every other one, and any other sprite takes over from the visible sprite with its
nickname, if there is one, with its centre, its flips and its animations. All other actions but
hiding a whole group change one visible sprite, the one of the nickname that they are given; they
are an `Edit`, made of the arguments before that sprite is looked for.

Arguments that cannot be read, and a nickname that no visible sprite has, leave the stage as it is.
-/

namespace VisualNovel

open Number

/-! ## Loading and showing -/

/-- The name and the nickname of a sprite to load. A background may go without a nickname, and then
has its name for one. -/
def loadArguments (group : Group) (arguments : Option String) : Option (String × String) :=
  match Shape.load.decode? arguments with
  | some (name, nickname, ()) => some (name, nickname)
  | none =>
    if group = .background then
      (Shape.name.decode? arguments).map fun (name, ()) => (name, name)
    else none

namespace Stage

/-- The stage with a sprite of the story loaded. A sprite that is loaded already gets the
nickname. -/
def load (stage : Stage) (assets : Assets) (group : Group) (arguments : Option String) : Stage :=
  match loadArguments group arguments with
  | none => stage
  | some (name, nickname) =>
    match assets.find? group name with
    | none => stage
    | some size =>
      let cast := stage.cast group
      match cast.find? name with
      | some sprite => stage.setCast group (cast.insert name { sprite with nickname })
      | none =>
        stage.setCast group
          (Cast.add cast { name, nickname, width := size.width, height := size.height })

/-- A sprite in the place of another: it has its own name and size, and everything else, the centre
included, from the other. -/
def takeOver (previous sprite : Sprite) : Safe Sprite := do
  let (x, y) ← previous.center
  let inherited : Sprite :=
    { previous with name := sprite.name, width := sprite.width, height := sprite.height }
  inherited.centeredAt x y

/-- The cast with a hidden sprite shown. -/
def showIn (group : Group) (cast : Cast) (name : String) (sprite : Sprite) : Safe Cast := do
  if group = .background then
    return Cast.change (Cast.hideAll cast) name Sprite.shown
  else
    match Cast.visible? cast sprite.nickname with
    | none => return cast.insert name sprite.shown
    | some (_, previous) =>
      let successor ← takeOver previous { sprite with name }
      return Cast.change (cast.insert name successor) previous.name Sprite.hidden

/-- The stage with a loaded sprite shown. A sprite that is visible already stays as it is. -/
def appear (stage : Stage) (group : Group) (name : String) : Safe Stage :=
  match (stage.cast group).find? name with
  | none => .ok stage
  | some sprite =>
    if sprite.visible then .ok stage
    else do return stage.setCast group (← showIn group (stage.cast group) name sprite)

end Stage

/-! ## Edits -/

/-- A change of the visible sprite with a nickname. -/
structure Edit where
  /-- The nickname. -/
  nickname : String
  /-- The sprite after the change; none if there is nothing to change. -/
  change : Sprite → Safe (Option Sprite)

namespace Edit

/-- An edit that always has a result. -/
def of (nickname : String) (change : Sprite → Sprite) : Edit :=
  ⟨nickname, fun sprite => .ok (some (change sprite))⟩

/-- An edit whose result may be out of range. -/
def ofSafe (nickname : String) (change : Sprite → Safe Sprite) : Edit :=
  ⟨nickname, fun sprite => (change sprite).map some⟩

end Edit

/-- Full opacity. -/
def fullOpacity : Single := Single.ofNat 255

/-- The least opacity, and the least scale. -/
def singleZero : Single := Single.ofNat 0

/-- An opacity within its bounds. -/
def boundedOpacity (value : Single) : Single :=
  value.clamp singleZero fullOpacity

/-- A speed from its percentage and the keyword of its direction. -/
def readSpeed {δ : Type} (directions : Vocabulary δ) (percent : Nat) (direction : String) :
    Option (Speed δ) := do
  let direction ← directions.read? direction
  (Speed.ofPercent percent direction).toOption

/-- The opacity at which a fade begins if nothing else is said. -/
def FadeDirection.origin : FadeDirection → Single
  | .fadeIn => singleZero
  | .fadeOut => fullOpacity

/-- The sign of a direction, among two words for minus and plus. -/
def directionSign (minus plus direction : String) : Option Int :=
  let word := Text.lowercase direction
  if word = minus then some (-1) else if word = plus then some 1 else none

/-- The pixels of a movement along one axis. -/
def signedPace (pixels sign : Int) : Safe Int := do
  let magnitude ← signed pixels.natAbs
  signed (magnitude * sign)

/-- The goal of a turn: an angle, or none for the word `forever`. -/
def turnGoal? (s : String) : Option (Option Single) :=
  if Text.sameAsciiCase s "forever" then some none else (Format.single.read s).map some

/-- The stop that a place means for a sprite. A text that names a horizontal place is not looked at
as a vertical one. -/
def placeStop (stage : Stage) (place : String) (sprite : Sprite) : Safe (Option (Side × Int)) :=
  match Horizontal.read place with
  | .ok horizontal => horizontal.stop? stage.displayWidth sprite.width
  | .error _ =>
    match Vertical.read place with
    | .ok vertical => vertical.stop? stage.displayHeight sprite.height
    | .error _ => .ok none

/-- The sprite with a stop of its movement. -/
def Sprite.withStop (sprite : Sprite) (stop : Side × Int) : Sprite :=
  { sprite with movement := sprite.movement.addStop stop.1 stop.2 }

/-- The edit that says where a movement ends: a side and a number of pixels, or a place. -/
def stopEdit? (stage : Stage) (arguments : Option String) : Option Edit :=
  match Shape.stopAtSide.decode? arguments with
  | some (nickname, side, position, ()) => do
    let side ← Side.vocabulary.read? side
    let position ← readSigned position
    return .of nickname fun sprite => sprite.withStop (side, position)
  | none => do
    let (nickname, place, ()) ← Shape.stopAtPlace.decode? arguments
    return ⟨nickname, fun sprite => do
      return (← placeStop stage place sprite).map sprite.withStop⟩

/-- The edit that aligns a sprite with another one. The other one must be visible, and its centre is
computed whether or not there is a sprite to align. -/
def alignEdit? (stage : Stage) (arguments : Option String) : Safe (Option Edit) :=
  match Shape.alignment.decode? arguments with
  | none => .ok none
  | some (nickname, group, other, ()) =>
    match (Group.vocabulary.read? group).bind (stage.visible? · other) with
    | none => .ok none
    | some other => do
      let (x, _) ← other.center
      return some (.ofSafe nickname fun sprite => sprite.centeredX x)

/-- The sprite with a delay of an animation; a movement has two of them. -/
def Sprite.setDelay (sprite : Sprite) (frames : Nat) : Animation → Sprite
  | .fade => { sprite with fade := { sprite.fade with delay := frames } }
  | .move => { sprite with movement := { sprite.movement with delay := (frames, frames) } }
  | .scale => { sprite with scale := { sprite.scale with delay := frames } }
  | .turn => { sprite with turn := { sprite.turn with delay := frames } }

/-- The sprite with a fade at some speed, which begins at the far end unless it has begun. -/
def Sprite.setFadeSpeed (sprite : Sprite) (speed : Speed FadeDirection) : Sprite :=
  let current := some (sprite.fade.current.getD speed.direction.origin)
  { sprite with fade := { sprite.fade with current, speed := some speed } }

/-- The sprite with an animation switched off. A movement that is switched off forgets the script
that was to be started at its end. -/
def Sprite.switchOff (sprite : Sprite) : Animation → Sprite
  | .move => (sprite.setActive false .move).setStopScript none .move
  | animation => sprite.setActive false animation

/-- The edit of an action without further arguments. -/
def plainEdit? (arguments : Option String) (change : Sprite → Sprite) : Option Edit :=
  (Shape.nickname.decode? arguments).map fun (nickname, ()) => .of nickname change

/-- The edit of an action with a value. -/
def valueEdit? (arguments : Option String) (change : Sprite → Single → Sprite) : Option Edit :=
  (Shape.value.decode? arguments).map fun (nickname, value, ()) =>
    .of nickname fun sprite => change sprite value

/-- The edit of an action with a speed. -/
def speedEdit? {δ : Type} (directions : Vocabulary δ) (arguments : Option String)
    (change : Sprite → Speed δ → Sprite) : Option Edit := do
  let (nickname, percent, direction, ()) ← Shape.speed.decode? arguments
  let speed ← readSpeed directions percent direction
  return .of nickname fun sprite => change sprite speed

/-- The edit of an action with a place on the horizontal axis. -/
def horizontalEdit? (stage : Stage) (arguments : Option String) : Option Edit := do
  let (nickname, place, ()) ← Shape.position.decode? arguments
  let place ← (Horizontal.read place).toOption
  return .ofSafe nickname fun sprite => do
    let x ← place.resolve stage.displayWidth sprite.width
    return { sprite with x }

/-- The edit of an action with a place on the vertical axis. -/
def verticalEdit? (stage : Stage) (arguments : Option String) : Option Edit := do
  let (nickname, place, ()) ← Shape.position.decode? arguments
  let place ← (Vertical.read place).toOption
  return .ofSafe nickname fun sprite => do
    let y ← place.resolve stage.displayHeight sprite.height
    return { sprite with y }

/-- The edit that says how a movement goes. -/
def moveEdit? (arguments : Option String) : Option Edit := do
  let (nickname, x, xDirection, y, yDirection, ()) ← Shape.move.decode? arguments
  let xSign ← directionSign "left" "right" xDirection
  let ySign ← directionSign "up" "down" yDirection
  return .ofSafe nickname fun sprite => do
    let x ← signedPace x xSign
    let y ← signedPace y ySign
    return { sprite with movement := { sprite.movement with velocity := some ⟨x, y⟩ } }

/-- The edit of a delay. -/
def delayEdit? (animation : Animation) (arguments : Option String) : Option Edit :=
  match animation with
  | .move =>
    (Shape.moveDelay.decode? arguments).map fun (nickname, x, y, ()) =>
      .of nickname fun sprite =>
        { sprite with movement := { sprite.movement with delay := (x, y) } }
  | animation =>
    (Shape.delay.decode? arguments).map fun (nickname, frames, ()) =>
      .of nickname fun sprite => sprite.setDelay frames animation

/-- The edit that an action makes, if its arguments can be read. Showing a sprite and hiding a group
are no edits. -/
def SpriteAction.edit? (action : SpriteAction) (stage : Stage) (arguments : Option String) :
    Safe (Option Edit) :=
  match action with
  | .appear => .ok none
  | .hideAll => .ok none
  | .hide => .ok (plainEdit? arguments Sprite.hidden)
  | .flipBoth => .ok (plainEdit? arguments (·.flip true true))
  | .flipHorizontal => .ok (plainEdit? arguments (·.flip true false))
  | .flipVertical => .ok (plainEdit? arguments (·.flip false true))
  | .setPositionX => .ok (horizontalEdit? stage arguments)
  | .setPositionY => .ok (verticalEdit? stage arguments)
  | .setCenter =>
    .ok ((Shape.center.decode? arguments).map fun (nickname, x, y, ()) =>
      .ofSafe nickname fun sprite => sprite.centeredAt x y)
  | .centerXWith => alignEdit? stage arguments
  | .stopMovementCondition => .ok (stopEdit? stage arguments)
  | .move => .ok (moveEdit? arguments)
  | .start animation => .ok (plainEdit? arguments (·.setActive true animation))
  | .stop animation => .ok (plainEdit? arguments (·.switchOff animation))
  | .afterStop animation =>
    .ok ((Shape.afterStop.decode? arguments).map fun (nickname, script, ()) =>
      .of nickname fun sprite => sprite.setStopScript (hookName script) animation)
  | .delay animation => .ok (delayEdit? animation arguments)
  | .fadeGoal =>
    .ok (valueEdit? arguments fun sprite value =>
      { sprite with fade := { sprite.fade with goal := some (boundedOpacity value) } })
  | .fadeCurrent =>
    .ok (valueEdit? arguments fun sprite value =>
      { sprite with fade := { sprite.fade with current := some (boundedOpacity value) } })
  | .fadeSpeed => .ok (speedEdit? FadeDirection.vocabulary arguments Sprite.setFadeSpeed)
  | .scaleSpeed =>
    .ok (speedEdit? ScaleDirection.vocabulary arguments fun sprite speed =>
      { sprite with scale := { sprite.scale with speed := some speed } })
  | .scaleGoal =>
    .ok (valueEdit? arguments fun sprite value =>
      { sprite with scale := { sprite.scale with goal := some (value.atLeast singleZero) } })
  | .scaleCurrent =>
    .ok (valueEdit? arguments fun sprite value =>
      { sprite with scale := { sprite.scale with current := some (value.atLeast singleZero) } })
  | .turnCurrent =>
    .ok (valueEdit? arguments fun sprite value =>
      { sprite with turn := { sprite.turn with current := some value } })
  | .turnGoal =>
    .ok (do
      let (nickname, value, ()) ← Shape.valueOrWord.decode? arguments
      let goal ← turnGoal? value
      return .of nickname fun sprite => { sprite with turn := { sprite.turn with goal } })
  | .turnSpeed =>
    .ok (speedEdit? TurnDirection.vocabulary arguments fun sprite speed =>
      { sprite with turn := { sprite.turn with speed := some speed } })

/-! ## Actions -/

/-- The stage after an action on a sprite of a group. -/
def Stage.act (stage : Stage) (group : Group) (action : SpriteAction)
    (arguments : Option String) : Safe Stage :=
  match action with
  | .appear =>
    match Shape.name.decode? arguments with
    | some (name, ()) => stage.appear group name
    | none => .ok stage
  | .hideAll => .ok (stage.setCast group (Cast.hideAll (stage.cast group)))
  | action => do
    match ← action.edit? stage arguments with
    | none => return stage
    | some edit => stage.changeVisible group edit.nickname edit.change

end VisualNovel

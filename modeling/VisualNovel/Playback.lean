import VisualNovel.Engine

/-!
# Playing without a screen

A host that has nothing to draw on: every animation is over at once. After each frame it reports the
end of what the cues began, moves every animated sprite to the end of its animations and reports
those as well. The reports wait in a queue, from which each frame takes one.
-/

namespace VisualNovel

/-! ## Reports -/

/-- What is reported after a cue. -/
def Cue.reports : Cue → List Signal
  | .showDialog true => [.dialogAnimationFinished]
  | .hideDialog true => [.dialogAnimationFinished]
  | .coverScreen .. => [.screenCovered, .coverFinished]
  | _ => []

namespace Sprite

/-- Whether the sprite has animations to bring to an end. -/
def isUnsettled (sprite : Sprite) : Bool :=
  sprite.visible && sprite.isAnimating

/-- The sprite at the end of its animations. -/
def settled (sprite : Sprite) : Sprite :=
  if sprite.isUnsettled && sprite.fade.active && sprite.fade.goal.isSome then
    { sprite with fade := { sprite.fade with current := sprite.fade.goal } }
  else sprite

/-- The animations of the sprite that come to an end. -/
def settling (sprite : Sprite) : List Animation :=
  if sprite.isUnsettled then Animation.all.filter sprite.isActive else []

end Sprite

namespace Stage

/-- The groups in the order in which their sprites are settled. -/
def settlingOrder : List Group :=
  [.background, .character, .object, .dialogSprite]

/-- The stage with every sprite at the end of its animations. -/
def settled (stage : Stage) : Stage :=
  settlingOrder.foldl
    (fun settling group => settling.setCast group ((settling.cast group).map Sprite.settled)) stage

/-- What is reported when the sprites of a group come to the end of their animations. -/
def groupReports (stage : Stage) (group : Group) : List Signal :=
  (stage.cast group).entries.flatMap fun (name, sprite) =>
    sprite.settling.map (.spriteAnimationStopped group name ·)

/-- What is reported when all sprites come to the end of their animations. -/
def reports (stage : Stage) : List Signal :=
  settlingOrder.flatMap stage.groupReports

end Stage

/-! ## Frames -/

/-- An engine and the reports for its next frames. -/
structure Playback where
  /-- The engine. -/
  engine : Engine
  /-- The reports that wait. -/
  queue : List Signal := []
  deriving DecidableEq, Repr

/-- What comes of a frame. -/
structure Shown where
  /-- The cues of the frame. -/
  cues : List Cue
  /-- Whether it is the last one. -/
  isLast : Bool
  /-- What the next frame begins with. -/
  next : Playback
  deriving DecidableEq, Repr

namespace Playback

/-- A playback at the beginning of a story. -/
def create (story : Story) (settings : Settings) : Except StoryError Playback := do
  let engine ← Engine.create story settings
  return { engine }

/-- Plays a frame. It is the last one if the story is over and nothing waits to be reported, or if
the story was left. Where only a click can go on, one is made if that is asked for. -/
def frame (playback : Playback) (autoClick : Bool) : Except Failure Shown :=
  match playback.engine.tick playback.queue.head? with
  | (.error failure, _) => .error failure
  | (.ok (cues, waiting), engine) =>
    let stage := engine.session.stage
    let queue := playback.queue.tail ++ cues.flatMap Cue.reports ++ stage.reports
    let clicked :=
      if waiting == .halt && autoClick && queue.isEmpty then [Signal.click] else queue
    .ok {
      cues
      isLast := (waiting == .finished && queue.isEmpty) || cues.contains .exit
      next := { engine := engine.withStage stage.settled, queue := clicked } }

/-- Plays at most some frames, and collects their cues until the last frame or a failure. -/
def play (autoClick : Bool) : Nat → Playback → Array Cue → Array Cue × Option Failure
  | 0, _, shown => (shown, none)
  | frames + 1, playback, shown =>
    match playback.frame autoClick with
    | .error failure => (shown, some failure)
    | .ok frame =>
      if frame.isLast then (shown ++ frame.cues, none)
      else play autoClick frames frame.next (shown ++ frame.cues)

end Playback

end VisualNovel

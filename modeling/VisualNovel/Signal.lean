import VisualNovel.Stage.Codec

/-!
# Signals and waiting

What a host tells an engine, and what the engine tells the host about the main script. Signals are
about meanings, not about keys and buttons; the passing of time is not a signal but the tick itself.
-/

namespace VisualNovel

open Json

/-! ## Signals -/

/-- What a host reports. -/
inductive Signal where
  /-- The reader of the story clicked. -/
  | click
  /-- The dialog has come in or gone out. -/
  | dialogAnimationFinished
  /-- Text begins to appear. -/
  | textAnimationStarted
  /-- All of the text has appeared. -/
  | textAnimationFinished
  /-- An animation of a sprite is over. -/
  | spriteAnimationStopped (group : Group) (name : String) (animation : Animation)
  /-- The cover hides the whole screen. -/
  | screenCovered
  /-- The cover has passed. -/
  | coverFinished
  /-- The host pauses the main script. -/
  | pause
  /-- The host lets the main script go on. -/
  | resume
  deriving DecidableEq, Repr

namespace Signal

/-- The signals without fields. -/
def bareSignals : List Signal :=
  [.click, .dialogAnimationFinished, .textAnimationStarted, .textAnimationFinished,
    .screenCovered, .coverFinished, .pause, .resume]

/-- The name of a signal in JSON. -/
def name : Signal → String
  | .click => "Click"
  | .dialogAnimationFinished => "DialogAnimationFinished"
  | .textAnimationStarted => "TextAnimationStarted"
  | .textAnimationFinished => "TextAnimationFinished"
  | .spriteAnimationStopped .. => "SpriteAnimationStopped"
  | .screenCovered => "ScreenCovered"
  | .coverFinished => "CoverFinished"
  | .pause => "Pause"
  | .resume => "Resume"

/-- A signal in JSON. -/
def toJson : Signal → Json
  | .spriteAnimationStopped group name animation =>
    ofVariant "SpriteAnimationStopped" [("content_type", group.toJson), ("name", .text name),
      ("animation", .text animation.name)]
  | signal => .text signal.name

/-- The signal in a JSON value. -/
def ofJson? (j : Json) : Option Signal := do
  match ← j.variant? with
  | ("SpriteAnimationStopped", some payload) =>
    let fields ← payload.fields? ["content_type", "name", "animation"]
    let group ← fields.required "content_type" Group.ofJson?
    let name ← fields.required "name" text?
    let animation ← fields.required "animation" Animation.ofJson?
    return .spriteAnimationStopped group name animation
  | _ => j.bare? bareSignals name

end Signal

/-! ## Waiting -/

/-- What the main script is waiting for. -/
inductive Waiting where
  /-- Nothing. -/
  | nothing
  /-- The dialog to come in or to go out. -/
  | dialogAnimation
  /-- A click. -/
  | halt
  /-- Some frames, or until the text has been there for as long. -/
  | haltAuto (remaining : Nat)
  /-- Some frames. -/
  | rest (remaining : Nat)
  /-- An animation of a sprite or of the cover. -/
  | animation
  /-- The host. -/
  | manual
  /-- Nothing more: the main script is over. -/
  | finished
  deriving DecidableEq, Repr

namespace Waiting

/-- Whether the main script waits. -/
def isWaiting : Waiting → Bool
  | .nothing => false
  | .finished => false
  | _ => true

/-- Whether a click lets the main script go on. -/
def acceptsClick : Waiting → Bool
  | .halt => true
  | _ => false

/-- The reasons without fields. -/
def bareReasons : List Waiting :=
  [.nothing, .dialogAnimation, .halt, .animation, .manual, .finished]

/-- The name of a reason in JSON. -/
def name : Waiting → String
  | .nothing => "None"
  | .dialogAnimation => "DialogAnimation"
  | .halt => "Halt"
  | .haltAuto _ => "HaltAuto"
  | .rest _ => "Rest"
  | .animation => "WaitForAnimation"
  | .manual => "Manual"
  | .finished => "Finished"

/-- A reason in JSON. -/
def toJson : Waiting → Json
  | .haltAuto remaining => ofVariant "HaltAuto" [("remaining_frames", ofNat remaining)]
  | .rest remaining => ofVariant "Rest" [("remaining_frames", ofNat remaining)]
  | reason => .text reason.name

/-- The reason in a JSON value. -/
def ofJson? (j : Json) : Option Waiting := do
  match ← j.variant? with
  | ("HaltAuto", some payload) =>
    let fields ← payload.fields? ["remaining_frames"]
    return .haltAuto (← fields.required "remaining_frames" count?)
  | ("Rest", some payload) =>
    let fields ← payload.fields? ["remaining_frames"]
    return .rest (← fields.required "remaining_frames" count?)
  | _ => j.bare? bareReasons name

end Waiting

end VisualNovel

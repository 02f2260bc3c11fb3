import VisualNovel.Condition.Operator
import VisualNovel.Engine.Effect
import VisualNovel.Script.Instruction
import VisualNovel.Script.Line
import VisualNovel.Stage.Action

/-!
# Carrying out a tag

What the tags of a script do to the session. A tag whose arguments cannot be read is passed over, as
is a tag with a name that stands for nothing. A few mistakes are the author's and end the tick:
going to a scene that is not there, and giving the dialog a sound before it is defined.

The tags of blocks change the blocks of the reader that meets them. All that they do to the session
is to draw a name for a block without one.
-/

namespace VisualNovel

open Number

/-- What the reader of a script does after a tag. -/
inductive Flow where
  /-- It goes on to the next line. -/
  | next
  /-- It leaves the rest of the script. -/
  | finish
  deriving DecidableEq, Repr

/-- What a tag does. -/
structure Outcome where
  /-- The change of the session, and a script to start. -/
  effect : Effect
  /-- What the reader does then. -/
  flow : Flow := .next
  deriving DecidableEq, Repr

namespace Outcome

/-- A change of the session only. -/
def ofSession (session : Session) : Outcome where
  effect := { session }

/-- An effect, after which the reader goes on. -/
def ofEffect (effect : Effect) : Outcome where
  effect := effect

end Outcome

/-- A computation in the place of a tick. -/
def liftSafe {α : Type} : Safe α → Except Failure α
  | .ok a => .ok a
  | .error crash => .error (.crash crash)

/-- A check of the story in the place of a tick. -/
def liftStory {α : Type} : Except StoryError α → Except Failure α
  | .ok a => .ok a
  | .error error => .error (.story error)

/-! ## Reading arguments -/

/-- Whether a text says yes or no. -/
def yesOrNo? (s : String) : Option Bool :=
  let word := Text.lowercase s
  if word = "yes" then some true else if word = "no" then some false else none

/-- The looks and the hooks of a dialog. An animation that there is none of has no hook for its
beginning. -/
def DialogStyle.ofArguments? (arguments : Option String) : Option (DialogStyle × DialogHooks) := do
  let (width, height, animationSpeed, intro, outro, anchor, backgroundColor, paddingX, paddingY,
    opacity, rounded, introStarting, introFinished, outroStarting, outroFinished, onHalt, onUnhalt,
    borderColor, borderOpacity, borderWidth, ()) ← Shape.dialog.decode? arguments
  let roundedCorners ← yesOrNo? rounded
  let intro ← DialogIntro.vocabulary.read? intro
  let outro ← DialogOutro.vocabulary.read? outro
  let anchor ← DialogAnchor.vocabulary.read? anchor
  let style : DialogStyle := {
    width, height, animationSpeed, intro, outro, anchor, backgroundColor, paddingX, paddingY,
    opacity, roundedCorners, borderColor, borderOpacity, borderWidth }
  let hooks : DialogHooks := {
    introStarting := if intro = .noAnimation then none else hookName introStarting
    introFinished := hookName introFinished
    outroStarting := if outro = .noAnimation then none else hookName outroStarting
    outroFinished := hookName outroFinished
    onHalt := hookName onHalt
    onUnhalt := hookName onUnhalt }
  return (style, hooks)

/-- A number of frames, at least one. -/
def frames? (arguments : Option String) : Option Nat :=
  ((Shape.frames.decode? arguments).map fun (frames, ()) => frames).filter (0 < ·)

/-- The words for the cover of the screen. -/
def coverWords : String := "fade screen"

/-- The script to start with a tag, and its parameters. -/
def Launch.ofCall? (arguments : Option String) : Option Launch :=
  match Shape.callWith.decode? arguments with
  | some (name, parameters, ()) =>
    (Parameters.read parameters).toOption.map fun parameters => ⟨name, some parameters⟩
  | none => (Shape.name.decode? arguments).map fun (name, ()) => ⟨name, none⟩

/-- The script to start later with a tag, its parameters, and after how many frames. -/
def Launch.ofAfter? (arguments : Option String) : Option (Launch × Nat) :=
  match Shape.afterWith.decode? arguments with
  | some (frames, name, parameters, ()) =>
    (Parameters.read parameters).toOption.map fun parameters => (⟨name, some parameters⟩, frames)
  | none => (Shape.after.decode? arguments).map fun (frames, name, ()) => (⟨name, none⟩, frames)

namespace Session

/-! ## Sound -/

/-- The session after a sound is played. Music is repeated. -/
def play (session : Session) (channel : Channel) (arguments : Option String) : Session :=
  match Shape.name.decode? arguments with
  | some (name, ()) => session.emit (.playAudio channel name (channel == .music))
  | none => session

/-- The session after a volume between zero and a hundred is set. -/
def setVolume (session : Session) (channel : Channel) (arguments : Option String) : Session :=
  match Shape.volume.decode? arguments with
  | some (value, ()) =>
    if 0 ≤ value && value ≤ 100 then
      session.emit (.setVolume channel (Format.single.round false value.toNat 100))
    else session
  | none => session

/-- The session after the sound of appearing letters is set, for which the dialog must be
defined. -/
def setTextSound (session : Session) (tag : String) (arguments : Option String) :
    Except StoryError Session :=
  if session.dialog.isDefined then
    match Shape.name.decode? arguments with
    | some (name, ()) => .ok (session.emit (.dialogTextSound (some name)))
    | none => .ok session
  else .error (.dialogUndefined tag)

/-! ## The dialog and its text -/

/-- The session after the dialog is defined, which cannot be done while it is visible. -/
def defineDialog (session : Session) (arguments : Option String) : Session :=
  if session.dialog.visible then session
  else
    match DialogStyle.ofArguments? arguments with
    | none => session
    | some (style, hooks) =>
      { session with dialog := { session.dialog with style := some style, hooks } }.emit
        (.defineDialog style)

/-- The session after the next line is put behind the present one. -/
def continueText (session : Session) (arguments : Option String) : Session :=
  match arguments with
  | none => session.emit (.continueText none)
  | some _ =>
    match Shape.adjustment.decode? arguments with
    | some (adjustY, ()) => session.emit (.continueText (some adjustY))
    | none => session

/-- The session after a font of the story is loaded; the host is told once. -/
def loadFont (session : Session) (arguments : Option String) : Session :=
  match Shape.name.decode? arguments with
  | none => session
  | some (name, ()) =>
    if !session.story.fonts.contains name || session.dialog.loadedFonts.contains name then session
    else
      let loadedFonts := session.dialog.loadedFonts.insert name ()
      { session with dialog := { session.dialog with loadedFonts } }.emit (.loadFont name)

/-- The session after a loaded font is put to use. -/
def setFont (session : Session) (arguments : Option String) : Session :=
  match Shape.name.decode? arguments with
  | none => session
  | some (name, ()) =>
    if session.dialog.loadedFonts.contains name then session.emit (.setFont name) else session

/-- The session after a cue that a number goes with. -/
def emitNumber (session : Session) (arguments : Option String) (cue : Int → Cue) : Session :=
  match Shape.number.decode? arguments with
  | some (value, ()) => session.emit (cue value)
  | none => session

/-- The session after the pause behind a punctuation mark is set. -/
def setPunctuationDelay (session : Session) (arguments : Option String) : Session :=
  match Shape.punctuation.decode? arguments with
  | some (letter, frames, ()) =>
    if letter.isEmpty then session
    else session.emit (.fontTextDelayPunc letter (bounded frames 0 150))
  | none => session

/-- The session after it is said how text appears. -/
def setTextIntro (session : Session) (arguments : Option String) : Session :=
  match (Shape.name.decode? arguments).bind fun (name, ()) => TextIntro.vocabulary.read? name with
  | some animation => session.emit (.fontIntroAnimation animation)
  | none => session

/-! ## Pauses -/

/-- The effect of a halt with a budget. -/
def haltAuto (session : Session) (arguments : Option String) : Effect :=
  match frames? arguments with
  | some frames => session.halt (some frames)
  | none => { session }

/-- The session after a rest is asked for. -/
def rest (session : Session) (arguments : Option String) : Safe Session :=
  match frames? arguments with
  | none => .ok session
  | some frames => do
    let rest ← session.pause.rest.extend frames
    return { session with pause := { session.pause with rest } }

/-- The session after an animation is waited for. -/
def waitForAnimation (session : Session) (arguments : Option String) : Session :=
  match Shape.waitForSprite.decode? arguments with
  | some (group, nickname, awaited, ()) =>
    { session with waits := session.waits.addSprite group nickname awaited }
  | none =>
    match Shape.waitForScreen.decode? arguments with
    | some (target, ()) =>
      if Text.sameAsciiCase target coverWords then
        { session with waits := session.waits.addCover }
      else session
    | none => session

/-! ## Reusable scripts -/

/-- The session after a timer is set for a script that is there. -/
def startTimer (session : Session) (arguments : Option String) : Session :=
  match Launch.ofAfter? arguments with
  | none => session
  | some (launch, frames) =>
    if session.story.reusables.contains launch.name then
      { session with timers := session.timers.add launch frames }
    else session

/-- The session after a timer is cancelled. -/
def cancelTimer (session : Session) (arguments : Option String) : Session :=
  match Shape.name.decode? arguments with
  | some (name, ()) => { session with timers := session.timers.cancel name }
  | none => session

/-! ## Scenes -/

/-- What going to a scene does: the rest of the script is left, and the scene begins in this
frame. -/
def goToScene (session : Session) (arguments : Option String) : Except StoryError Outcome :=
  match Shape.scene.decode? arguments with
  | none => .ok (.ofSession session)
  | some (chapter, scene, ()) => do
    session.story.checkScene ⟨chapter, scene⟩
    return {
      effect := { session := { session with pendingScene := some ⟨chapter, scene⟩ } }
      flow := .finish }

/-- What going to a scene under a cover does: the rest of the script is left, and the scene begins
when the host reports that the screen is covered. -/
def goToCoveredScene (session : Session) (arguments : Option String) :
    Except StoryError Outcome :=
  match Shape.sceneWithFade.decode? arguments with
  | none => .ok (.ofSession session)
  | some (color, fadeInSpeed, fadeOutSpeed, holdFrames, chapter, scene, ()) => do
    session.story.checkScene ⟨chapter, scene⟩
    let covered :=
      { session with
        coveredScene := some ⟨chapter, scene⟩ }.emit
        (.coverScreen color fadeInSpeed fadeOutSpeed holdFrames)
    return { effect := { session := covered.setCover true }, flow := .finish }

/-- What leaving a script does: the end of the main script is the end of the story. -/
def exit (session : Session) (isMain : Bool) : Outcome where
  effect := { session := if isMain then session.emit .exit else session }
  flow := .finish

/-! ## Variables -/

/-- The session after a variable is set. -/
def setVariable (session : Session) (arguments : Option String) : Session :=
  match Shape.setVariable.decode? arguments with
  | some (name, value, ()) => { session with store := session.store.set name value }
  | none => session

/-! ## All tags -/

/-- The session with another stage. -/
def withStage (session : Session) (stage : Stage) : Outcome :=
  .ofSession { session with stage }

/-- What an instruction does in the main script or another one, under the name of its tag. -/
def execute (session : Session) (isMain : Bool) (instruction : Instruction) (tag : Tag) :
    Except Failure Outcome :=
  let arguments := tag.arguments
  match instruction with
  | .load group =>
    .ok (session.withStage (session.stage.load session.story.assets group arguments))
  | .sprite group action =>
    liftSafe ((session.stage.act group action arguments).map session.withStage)
  | .showBackground =>
    liftSafe ((session.stage.act .background .appear arguments).map session.withStage)
  | .hideBackground =>
    liftSafe ((session.stage.act .background .hide arguments).map session.withStage)
  | .play channel => .ok (.ofSession (session.play channel arguments))
  | .stop channel => .ok (.ofSession (session.emit (.stopAudio channel)))
  | .volume channel => .ok (.ofSession (session.setVolume channel arguments))
  | .textSound => liftStory ((session.setTextSound tag.name arguments).map .ofSession)
  | .clearTextSound => .ok (.ofSession (session.emit (.dialogTextSound none)))
  | .defineDialog => .ok (.ofSession (session.defineDialog arguments))
  | .showDialog => .ok (.ofEffect session.showDialog)
  | .closeDialog => .ok (.ofEffect session.closeDialog)
  | .continueText => .ok (.ofSession (session.continueText arguments))
  | .keepText =>
    .ok (.ofSession { session with dialog := { session.dialog with keepText := true } })
  | .loadFont => .ok (.ofSession (session.loadFont arguments))
  | .setFont => .ok (.ofSession (session.setFont arguments))
  | .fontX => .ok (.ofSession (session.emitNumber arguments fun x => .fontPosition (some x) none))
  | .fontY => .ok (.ofSession (session.emitNumber arguments fun y => .fontPosition none (some y)))
  | .textFadeSpeed =>
    .ok (.ofSession (session.emitNumber arguments fun n => .fontTextFadeSpeed (bounded n 1 10)))
  | .textDelay =>
    .ok (.ofSession (session.emitNumber arguments fun n => .fontTextDelay (bounded n 0 600)))
  | .punctuationDelay => .ok (.ofSession (session.setPunctuationDelay arguments))
  | .textIntro => .ok (.ofSession (session.setTextIntro arguments))
  | .halt => .ok (.ofEffect (session.halt none))
  | .haltAuto => .ok (.ofEffect (session.haltAuto arguments))
  | .rest => liftSafe ((session.rest arguments).map .ofSession)
  | .waitForAnimation => .ok (.ofSession (session.waitForAnimation arguments))
  | .call => .ok (.ofEffect { session, launch := Launch.ofCall? arguments })
  | .after => .ok (.ofSession (session.startTimer arguments))
  | .cancelAfter => .ok (.ofSession (session.cancelTimer arguments))
  | .cancelAllAfter => .ok (.ofSession { session with timers := {} })
  | .scene => liftStory (session.goToScene arguments)
  | .sceneWithFade => liftStory (session.goToCoveredScene arguments)
  | .exit => .ok (session.exit isMain)
  | .case => .ok (.ofSession session)
  | .orCase => .ok (.ofSession session)
  | .caseElse => .ok (.ofSession session)
  | .caseEnd => .ok (.ofSession session)
  | .setVariable => .ok (.ofSession (session.setVariable arguments))

end Session

/-! ## The tags of blocks -/

namespace Blocks

/-- The condition of a block, and the name of the block. -/
def condition? (arguments : Option String) :
    Option ((String × String × String) × Option String) :=
  match Shape.namedCondition.decode? arguments with
  | some (a, operator, b, name, ()) => some ((a, operator, b), some name)
  | none =>
    (Shape.condition.decode? arguments).map fun (a, operator, b, ()) => ((a, operator, b), none)

/-- Whether a block is let in by its condition, and its name. A condition that cannot be read does
not hold, nor does one without an operator. A block without a name takes the first of the fresh
ones; the others are left. -/
def judge (fresh : List String) (arguments : Option String) :
    Safe (Bool × Option String × List String) :=
  match condition? arguments with
  | none => .ok (false, fresh.head?, fresh.tail)
  | some ((a, operator, b), name) => do
    let passed ← if operator.isEmpty then pure false else Operator.holds a operator b
    match name with
    | some name => return (passed, some name, fresh)
    | none => return (passed, fresh.head?, fresh.tail)

/-- The blocks after one is opened, and the fresh names that are left. -/
def openCase (blocks : Blocks) (fresh : List String) (arguments : Option String) :
    Safe (Blocks × List String) :=
  if blocks.isSkipping then .ok (blocks.enterInert, fresh)
  else do
    let (passed, name, fresh) ← judge fresh arguments
    return (blocks.enter passed name, fresh)

/-- The blocks after another condition. It is looked at only if it is for the innermost block. -/
def tryOrCase (blocks : Blocks) (arguments : Option String) : Safe Blocks :=
  match Shape.orCondition.decode? arguments with
  | none => .ok blocks
  | some (name, a, operator, b, ()) =>
    if blocks.awaits name then do
      let passed ← Operator.holds a operator b
      return blocks.orCase name passed
    else .ok blocks

/-- The blocks after an instruction, and the fresh names that are left. -/
def obey (blocks : Blocks) (fresh : List String) (instruction : Instruction)
    (arguments : Option String) : Safe (Blocks × List String) :=
  match instruction with
  | .case => blocks.openCase fresh arguments
  | .orCase => (blocks.tryOrCase arguments).map (·, fresh)
  | .caseElse => .ok (blocks.turnRound, fresh)
  | .caseEnd => .ok (blocks.leave, fresh)
  | _ => .ok (blocks, fresh)

end Blocks

end VisualNovel

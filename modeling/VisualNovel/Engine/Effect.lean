import VisualNovel.Engine.Session

/-!
# Effects

What a tag, a click or the end of an animation does: it changes the session, and it may ask for a
reusable script to be started, which happens at once and before anything else. Whoever has the
effect carried out starts the script; here it is only named.
-/

namespace VisualNovel

/-- A changed session, and a script to start in it. -/
structure Effect where
  /-- The session after the change. -/
  session : Session
  /-- The script to start. -/
  launch : Option Launch := none
  deriving DecidableEq, Repr

namespace Session

/-- The effect of starting the script of a hook. -/
def withHook (session : Session) (hook : Option String) : Effect where
  session := session
  launch := hook.map fun name => { name }

/-! ## Halting and going on -/

/-- The effect of a halt. There is none before the dialog is defined, and none during a halt. -/
def halt (session : Session) (budget : Option Nat) : Effect :=
  if session.dialog.isDefined then
    match session.pause.halt.start? budget with
    | none => { session }
    | some halt =>
      let session := { session with pause := { session.pause with halt } }
      let session := if session.dialog.visible then session.emit .startTextAnimation else session
      session.withHook session.dialog.hooks.onHalt
  else { session }

/-- The effect of going on after a halt. The text is taken away, unless it is to be kept this
once. -/
def unhalt (session : Session) : Effect :=
  let kept := session.dialog.keepText
  let session :=
    { session with
      pause := { session.pause with halt := {} }
      dialog := { session.dialog with textAnimating := false, keepText := false } }
  let session := if kept then session else session.emit .clearText
  session.withHook session.dialog.hooks.onUnhalt

/-- The effect of a click: it lets the rest of the text appear, or ends a halt that waits for it. -/
def click (session : Session) : Effect :=
  if session.dialog.textAnimating then { session := session.emit .speedUpText }
  else if session.pause.halt.halted && !session.pause.halt.isAuto then session.unhalt
  else { session }

/-! ## The dialog -/

/-- The effect of showing the dialog. -/
def showDialog (session : Session) : Effect :=
  match session.dialog.style with
  | none => { session }
  | some style =>
    if session.dialog.visible || session.dialog.animating.isSome then { session }
    else
      let animated := style.intro != .noAnimation
      let animating := if animated then some DialogPhase.intro else none
      let session :=
        { session with dialog := { session.dialog with visible := true, animating } }.emit
          (.showDialog animated)
      if animated then session.withHook session.dialog.hooks.introStarting
      else session.withHook session.dialog.hooks.introFinished

/-- The effect of the dialog being gone: its sprites go with it. -/
def dialogGone (session : Session) : Effect :=
  let session :=
    { session with
      dialog := { session.dialog with visible := false }
      stage := session.stage.setCast .dialogSprite (Cast.hideAll session.stage.dialog) }
  session.withHook session.dialog.hooks.outroFinished

/-- The effect of hiding the dialog. -/
def closeDialog (session : Session) : Effect :=
  match session.dialog.style with
  | none => { session }
  | some style =>
    if !session.dialog.visible || session.dialog.animating.isSome then { session }
    else
      let animated := style.outro != .noAnimation
      let session := session.emit (.hideDialog animated)
      if animated then
        let session := { session with dialog := { session.dialog with animating := some .outro } }
        session.withHook session.dialog.hooks.outroStarting
      else session.dialogGone

/-- The effect of the end of an animation of the dialog. -/
def dialogAnimationFinished (session : Session) : Effect :=
  let phase := session.dialog.animating
  let session := { session with dialog := { session.dialog with animating := none } }
  match phase with
  | none => { session }
  | some .intro => session.withHook session.dialog.hooks.introFinished
  | some .outro => session.dialogGone

/-! ## Sprites -/

/-- The effect of the end of an animation of a sprite, by the name of its asset. -/
def spriteAnimationStopped (session : Session) (group : Group) (name : String)
    (animation : Animation) : Effect :=
  let cast := session.stage.cast group
  match cast.find? name with
  | none => { session }
  | some sprite =>
    let stage := session.stage.setCast group (cast.insert name (sprite.setActive false animation))
    { session with stage }.withHook (sprite.stopScript animation)

end Session

end VisualNovel

import VisualNovel.Engine.Reading

/-!
# The engine

An engine runs a story frame by frame. In each frame the host may hand it one signal, and gets the
cues of the frame and what the main script waits for. The order of a frame is fixed:

1. the signal is taken;
2. a scene that is to begin begins;
3. the scripts whose timers are due are started;
4. the main script is read, and again if that began another scene;
5. the other scripts that were running are read, in the order in which they were started;
6. the scripts that are over lose their slots.

A mistake of the author ends the frame where it is met. What was done until then stays: the cues
come out with the next frame that succeeds, and every script goes on behind the line that failed.
-/

namespace VisualNovel

/-- A running story. -/
structure Engine where
  /-- The reader of the main script. -/
  main : Reader
  /-- What all scripts share. -/
  session : Session
  deriving DecidableEq, Repr

namespace Engine

/-! ## Beginning -/

/-- The engine at the beginning of a story. The scene of the settings goes before that of the
story. -/
def create (story : Story) (settings : Settings) : Except StoryError Engine :=
  match settings.startup <|> story.startup with
  | none => .error .noStartup
  | some scene => do
    story.checkScene scene
    return {
      main := .ofScene scene
      session := (Session.fresh story settings).enterScene scene }

/-- The engine at the beginning of another scene. -/
def enterScene (engine : Engine) (scene : SceneRef) : Engine where
  main := .ofScene scene
  session := engine.session.enterScene scene

/-! ## The parts of a frame -/

/-- A part of a frame: it changes the engine, and may fail in the middle. -/
abbrev Part := ExceptT Failure (StateM Engine)

namespace Part

/-- Takes over what a reader or a start has left. -/
def settle (session : Session) (failure : Option Failure) : Part Unit := do
  modify fun engine => { engine with session }
  match failure with
  | none => pure ()
  | some failure => throw failure

/-- Changes the session. -/
def change (f : Session → Session) : Part Unit :=
  modify fun engine => { engine with session := f engine.session }

/-- Carries out an effect. -/
def perform (f : Session → Effect) : Part Unit := do
  let (session, failure) := (f (← get).session).perform Session.start
  settle session failure

/-- Starts a script. -/
def launch (launch : Launch) : Part Unit :=
  perform fun session => { session, launch := some launch }

/-- Takes a signal. -/
def receive : Signal → Part Unit
  | .click => perform Session.click
  | .dialogAnimationFinished => perform Session.dialogAnimationFinished
  | .textAnimationStarted => change (·.setTextAnimating true)
  | .textAnimationFinished => change (·.setTextAnimating false)
  | .spriteAnimationStopped group name animation =>
    perform (·.spriteAnimationStopped group name animation)
  | .screenCovered => change Session.screenCovered
  | .coverFinished => change (·.setCover false)
  | .pause => change (·.setManual true)
  | .resume => change (·.setManual false)

/-- Begins a scene. -/
def switchScene (scene : SceneRef) : Part Unit := do
  match (← get).session.story.checkScene scene with
  | .error error => throw (.story error)
  | .ok () => modify (·.enterScene scene)

/-- Begins the scene that is to begin, and tells whether there was one. -/
def beginScene : Part Bool := do
  match (← get).session.pendingScene with
  | none => return false
  | some scene =>
    change fun session => { session with pendingScene := none }
    switchScene scene
    return true

/-- Starts the scripts whose timers are due. -/
def runTimers : Part Unit := do
  let (due, timers) := (← get).session.timers.tick
  change fun session => { session with timers }
  due.forM launch

/-- Reads the main script. -/
def readMain : Part Unit := do
  let engine ← get
  let reading := engine.main.step Session.start engine.session
  modify fun engine => { engine with main := reading.reader }
  settle reading.session reading.failure

/-- Reads the script in the slot at a place, unless a scene is to begin. -/
def readBackground (index : Nat) : Part Unit := do
  let session := (← get).session
  if session.pendingScene.isSome then return
  match session.background.checkOut? index with
  | none => return
  | some (reader, background) =>
    let reading := reader.step Session.start { session with background }
    let (session, failure) := reading.checkIn index
    settle session failure

/-- Begins the scene that is to begin, and reads its script. -/
def readNewScene : Part Unit := do
  if ← beginScene then readMain

end Part

/-- Whether the story is over: its main script is, and no scene is to follow. -/
def isFinished (engine : Engine) : Bool :=
  engine.main.finished && engine.session.pendingScene.isNone && engine.session.coveredScene.isNone

/-- What the main script waits for at the end of a frame. -/
def waiting (engine : Engine) : Waiting × Engine :=
  match engine.session.heldBy with
  | (some reason, session) => (reason, { engine with session })
  | (none, session) =>
    (if engine.isFinished then .finished else .nothing, { engine with session })

/-- The cues that are to be handed out, and the engine without them. -/
def takeCues (engine : Engine) : List Cue × Engine :=
  (engine.session.cues, { engine with session := { engine.session with cues := [] } })

/-! ## A frame -/

/-- All parts of a frame. -/
def frame (signal : Option Signal) : Part (List Cue × Waiting) := do
  signal.forM Part.receive
  let _ ← Part.beginScene
  Part.runTimers
  let _ ← Part.beginScene
  Part.readMain
  Part.readNewScene
  (List.range (← get).session.background.size).forM Part.readBackground
  Part.readNewScene
  Part.change fun session => { session with background := session.background.purge }
  let waiting ← modifyGet waiting
  let cues ← modifyGet takeCues
  return (cues, waiting)

/-- The engine one frame later, with the cues and what the main script waits for, or with the
failure that ended the frame. -/
def tick (engine : Engine) (signal : Option Signal) :
    Except Failure (List Cue × Waiting) × Engine :=
  (frame signal).run.run engine

/-! ## What a host may look at and change -/

/-- The scene of the main script. -/
def scene? (engine : Engine) : Option SceneRef :=
  match engine.main.role with
  | .main scene => some scene
  | .background .. => none

/-- The engine with a variable set, if it may have that name. -/
def setVariable? (engine : Engine) (name value : String) : Option Engine := do
  let store ← engine.session.store.set? name value
  return { engine with session := { engine.session with store } }

/-- The engine with another stage. -/
def withStage (engine : Engine) (stage : Stage) : Engine :=
  { engine with session := { engine.session with stage } }

/-- The engine at a time, which the events that follow are given. -/
def atTime (engine : Engine) (clock : Nat) : Engine :=
  { engine with session := { engine.session with clock } }

/-- The engine with names to draw for blocks without one. -/
def withFreshNames (engine : Engine) (freshNames : List String) : Engine :=
  { engine with session := { engine.session with freshNames } }

end Engine

end VisualNovel

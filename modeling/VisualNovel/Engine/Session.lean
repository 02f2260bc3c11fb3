import VisualNovel.Condition.Blocks
import VisualNovel.Cue
import VisualNovel.History
import VisualNovel.Pause
import VisualNovel.Settings
import VisualNovel.Signal
import VisualNovel.Stage.WaitRules
import VisualNovel.Timers

/-!
# Sessions

Everything that the scripts of a running story share: the stage, the variables, the timers, what
holds the main script, the dialog, the running scripts, the history, the scenes to go to, and the
cues that the host has not been given yet.

A script is read by a reader: its lines that are not read yet, and the blocks it is in. The reader
of the main script stands outside the session, and takes its lines from the story when it is first
at work. Every other reader has a slot in the session, under the name of its script; while it is at
work the slot is empty, but the name still counts as running. A slot is found again by its place in
the list, which stays the same until a scene begins or a frame ends.
-/

namespace VisualNovel

/-! ## Readers -/

/-- Whose script a reader reads. -/
inductive Role where
  /-- The main script, which is that of a scene. -/
  | main (scene : SceneRef)
  /-- A reusable script, with the parameters of its run. -/
  | background (name : String) (parameters : Option Parameters)
  deriving DecidableEq, Repr

/-- Whether the script is the main one. -/
def Role.isMain : Role → Bool
  | .main _ => true
  | .background .. => false

/-- The name of a reusable script. -/
def Role.name? : Role → Option String
  | .main _ => none
  | .background name _ => some name

/-- A script that is being read. -/
structure Reader where
  /-- Whose script it is. -/
  role : Role
  /-- The lines that are not read yet. -/
  lines : List String
  /-- The open blocks. -/
  blocks : Blocks := {}
  /-- Whether the lines have been taken from the story. -/
  loaded : Bool := true
  /-- Whether the script is over. -/
  finished : Bool := false
  deriving DecidableEq, Repr

/-- A reader at the beginning of a scene. -/
def Reader.ofScene (scene : SceneRef) : Reader where
  role := .main scene
  lines := []
  loaded := false

/-- A reader at the beginning of a reusable script. -/
def Reader.ofScript (launch : Launch) (script : String) : Reader where
  role := .background launch.name launch.parameters
  lines := Text.lines script

/-- The place of a reusable script among the running ones. -/
structure Slot where
  /-- The name of the script. -/
  name : String
  /-- Its reader, unless it is at work. -/
  reader : Option Reader
  deriving DecidableEq, Repr

/-- The slot with a reader back in it, if it is the empty slot of that script. -/
def Slot.refill (slot : Slot) (name : String) (reader : Reader) : Slot :=
  if slot.name == name && slot.reader.isNone then { slot with reader := some reader } else slot

/-- The running reusable scripts. -/
structure Background where
  /-- The slots, in the order in which the scripts were started. -/
  slots : List Slot := []
  /-- The names of the scripts that are over and still have a slot. -/
  ended : List String := []
  deriving DecidableEq, Repr

namespace Background

/-- The names of the running scripts. -/
def names (background : Background) : List String :=
  background.slots.map (·.name)

/-- Whether a script is running. -/
def contains (background : Background) (name : String) : Bool :=
  background.names.contains name

/-- The number of running scripts, which is the place of the next one. -/
def size (background : Background) : Nat :=
  background.slots.length

/-- The running scripts with an empty slot for one more. -/
def reserve (background : Background) (name : String) : Background :=
  { background with slots := background.slots ++ [⟨name, none⟩] }

/-- The reader in the slot at a place, and the running scripts with that slot empty. -/
def checkOut? (background : Background) (index : Nat) : Option (Reader × Background) := do
  let slot ← background.slots[index]?
  let reader ← slot.reader
  let slots := background.slots.set index { slot with reader := none }
  return (reader, { background with slots })

/-- The running scripts with a reader back in the slot at a place. A script that is over is noted,
once. -/
def checkIn (background : Background) (index : Nat) (reader : Reader) : Background :=
  match reader.role.name? with
  | none => background
  | some name =>
    { slots := background.slots.modify index (·.refill name reader)
      ended :=
        if reader.finished && !background.ended.contains name then background.ended ++ [name]
        else background.ended }

/-- The running scripts without those that are over. -/
def purge (background : Background) : Background where
  slots := background.slots.filter fun slot => !background.ended.contains slot.name
  ended := []

end Background

/-! ## Sessions -/

/-- What the scripts of a running story share. -/
structure Session where
  /-- The settings of the engine. -/
  settings : Settings
  /-- The story. -/
  story : Story
  /-- The stage. -/
  stage : Stage
  /-- The variables. -/
  store : Variables := {}
  /-- The timers. -/
  timers : Timers := {}
  /-- What holds the main script. -/
  pause : Pause := {}
  /-- The animations that the main script waits for. -/
  waits : WaitRules := []
  /-- The dialog. -/
  dialog : Dialog := {}
  /-- The running reusable scripts. -/
  background : Background := {}
  /-- What has happened. -/
  history : History
  /-- The scene to go to in this frame. -/
  pendingScene : Option SceneRef := none
  /-- The scene to go to when the screen is covered. -/
  coveredScene : Option SceneRef := none
  /-- The cues that the host has not been given yet. -/
  cues : List Cue := []
  /-- The time that new events get, as the host last told it. -/
  clock : Nat := 0
  /-- The names that are drawn for blocks without one, as the host last told them. When they are
  used up, such a block has no name. -/
  freshNames : List String := []
  deriving DecidableEq, Repr

namespace Session

/-- A session at its beginning. -/
def fresh (story : Story) (settings : Settings) : Session where
  settings := settings
  story := story
  stage := { displayWidth := settings.displayWidth, displayHeight := settings.displayHeight }
  history := { limit := settings.historyLimit }

/-- The session with one more cue. -/
def emit (session : Session) (cue : Cue) : Session :=
  { session with cues := session.cues ++ [cue] }

/-- The session with one more event. -/
def record (session : Session) (event : Event) : Session :=
  { session with history := session.history.push ⟨event, session.clock⟩ }

/-- The session after a line was spoken. -/
def speak (session : Session) (line : String) : Session :=
  (session.record (.spoken line)).emit (.dialogText line)

/-! ## What a host reports -/

/-- The session with text appearing, or not. -/
def setTextAnimating (session : Session) (textAnimating : Bool) : Session :=
  { session with dialog := { session.dialog with textAnimating } }

/-- The session with the cover at work, or not. -/
def setCover (session : Session) (coverActive : Bool) : Session :=
  { session with stage := { session.stage with coverActive } }

/-- The session held by the host, or not. -/
def setManual (session : Session) (manual : Bool) : Session :=
  { session with pause := { session.pause with manual } }

/-- The session when the screen is covered: a scene that waited for it is to begin. -/
def screenCovered (session : Session) : Session :=
  match session.coveredScene with
  | none => session
  | some scene => { session with pendingScene := some scene, coveredScene := none }

/-! ## What holds the main script -/

/-- What holds the main script, the first of: an animation of the dialog, a halt, a rest, an
animation that it waits for, the host. Where animations are looked at, those that are over are
forgotten. -/
def heldBy (session : Session) : Option Waiting × Session :=
  if session.dialog.animating.isSome then (some .dialogAnimation, session)
  else if session.pause.halt.halted then
    if session.pause.halt.isAuto then (some (.haltAuto session.pause.halt.remaining), session)
    else (some .halt, session)
  else if session.pause.rest.isResting then (some (.rest session.pause.rest.remaining), session)
  else
    let waits := session.waits.holding session.stage
    let session := { session with waits }
    if !waits.isEmpty then (some .animation, session)
    else if session.pause.manual then (some .manual, session)
    else (none, session)

/-- Whether something holds the main script. -/
def isHeld (session : Session) : Bool × Session :=
  let (reason, session) := session.heldBy
  (reason.isSome, session)

/-! ## Scenes -/

/-- The session at the beginning of a scene: without sprites, timers, running scripts, waits, halts
and rests of the scene before. The variables, the dialog, a cover, and a pause by the host stay. -/
def enterScene (session : Session) (scene : SceneRef) : Session :=
  { session with
    background := {}
    timers := {}
    pause := { manual := session.pause.manual }
    waits := []
    stage := session.stage.clear
    coveredScene := none }.record (.sceneChange scene.chapter scene.scene)

end Session

end VisualNovel

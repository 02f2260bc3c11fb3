import VisualNovel.Engine.Execute

/-!
# Reading a script

A reader takes the lines of its script one after another. The variables are put into a line first,
and into a line of a reusable script the parameters of its run; then the line is spoken, or its tag
is carried out. Where an open block is skipped, only the tags of blocks count.

A reader of a reusable script reads to the end. The main reader stops after the first line that
leaves the session held, and takes up its script there in a later frame.

What a line asks for is its `Plan`. A plan may name another script to start, which is read at once,
with scripts that it starts in turn; only `Plan.carryOut` does so. No script is started while it
runs, so every start inside another one uses up a name, and nesting is bounded by the number of
reusable scripts. `startWithin` recurses on such a bound.
-/

namespace VisualNovel

/-- How a script is started: the session after it, and the failure that stopped it. -/
abbrev Starter := Session → Launch → Session × Option Failure

/-- Carries out an effect, in which a script may have to be started. -/
def Effect.perform (effect : Effect) (start : Starter) : Session × Option Failure :=
  match effect.launch with
  | none => (effect.session, none)
  | some launch => start effect.session launch

/-- What follows a line. -/
inductive Verdict where
  /-- The next line, without a look at what holds the session. -/
  | onward
  /-- The next line, unless the session is held. -/
  | look
  /-- The end of the script. -/
  | finish
  /-- A failure. -/
  | fail (failure : Failure)
  deriving DecidableEq, Repr

/-- What a line asks for. -/
structure Plan where
  /-- The change of the session, and a script to start. -/
  effect : Effect
  /-- The blocks after the line. -/
  blocks : Blocks
  /-- What follows, unless the start of the script fails. -/
  verdict : Verdict
  deriving DecidableEq, Repr

/-- What a line has done. -/
structure Progress where
  /-- The session after the line. -/
  session : Session
  /-- The blocks after the line. -/
  blocks : Blocks
  /-- What follows. -/
  verdict : Verdict
  deriving DecidableEq, Repr

/-- What a reader does in a frame. -/
structure Reading where
  /-- The reader afterwards. -/
  reader : Reader
  /-- The session afterwards. -/
  session : Session
  /-- The failure that stopped it. -/
  failure : Option Failure := none
  deriving DecidableEq, Repr

/-! ## One line -/

namespace Plan

/-- A plan that leaves the session as it is. -/
def idle (session : Session) (blocks : Blocks) (verdict : Verdict) : Plan where
  effect := { session }
  blocks := blocks
  verdict := verdict

/-- Does what a line asks for. -/
def carryOut (plan : Plan) (start : Starter) : Progress :=
  match plan.effect.perform start with
  | (session, none) => { session, blocks := plan.blocks, verdict := plan.verdict }
  | (session, some failure) => { session, blocks := plan.blocks, verdict := .fail failure }

end Plan

/-- What follows a tag, by what its reader does then. -/
def Flow.verdict : Flow → Verdict
  | .next => .look
  | .finish => .finish

namespace Role

/-- A line with the variables and the parameters put in. -/
def fill (role : Role) (session : Session) (line : String) : Except StoryError String :=
  let filled := session.store.fill session.settings.variablePasses line
  match role with
  | .main _ => .ok filled
  | .background name parameters => Parameters.fill parameters name filled

/-- What a tag asks for. A name that stands for nothing is passed over. -/
def obey (role : Role) (blocks : Blocks) (session : Session) (tag : Tag) : Plan :=
  match Instruction.ofName? tag.name with
  | none => .idle session blocks .look
  | some instruction =>
    match blocks.obey session.freshNames instruction tag.arguments with
    | .error crash => .idle session blocks (.fail (.crash crash))
    | .ok (blocks, freshNames) =>
      let session := { session with freshNames }
      match session.execute role.isMain instruction tag with
      | .error failure => .idle session blocks (.fail failure)
      | .ok outcome => { effect := outcome.effect, blocks, verdict := outcome.flow.verdict }

/-- What a line with everything put in asks for. Only the main script speaks. -/
def obeyLine (role : Role) (blocks : Blocks) (session : Session) (line : String) : Plan :=
  match Line.read line with
  | .blank => .idle session blocks .onward
  | .comment => .idle session blocks .onward
  | .spoken words =>
    if role.isMain then .idle (session.speak words) blocks .look else .idle session blocks .onward
  | .tag found => role.obey blocks session found

/-- What a line as it is written asks for. -/
def plan (role : Role) (blocks : Blocks) (session : Session) (raw : String) : Plan :=
  let line := Line.tidy raw
  if blocks.isSkipping && !Line.isBlockTag line then .idle session blocks .onward
  else
    match role.fill session line with
    | .error error => .idle session blocks (.fail (.story error))
    | .ok filled => role.obeyLine blocks session filled

/-! ## All lines -/

/-- Whether a look shows that the session holds this script, and the session after the look. -/
def lookUp (role : Role) (session : Session) : Bool × Session :=
  if role.isMain then session.isHeld else (false, session)

/-- Reads lines until the script is over, or fails, or is held. -/
def readLines (role : Role) (start : Starter) : List String → Blocks → Session → Reading
  | [], blocks, session => { reader := { role, lines := [], blocks, finished := true }, session }
  | raw :: lines, blocks, session =>
    let progress := (role.plan blocks session raw).carryOut start
    match progress.verdict with
    | .onward => role.readLines start lines progress.blocks progress.session
    | .look =>
      match role.lookUp progress.session with
      | (true, session) => { reader := { role, lines, blocks := progress.blocks }, session }
      | (false, session) => role.readLines start lines progress.blocks session
    | .finish =>
      { reader := { role, lines := [], blocks := progress.blocks, finished := true }
        session := progress.session }
    | .fail failure =>
      { reader := { role, lines, blocks := progress.blocks }
        session := progress.session
        failure := some failure }

end Role

/-! ## One frame -/

namespace Session

/-- The effect of a frame on a halt: one with a budget comes nearer to its end, or ends. -/
def advanceHalt (session : Session) : Effect :=
  let (tick, halt) := session.pause.halt.tick session.dialog.textAnimating
  let session := { session with pause := { session.pause with halt } }
  match tick with
  | .holding => { session }
  | .expired => session.unhalt

/-- The session after a frame of a rest. -/
def advanceRest (session : Session) : Session :=
  { session with pause := { session.pause with rest := session.pause.rest.tick.2 } }

/-- A frame in which the main script is held: halts and rests come nearer to their end. -/
def elapse (session : Session) (start : Starter) : Session × Option Failure :=
  match session.advanceHalt.perform start with
  | (session, none) => (session.advanceRest, none)
  | (session, some failure) => (session, some failure)

end Session

namespace Reader

/-- The reader with the lines of its script. Those of a reusable script are there from the
beginning. -/
def load (reader : Reader) (story : Story) : Except StoryError Reader :=
  match reader.role with
  | .main scene => (story.sceneLines scene).map fun lines => { reader with lines, loaded := true }
  | .background .. => .ok { reader with loaded := true }

/-- Reads on from where the reader stands. -/
def proceed (reader : Reader) (start : Starter) (session : Session) : Reading :=
  reader.role.readLines start reader.lines reader.blocks session

/-- What a reader with its lines does in a frame. -/
def advance (reader : Reader) (start : Starter) (session : Session) : Reading :=
  match reader.role.lookUp session with
  | (false, session) => reader.proceed start session
  | (true, session) =>
    match session.elapse start with
    | (session, some failure) => { reader, session, failure := some failure }
    | (session, none) =>
      match reader.role.lookUp session with
      | (true, session) => { reader, session }
      | (false, session) => reader.proceed start session

/-- What a reader does in a frame. -/
def step (reader : Reader) (start : Starter) (session : Session) : Reading :=
  if reader.finished then { reader, session }
  else if reader.loaded then reader.advance start session
  else
    match reader.load session.story with
    | .error error => { reader, session, failure := some (.story error) }
    | .ok reader => reader.advance start session

end Reader

/-- Puts the reader back into the slot at a place. -/
def Reading.checkIn (reading : Reading) (index : Nat) : Session × Option Failure :=
  let background := reading.session.background.checkIn index reading.reader
  ({ reading.session with background }, reading.failure)

/-! ## Starting a script -/

namespace Session

/-- The script that a launch would start: it must have a name, be there, and not run already. -/
def startable? (session : Session) (launch : Launch) : Option String :=
  if launch.name.isEmpty || session.background.contains launch.name then none
  else session.story.reusables.find? launch.name

/-- The session in which a script is about to be read. -/
def enlist (session : Session) (launch : Launch) : Session :=
  { session.record (.started launch.name) with
    background := session.background.reserve launch.name }

/-- Starts a script and reads it at once. Scripts in it are started within the rest of the bound. -/
def startWithin : Nat → Starter
  | 0, session, _ => (session, none)
  | bound + 1, session, launch =>
    match session.startable? launch with
    | none => (session, none)
    | some script =>
      let reading :=
        (Reader.ofScript launch script).step (startWithin bound) (session.enlist launch)
      reading.checkIn session.background.size

/-- Starts a script and reads it at once. As many starts as there are reusable scripts can be
nested. -/
def start : Starter := fun session launch =>
  session.startWithin session.story.reusables.size launch

end Session

end VisualNovel

import VisualNovel.Proofs.Reachable

/-!
# Chronicles

What happens in a frame is more than how it ends: a timer may be set and cancelled again, a cue may
wait for a later frame, a script may be started and be over. This module writes it down. A
`Happening` is one change of the session, as small as the frame makes them, and the log of a frame
is the list of its happenings in their order.

The log is no second account of the rules. Beside each function that runs something stands one that
tells what happens in it, and takes every session that it mentions from the first. That nothing is
left out is what the replays say: carrying out the happenings one by one, from the session before,
gives the session after (`Session.logStart_faithful` for a script that is started,
`Engine.replay_log` for a frame, whether it fails or not). So what a log does not contain has not
happened, and a fact about the end of a frame is a fact about lists of happenings.

What a happening can write is read off its kind (`Happening.reach`), for tags and signals from their
scopes, and whatever is outside stays as it was (`Happening.scope`). Each later module takes from
there what it needs to know about pauses, timers, the stage, the history or the variables.
-/

namespace VisualNovel

/-! ## Happenings -/

/-- Something that happens to a session. -/
inductive Happening where
  /-- A signal of the host is taken. -/
  | received (signal : Signal)
  /-- A line is spoken. -/
  | spoken (words : String)
  /-- A tag is obeyed, in the main script or another one. A block may have drawn a name before, so
  that these are left. -/
  | obeyed (isMain : Bool) (freshNames : List String) (instruction : Instruction) (tag : Tag)
  /-- A script is started. -/
  | started (launch : Launch)
  /-- A script that was to be started is not. -/
  | refused (launch : Launch)
  /-- A reader is taken out of its slot or put back, or slots are given up. -/
  | slots (background : Background)
  /-- It is looked what holds the main script. -/
  | looked
  /-- A frame of a halt passes. -/
  | haltWent
  /-- A frame of a rest passes. -/
  | restWent
  /-- The timers run. -/
  | timersRan
  /-- A scene begins. -/
  | sceneBegan (scene : SceneRef)
  /-- A scene that was to begin is missing. -/
  | sceneMissing
  /-- The cues are handed out. -/
  | handedOut
  deriving DecidableEq

/-- The session after something has happened. -/
def Happening.apply (s : Session) : Happening → Session
  | received signal => (signal.effect s).session
  | spoken words => s.speak words
  | obeyed isMain freshNames instruction tag =>
    let s := { s with freshNames }
    match s.execute isMain instruction tag with
    | .ok outcome => outcome.effect.session
    | .error _ => s
  | started launch => s.enlist launch
  | refused _ => s
  | slots background => { s with background }
  | looked => s.heldBy.2
  | haltWent => s.advanceHalt.session
  | restWent => s.advanceRest
  | timersRan => { s with timers := s.timers.tick.2 }
  | sceneBegan scene => { s with pendingScene := none }.enterScene scene
  | sceneMissing => { s with pendingScene := none }
  | handedOut => { s with cues := [] }

/-- The session after everything in a log has happened. -/
def Session.replay (s : Session) (log : List Happening) : Session :=
  log.foldl Happening.apply s

/-- Without an entry, nothing is replayed. -/
@[simp] theorem Session.replay_nil (s : Session) : s.replay [] = s := rfl

/-- The first entry is replayed before the others. -/
@[simp] theorem Session.replay_cons (s : Session) (happening : Happening) (log : List Happening) :
    s.replay (happening :: log) = (happening.apply s).replay log := rfl

/-- Two logs are replayed one after the other. -/
@[simp] theorem Session.replay_append (s : Session) (log log' : List Happening) :
    s.replay (log ++ log') = (s.replay log).replay log' :=
  List.foldl_append

/-! ## What a happening can write -/

namespace Happening

/-- What a happening can write, by its kind. -/
def reach : Happening → Scope
  | received signal => signal.scope
  | spoken _ => { history := true }
  | obeyed _ _ instruction _ => instruction.scope
  | started _ => { background := true, history := true }
  | refused _ => {}
  | slots _ => { background := true }
  | looked => { waits := true }
  | haltWent => { text := true, halt := true }
  | restWent => { rest := true }
  | timersRan => { timers := true }
  | sceneBegan _ =>
    { halt := true, rest := true, timers := true, stage := true, waits := true, pendingScene := true
      coveredScene := true, background := true, history := true }
  | sceneMissing => { pendingScene := true }
  | handedOut => {}

/-- A happening writes nothing outside of its scope. -/
theorem scope (happening : Happening) (s : Session) :
    happening.reach.Holds s (happening.apply s) := by
  cases happening with
  | received signal => exact signal.effect_scope s
  | obeyed isMain freshNames instruction tag =>
    unfold apply
    dsimp only
    rcases hexecute : Session.execute { s with freshNames } isMain instruction tag with _ | outcome
    · constructor <;> simp
    · exact { Session.execute_scope _ hexecute with }
  | looked => exact s.heldBy_scope
  | haltWent =>
    show Scope.Holds _ s s.advanceHalt.session
    rw [s.advanceHalt_amend]
    exact s.amend_holds _ _
  | _ =>
    constructor <;>
      simp [apply, reach, Session.speak, Session.record, Session.emit, Session.enlist,
        Session.advanceRest, Session.enterScene]

/-- Nothing that happens changes the story. -/
theorem story_apply (happening : Happening) (s : Session) : (apply s happening).story = s.story :=
  (happening.scope s).story

end Happening

/-- A replay is of one story. -/
theorem Session.story_replay (s : Session) (log : List Happening) :
    (s.replay log).story = s.story := by
  induction log generalizing s with
  | nil => rfl
  | cons happening log ih => rw [replay_cons, ih, happening.story_apply]

/-! ## Logs of lines -/

/-- How it is told what happens when a script is started. -/
abbrev Scribe := Session → Launch → List Happening

/-- What happens when an effect is carried out, after the change that it begins with. -/
def Effect.log (effect : Effect) (scribe : Scribe) : List Happening :=
  match effect.launch with
  | none => []
  | some launch => scribe effect.session launch

namespace Role

variable (role : Role)

/-- What happens at a tag, until a script is started. -/
def logTag (blocks : Blocks) (s : Session) (tag : Tag) : List Happening :=
  match Instruction.ofName? tag.name with
  | none => []
  | some instruction =>
    match blocks.obey s.freshNames instruction tag.arguments with
    | .error _ => []
    | .ok (_, freshNames) => [.obeyed role.isMain freshNames instruction tag]

/-- What happens at a line with everything put in, until a script is started. -/
def logFilled (blocks : Blocks) (s : Session) (line : String) : List Happening :=
  match Line.read line with
  | .blank => []
  | .comment => []
  | .spoken words => if role.isMain then [.spoken words] else []
  | .tag found => role.logTag blocks s found

/-- What happens at a line as it is written, until a script is started. -/
def logPlan (blocks : Blocks) (s : Session) (raw : String) : List Happening :=
  if blocks.isSkipping && !Line.isBlockTag (Line.tidy raw) then []
  else
    match role.fill s (Line.tidy raw) with
    | .error _ => []
    | .ok filled => role.logFilled blocks s filled

/-- What happens at a line. -/
def logLine (scribe : Scribe) (blocks : Blocks) (s : Session) (raw : String) : List Happening :=
  role.logPlan blocks s raw ++ (role.plan blocks s raw).effect.log scribe

/-- What happens when a reader looks whether its script is held. -/
def logLook : List Happening :=
  if role.isMain then [.looked] else []

/-- What happens when lines are read. -/
def logLines (role : Role) (start : Starter) (scribe : Scribe) :
    List String → Blocks → Session → List Happening
  | [], _, _ => []
  | raw :: lines, blocks, s =>
    let progress := (role.plan blocks s raw).carryOut start
    role.logLine scribe blocks s raw ++
      match progress.verdict with
      | .onward => role.logLines start scribe lines progress.blocks progress.session
      | .look =>
        role.logLook ++
          match role.lookUp progress.session with
          | (true, _) => []
          | (false, s) => role.logLines start scribe lines progress.blocks s
      | .finish => []
      | .fail _ => []

end Role

/-! ## Logs of readers and starts -/

/-- What happens in a frame in which the main script is held. -/
def Session.logElapse (s : Session) (start : Starter) (scribe : Scribe) : List Happening :=
  .haltWent :: s.advanceHalt.log scribe ++
    match s.advanceHalt.perform start with
    | (_, none) => [.restWent]
    | (_, some _) => []

namespace Reader

variable (reader : Reader) (start : Starter) (scribe : Scribe) (s : Session)

/-- What happens when a reader reads on. -/
def logProceed : List Happening :=
  reader.role.logLines start scribe reader.lines reader.blocks s

/-- What happens in a frame of a reader with its lines. -/
def logAdvance : List Happening :=
  reader.role.logLook ++
    match reader.role.lookUp s with
    | (false, s) => reader.logProceed start scribe s
    | (true, s) =>
      s.logElapse start scribe ++
        match s.elapse start with
        | (_, some _) => []
        | (s, none) =>
          reader.role.logLook ++
            match reader.role.lookUp s with
            | (true, _) => []
            | (false, s) => reader.logProceed start scribe s

/-- What happens in a frame of a reader. -/
def log : List Happening :=
  if reader.finished then []
  else if reader.loaded then reader.logAdvance start scribe s
  else
    match reader.load s.story with
    | .error _ => []
    | .ok reader => reader.logAdvance start scribe s

end Reader

namespace Session

/-- What happens when a script is started within a bound. -/
def logStartWithin : Nat → Scribe
  | 0, _, launch => [.refused launch]
  | bound + 1, s, launch =>
    match s.startable? launch with
    | none => [.refused launch]
    | some script =>
      let reader := Reader.ofScript launch script
      let reading := reader.step (startWithin bound) (s.enlist launch)
      .started launch :: reader.log (startWithin bound) (logStartWithin bound) (s.enlist launch) ++
        [.slots (reading.checkIn s.background.size).1.background]

/-- What happens when a script is started. -/
def logStart : Scribe := fun s launch =>
  s.logStartWithin s.story.reusables.size launch

end Session

/-! ## Replays of readers and starts -/

/-- What is told of starts is all that happens in them. -/
def Scribe.Faithful (scribe : Scribe) (start : Starter) : Prop :=
  ∀ s launch, s.replay (scribe s launch) = (start s launch).1

/-- The log of a tag replays what the tag does. -/
theorem Role.replay_logTag (role : Role) (blocks : Blocks) (s : Session) (tag : Tag) :
    s.replay (role.logTag blocks s tag) = (role.obey blocks s tag).effect.session := by
  unfold logTag obey
  rcases Instruction.ofName? tag.name with _ | instruction
  · rfl
  · dsimp only
    rcases blocks.obey s.freshNames instruction tag.arguments with _ | ⟨blocks', freshNames⟩
    · rfl
    · show Happening.apply s (.obeyed role.isMain freshNames instruction tag) = _
      unfold Happening.apply
      dsimp only
      cases Session.execute { s with freshNames } role.isMain instruction tag <;> rfl

/-- The log of a line replays what the line does before a script is started. -/
theorem Role.replay_logPlan (role : Role) (blocks : Blocks) (s : Session) (raw : String) :
    s.replay (role.logPlan blocks s raw) = (role.plan blocks s raw).effect.session := by
  unfold logPlan plan
  dsimp only
  split
  · rfl
  · rcases role.fill s (Line.tidy raw) with _ | line
    · rfl
    · show s.replay (role.logFilled blocks s line) = (role.obeyLine blocks s line).effect.session
      unfold logFilled obeyLine
      cases Line.read line with
      | blank => rfl
      | comment => rfl
      | spoken words => cases role.isMain <;> rfl
      | tag found => exact role.replay_logTag blocks s found

/-- The log of a look replays what a look at the pauses does. -/
theorem Role.replay_logLook (role : Role) (s : Session) :
    s.replay role.logLook = (role.lookUp s).2 := by
  unfold logLook lookUp
  split <;> rfl

namespace Scribe.Faithful

variable {scribe : Scribe} {start : Starter} (h : scribe.Faithful start)

include h

/-- The log of an effect replays the script that it starts. -/
theorem replay_effect (effect : Effect) :
    effect.session.replay (effect.log scribe) = (effect.perform start).1 := by
  unfold Effect.log Effect.perform
  rcases effect.launch with _ | launch
  · rfl
  · exact h effect.session launch

/-- The log of a line, with the script that it starts, replays the line. -/
theorem replay_logLine (role : Role) (blocks : Blocks) (s : Session) (raw : String) :
    s.replay (role.logLine scribe blocks s raw) =
      ((role.plan blocks s raw).carryOut start).session := by
  unfold Role.logLine Plan.carryOut
  rw [Session.replay_append, role.replay_logPlan, h.replay_effect]
  rcases (role.plan blocks s raw).effect.perform start with ⟨_, _ | _⟩ <;> rfl

/-- By induction on the lines. -/
theorem replay_logLines (role : Role) (lines : List String) (blocks : Blocks) (s : Session) :
    s.replay (role.logLines start scribe lines blocks s) =
      (role.readLines start lines blocks s).session := by
  induction lines generalizing blocks s with
  | nil => rfl
  | cons raw lines ih =>
    have line := h.replay_logLine role blocks s raw
    unfold Role.logLines Role.readLines
    dsimp only
    rw [Session.replay_append, line]
    generalize (role.plan blocks s raw).carryOut start = progress
    obtain ⟨t, blocks', verdict⟩ := progress
    cases verdict with
    | onward => exact ih _ _
    | look =>
      dsimp only
      rw [Session.replay_append, role.replay_logLook]
      rcases role.lookUp t with ⟨_ | _, u⟩
      · exact ih _ _
      · rfl
    | finish => rfl
    | fail failure => rfl

/-- The log of a turn of the pauses replays it. -/
theorem replay_logElapse (s : Session) :
    s.replay (s.logElapse start scribe) = (s.elapse start).1 := by
  have halt := h.replay_effect s.advanceHalt
  unfold Session.logElapse Session.elapse
  rw [List.cons_append, Session.replay_cons, Session.replay_append]
  show (s.advanceHalt.session.replay _).replay _ = _
  rw [halt]
  rcases s.advanceHalt.perform start with ⟨_, _ | _⟩ <;> rfl

/-- The log of a turn of the main script replays it. -/
theorem replay_logAdvance (reader : Reader) (s : Session) :
    s.replay (reader.logAdvance start scribe s) = (reader.advance start s).session := by
  unfold Reader.logAdvance Reader.advance
  rw [Session.replay_append, reader.role.replay_logLook]
  rcases reader.role.lookUp s with ⟨_ | _, t⟩
  · exact h.replay_logLines _ _ _ _
  · dsimp only
    rw [Session.replay_append, h.replay_logElapse]
    rcases t.elapse start with ⟨u, _ | _⟩
    · dsimp only
      rw [Session.replay_append, reader.role.replay_logLook]
      rcases reader.role.lookUp u with ⟨_ | _, v⟩
      · exact h.replay_logLines _ _ _ _
      · rfl
    · rfl

/-- A frame of a reader is its log. -/
theorem replay_log (reader : Reader) (s : Session) :
    s.replay (reader.log start scribe s) = (reader.step start s).session := by
  unfold Reader.log Reader.step
  split
  · rfl
  · split
    · exact h.replay_logAdvance reader s
    · rcases reader.load s.story with _ | loaded
      · rfl
      · exact h.replay_logAdvance loaded s

end Scribe.Faithful

/-- By induction on the bound. -/
theorem Session.logStartWithin_faithful (bound : Nat) :
    Scribe.Faithful (logStartWithin bound) (startWithin bound) := by
  induction bound with
  | zero => exact fun _ _ => rfl
  | succ bound ih =>
    intro s launch
    unfold logStartWithin startWithin
    rcases s.startable? launch with _ | script
    · rfl
    · dsimp only
      rw [List.cons_append, replay_cons, replay_append]
      show ((s.enlist launch).replay _).replay _ = _
      rw [ih.replay_log]
      rfl

/-- Starting a script, with all that it starts in turn, is its log. -/
theorem Session.logStart_faithful : Scribe.Faithful logStart start := by
  intro s launch
  exact logStartWithin_faithful _ s launch

/-! ## Accounts of parts -/

namespace Engine

/-- The engine after something has happened to its session. -/
def after (engine : Engine) (happening : Happening) : Engine :=
  { engine with session := happening.apply engine.session }

/-- A part of a frame, with a log that is all that happens in it. -/
structure Account (α : Type) where
  /-- The part. -/
  part : Part α
  /-- What happens, from an engine on. -/
  log : Engine → List Happening
  /-- Nothing else happens. -/
  replay : ∀ engine, engine.session.replay (log engine) = (part.outcome engine).2.session

namespace Account

variable {α β : Type}

/-- What a part does that follows another one. -/
def logNext (next : α → Account β) : Except Failure α × Engine → List Happening
  | (.ok a, engine) => (next a).log engine
  | (.error _, _) => []

/-- A part that follows another one, unless that one fails. -/
instance : Monad Account where
  pure a := { part := pure a, log := fun _ => [], replay := fun _ => rfl }
  bind x next :=
    { part := x.part >>= fun a => (next a).part
      log := fun engine => x.log engine ++ logNext next (x.part.outcome engine)
      replay := by
        intro engine
        rw [Session.replay_append, x.replay, Part.outcome_bind]
        rcases x.part.outcome engine with ⟨failure | a, engine'⟩
        · rfl
        · exact (next a).replay engine' }

/-- What two accounts in a row do is done in a row. -/
theorem part_bind (x : Account α) (next : α → Account β) :
    (x >>= next).part = x.part >>= fun a => (next a).part := rfl

/-- What accounts for each member of a list do is done for each member. -/
theorem part_forM (body : β → Account Unit) (list : List β) :
    (list.forM body).part = list.forM fun b => (body b).part := by
  induction list with
  | nil => rfl
  | cons b list ih =>
    show (body b).part >>= (fun _ => (list.forM body).part) = _
    rw [ih]
    rfl

/-- A look at the engine. -/
def get : Account Engine where
  part := MonadState.get
  log _ := []
  replay _ := rfl

/-- Taking a signal. -/
def receive (signal : Signal) : Account Unit where
  part := Part.receive signal
  log engine := .received signal :: (signal.effect engine.session).log Session.logStart
  replay engine := by
    rw [Part.receive_eq, Part.outcome_perform, Session.replay_cons]
    exact Session.logStart_faithful.replay_effect (signal.effect engine.session)

/-- Beginning the scene that is to begin. -/
def beginScene : Account Bool where
  part := Part.beginScene
  log engine :=
    match engine.session.pendingScene with
    | none => []
    | some scene =>
      match engine.session.story.checkScene scene with
      | .error _ => [.sceneMissing]
      | .ok () => [.sceneBegan scene]
  replay engine := by
    rw [Part.outcome_beginScene]
    rcases engine.session.pendingScene with _ | scene
    · rfl
    · dsimp only
      cases engine.session.story.checkScene scene <;> rfl

/-- Starting a script. -/
def launch (launch : Launch) : Account Unit where
  part := Part.launch launch
  log engine := engine.session.logStart launch
  replay engine := by
    rw [Part.launch, Part.outcome_perform]
    exact Session.logStart_faithful engine.session launch

/-- The timers run, and those that are due start their scripts. -/
def runTimers : Account Unit where
  part := Part.runTimers
  log engine :=
    .timersRan ::
      (engine.session.timers.tick.1.forM launch).log (engine.after .timersRan)
  replay engine := by
    have starts := (engine.session.timers.tick.1.forM launch).replay (engine.after .timersRan)
    rw [part_forM] at starts
    exact starts

/-- Reading the main script. -/
def readMain : Account Unit where
  part := Part.readMain
  log engine := engine.main.log Session.start Session.logStart engine.session
  replay engine := by
    rw [Part.outcome_readMain]
    exact Session.logStart_faithful.replay_log engine.main engine.session

/-- Reading the script in the slot at a place. -/
def readBackground (index : Nat) : Account Unit where
  part := Part.readBackground index
  log engine :=
    if engine.session.pendingScene.isSome then []
    else
      match engine.session.background.checkOut? index with
      | none => []
      | some (reader, background) =>
        let session := { engine.session with background }
        let reading := reader.step Session.start session
        .slots background :: reader.log Session.start Session.logStart session ++
          [.slots (reading.checkIn index).1.background]
  replay engine := by
    rw [Part.outcome_readBackground]
    split
    · rfl
    · rcases engine.session.background.checkOut? index with _ | ⟨reader, background⟩
      · rfl
      · have read := Session.logStart_faithful.replay_log reader { engine.session with background }
        dsimp only
        rw [List.cons_append, Session.replay_cons, Session.replay_append]
        show (Session.replay { engine.session with background } _).replay _ = _
        rw [read]
        rfl

/-- Beginning the scene that is to begin, and reading its script. -/
def readNewScene : Account Unit := do
  if ← beginScene then readMain

/-- Giving up the slots of scripts that are over. -/
def purge : Account Unit where
  part := Part.change fun session => { session with background := session.background.purge }
  log engine := [.slots engine.session.background.purge]
  replay _ := rfl

/-- Telling what is waited for. -/
def waiting : Account Waiting where
  part := modifyGet Engine.waiting
  log _ := [.looked]
  replay engine := (congrArg Engine.session engine.waiting_engine).symm

/-- Handing out the cues. -/
def takeCues : Account (List Cue) where
  part := modifyGet Engine.takeCues
  log _ := [.handedOut]
  replay _ := rfl

/-- All parts of a frame. -/
def frame (signal : Option Signal) : Account (List Cue × Waiting) := do
  signal.forM receive
  let _ ← beginScene
  runTimers
  let _ ← beginScene
  readMain
  readNewScene
  (List.range (← get).session.background.size).forM readBackground
  readNewScene
  purge
  let waiting ← waiting
  let cues ← takeCues
  return (cues, waiting)

/-! ### The parts are those of a frame -/

/-- The account of a signal is about what a signal does. -/
theorem part_receive (signal : Option Signal) :
    (signal.forM receive : Account Unit).part = signal.forM Part.receive := by
  cases signal <;> rfl

/-- The account of the turn of a new scene is about that turn. -/
theorem part_readNewScene : readNewScene.part = Part.readNewScene := by
  show (Part.beginScene >>= fun begun => (if begun then readMain else pure ()).part) = _
  unfold Part.readNewScene
  congr 1
  funext begun
  cases begun <;> rfl

/-- The account of a frame is about the frame. -/
theorem part_frame (signal : Option Signal) : (frame signal).part = Engine.frame signal := by
  unfold frame Engine.frame
  simp only [part_bind, part_receive, part_readNewScene, part_forM]
  rfl

end Account

/-- What happens in a frame. -/
def log (engine : Engine) (signal : Option Signal) : List Happening :=
  (Account.frame signal).log engine

/-- A frame is its log, whether it fails or not. -/
theorem replay_log (engine : Engine) (signal : Option Signal) :
    engine.session.replay (engine.log signal) = (engine.tick signal).2.session := by
  unfold log
  rw [(Account.frame signal).replay engine, Account.part_frame]
  rfl

end Engine

end VisualNovel

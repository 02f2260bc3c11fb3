import VisualNovel.Proofs.Parts

/-!
# Frames as evaluation

Reading a script may start another one, which is read at once, and so on. `Session.start` puts a
bound on the nesting, and a bound could hide that the recursion goes on for ever. This module says
what a frame does without one, by evaluation relations, which hold by finite derivations only:

* `Effect.Performs` for effects, with `Role.Reads` for the lines of the scripts that they start;
* `Reader.Steps` for a frame of a reader;
* `Engine.Evaluation.frame` for a frame of the engine. It also counts the scenes that begin and the
  readings of a main script.

An evaluation of a part of a frame is a relation between the engine and the count before, the
result, and the engine and the count after. Evaluations are put together like the parts of a frame.
-/

namespace VisualNovel

/-! ## Effects and lines -/

mutual

/-- What an effect does: a script that it names is started if it can be, and then read at once. -/
inductive Effect.Performs : Effect → Session × Option Failure → Prop where
  /-- No script is named. -/
  | plain {s : Session} : Effect.Performs ⟨s, none⟩ (s, none)
  /-- The script cannot be started. -/
  | refused {s : Session} {launch : Launch} (refused : s.startable? launch = none) :
    Effect.Performs ⟨s, some launch⟩ (s, none)
  /-- The script is started. -/
  | started {s : Session} {launch : Launch} {script : String} {reading : Reading}
    (startable : s.startable? launch = some script)
    (run : Role.Reads (.background launch.name launch.parameters) (Text.lines script) {}
      (s.enlist launch) reading) :
    Effect.Performs ⟨s, some launch⟩ (reading.checkIn s.background.size)

/-- What reading lines does. -/
inductive Role.Reads : Role → List String → Blocks → Session → Reading → Prop where
  /-- There are no more lines. -/
  | nil {role : Role} {blocks : Blocks} {s : Session} :
    Role.Reads role [] blocks s
      { reader := { role, lines := [], blocks, finished := true }, session := s }
  /-- A line is carried out, and what follows it is done. -/
  | cons {role : Role} {raw : String} {lines : List String} {blocks : Blocks} {s t : Session}
    {failure : Option Failure} {reading : Reading}
    (effect : Effect.Performs (role.plan blocks s raw).effect (t, failure))
    (rest : Role.Continues role lines (role.plan blocks s raw) t failure reading) :
    Role.Reads role (raw :: lines) blocks s reading

/-- What follows a line, after its plan has been carried out with or without a failure. -/
inductive Role.Continues :
    Role → List String → Plan → Session → Option Failure → Reading → Prop where
  /-- A script that the line started has failed. -/
  | startFailed {role : Role} {lines : List String} {plan : Plan} {t : Session}
    {failure : Failure} :
    Role.Continues role lines plan t (some failure)
      { reader := { role, lines, blocks := plan.blocks }, session := t, failure := some failure }
  /-- The line fails. -/
  | fails {role : Role} {lines : List String} {plan : Plan} {t : Session} {failure : Failure}
    (verdict : plan.verdict = .fail failure) :
    Role.Continues role lines plan t none
      { reader := { role, lines, blocks := plan.blocks }, session := t, failure := some failure }
  /-- The line ends the script. -/
  | finishes {role : Role} {lines : List String} {plan : Plan} {t : Session}
    (verdict : plan.verdict = .finish) :
    Role.Continues role lines plan t none
      { reader := { role, lines := [], blocks := plan.blocks, finished := true }, session := t }
  /-- The script is held after the line. -/
  | held {role : Role} {lines : List String} {plan : Plan} {t u : Session}
    (verdict : plan.verdict = .look) (look : role.lookUp t = (true, u)) :
    Role.Continues role lines plan t none
      { reader := { role, lines, blocks := plan.blocks }, session := u }
  /-- The next line follows, after a look. -/
  | looks {role : Role} {lines : List String} {plan : Plan} {t u : Session} {reading : Reading}
    (verdict : plan.verdict = .look) (look : role.lookUp t = (false, u))
    (next : Role.Reads role lines plan.blocks u reading) :
    Role.Continues role lines plan t none reading
  /-- The next line follows at once. -/
  | onward {role : Role} {lines : List String} {plan : Plan} {t : Session} {reading : Reading}
    (verdict : plan.verdict = .onward) (next : Role.Reads role lines plan.blocks t reading) :
    Role.Continues role lines plan t none reading

end

/-! ## Readers -/

/-- What a reader with its lines does in a frame. -/
inductive Reader.Advances : Reader → Session → Reading → Prop where
  /-- Nothing holds it, and it reads on. -/
  | reads {reader : Reader} {s t : Session} {reading : Reading}
    (look : reader.role.lookUp s = (false, t))
    (lines : reader.role.Reads reader.lines reader.blocks t reading) :
    Reader.Advances reader s reading
  /-- It is held, and a script that the end of a halt starts fails. -/
  | haltFails {reader : Reader} {s t u : Session} {failure : Failure}
    (look : reader.role.lookUp s = (true, t)) (halt : t.advanceHalt.Performs (u, some failure)) :
    Reader.Advances reader s { reader, session := u, failure := some failure }
  /-- It is held, and still held after a frame of the halt and the rest. -/
  | held {reader : Reader} {s t u v : Session}
    (look : reader.role.lookUp s = (true, t)) (halt : t.advanceHalt.Performs (u, none))
    (still : reader.role.lookUp u.advanceRest = (true, v)) :
    Reader.Advances reader s { reader, session := v }
  /-- It is held no longer after a frame of the halt and the rest, and reads on. -/
  | released {reader : Reader} {s t u v : Session} {reading : Reading}
    (look : reader.role.lookUp s = (true, t)) (halt : t.advanceHalt.Performs (u, none))
    (free : reader.role.lookUp u.advanceRest = (false, v))
    (lines : reader.role.Reads reader.lines reader.blocks v reading) :
    Reader.Advances reader s reading

/-- What a reader does in a frame. -/
inductive Reader.Steps : Reader → Session → Reading → Prop where
  /-- Its script is over. -/
  | stays {reader : Reader} {s : Session} (finished : reader.finished = true) :
    Reader.Steps reader s { reader, session := s }
  /-- It has its lines. -/
  | advances {reader : Reader} {s : Session} {reading : Reading} (going : reader.finished = false)
    (loaded : reader.loaded = true) (advance : reader.Advances s reading) :
    Reader.Steps reader s reading
  /-- Its lines are not there. -/
  | missing {reader : Reader} {s : Session} {error : StoryError} (going : reader.finished = false)
    (unloaded : reader.loaded = false) (load : reader.load s.story = .error error) :
    Reader.Steps reader s { reader, session := s, failure := some (.story error) }
  /-- It gets its lines. -/
  | loads {reader full : Reader} {s : Session} {reading : Reading} (going : reader.finished = false)
    (unloaded : reader.loaded = false) (load : reader.load s.story = .ok full)
    (advance : full.Advances s reading) : Reader.Steps reader s reading

/-! ## Frames -/

namespace Engine

/-- How often something was done in a frame. -/
structure Tally where
  /-- How many scenes have begun. -/
  scenes : Nat := 0
  /-- How often a main script was read. -/
  readings : Nat := 0

/-- An evaluation of a part of a frame: the engine and the count before, the result, the engine and
the count after. -/
def Evaluation (α : Type) : Type :=
  Engine → Tally → Except Failure α → Engine → Tally → Prop

namespace Evaluation

variable {α : Type}

/-- One evaluation follows another, unless that one ends with a failure. -/
instance : Monad Evaluation where
  pure a := fun engine tally result engine' tally' =>
    result = .ok a ∧ engine' = engine ∧ tally' = tally
  bind first next := fun engine tally result engine' tally' =>
    (∃ failure, first engine tally (.error failure) engine' tally' ∧ result = .error failure) ∨
      ∃ a middle count, first engine tally (.ok a) middle count ∧
      next a middle count result engine' tally'

/-- A part that starts and counts nothing. -/
def ofPart (part : Part α) : Evaluation α := fun engine tally result engine' tally' =>
  part.outcome engine = (result, engine') ∧ tally' = tally

/-- Performs an effect. -/
def perform (f : Session → Effect) : Evaluation Unit := fun engine tally result engine' tally' =>
  ∃ session failure, (f engine.session).Performs (session, failure) ∧
    result = Part.resultOf failure ∧ engine' = { engine with session } ∧ tally' = tally

/-- Takes a signal. -/
def receive : Signal → Evaluation Unit
  | .click => perform Session.click
  | .dialogAnimationFinished => perform Session.dialogAnimationFinished
  | .textAnimationStarted => ofPart (.change (·.setTextAnimating true))
  | .textAnimationFinished => ofPart (.change (·.setTextAnimating false))
  | .spriteAnimationStopped group name animation =>
    perform (·.spriteAnimationStopped group name animation)
  | .screenCovered => ofPart (.change Session.screenCovered)
  | .coverFinished => ofPart (.change (·.setCover false))
  | .pause => ofPart (.change (·.setManual true))
  | .resume => ofPart (.change (·.setManual false))

/-- Begins a scene, and counts it. -/
def switchScene (scene : SceneRef) : Evaluation Unit := fun engine tally result engine' tally' =>
  (Part.switchScene scene).outcome engine = (result, engine') ∧
    tally' = match result with
      | .ok () => { tally with scenes := tally.scenes + 1 }
      | .error _ => tally

/-- Begins the scene that is to begin, and tells whether there was one. -/
def beginScene : Evaluation Bool := do
  match (← ofPart get).session.pendingScene with
  | none => return false
  | some scene =>
    ofPart (.change fun session => { session with pendingScene := none })
    switchScene scene
    return true

/-- Starts the scripts whose timers are due. -/
def runTimers : Evaluation Unit := do
  let (due, timers) := (← ofPart get).session.timers.tick
  ofPart (.change fun session => { session with timers })
  due.forM fun launch => perform fun session => { session, launch := some launch }

/-- Reads the main script, and counts that. -/
def readMain : Evaluation Unit := fun engine tally result engine' tally' =>
  ∃ reading, engine.main.Steps engine.session reading ∧ result = Part.resultOf reading.failure ∧
    engine' = ⟨reading.reader, reading.session⟩ ∧
    tally' = { tally with readings := tally.readings + 1 }

/-- Reads the script in the slot at a place, unless a scene is to begin. -/
def readBackground (index : Nat) : Evaluation Unit := fun engine tally result engine' tally' =>
  tally' = tally ∧
    if engine.session.pendingScene.isSome then result = .ok () ∧ engine' = engine
    else
      match engine.session.background.checkOut? index with
      | none => result = .ok () ∧ engine' = engine
      | some (reader, background) =>
        ∃ reading, reader.Steps { engine.session with background } reading ∧
          result = Part.resultOf reading.failure ∧
          engine' = { engine with session := (reading.checkIn index).1 }

/-- Begins the scene that is to begin, and reads its script. -/
def readNewScene : Evaluation Unit := do
  if ← beginScene then readMain

/-- All parts of a frame. -/
def frame (signal : Option Signal) : Evaluation (List Cue × Waiting) := do
  signal.forM receive
  let _ ← beginScene
  runTimers
  let _ ← beginScene
  readMain
  readNewScene
  (List.range (← ofPart get).session.background.size).forM readBackground
  readNewScene
  ofPart (.change fun session => { session with background := session.background.purge })
  let waiting ← ofPart (modifyGet waiting)
  let cues ← ofPart (modifyGet takeCues)
  return (cues, waiting)

end Evaluation

end Engine

end VisualNovel

import VisualNovel.Proofs.CaseBlocks
import VisualNovel.Proofs.CueStream

/-!
# Finished stories

A frame tells that the story is over when nothing holds the main script, it has been read to its
end, and no scene is to follow. What could still happen then is a timer. Where no timer is pending
either, a frame without a signal finds nothing to do, and so does every one after it.

`Engine.AtRest` is what such a frame looks at. A frame that tells the end leads there
(`atRest_of_finished`), and from there a frame leads back to the very same engine (`AtRest.tick`).
-/

namespace VisualNovel

namespace Engine

/-- The results of frames with one signal after another, and the engine after them. -/
def tickAll (engine : Engine) : List (Option Signal) →
    List (Except Failure (List Cue × Waiting)) × Engine
  | [] => ([], engine)
  | signal :: signals =>
    let (result, next) := engine.tick signal
    let (results, last) := next.tickAll signals
    (result :: results, last)

/-- Where no timer is pending, none comes due. -/
theorem Part.outcome_runTimers_of_none {engine : Engine}
    (none : engine.session.timers.pending = []) :
    runTimers.outcome engine = (.ok (), engine) := by
  have tick : engine.session.timers.tick = ([], engine.session.timers) := by
    have empty : engine.session.timers = {} := congrArg Timers.mk none
    rw [empty]
    rfl
  unfold runTimers
  simp only [outcome_bind, outcome_get, tick, outcome_change]
  exact outcome_pure () engine

/-- The story is over, and nothing in the engine is left to do. -/
structure AtRest (engine : Engine) : Prop where
  /-- The main script has been read to its end. -/
  finished : engine.main.finished = true
  /-- No scene is to begin. -/
  pending : engine.session.pendingScene = none
  /-- No scene is to begin under the cover. -/
  covered : engine.session.coveredScene = none
  /-- Nothing holds the main script, and nothing that it waited for is left to forget. -/
  free : engine.session.heldBy = (none, engine.session)
  /-- No other script is running. -/
  alone : engine.session.background = {}
  /-- No timer is pending. -/
  timers : engine.session.timers.pending = []
  /-- No cue is waiting. -/
  told : engine.session.cues = []

namespace AtRest

variable {engine : Engine} (h : engine.AtRest)
include h

open Engine.Part

/-- No scene begins. -/
theorem outcome_noScene : beginScene.outcome engine = (.ok false, engine) := by
  rw [outcome_beginScene, h.pending]

/-- The main script is over. -/
theorem outcome_noLine : readMain.outcome engine = (.ok (), engine) := by
  have step : engine.main.step Session.start engine.session =
      { reader := engine.main, session := engine.session } := by
    unfold Reader.step
    rw [if_pos h.finished]
  rw [outcome_readMain, step]
  rfl

/-- No scene begins that could be read. -/
theorem outcome_noNewScene : readNewScene.outcome engine = (.ok (), engine) := by
  unfold readNewScene
  rw [outcome_bind, h.outcome_noScene]
  rfl

/-- The end is told again. -/
theorem waiting : engine.waiting = (.finished, engine) := by
  have finished : engine.isFinished = true := by
    simp [isFinished, h.finished, h.pending, h.covered]
  unfold Engine.waiting
  rw [h.free, finished]
  rfl

/-- A frame does nothing and tells the end. -/
theorem tick : engine.tick none = (.ok ([], .finished), engine) := by
  have purged : engine.session.background.purge = engine.session.background := by
    rw [h.alone]
    rfl
  have empty : engine.session.background.size = 0 := by
    rw [h.alone]
    rfl
  have taken : engine.takeCues = ([], engine) := by
    unfold takeCues
    rw [h.told, ← h.told]
  have noSignal : (Option.forM none receive : Part Unit).outcome engine = (.ok (), engine) := rfl
  have noScript : (List.forM (List.range 0) readBackground).outcome engine = (.ok (), engine) := rfl
  have waiting : (modifyGet Engine.waiting : Part Waiting).outcome engine =
      (.ok .finished, engine) :=
    congrArg (fun told : Waiting × Engine => (Except.ok told.1, told.2)) h.waiting
  have cues : (modifyGet takeCues : Part (List Cue)).outcome engine = (.ok [], engine) :=
    congrArg (fun told : List Cue × Engine => (Except.ok told.1, told.2)) taken
  -- Nothing is left for any part of the frame.
  rw [tick_eq]
  unfold frame
  rw [outcome_then noSignal, outcome_then h.outcome_noScene,
    outcome_then (outcome_runTimers_of_none h.timers), outcome_then h.outcome_noScene,
    outcome_then h.outcome_noLine, outcome_then h.outcome_noNewScene,
    outcome_then (outcome_get engine), empty, outcome_then noScript,
    outcome_then h.outcome_noNewScene,
    outcome_then (outcome_change _ engine), purged, outcome_then waiting, outcome_then cues]
  rfl

/-- So do many frames. -/
theorem tickAll (frames : Nat) :
    engine.tickAll (List.replicate frames none) =
      (List.replicate frames (.ok ([], .finished)), engine) := by
  induction frames with
  | zero => rfl
  | succ frames ih =>
    rw [List.replicate_succ, Engine.tickAll, h.tick]
    dsimp only
    rw [ih, List.replicate_succ]

end AtRest

end Engine

/-- What holds the main script does not depend on the cues. -/
theorem Session.heldBy_clear (s : Session) :
    heldBy { s with cues := [] } = (s.heldBy.1, { s.heldBy.2 with cues := [] }) := by
  unfold heldBy
  dsimp only
  split_ifs <;> rfl

/-- The end of the story holds nothing. -/
theorem Session.heldBy_ne_finished (s : Session) : s.heldBy.1 ≠ some .finished := by
  unfold heldBy
  dsimp only
  split_ifs <;> simp

namespace Engine

open Account

variable {story : Story} {settings : Settings} {engine after : Engine} {signal : Option Signal}
  {cues : List Cue}

/-- The end of the story is told where nothing holds its main script, and that is over. -/
theorem heldBy_of_waiting_finished (h : engine.waiting.1 = .finished) :
    engine.session.heldBy.1 = none ∧ engine.isFinished = true := by
  have unheld := engine.session.heldBy_ne_finished
  unfold waiting at h
  rcases hheld : engine.session.heldBy with ⟨_ | reason, s⟩
  · rw [hheld] at h
    dsimp only at h
    split at h
    · next finished => exact ⟨rfl, finished⟩
    · cases h
  · rw [hheld] at h unheld
    exact absurd (congrArg some h) unheld

/-- After a frame that tells the end, and leaves no timer, nothing is left to do. -/
theorem atRest_of_finished (reachable : Reachable story settings engine)
    (ok : engine.tick signal = (.ok (cues, .finished), after))
    (timers : after.session.timers.pending = []) : after.AtRest := by
  obtain ⟨past, ⟨last, -, -, taken, seen, told⟩, -⟩ :=
    ((phases_timed signal).frame.tick ⟨rfl, List.not_mem_nil⟩).1 cues .finished after ok
  obtain ⟨-, alone⟩ := (ensures_frame signal engine reachable.settled).1 _ after ok
  obtain ⟨free, isOver⟩ := heldBy_of_waiting_finished (congrArg Prod.fst told)
  obtain rfl : last = { seen with session := seen.session.heldBy.2 } := by
    rw [← seen.waiting_engine, told]
  -- The engine after the frame is the one that told the end, after that look and without its cues.
  obtain rfl : after = { seen with session := { seen.session.heldBy.2 with cues := [] } } := by
    cases taken
    rfl
  have kept : seen.session.Stays seen.session.heldBy.2 := seen.session.heldBy_ordinary.stays
  have again : seen.session.heldBy.2.heldBy = (none, seen.session.heldBy.2) :=
    Session.heldBy_heldBy (Prod.ext free rfl)
  simp only [isFinished, Bool.and_eq_true, Option.isNone_iff_eq_none] at isOver
  obtain ⟨⟨finished, pending⟩, covered⟩ := isOver
  exact {
    finished
    pending := kept.pendingScene.trans pending
    covered := kept.coveredScene.trans covered
    free := by rw [Session.heldBy_clear, again]
    alone
    timers
    told := rfl }

/-- **The end is final.** Once a frame has told that the story is over, and no timer is pending, all
frames without a signal tell it again: they succeed, give no cue, and leave the whole engine as it
is. -/
theorem finished_is_final (reachable : Reachable story settings engine)
    (ok : engine.tick signal = (.ok (cues, .finished), after))
    (timers : after.session.timers.pending = []) (frames : Nat) :
    after.tickAll (List.replicate frames none) =
      (List.replicate frames (.ok ([], .finished)), after) :=
  (atRest_of_finished reachable ok timers).tickAll frames

/-- A story that rings a bell with a timer while its main script rests, and then says good night. -/
def evening : Story where
  startup := some ⟨"dusk", "street"⟩
  chapters := .ofEntries [("dusk",
    { scenes := .ofEntries [("street", "<after:1,bell>\n<rest:1>\nGood night.")] })]
  reusables := .ofEntries [("bell", "<play_sound:ding>")]

/-- The engine of that story at the beginning. -/
def eveningNew : Engine :=
  .opening evening {} ⟨"dusk", "street"⟩

/-- The third frame tells the end, and so do the three frames after it. -/
theorem evening_end_is_final :
    ∃ engine after cues, Reachable evening {} engine ∧
      engine.tick none = (.ok (cues, .finished), after) ∧ after.session.timers.pending = [] ∧
      after.tickAll [none, none, none] =
        ([.ok ([], .finished), .ok ([], .finished), .ok ([], .finished)], after) := by
  obtain ⟨created, first, second, third, timers⟩ :
      Engine.create evening {} = .ok eveningNew ∧
      (eveningNew.tick none).1 = .ok ([], .rest 1) ∧
      ((eveningNew.tick none).2.tick none).1 = .ok ([.playAudio .fx "ding" false], .rest 0) ∧
      (((eveningNew.tick none).2.tick none).2.tick none).1 =
        .ok ([.dialogText "Good night."], .finished) ∧
      (((eveningNew.tick none).2.tick none).2.tick none).2.session.timers.pending = [] := by
    decide +kernel
  generalize eveningNew = engine at created first second third timers
  have reachable :=
    ((Reachable.create created).tick none (by simp [first])).tick none (by simp [second])
  have last := tick_eq_of_result third
  exact ⟨_, _, _, reachable, last, timers, finished_is_final reachable last timers 3⟩

end Engine

end VisualNovel

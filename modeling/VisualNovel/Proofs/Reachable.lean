import VisualNovel.Proofs.Parts

/-!
# Reachable engines

An engine is created for a story, and then the host has it: it hands in signals frame by frame,
writes to the variables and the stage between frames, and what is beyond the story, the time and the
names that are drawn for blocks, changes as it likes. A frame that fails by a mistake of the author
is no end; one that crashes is.

A fact of all reachable engines is proved by induction on `Reachable`: it holds of a new engine, and
it outlasts a frame and a write of the host.
-/

namespace VisualNovel.Engine

/-- What a host does to an engine between frames. -/
inductive Write where
  /-- It sets a variable. -/
  | store (name value : String)
  /-- It changes the stage. -/
  | stage (stage : Stage)
  /-- It tells the time. -/
  | time (clock : Nat)
  /-- It tells the names that are drawn for blocks without one. -/
  | freshNames (names : List String)

/-- The engine after a write. A variable that may not have its name is not set. -/
def write (engine : Engine) : Write → Engine
  | .store name value => (engine.setVariable? name value).getD engine
  | .stage stage => engine.withStage stage
  | .time clock => engine.atTime clock
  | .freshNames names => engine.withFreshNames names

/-- The engines that a story and settings can come to. -/
inductive Reachable (story : Story) (settings : Settings) : Engine → Prop where
  /-- At the beginning. -/
  | create {engine : Engine} (created : Engine.create story settings = .ok engine) :
    Reachable story settings engine
  /-- After a frame that did not crash, whether it failed or not. -/
  | tick {engine : Engine} (reachable : Reachable story settings engine) (signal : Option Signal)
    (alive : ∀ crash, (engine.tick signal).1 ≠ .error (.crash crash)) :
    Reachable story settings (engine.tick signal).2
  /-- After a write of the host. -/
  | write {engine : Engine} (reachable : Reachable story settings engine) (write : Write) :
    Reachable story settings (engine.write write)

/-- A write leaves the reader of the main script alone. -/
theorem write_main (engine : Engine) (write : Write) : (engine.write write).main = engine.main := by
  cases write with
  | store name value =>
    show ((engine.setVariable? name value).getD engine).main = engine.main
    unfold setVariable?
    cases engine.session.store.set? name value <;> rfl
  | stage _ => rfl
  | time _ => rfl
  | freshNames _ => rfl

/-- What a host writes is the variables, the stage, the clock or the names to draw. -/
theorem write_session (engine : Engine) (write : Write) :
    ∃ store stage clock freshNames,
      (engine.write write).session = { engine.session with store, stage, clock, freshNames } := by
  cases write with
  | store name value =>
    show ∃ store stage clock freshNames, ((engine.setVariable? name value).getD engine).session = _
    unfold setVariable?
    cases engine.session.store.set? name value with
    | none => exact ⟨_, _, _, _, rfl⟩
    | some store => exact ⟨store, _, _, _, rfl⟩
  | stage stage => exact ⟨_, stage, _, _, rfl⟩
  | time clock => exact ⟨_, _, clock, _, rfl⟩
  | freshNames names => exact ⟨_, _, _, names, rfl⟩

/-- A write is an ordinary change of the session. -/
theorem write_ordinary (engine : Engine) (write : Write) :
    engine.session.Ordinary (engine.write write).session := by
  obtain ⟨store, stage, clock, freshNames, written⟩ := engine.write_session write
  rw [written]
  exact .of_core rfl rfl

/-- The engine of a story at the beginning of a scene, before its first frame. -/
def opening (story : Story) (settings : Settings) (scene : SceneRef) : Engine where
  main := .ofScene scene
  session := (Session.fresh story settings).enterScene scene

/-- A new engine is at the opening of a scene of the story. -/
theorem create_eq_ok {story : Story} {settings : Settings} {engine : Engine}
    (h : Engine.create story settings = .ok engine) :
    ∃ scene, story.checkScene scene = .ok () ∧ engine = opening story settings scene := by
  unfold create at h
  split at h
  · cases h
  · next scene _ =>
    rcases hc : story.checkScene scene with error | ⟨⟩
    · rw [hc] at h
      cases h
    · rw [hc] at h
      cases h
      exact ⟨scene, hc, rfl⟩

/-! ## What a host sees -/

/-- What a frame shows to the host. -/
structure Observation where
  /-- The cues that came in the frame, without those that had been there. -/
  cues : List Cue
  /-- What is waited for, or the failure. -/
  result : Except Failure Waiting

/-- The observation of a frame, and the engine after it. -/
def observe (engine : Engine) (signal : Option Signal) : Observation × Engine :=
  let outcome := engine.tick signal
  (⟨(cuesAfter outcome).drop engine.session.cues.length, outcome.1.map Prod.snd⟩, outcome.2)

end VisualNovel.Engine

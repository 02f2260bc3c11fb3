import VisualNovel.Proofs.Running

/-!
# Parts of a frame

A frame is a sequence of parts, each of which changes the engine and may fail in the middle. This
module is the small logic in which frames are reasoned about: `Part.Ensures P part Q E` says that
from an engine with `P` the part ends with `Q`, or fails with `E`. There is one rule for each way of
putting parts together, and one for each part of a frame that only passes on what a reader or a
start has done.

The failing engine is part of the statement, since it is not discarded: the next frame goes on from
it.
-/

namespace VisualNovel.Engine

/-- The engine without a scene that is to begin. -/
def unpend (engine : Engine) : Engine :=
  { engine with session := { engine.session with pendingScene := none } }

namespace Part

variable {α β : Type}

/-- What a part does to an engine. -/
def outcome (part : Part α) (engine : Engine) : Except Failure α × Engine :=
  part.run.run engine

/-- A part that follows another one begins where that one ended, and not at all after a failure. -/
theorem outcome_bind (part : Part α) (next : α → Part β) (engine : Engine) :
    (part >>= next).outcome engine =
      match part.outcome engine with
      | (.ok a, engine) => (next a).outcome engine
      | (.error failure, engine) => (.error failure, engine) := by
  show (match part.run.run engine with
    | (a, engine) => (ExceptT.bindCont next a).run engine) = _
  unfold outcome
  rcases part.run.run engine with ⟨_ | _, _⟩ <;> rfl

/-- A part that succeeds hands over to the next one. -/
theorem outcome_then {part : Part α} {next : α → Part β} {engine engine' : Engine} {a : α}
    (h : part.outcome engine = (.ok a, engine')) :
    (part >>= next).outcome engine = (next a).outcome engine' := by
  rw [outcome_bind, h]

/-- From every engine with `P`, the part ends with `Q` or fails with `E`. -/
def Ensures (P : Engine → Prop) (part : Part α) (Q : α → Engine → Prop)
    (E : Failure → Engine → Prop) : Prop :=
  ∀ engine, P engine →
    (∀ a engine', part.outcome engine = (.ok a, engine') → Q a engine') ∧
      ∀ failure engine', part.outcome engine = (.error failure, engine') → E failure engine'

variable {P P' : Engine → Prop} {Q Q' : α → Engine → Prop} {E E' : Failure → Engine → Prop}

/-! ## Putting parts together -/

namespace Ensures

/-- A part that does nothing ends with what held before. -/
theorem pure {a : α} (h : ∀ engine, P engine → Q a engine) : Ensures P (Pure.pure a) Q E := by
  intro engine hP
  refine ⟨?_, ?_⟩
  · rintro _ _ ⟨⟩
    exact h engine hP
  · rintro _ _ ⟨⟩

/-- One part after another. -/
theorem bind {part : Part α} {next : α → Part β} {R : β → Engine → Prop}
    (h : Ensures P part Q E) (h' : ∀ a, Ensures (Q a) (next a) R E) :
    Ensures P (part >>= next) R E := by
  intro engine hP
  obtain ⟨ok, failed⟩ := h engine hP
  rcases hout : part.outcome engine with ⟨failure | a, engine'⟩
  · refine ⟨?_, ?_⟩
    · intro b engine'' hb
      rw [outcome_bind, hout] at hb
      cases hb
    · intro failure' engine'' hf
      rw [outcome_bind, hout] at hf
      cases hf
      exact failed _ _ hout
  · have next := h' a engine' (ok _ _ hout)
    rw [outcome_bind, hout]
    exact next

/-- Less asked of the engine before, more promised of the engine after. -/
theorem imp {part : Part α} (h : Ensures P part Q E) (hP : ∀ engine, P' engine → P engine)
    (hQ : ∀ a engine, Q a engine → Q' a engine)
    (hE : ∀ failure engine, E failure engine → E' failure engine) : Ensures P' part Q' E' := by
  intro engine hP'
  obtain ⟨ok, failed⟩ := h engine (hP engine hP')
  exact ⟨fun a e ha => hQ a e (ok a e ha), fun f e hf => hE f e (failed f e hf)⟩

/-- Looking at the engine changes nothing. -/
theorem get : Ensures P MonadState.get (fun seen engine => seen = engine ∧ P engine) E := by
  intro engine hP
  refine ⟨?_, ?_⟩
  · rintro _ _ ⟨⟩
    exact ⟨rfl, hP⟩
  · rintro _ _ ⟨⟩

/-- A change that also tells something. -/
theorem modifyGet {f : Engine → α × Engine} (h : ∀ engine, P engine → Q (f engine).1 (f engine).2) :
    Ensures P (MonadState.modifyGet f) Q E := by
  intro engine hP
  refine ⟨?_, ?_⟩
  · rintro _ _ ⟨⟩
    exact h engine hP
  · rintro _ _ ⟨⟩

/-- A part for each element of a list, with an invariant that knows which elements are left. -/
theorem forM {body : β → Part Unit} (I : List β → Engine → Prop)
    (step : ∀ b rest, Ensures (I (b :: rest)) (body b) (fun _ => I rest) E) (list : List β) :
    Ensures (I list) (list.forM body) (fun _ => I []) E := by
  induction list with
  | nil => exact pure fun _ h => h
  | cons b rest ih => exact bind (step b rest) fun _ => ih

/-- A part for the element that there may be. -/
theorem optionForM {body : β → Part Unit} {I : Engine → Prop}
    (step : ∀ b, Ensures I (body b) (fun _ => I) E) (option : Option β) :
    Ensures I (option.forM body) (fun _ => I) E := by
  cases option with
  | none => exact pure fun _ h => h
  | some b => exact step b

/-- A part whose outcome is known. -/
theorem of_outcome {part : Part α} {f : Engine → Except Failure α} {g : Engine → Engine}
    (h : ∀ engine, part.outcome engine = (f engine, g engine))
    (ok : ∀ engine a, P engine → f engine = .ok a → Q a (g engine))
    (failed : ∀ engine failure, P engine → f engine = .error failure → E failure (g engine)) :
    Ensures P part Q E := by
  intro engine hP
  rw [h engine]
  refine ⟨?_, ?_⟩
  · intro a engine' ha
    obtain ⟨hf, rfl⟩ := Prod.mk.inj ha
    exact ok engine a hP hf
  · intro failure engine' ha
    obtain ⟨hf, rfl⟩ := Prod.mk.inj ha
    exact failed engine failure hP hf

end Ensures

/-! ## The parts of a frame -/

/-- The result of a part that ends with a failure or without one. -/
def resultOf : Option Failure → Except Failure Unit
  | none => .ok ()
  | some failure => .error failure

/-- A part that settles ends well if there is no failure. -/
@[simp] theorem resultOf_eq_ok {failure : Option Failure} {u : Unit} :
    resultOf failure = .ok u ↔ failure = none := by
  cases failure <;> simp [resultOf]

/-- A part that settles fails with its failure. -/
@[simp] theorem resultOf_eq_error {failure : Option Failure} {error : Failure} :
    resultOf failure = .error error ↔ failure = some error := by
  cases failure <;> simp [resultOf]

/-- A part that ends with a failure or without one. -/
theorem Ensures.of_result {part : Part Unit} {failure : Engine → Option Failure}
    {after : Engine → Engine} {Q : Option Failure → Engine → Prop}
    (h : ∀ engine, part.outcome engine = (resultOf (failure engine), after engine))
    (run : ∀ engine, P engine → Q (failure engine) (after engine)) :
    Ensures P part (fun _ => Q none) (fun failure => Q (some failure)) := by
  refine .of_outcome h ?_ ?_
  · intro engine _ hP ok
    rw [← resultOf_eq_ok.1 ok]
    exact run engine hP
  · intro engine error hP failed
    rw [← resultOf_eq_error.1 failed]
    exact run engine hP

/-- A part that does nothing gives its value. -/
theorem outcome_pure (a : α) (engine : Engine) :
    (Pure.pure a : Part α).outcome engine = (.ok a, engine) := rfl

/-- A part that looks gives the engine. -/
theorem outcome_get (engine : Engine) :
    (MonadState.get : Part Engine).outcome engine = (.ok engine, engine) := rfl

/-- A change of the session is made. -/
theorem outcome_change (f : Session → Session) (engine : Engine) :
    (change f).outcome engine = (.ok (), { engine with session := f engine.session }) := rfl

/-- A part that settles leaves its session, and fails with its failure. -/
theorem outcome_settle (session : Session) (failure : Option Failure) (engine : Engine) :
    (settle session failure).outcome engine =
      (resultOf failure, { engine with session }) := by
  cases failure <;> rfl

/-- Carrying out an effect, with the starts that it asks for. -/
theorem outcome_perform (f : Session → Effect) (engine : Engine) :
    (perform f).outcome engine =
      (resultOf ((f engine.session).perform Session.start).2,
        { engine with session := ((f engine.session).perform Session.start).1 }) :=
  outcome_settle _ _ _

/-- A signal is taken by carrying out its effect. -/
theorem receive_eq (signal : Signal) : receive signal = perform signal.effect := by
  cases signal <;> rfl

/-- Reading the main script, whose reader is kept beside the session. -/
theorem outcome_readMain (engine : Engine) :
    readMain.outcome engine =
      (resultOf (engine.main.step Session.start engine.session).failure,
        { main := (engine.main.step Session.start engine.session).reader
          session := (engine.main.step Session.start engine.session).session }) :=
  outcome_settle _ _ { engine with main := (engine.main.step Session.start engine.session).reader }

/-- A scene that is there begins; one that is not fails, and nothing happens. -/
theorem outcome_switchScene (scene : SceneRef) (engine : Engine) :
    (switchScene scene).outcome engine =
      match engine.session.story.checkScene scene with
      | .error error => (.error (.story error), engine)
      | .ok () => (.ok (), engine.enterScene scene) := by
  unfold switchScene
  simp only [outcome_bind, outcome_get]
  cases engine.session.story.checkScene scene <;> rfl

/-- A scene that is to begin is forgotten, and begins. -/
theorem outcome_beginScene (engine : Engine) :
    beginScene.outcome engine =
      match engine.session.pendingScene with
      | none => (.ok false, engine)
      | some scene =>
        match engine.session.story.checkScene scene with
        | .error error => (.error (.story error), engine.unpend)
        | .ok () => (.ok true, engine.unpend.enterScene scene) := by
  unfold beginScene
  simp only [outcome_bind, outcome_get]
  rcases engine.session.pendingScene with _ | scene
  · rfl
  · simp only [outcome_bind, outcome_change, outcome_switchScene]
    cases engine.session.story.checkScene scene <;> rfl

/-- The rule for a scene that is to begin: there may be none, it may be missing, or it begins. -/
theorem Ensures.beginScene {Q : Bool → Engine → Prop}
    (stays : ∀ engine, P engine → engine.session.pendingScene = none → Q false engine)
    (missing : ∀ engine scene error, P engine → engine.session.pendingScene = some scene →
      engine.session.story.checkScene scene = .error error → E (.story error) engine.unpend)
    (begins : ∀ engine scene, P engine → engine.session.pendingScene = some scene →
      engine.session.story.checkScene scene = .ok () → Q true (engine.unpend.enterScene scene)) :
    Ensures P beginScene Q E := by
  intro engine hP
  rw [outcome_beginScene]
  rcases hscene : engine.session.pendingScene with _ | scene
  · refine ⟨?_, ?_⟩
    · rintro _ _ ⟨⟩
      exact stays engine hP hscene
    · rintro _ _ ⟨⟩
  · rcases hcheck : engine.session.story.checkScene scene with error | ⟨⟩
    · simp only [hcheck]
      refine ⟨?_, ?_⟩
      · rintro _ _ ⟨⟩
      · rintro _ _ ⟨⟩
        exact missing engine scene error hP hscene hcheck
    · simp only [hcheck]
      refine ⟨?_, ?_⟩
      · rintro _ _ ⟨⟩
        exact begins engine scene hP hscene hcheck
      · rintro _ _ ⟨⟩

/-- Reading the script in a slot, which is empty meanwhile. -/
theorem outcome_readBackground (index : Nat) (engine : Engine) :
    (readBackground index).outcome engine =
      if engine.session.pendingScene.isSome then (.ok (), engine)
      else
        match engine.session.background.checkOut? index with
        | none => (.ok (), engine)
        | some (reader, background) =>
          let reading := reader.step Session.start { engine.session with background }
          (resultOf reading.failure, { engine with session := (reading.checkIn index).1 }) := by
  unfold readBackground
  simp only [outcome_bind, outcome_get]
  by_cases pending : engine.session.pendingScene.isSome
  · simp only [pending, if_true]
    rfl
  · simp only [pending]
    rcases engine.session.background.checkOut? index with _ | ⟨reader, background⟩
    · rfl
    · exact outcome_settle _ _ _

/-- The rule for reading the script in a slot: a scene may be about to begin, the slot may be empty
or missing, or its reader takes a step. -/
theorem Ensures.readBackground {Q : Engine → Prop} {index : Nat}
    (waits : ∀ engine, P engine → engine.session.pendingScene.isSome → Q engine)
    (missing : ∀ engine, P engine → engine.session.background.checkOut? index = none → Q engine)
    (steps : ∀ engine reader background reading, P engine → ¬ engine.session.pendingScene.isSome →
      engine.session.background.checkOut? index = some (reader, background) →
      reading = reader.step Session.start { engine.session with background } →
      (reading.failure = none → Q { engine with session := (reading.checkIn index).1 }) ∧
        ∀ failure, reading.failure = some failure →
          E failure { engine with session := (reading.checkIn index).1 }) :
    Ensures P (readBackground index) (fun _ => Q) E := by
  intro engine hP
  rw [outcome_readBackground]
  by_cases pending : engine.session.pendingScene.isSome
  · rw [if_pos pending]
    refine ⟨?_, ?_⟩
    · rintro _ _ ⟨⟩
      exact waits engine hP pending
    · rintro _ _ ⟨⟩
  · rw [if_neg pending]
    rcases hout : engine.session.background.checkOut? index with _ | ⟨reader, background⟩
    · refine ⟨?_, ?_⟩
      · rintro _ _ ⟨⟩
        exact missing engine hP hout
      · rintro _ _ ⟨⟩
    · obtain ⟨ok, failed⟩ := steps engine reader background _ hP pending hout rfl
      refine ⟨?_, ?_⟩
      · intro _ _ h
        obtain ⟨hresult, rfl⟩ := Prod.mk.inj h
        exact ok (resultOf_eq_ok.1 hresult)
      · intro failure _ h
        obtain ⟨hresult, rfl⟩ := Prod.mk.inj h
        exact failed failure (resultOf_eq_error.1 hresult)

/-! ## Frames -/

/-- All parts of a frame but the last one, which hands out the cues. -/
def beforeCues (signal : Option Signal) : Part Waiting := do
  signal.forM receive
  let _ ← beginScene
  runTimers
  let _ ← beginScene
  readMain
  readNewScene
  (List.range (← get).session.background.size).forM readBackground
  readNewScene
  change fun session => { session with background := session.background.purge }
  modifyGet Engine.waiting

/-- A frame hands out its cues last. -/
theorem frame_eq (signal : Option Signal) :
    frame signal = do
      let waiting ← beforeCues signal
      let cues ← modifyGet takeCues
      return (cues, waiting) := by
  simp only [frame, beforeCues, bind_assoc]

end Part

/-- The cues there are at the end of a frame: those that it hands out or, if it fails, those that
wait for the next one. -/
def cuesAfter : Except Failure (List Cue × Waiting) × Engine → List Cue
  | (.ok (cues, _), _) => cues
  | (.error _, engine) => engine.session.cues

/-- Telling what is waited for is a look at what holds the session. -/
theorem waiting_engine (engine : Engine) :
    engine.waiting.2 = { engine with session := engine.session.heldBy.2 } := by
  unfold waiting
  rcases engine.session.heldBy with ⟨_ | _, _⟩ <;> rfl

/-- Telling what is waited for leaves the story, the settings and the running scripts alone. -/
theorem waiting_keeps (engine : Engine) : engine.session.Keeps engine.waiting.2.session :=
  engine.waiting_engine ▸ engine.session.heldBy_ordinary.keeps

/-- A frame is the outcome of its parts. -/
theorem tick_eq (engine : Engine) (signal : Option Signal) :
    engine.tick signal = (frame signal).outcome engine := rfl

end VisualNovel.Engine

import Mathlib.Data.List.Forall2
import VisualNovel.Proofs.Backlog
import VisualNovel.Proofs.Reachable

/-!
# Scenes are isolated from each other

What a scene leaves behind for the next one is little: the variables, the dialog, a cover over the
screen, and a pause by the host. Two engines that agree in that, and in their story and settings,
are told apart by nobody once the same scene has begun in both, whatever else they came from: their
frames show the same cues, the same waiting and the same failures.

Entering a scene makes two such sessions equal up to a backlog, that is up to history, clock and
cues that wait for the host. The rest is that a frame does on top of a backlog what it does without.
It is proved in the order of the definitions: starts and lines (`Starter.Blind`), readers, the parts
of a frame (`Part.Blind`), and frames, which hand out the cues of the backlog before their own
(`Engine.tick_onto`).
-/

namespace VisualNovel

/-! ## Starts and lines -/

/-- A way of starting scripts that does not look at a backlog. -/
def Starter.Blind (start : Starter) : Prop :=
  ∀ (s : Session) (b : Backlog) (launch : Launch), ∃ b' : Backlog, b'.cues = b.cues ∧
    start (s.onto b) launch = ((start s launch).1.onto b', (start s launch).2)

section blind

variable {start : Starter} (blind : Starter.Blind start)

include blind

/-- An effect does the same on top of a backlog. -/
theorem Effect.perform_onto (effect : Effect) (b : Backlog) :
    ∃ b' : Backlog, b'.cues = b.cues ∧
      (effect.map (·.onto b)).perform start =
        ((effect.perform start).1.onto b', (effect.perform start).2) := by
  obtain ⟨s, _ | launch⟩ := effect
  · exact ⟨b, rfl, rfl⟩
  · exact blind s b launch

/-- So does a line with what it starts. -/
theorem Plan.carryOut_onto (plan : Plan) (b : Backlog) :
    ∃ b' : Backlog, b'.cues = b.cues ∧
      (plan.map (·.onto b)).carryOut start = (plan.carryOut start).map (·.onto b') := by
  obtain ⟨b', hcues, hperform⟩ := Effect.perform_onto blind plan.effect b
  refine ⟨b', hcues, ?_⟩
  unfold Plan.carryOut
  have hperform' : (plan.map (·.onto b)).effect.perform start = _ := hperform
  rw [hperform']
  rcases plan.effect.perform start with ⟨t, _ | failure⟩ <;> rfl

/-- Reading lines, by induction on them. -/
theorem Role.readLines_onto (role : Role) (lines : List String) (blocks : Blocks) (s : Session)
    (b : Backlog) :
    ∃ b' : Backlog, b'.cues = b.cues ∧
      role.readLines start lines blocks (s.onto b) =
        (role.readLines start lines blocks s).map (·.onto b') := by
  induction lines generalizing blocks s b with
  | nil => exact ⟨b, rfl, rfl⟩
  | cons raw lines ih =>
    obtain ⟨b₁, hcues₁, hplan⟩ := role.plan_onto blocks s b raw
    obtain ⟨b₂, hcues₂, hcarry⟩ := Plan.carryOut_onto blind (role.plan blocks s raw) b₁
    have hcues : b₂.cues = b.cues := hcues₂.trans hcues₁
    rw [Role.readLines, Role.readLines, hplan, hcarry]
    generalize (role.plan blocks s raw).carryOut start = progress
    obtain ⟨t, blocks', verdict⟩ := progress
    cases verdict with
    | onward =>
      obtain ⟨b', hcues', hrest⟩ := ih blocks' t b₂
      exact ⟨b', hcues'.trans hcues, hrest⟩
    | look =>
      dsimp only [Progress.map]
      rw [role.lookUp_onto t b₂]
      rcases role.lookUp t with ⟨_ | _, u⟩
      · obtain ⟨b', hcues', hrest⟩ := ih blocks' u b₂
        exact ⟨b', hcues'.trans hcues, hrest⟩
      · exact ⟨b₂, hcues, rfl⟩
    | finish => exact ⟨b₂, hcues, rfl⟩
    | fail failure => exact ⟨b₂, hcues, rfl⟩

/-! ## Readers -/

/-- So do the pauses. -/
theorem Session.elapse_onto (s : Session) (b : Backlog) :
    ∃ b' : Backlog, b'.cues = b.cues ∧
      (s.onto b).elapse start = ((s.elapse start).1.onto b', (s.elapse start).2) := by
  obtain ⟨b', hcues, hperform⟩ := Effect.perform_onto blind s.advanceHalt b
  refine ⟨b', hcues, ?_⟩
  unfold Session.elapse
  rw [(unseen_onto b).advanceHalt, hperform]
  rcases s.advanceHalt.perform start with ⟨t, _ | failure⟩ <;> rfl

/-- So does a reader with its lines. -/
theorem Reader.advance_onto (reader : Reader) (s : Session) (b : Backlog) :
    ∃ b' : Backlog, b'.cues = b.cues ∧
      reader.advance start (s.onto b) = (reader.advance start s).map (·.onto b') := by
  unfold Reader.advance
  rw [reader.role.lookUp_onto s b]
  rcases reader.role.lookUp s with ⟨_ | _, t⟩
  · exact Role.readLines_onto blind _ _ _ t b
  · obtain ⟨b₁, hcues₁, helapse⟩ := Session.elapse_onto blind t b
    dsimp only
    rw [helapse]
    rcases t.elapse start with ⟨u, _ | failure⟩
    · dsimp only
      rw [reader.role.lookUp_onto u b₁]
      rcases reader.role.lookUp u with ⟨_ | _, v⟩
      · obtain ⟨b', hcues, hread⟩ :=
          Role.readLines_onto blind reader.role reader.lines reader.blocks v b₁
        exact ⟨b', hcues.trans hcues₁, hread⟩
      · exact ⟨b₁, hcues₁, rfl⟩
    · exact ⟨b₁, hcues₁, rfl⟩

/-- So does any reader. -/
theorem Reader.step_onto (reader : Reader) (s : Session) (b : Backlog) :
    ∃ b' : Backlog, b'.cues = b.cues ∧
      reader.step start (s.onto b) = (reader.step start s).map (·.onto b') := by
  unfold Reader.step
  rw [show (s.onto b).story = s.story from rfl]
  by_cases hfinished : reader.finished = true
  · rw [if_pos hfinished, if_pos hfinished]
    exact ⟨b, rfl, rfl⟩
  · rw [if_neg hfinished, if_neg hfinished]
    by_cases hloaded : reader.loaded = true
    · rw [if_pos hloaded, if_pos hloaded]
      exact Reader.advance_onto blind reader s b
    · rw [if_neg hloaded, if_neg hloaded]
      rcases reader.load s.story with error | full
      · exact ⟨b, rfl, rfl⟩
      · exact Reader.advance_onto blind full s b

end blind

/-- Starting a script, by induction on the bound on nesting. -/
theorem Session.startWithin_blind (bound : Nat) : Starter.Blind (startWithin bound) := by
  induction bound with
  | zero => exact fun s b launch => ⟨b, rfl, rfl⟩
  | succ bound ih =>
    intro s b launch
    unfold startWithin
    have hstartable : (s.onto b).startable? launch = s.startable? launch := rfl
    rw [hstartable]
    rcases s.startable? launch with _ | script
    · exact ⟨b, rfl, rfl⟩
    · have henlist : (s.onto b).enlist launch =
        (s.enlist launch).onto (b.record (.started launch.name)) := rfl
      obtain ⟨b', hcues, hstep⟩ := Reader.step_onto ih (Reader.ofScript launch script)
        (s.enlist launch) (b.record (.started launch.name))
      dsimp only
      rw [henlist, hstep]
      exact ⟨b', hcues, rfl⟩

/-- Starting a script does not look at a backlog. -/
theorem Session.start_blind : Starter.Blind Session.start := fun s b launch =>
  Session.startWithin_blind s.story.reusables.size s b launch

namespace Engine

/-! ## The parts of a frame -/

/-- An engine on top of a backlog. -/
def onto (engine : Engine) (b : Backlog) : Engine :=
  { engine with session := engine.session.onto b }

namespace Part

variable {α β : Type}

/-- A part of a frame that does not look at a backlog. -/
def Blind (part : Part α) : Prop :=
  ∀ (engine : Engine) (b : Backlog), ∃ b' : Backlog, b'.cues = b.cues ∧
    part.outcome (engine.onto b) = ((part.outcome engine).1, (part.outcome engine).2.onto b')

namespace Blind

/-- A part that does nothing does not look. -/
theorem pure (a : α) : Blind (Pure.pure a) := fun _ b => ⟨b, rfl, rfl⟩

/-- A part that fails does not look. -/
theorem throw (failure : Failure) : Blind (MonadExcept.throw failure : Part α) :=
  fun _ b => ⟨b, rfl, rfl⟩

/-- Two parts that do not look do not look in a row. -/
theorem bind {part : Part α} {next : α → Part β} (h : Blind part) (h' : ∀ a, Blind (next a)) :
    Blind (part >>= next) := by
  intro engine b
  obtain ⟨b₁, hcues₁, hpart⟩ := h engine b
  rw [outcome_bind, outcome_bind, hpart]
  rcases part.outcome engine with ⟨failure | a, engine₁⟩
  · exact ⟨b₁, hcues₁, rfl⟩
  · obtain ⟨b', hcues, hnext⟩ := h' a engine₁ b₁
    exact ⟨b', hcues.trans hcues₁, hnext⟩

/-- A part may look at the engine, if it does the same with a backlog and without. -/
theorem look {next : Engine → Part α} (same : ∀ engine b, next (engine.onto b) = next engine)
    (h : ∀ engine, Blind (next engine)) : Blind (MonadState.get >>= next) := by
  intro engine b
  rw [outcome_bind, outcome_bind, outcome_get, outcome_get]
  dsimp only
  rw [same engine b]
  exact h engine engine b

/-- A change of the engine does not look if it is the same on top of a backlog. -/
theorem modifyGet {f : Engine → α × Engine}
    (h : ∀ engine b, ∃ b' : Backlog, b'.cues = b.cues ∧
      f (engine.onto b) = ((f engine).1, (f engine).2.onto b')) :
    Blind (MonadState.modifyGet f) := by
  intro engine b
  obtain ⟨b', hcues, hf⟩ := h engine b
  refine ⟨b', hcues, ?_⟩
  show (Except.ok (f (engine.onto b)).1, (f (engine.onto b)).2) = _
  rw [hf]
  rfl

/-- Parts for each member of a list do not look if none of them does. -/
theorem forM {body : β → Part Unit} (h : ∀ a, Blind (body a)) (list : List β) :
    Blind (list.forM body) := by
  induction list with
  | nil => exact pure ()
  | cons a rest ih => exact bind (h a) fun _ => ih

/-- The same for a value that may be missing. -/
theorem optionForM {body : β → Part Unit} (h : ∀ a, Blind (body a)) (option : Option β) :
    Blind (option.forM body) := by
  cases option with
  | none => exact pure ()
  | some a => exact h a

/-- A change of the session does not look if it is the same on top of a backlog. -/
theorem change {f : Session → Session} (h : ∀ s b, f (s.onto b) = (f s).onto b) :
    Blind (Part.change f) := by
  intro engine b
  refine ⟨b, rfl, ?_⟩
  rw [outcome_change, outcome_change]
  show (_, { engine with session := f (engine.session.onto b) }) = _
  rw [h]
  rfl

/-- An effect does not look if it is the same on top of a backlog. -/
theorem perform {f : Session → Effect} (h : ∀ s b, f (s.onto b) = (f s).map (·.onto b)) :
    Blind (Part.perform f) := by
  intro engine b
  obtain ⟨b', hcues, hperform⟩ := Effect.perform_onto Session.start_blind (f engine.session) b
  refine ⟨b', hcues, ?_⟩
  rw [outcome_perform, outcome_perform]
  show (resultOf ((f (engine.session.onto b)).perform Session.start).2,
    { engine with session := ((f (engine.session.onto b)).perform Session.start).1 }) = _
  rw [h, hperform]
  rfl

/-- A signal does not look at a backlog. -/
theorem receive (signal : Signal) : Blind (Part.receive signal) := by
  rw [Part.receive_eq]
  exact perform signal.effect_onto

/-- The change to another scene does not. -/
theorem switchScene (scene : SceneRef) : Blind (Part.switchScene scene) := by
  refine look (fun _ _ => rfl) fun engine => ?_
  rcases engine.session.story.checkScene scene with error | ⟨⟩
  · exact throw _
  · -- Beginning a scene is an event, which goes into the history of the backlog.
    exact modifyGet fun _ b => ⟨b.record (.sceneChange scene.chapter scene.scene), rfl, rfl⟩

/-- The beginning of a scene does not. -/
theorem beginScene : Blind Part.beginScene := by
  refine look (fun _ _ => rfl) fun engine => ?_
  rcases engine.session.pendingScene with _ | scene
  · exact pure false
  · exact bind (change fun _ _ => rfl) fun _ => bind (switchScene scene) fun _ => pure true

/-- The timers do not. -/
theorem runTimers : Blind Part.runTimers := by
  refine look (fun _ _ => rfl) fun engine => ?_
  exact bind (change fun _ _ => rfl) fun _ => forM (fun _ => perform fun _ _ => rfl) _

/-- The turn of the main script does not. -/
theorem readMain : Blind Part.readMain := by
  intro engine b
  obtain ⟨b', hcues, hstep⟩ := Reader.step_onto Session.start_blind engine.main engine.session b
  refine ⟨b', hcues, ?_⟩
  rw [outcome_readMain, outcome_readMain]
  show (resultOf (engine.main.step Session.start (engine.session.onto b)).failure,
    ({ main := (engine.main.step Session.start (engine.session.onto b)).reader
       session := (engine.main.step Session.start (engine.session.onto b)).session } : Engine)) = _
  rw [hstep]
  rfl

/-- The turn of a new scene does not. -/
theorem readNewScene : Blind Part.readNewScene := by
  refine bind beginScene fun began => ?_
  cases began with
  | false => exact pure ()
  | true => exact readMain

/-- The turn of a background script does not. -/
theorem readBackground (index : Nat) : Blind (Part.readBackground index) := by
  intro engine b
  have hpending : (engine.onto b).session.pendingScene = engine.session.pendingScene := rfl
  have hbackground : (engine.onto b).session.background = engine.session.background := rfl
  rw [outcome_readBackground, outcome_readBackground, hpending, hbackground]
  by_cases pending : engine.session.pendingScene.isSome
  · rw [if_pos pending, if_pos pending]
    exact ⟨b, rfl, rfl⟩
  · rw [if_neg pending, if_neg pending]
    rcases engine.session.background.checkOut? index with _ | ⟨reader, background⟩
    · exact ⟨b, rfl, rfl⟩
    · obtain ⟨b', hcues, hstep⟩ := Reader.step_onto Session.start_blind reader
        { engine.session with background } b
      refine ⟨b', hcues, ?_⟩
      have hout : ({ (engine.onto b).session with background } : Session) =
        ({ engine.session with background } : Session).onto b := rfl
      dsimp only
      rw [hout, hstep]
      rfl

/-- What is waited for does not depend on a backlog. -/
theorem waiting : Blind (MonadState.modifyGet Engine.waiting : Part Waiting) := by
  refine modifyGet fun engine b => ⟨b, rfl, ?_⟩
  have hheld : (engine.onto b).session.heldBy = _ := engine.session.heldBy_onto b
  unfold Engine.waiting
  rw [hheld]
  rcases engine.session.heldBy with ⟨_ | _, _⟩ <;> rfl

end Blind

/-- Up to the cues, no part of a frame looks at a backlog. -/
theorem Blind.beforeCues (signal : Option Signal) : Blind (Part.beforeCues signal) := by
  refine bind (optionForM receive signal) fun _ => bind beginScene fun _ => bind runTimers fun _ =>
    bind beginScene fun _ => bind readMain fun _ => bind readNewScene fun _ => ?_
  refine look (fun _ _ => rfl) fun engine => ?_
  exact bind (forM readBackground _) fun _ => bind readNewScene fun _ =>
    bind (change fun _ _ => rfl) fun _ => waiting

end Part

/-! ## Frames -/

/-- A frame on top of a backlog ends as it does without, and has the cues of the backlog before its
own. -/
theorem tick_onto (engine : Engine) (b : Backlog) (signal : Option Signal) :
    ∃ b' : Backlog,
      ((engine.onto b).tick signal).2 = (engine.tick signal).2.onto b' ∧
      ((engine.onto b).tick signal).1.map Prod.snd = (engine.tick signal).1.map Prod.snd ∧
      cuesAfter ((engine.onto b).tick signal) = b.cues ++ cuesAfter (engine.tick signal) := by
  obtain ⟨b', hcues, hbefore⟩ := Part.Blind.beforeCues signal engine b
  rw [tick_eq, tick_eq, Part.frame_eq, Part.outcome_bind, Part.outcome_bind, hbefore]
  rcases (Part.beforeCues signal).outcome engine with ⟨failure | waiting, after⟩
  · refine ⟨b', rfl, rfl, ?_⟩
    show b'.cues ++ after.session.cues = _
    rw [hcues]
    rfl
  · -- Handing out cues leaves none in the backlog.
    refine ⟨{ b' with cues := [] }, rfl, rfl, ?_⟩
    show b'.cues ++ after.session.cues = _
    rw [hcues]
    rfl

/-! ## What a host sees -/

/-- A host observes the same on top of a backlog. -/
theorem observe_onto (engine : Engine) (b : Backlog) (signal : Option Signal) :
    ∃ b' : Backlog,
      (engine.onto b).observe signal =
        ((engine.observe signal).1, (engine.observe signal).2.onto b') := by
  obtain ⟨b', hafter, hresult, hcues⟩ := engine.tick_onto b signal
  have hlength : (engine.onto b).session.cues.length = b.cues.length + engine.session.cues.length :=
    List.length_append
  refine ⟨b', ?_⟩
  unfold observe
  dsimp only
  rw [hafter, hresult, hcues, hlength, ← List.drop_drop, List.drop_left]

/-- What a host does for a frame: it sets variables, tells the time and the names to draw, and may
hand in a signal. -/
structure Turn where
  /-- The variables that it sets. -/
  writes : List (String × String) := []
  /-- The time. -/
  clock : Nat := 0
  /-- The names that are drawn for blocks without one. -/
  freshNames : List String := []
  /-- The signal. -/
  signal : Option Signal := none

/-- Two turns that differ at most in the time. -/
structure Turn.SameButTime (turn turn' : Turn) : Prop where
  writes : turn'.writes = turn.writes
  freshNames : turn'.freshNames = turn.freshNames
  signal : turn'.signal = turn.signal

/-- The engine with a variable set for each pair of a name and a value. -/
def writeAll (engine : Engine) (writes : List (String × String)) : Engine :=
  writes.foldl (fun engine write => engine.write (.store write.1 write.2)) engine

/-- The engine at the beginning of a turn. -/
def prepare (engine : Engine) (turn : Turn) : Engine :=
  ((engine.writeAll turn.writes).write (.time turn.clock)).write (.freshNames turn.freshNames)

/-- The observations of turn after turn. -/
def observeAll (engine : Engine) : List Turn → List Observation
  | [] => []
  | turn :: turns =>
    let (seen, after) := (engine.prepare turn).observe turn.signal
    seen :: after.observeAll turns

/-- A change of an engine that has nothing to do with the variables may as well come after they are
set. -/
theorem writeAll_comm {f : Engine → Engine}
    (keeps : ∀ engine, (f engine).session.store = engine.session.store)
    (comm : ∀ engine store, { f engine with session := { (f engine).session with store } } =
      f { engine with session := { engine.session with store } })
    (engine : Engine) (writes : List (String × String)) :
    (f engine).writeAll writes = f (engine.writeAll writes) := by
  refine List.foldl_hom f fun engine write => ?_
  show ((f engine).setVariable? write.1 write.2).getD (f engine) =
    f ((engine.setVariable? write.1 write.2).getD engine)
  unfold setVariable?
  rw [keeps]
  cases engine.session.store.set? write.1 write.2 with
  | none => rfl
  | some store => exact comm engine store

/-- The time of a turn goes to the backlog. -/
theorem prepare_onto {turn turn' : Turn} (same : turn.SameButTime turn') (engine : Engine)
    (b : Backlog) :
    (engine.onto b).prepare turn' = (engine.prepare turn).onto { b with clock := turn'.clock } := by
  unfold prepare
  rw [same.writes, same.freshNames,
    writeAll_comm (f := (·.onto b)) (fun _ => rfl) (fun _ _ => rfl)]
  rfl

/-- Names that were to be drawn before are replaced by those of the first turn. -/
theorem observeAll_withFreshNames (engine : Engine) (names : List String) (turns : List Turn) :
    (engine.withFreshNames names).observeAll turns = engine.observeAll turns := by
  cases turns with
  | nil => rfl
  | cons turn turns =>
    have hprepare : (engine.withFreshNames names).prepare turn = engine.prepare turn := by
      unfold prepare
      rw [writeAll_comm (f := (·.withFreshNames names)) (fun _ => rfl) (fun _ _ => rfl)]
      rfl
    rw [observeAll, observeAll, hprepare]

/-- A host does not see a backlog either, turn after turn. -/
theorem observeAll_onto {turns turns' : List Turn}
    (same : List.Forall₂ Turn.SameButTime turns turns') (engine : Engine) (b : Backlog) :
    (engine.onto b).observeAll turns' = engine.observeAll turns := by
  induction same generalizing engine b with
  | nil => rfl
  | cons head rest ih =>
    rw [observeAll, observeAll, prepare_onto head, head.signal]
    obtain ⟨b', hobserve⟩ := observe_onto (engine.prepare _) { b with clock := _ } _
    rw [hobserve]
    dsimp only
    rw [ih]

/-! ## The beginning of a scene -/

/-- Two engines that agree in what a scene leaves behind, and in their story and settings. -/
structure Agree (engine engine' : Engine) : Prop where
  settings : engine'.session.settings = engine.session.settings
  story : engine'.session.story = engine.session.story
  store : engine'.session.store = engine.session.store
  dialog : engine'.session.dialog = engine.session.dialog
  manual : engine'.session.pause.manual = engine.session.pause.manual
  displayWidth : engine'.session.stage.displayWidth = engine.session.stage.displayWidth
  displayHeight : engine'.session.stage.displayHeight = engine.session.stage.displayHeight
  coverActive : engine'.session.stage.coverActive = engine.session.stage.coverActive

instance (engine engine' : Engine) : Decidable (Agree engine engine') :=
  decidable_of_iff
    (engine'.session.settings = engine.session.settings ∧
      engine'.session.story = engine.session.story ∧
      engine'.session.store = engine.session.store ∧
      engine'.session.dialog = engine.session.dialog ∧
      engine'.session.pause.manual = engine.session.pause.manual ∧
      engine'.session.stage.displayWidth = engine.session.stage.displayWidth ∧
      engine'.session.stage.displayHeight = engine.session.stage.displayHeight ∧
      engine'.session.stage.coverActive = engine.session.stage.coverActive)
    ⟨fun ⟨h₁, h₂, h₃, h₄, h₅, h₆, h₇, h₈⟩ => ⟨h₁, h₂, h₃, h₄, h₅, h₆, h₇, h₈⟩,
      fun ⟨h₁, h₂, h₃, h₄, h₅, h₆, h₇, h₈⟩ => ⟨h₁, h₂, h₃, h₄, h₅, h₆, h₇, h₈⟩⟩

/-- The beginning of a scene, without anything that scripts cannot see. -/
def bareScene (engine : Engine) (scene : SceneRef) : Engine where
  main := .ofScene scene
  session := { engine.session.enterScene scene with cues := [] }

/-- A scene that begins is its bare beginning on top of a backlog. -/
theorem enterScene_eq_bareScene_onto (engine : Engine) (scene : SceneRef) :
    ∃ b : Backlog, engine.enterScene scene = (engine.bareScene scene).onto b := by
  refine
    ⟨⟨(engine.session.enterScene scene).history, engine.session.clock, engine.session.cues⟩, ?_⟩
  simp [enterScene, bareScene, onto, Session.onto, Session.enterScene, Session.record]

/-- Two engines that agree begin a scene alike, but for a backlog and for names to draw. -/
theorem Agree.enterScene {engine engine' : Engine} (agree : Agree engine engine')
    (idle : engine.session.pendingScene = none) (idle' : engine'.session.pendingScene = none)
    (scene : SceneRef) :
    ∃ b : Backlog, engine'.enterScene scene =
      ((engine.bareScene scene).onto b).withFreshNames engine'.session.freshNames := by
  refine
    ⟨⟨(engine'.session.enterScene scene).history, engine'.session.clock, engine'.session.cues⟩, ?_⟩
  simp [Engine.enterScene, bareScene, onto, Session.onto, Session.enterScene, Session.record,
    withFreshNames, Stage.clear, agree.settings, agree.story, agree.store, agree.dialog,
    agree.manual, agree.displayWidth, agree.displayHeight, agree.coverActive, idle, idle']

/-- A scene is isolated from what was before it. Take two engines that agree in the variables, the
dialog, the pause by the host, the cover, the display, the story and the settings, with no scene to
begin. A scene that is there begins in both, and from then on turns that differ at most in the time
show the same new cues, the same waiting and the same failures, frame by frame. -/
theorem scene_isolated_from_the_past {engine engine' : Engine} (agree : Agree engine engine')
    (idle : engine.session.pendingScene = none) (idle' : engine'.session.pendingScene = none)
    {scene : SceneRef} (found : engine.session.story.checkScene scene = .ok ()) :
    ∃ after after' : Engine,
      (Part.switchScene scene).outcome engine = (.ok (), after) ∧
      (Part.switchScene scene).outcome engine' = (.ok (), after') ∧
      ∀ turns turns' : List Turn, List.Forall₂ Turn.SameButTime turns turns' →
        after'.observeAll turns' = after.observeAll turns := by
  refine ⟨engine.enterScene scene, engine'.enterScene scene, ?_, ?_, ?_⟩
  · rw [Part.outcome_switchScene, found]
  · rw [Part.outcome_switchScene, agree.story, found]
  · intro turns turns' same
    obtain ⟨b, hb⟩ := engine.enterScene_eq_bareScene_onto scene
    obtain ⟨b', hb'⟩ := agree.enterScene idle idle' scene
    have refl : List.Forall₂ Turn.SameButTime turns turns :=
      List.forall₂_same.2 fun _ _ => ⟨rfl, rfl, rfl⟩
    calc (engine'.enterScene scene).observeAll turns'
        = ((engine.bareScene scene).onto b').observeAll turns' := by
          rw [hb', observeAll_withFreshNames]
      _ = (engine.bareScene scene).observeAll turns := observeAll_onto same _ _
      _ = (engine.enterScene scene).observeAll turns := by
          rw [hb, observeAll_onto refl]

/-- A story with a scene that leaves much behind when its last line fails. -/
def noisyStreet : Story where
  startup := some ⟨"night", "street"⟩
  chapters := .ofEntries [("night", {
    scenes := .ofEntries [
      ("street", "<play_music: rain>\n<after: 1, chime>\n<call: lamp>\n<scene: dusk, harbour>"),
      ("garden", "<play_sound: owl>\n<rest: 2>\n<play_sound: wind>")] })]
  reusables := .ofEntries [("chime", "<play_sound: bell>"), ("lamp", "<play_sound: spark>")]

/-- Whether the street was walked or not, the garden sounds the same: neither the cues nor the timer
of the street are noticed there. -/
theorem garden_isolated_from_noisyStreet :
    ∃ engine engine' : Engine, Reachable noisyStreet {} engine ∧ Reachable noisyStreet {} engine' ∧
      engine.session.cues.length = 0 ∧ engine'.session.cues.length = 2 ∧
      engine.session.timers ≠ engine'.session.timers ∧
      engine'.session.background.names = ["lamp"] ∧
      ∃ after after' : Engine,
        (Part.switchScene ⟨"night", "garden"⟩).outcome engine = (.ok (), after) ∧
        (Part.switchScene ⟨"night", "garden"⟩).outcome engine' = (.ok (), after') ∧
        after'.observeAll [{ clock := 7 }, { clock := 8 }] = after.observeAll [{}, {}] ∧
        (after.observeAll [{}, {}]).map (·.cues) = [[.playAudio .fx "owl" false], []] := by
  let new : Engine := .opening noisyStreet {} ⟨"night", "street"⟩
  have created : Reachable noisyStreet {} new := .create (by decide +kernel)
  -- One evaluation of the frame for all that is said of the engine after it.
  obtain ⟨fails, cues, timers, names, idle, agree⟩ :
      (new.tick none).1 = .error (.story (.unknownChapter "dusk")) ∧
      (new.tick none).2.session.cues.length = 2 ∧
      new.session.timers ≠ (new.tick none).2.session.timers ∧
      (new.tick none).2.session.background.names = ["lamp"] ∧
      (new.tick none).2.session.pendingScene = none ∧
      Agree new (new.tick none).2 := by decide +kernel
  have walked : Reachable noisyStreet {} (new.tick none).2 := .tick created none (by simp [fails])
  have found : new.session.story.checkScene ⟨"night", "garden"⟩ = .ok () := by decide +kernel
  have sounds : ((new.enterScene ⟨"night", "garden"⟩).observeAll [{}, {}]).map (·.cues) =
    [[.playAudio .fx "owl" false], []] := by decide +kernel
  obtain ⟨after, after', begun, begun', same⟩ := scene_isolated_from_the_past agree rfl idle found
  obtain rfl : new.enterScene ⟨"night", "garden"⟩ = after := by
    rw [Part.outcome_switchScene, found] at begun
    exact (Prod.mk.inj begun).2
  exact ⟨new, (new.tick none).2, created, walked, rfl, cues, timers, names, _, after',
    begun, begun', same _ _ (.cons ⟨rfl, rfl, rfl⟩ (.cons ⟨rfl, rfl, rfl⟩ .nil)), sounds⟩

end Engine

end VisualNovel

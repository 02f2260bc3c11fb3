import VisualNovel.Proofs.Termination

/-!
# Facts that a frame keeps

What holds of every frame, for facts of the engine that may look at how often something was done:
that no scene has begun, for one. The frame is followed in the form in which scenes and readings are
counted. `Evaluation.Ensures` is a logic of evaluations like that of the parts of a frame,
`TallyRules` lists what the parts of a frame have to show, and `TallyRules.ensures_frame` is the
walk through all of them.

The fact may depend on the failure that ended the frame: `P none` is what holds between the parts,
and `P (some failure)` what holds of the engine that a failure leaves.
-/

namespace VisualNovel

/-! ## Evaluations with a count -/

namespace Engine.Evaluation

variable {α β : Type}

/-- From every engine and count with `P`, the evaluation ends with `Q` or fails with `E`. -/
def Ensures (P : Engine → Tally → Prop) (evaluation : Evaluation α) (Q : α → Engine → Tally → Prop)
    (E : Failure → Engine → Tally → Prop) : Prop :=
  ∀ engine tally engine' tally', P engine tally →
    (∀ a, evaluation engine tally (.ok a) engine' tally' → Q a engine' tally') ∧
      ∀ failure, evaluation engine tally (.error failure) engine' tally' → E failure engine' tally'

/-- The evaluation goes on with `P none`, or fails with `P (some failure)`. -/
abbrev Maintains (P : Option Failure → Engine → Tally → Prop) (evaluation : Evaluation α) : Prop :=
  Ensures (P none) evaluation (fun _ => P none) (fun failure => P (some failure))

namespace Ensures

variable {P : Engine → Tally → Prop} {Q : α → Engine → Tally → Prop}
  {E : Failure → Engine → Tally → Prop} {evaluation : Evaluation α}

/-- What does nothing ends with what held before. -/
theorem pure {a : α} (h : ∀ engine tally, P engine tally → Q a engine tally) :
    Ensures P (Pure.pure a) Q E := by
  intro engine tally engine' tally' hP
  refine ⟨?_, ?_⟩
  · rintro _ ⟨⟨⟩, rfl, rfl⟩
    exact h engine' tally' hP
  · rintro _ ⟨⟨⟩, -, -⟩

/-- One evaluation after another. -/
theorem bind {next : α → Evaluation β} {R : β → Engine → Tally → Prop}
    (h : Ensures P evaluation Q E) (h' : ∀ a, Ensures (Q a) (next a) R E) :
    Ensures P (evaluation >>= next) R E := by
  intro engine tally engine' tally' hP
  refine ⟨?_, ?_⟩
  · rintro b (⟨_, -, ⟨⟩⟩ | ⟨a, middle, count, first, second⟩)
    have hQ := (h engine tally middle count hP).1 a first
    exact (h' a middle count engine' tally' hQ).1 b second
  · rintro failure (⟨_, first, ⟨⟩⟩ | ⟨a, middle, count, first, second⟩)
    · exact (h engine tally engine' tally' hP).2 failure first
    · have hQ := (h engine tally middle count hP).1 a first
      exact (h' a middle count engine' tally' hQ).2 failure second

/-- A part that counts nothing does what it does without a count. -/
theorem ofPart {part : Part α}
    (h : ∀ tally, part.Ensures (P · tally) (fun a => (Q a · tally))
      (fun failure => (E failure · tally))) :
    Ensures P (.ofPart part) Q E := by
  intro engine tally engine' tally' hP
  refine ⟨?_, ?_⟩
  · rintro a ⟨hout, rfl⟩
    exact (h tally' engine hP).1 a engine' hout
  · rintro failure ⟨hout, rfl⟩
    exact (h tally' engine hP).2 failure engine' hout

/-- A change of the session. -/
theorem change {f : Session → Session} {P' : Engine → Tally → Prop}
    (hf : ∀ engine tally, P engine tally → P' { engine with session := f engine.session } tally) :
    Ensures P (.ofPart (.change f)) (fun _ => P') E :=
  .ofPart fun tally => .of_outcome (Part.outcome_change f) (fun engine _ hP _ => hf engine tally hP)
    fun _ _ _ failed => by cases failed

/-- An effect that is carried out. -/
theorem perform {f : Session → Effect} {R : Option Failure → Engine → Tally → Prop}
    (hf : ∀ engine tally, P engine tally →
      R ((f engine.session).perform Session.start).2
        { engine with session := ((f engine.session).perform Session.start).1 } tally) :
    Ensures P (.perform f) (fun _ => R none) (fun failure => R (some failure)) := by
  rw [perform_eq]
  exact .ofPart fun tally => .of_result (Q := fun failure => (R failure · tally))
    (Part.outcome_perform f) fun engine hP => hf engine tally hP

/-- A look at the engine. -/
theorem get :
    Ensures P (.ofPart MonadState.get) (fun seen engine tally => seen = engine ∧
      P engine tally) E :=
  .ofPart fun _ => .get

/-- A part for each element of a list. -/
theorem forM {R : Option Failure → Engine → Tally → Prop} {body : β → Evaluation Unit}
    (h : ∀ b, Maintains R (body b)) (list : List β) : Maintains R (list.forM body) := by
  induction list with
  | nil => exact pure fun _ _ hP => hP
  | cons b list ih => exact bind (h b) fun _ => ih

end Ensures

/-! ## Frames with a count -/

/-- What the parts of a frame have to show, for a fact of the engine and the count, given the
failure that ended the frame. -/
structure TallyRules (P : Option Failure → Engine → Tally → Prop) : Prop where
  /-- The timers run. -/
  timers {engine : Engine} {tally : Tally} (timers : Timers) :
    P none engine tally → P none { engine with session := { engine.session with timers } } tally
  /-- A script is started. -/
  launch {engine : Engine} {tally : Tally} (launch : Launch) :
    P none engine tally →
      P (engine.session.start launch).2
        { engine with session := (engine.session.start launch).1 } tally
  /-- A scene that is to begin begins. -/
  scene {engine : Engine} {tally : Tally} {scene : SceneRef} :
    P none engine tally → engine.session.pendingScene = some scene →
      engine.session.story.checkScene scene = .ok () →
      P none (engine.unpend.enterScene scene) { tally with scenes := tally.scenes + 1 }
  /-- A scene that is to begin is missing. -/
  missing {engine : Engine} {tally : Tally} {scene : SceneRef} {error : StoryError} :
    P none engine tally → engine.session.pendingScene = some scene →
      engine.session.story.checkScene scene = .error error →
      P (some (.story error)) engine.unpend tally
  /-- The main script is read. -/
  main {engine : Engine} {tally : Tally} {reading : Reading} :
    P none engine tally → reading = engine.main.step Session.start engine.session →
      P reading.failure ⟨reading.reader,
        reading.session⟩ { tally with readings := tally.readings + 1 }
  /-- The script in a slot is read. -/
  slot {engine : Engine} {tally : Tally} {index : Nat} {reader : Reader} {background : Background}
    {reading : Reading} :
    P none engine tally → engine.session.background.checkOut? index = some (reader, background) →
      reading = reader.step Session.start { engine.session with background } →
      P reading.failure { engine with session := (reading.checkIn index).1 } tally
  /-- The scripts that are over lose their slots. -/
  purge {engine : Engine} {tally : Tally} :
    P none engine tally →
      P none { engine with
          session := { engine.session with background := engine.session.background.purge } } tally
  /-- A look at what holds the session. -/
  look {engine : Engine} {tally : Tally} :
    P none engine tally → P none { engine with session := engine.session.heldBy.2 } tally

namespace TallyRules

variable {P : Option Failure → Engine → Tally → Prop} {P₀ : Engine → Tally → Prop}

/-- A signal is taken, if there is one. -/
theorem ensures_receive {signal : Option Signal}
    (idle : signal = none → ∀ engine tally, P₀ engine tally → P none engine tally)
    (received : ∀ signal', signal = some signal' → ∀ engine tally, P₀ engine tally →
      P ((signal'.effect engine.session).perform Session.start).2
        { engine with session := ((signal'.effect engine.session).perform Session.start).1 }
        tally) :
    Ensures P₀ (signal.forM Evaluation.receive) (fun _ => P none)
      (fun failure => P (some failure)) := by
  cases signal with
  | none => exact .pure (idle rfl)
  | some signal =>
    show Ensures P₀ (Evaluation.receive signal) _ _
    rw [receive_eq, Part.receive_eq, ← perform_eq]
    exact .perform fun engine tally hP => received signal rfl engine tally hP

variable (h : TallyRules P)

include h

/-- The beginning of a scene goes on with `P`. -/
theorem maintains_beginScene : Maintains P Evaluation.beginScene := by
  refine .bind .get fun seen => ?_
  rcases pending : seen.session.pendingScene with _ | scene
  · refine .pure ?_
    rintro _ _ ⟨-, hP⟩
    exact hP
  · -- The scene is forgotten before it begins, so that the rule is about the engine that was seen.
    have forget : Ensures (fun engine tally => seen = engine ∧ P none engine tally)
        (.ofPart (.change fun session => { session with pendingScene := none }))
        (fun _ engine tally => engine = seen.unpend ∧ P none seen tally)
        (fun failure => P (some failure)) := by
      refine .change ?_
      rintro _ _ ⟨rfl, hP⟩
      exact ⟨rfl, hP⟩
    have begins : Ensures (fun engine tally => engine = seen.unpend ∧ P none seen tally)
        (Evaluation.switchScene scene) (fun _ => P none) (fun failure => P (some failure)) := by
      rintro _ tally engine' tally' ⟨rfl, hP⟩
      unfold Evaluation.switchScene
      rw [Part.outcome_switchScene]
      have same : seen.unpend.session.story = seen.session.story := rfl
      rcases found : seen.session.story.checkScene scene with error | ⟨⟩
      · rw [same, found]
        refine ⟨?_, ?_⟩
        · rintro _ ⟨⟨⟩, -⟩
        · rintro _ ⟨⟨⟩, rfl⟩
          exact h.missing hP pending found
      · rw [same, found]
        refine ⟨?_, ?_⟩
        · rintro _ ⟨⟨⟩, rfl⟩
          exact h.scene hP pending found
        · rintro _ ⟨⟨⟩, -⟩
    exact .bind forget fun _ => .bind begins fun _ => .pure fun _ _ hP => hP

/-- The timers go on with `P`. -/
theorem maintains_runTimers : Maintains P Evaluation.runTimers := by
  refine .bind .get fun seen => ?_
  have change : Ensures (fun engine tally => seen = engine ∧ P none engine tally)
      (.ofPart (.change fun session => { session with timers := seen.session.timers.tick.2 }))
      (fun _ => P none) (fun failure => P (some failure)) := by
    refine .change ?_
    rintro _ _ ⟨-, hP⟩
    exact h.timers _ hP
  refine .bind change fun _ => .forM (fun launch => ?_) _
  exact .perform fun _ _ hP => h.launch launch hP

/-- The turn of the main script goes on with `P`. -/
theorem maintains_readMain : Maintains P Evaluation.readMain := by
  intro engine tally engine' tally' hP
  have read := h.main hP rfl
  refine ⟨?_, ?_⟩
  · intro _ hread
    obtain ⟨hout, rfl⟩ := readMain_iff.1 hread
    rw [Part.outcome_readMain] at hout
    obtain ⟨ok, rfl⟩ := Prod.mk.inj hout
    rwa [Part.resultOf_eq_ok.1 ok] at read
  · intro _ hread
    obtain ⟨hout, rfl⟩ := readMain_iff.1 hread
    rw [Part.outcome_readMain] at hout
    obtain ⟨failed, rfl⟩ := Prod.mk.inj hout
    rwa [Part.resultOf_eq_error.1 failed] at read

/-- The turn of a new scene goes on with `P`. -/
theorem maintains_readNewScene : Maintains P Evaluation.readNewScene := by
  refine .bind h.maintains_beginScene fun began => ?_
  cases began with
  | false => exact .pure fun _ _ hP => hP
  | true => exact h.maintains_readMain

/-- The turn of a background script goes on with `P`. -/
theorem maintains_readBackground (index : Nat) : Maintains P (Evaluation.readBackground index) := by
  rw [readBackground_eq]
  refine .ofPart fun tally => .readBackground (fun _ hP _ => hP) (fun _ hP _ => hP) ?_
  intro engine reader background reading hP _ hout hreading
  have read := h.slot hP hout hreading
  refine ⟨fun ok => ?_, fun failure failed => ?_⟩
  · rwa [ok] at read
  · rwa [failed] at read

/-- The look at what is waited for goes on with `P`. -/
theorem maintains_waiting :
    Maintains P (.ofPart (MonadState.modifyGet Engine.waiting : Part Waiting)) := by
  refine .ofPart fun tally => .modifyGet fun engine hP => ?_
  rw [waiting_engine]
  exact h.look hP

/-- A frame keeps the fact until its cues are handed out. -/
theorem ensures_frame {signal : Option Signal}
    (received : Ensures P₀ (signal.forM Evaluation.receive) (fun _ => P none)
      (fun failure => P (some failure))) :
    Ensures P₀ (Evaluation.frame signal)
      (fun shown engine' tally => ∃ last, P none last tally ∧ last.takeCues = (shown.1, engine'))
      (fun failure => P (some failure)) := by
  refine .bind received fun _ => .bind h.maintains_beginScene fun _ => ?_
  refine .bind h.maintains_runTimers fun _ => .bind h.maintains_beginScene fun _ => ?_
  refine .bind h.maintains_readMain fun _ => .bind h.maintains_readNewScene fun _ => ?_
  have look : Maintains P (.ofPart MonadState.get) :=
    .ofPart fun _ => Part.Ensures.get.imp (fun _ hP => hP) (fun _ _ seen => seen.2)
      fun _ _ failed => failed
  refine .bind look fun _ => .bind (.forM h.maintains_readBackground _) fun _ => ?_
  refine .bind h.maintains_readNewScene fun _ => ?_
  refine .bind (.change fun _ _ hP => h.purge hP) fun _ => ?_
  refine .bind h.maintains_waiting fun waiting => ?_
  have handOut : Ensures (P none) (.ofPart (MonadState.modifyGet takeCues : Part (List Cue)))
      (fun cues engine' tally => ∃ last, P none last tally ∧ last.takeCues = (cues, engine'))
      (fun failure => P (some failure)) :=
    .ofPart fun tally => .modifyGet fun engine hP => ⟨engine, hP, rfl⟩
  exact .bind handOut fun _ => .pure fun _ _ handed => handed

/-- The engine after a frame is one with the fact up to its cues, which are handed out unless the
frame fails. -/
theorem exists_last {engine after : Engine} {signal : Option Signal} {tally : Tally}
    {result : Except Failure (List Cue × Waiting)}
    (received : Ensures (fun e count => e = engine ∧ count = {}) (signal.forM Evaluation.receive)
      (fun _ => P none) (fun failure => P (some failure)))
    (evaluated : Evaluation.frame signal engine {} result after tally) :
    ∃ failure last, P failure last tally ∧ cuesAfter (result, after) = last.session.cues ∧
      ∃ cues, after = { last with session := { last.session with cues } } := by
  obtain ⟨ok, failed⟩ := h.ensures_frame received engine {} after tally ⟨rfl, rfl⟩
  rcases result with failure | ⟨cues, waiting⟩
  · exact ⟨some failure, after, failed failure evaluated, rfl, _, rfl⟩
  · obtain ⟨last, hP, handed⟩ := ok _ evaluated
    cases handed
    exact ⟨none, last, hP, rfl, _, rfl⟩

end TallyRules

/-! ## Frames without a scene -/

/-- One evaluation after another that did not fail. -/
theorem bind_ok {evaluation : Evaluation α} {next : α → Evaluation β} {e e' e'' : Engine}
    {t t' t'' : Tally} {a : α} {result : Except Failure β} (h : evaluation e t (.ok a) e' t')
    (h' : next a e' t' result e'' t'') : (evaluation >>= next) e t result e'' t'' :=
  .inr ⟨a, e', t', h, h'⟩

/-- Where no scene is to begin, none begins. -/
theorem beginScene_of_none {e : Engine} (h : e.session.pendingScene = none) (t : Tally) :
    Evaluation.beginScene e t (.ok false) e t := by
  refine bind_ok (a := e) ⟨rfl, rfl⟩ ?_
  rw [h]
  exact ⟨rfl, rfl, rfl⟩

/-- Whether no part of a frame fails, and no scene is to begin in any of the four places where one
could. -/
def beginsNoScene (signal : Option Signal) (engine : Engine) : Bool :=
  let received := (signal.forM Part.receive).outcome engine
  let timed := Part.runTimers.outcome received.2
  let read := Part.readMain.outcome timed.2
  let background := (List.range read.2.session.background.size).forM Part.readBackground
  [received, timed, read, background.outcome read.2].all fun outcome =>
    outcome.1.isOk && outcome.2.session.pendingScene.isNone

/-- Such a frame has an evaluation that counts no scene. -/
theorem exists_frame_of_beginsNoScene {signal : Option Signal} {engine : Engine}
    (h : beginsNoScene signal engine = true) :
    ∃ tally, Evaluation.frame signal engine {} (engine.tick signal).1 (engine.tick signal).2 tally ∧
      tally.scenes = 0 := by
  simp only [beginsNoScene, List.all_cons, List.all_nil, Bool.and_true, Bool.and_eq_true,
    Option.isNone_iff_eq_none] at h
  obtain ⟨⟨ok₁, none₁⟩, ⟨ok₂, none₂⟩, ⟨ok₃, none₃⟩, ok₄, none₄⟩ := h
  have ended {part : Part Unit} {e : Engine} (ok : (part.outcome e).1.isOk = true) :
      (part.outcome e).1 = .ok () := by
    rcases hout : (part.outcome e).1 with failure | ⟨⟩
    · rw [hout] at ok
      cases ok
    · rfl
  -- Each of the four parts is evaluated with the count that the one before it left.
  obtain ⟨t₁, h₁⟩ := (Agrees.optionForM Agrees.receive signal).total engine {}
  have scenes₁ := ((Agrees.optionForM Agrees.receive signal).sound h₁).2.1
  rw [ended ok₁] at h₁
  obtain ⟨t₂, h₂⟩ := Agrees.runTimers.total _ t₁
  have scenes₂ := (Agrees.runTimers.sound h₂).2.1
  rw [ended ok₂] at h₂
  obtain ⟨t₃, h₃⟩ := Agrees.readMain.total _ t₂
  have scenes₃ := (Agrees.readMain.sound h₃).2.1
  rw [ended ok₃] at h₃
  obtain ⟨t₄, h₄⟩ := (Agrees.forM Agrees.readBackground _).total _ t₃
  have scenes₄ := ((Agrees.forM Agrees.readBackground _).sound h₄).2.1
  rw [ended ok₄] at h₄
  have skip {e : Engine} (h : e.session.pendingScene = none) (t : Tally) :
      Evaluation.readNewScene e t (.ok ()) e t := bind_ok (beginScene_of_none h t) ⟨rfl, rfl, rfl⟩
  -- Put together, with no scene in any of the places between them, they are the frame.
  have whole : ∃ result after, Evaluation.frame signal engine {} result after t₄ := by
    apply Exists.intro
    apply Exists.intro
    apply bind_ok h₁
    apply bind_ok (beginScene_of_none none₁ t₁)
    apply bind_ok h₂
    apply bind_ok (beginScene_of_none none₂ t₂)
    apply bind_ok h₃
    apply bind_ok (skip none₃ t₃)
    apply bind_ok ⟨rfl, rfl⟩
    apply bind_ok h₄
    apply bind_ok (skip none₄ t₄)
    exact bind_ok ⟨rfl, rfl⟩ (bind_ok ⟨rfl, rfl⟩ (bind_ok ⟨rfl, rfl⟩ ⟨rfl, rfl, rfl⟩))
  obtain ⟨result, after, evaluated⟩ := whole
  have computed : engine.tick signal = (result, after) := ((Agrees.frame signal).sound evaluated).1
  refine ⟨t₄, ?_, by simp at scenes₁; omega⟩
  rw [computed]
  exact evaluated

/-! ## Readers in their places -/

/-- The reader of the main script reads a main script. -/
theorem isMain_tallyRules : TallyRules fun _ engine _ => engine.main.role.isMain = true where
  timers _ isMain := isMain
  launch _ isMain := isMain
  scene _ _ _ := rfl
  missing isMain _ _ := isMain
  main := by
    rintro engine _ _ isMain rfl
    rwa [Reader.step_role]
  slot isMain _ _ := isMain
  purge isMain := isMain
  look isMain := isMain

end Engine.Evaluation

/-- The main reader of an engine that a story can come to reads the main script. -/
theorem Engine.Reachable.isMain {story : Story} {settings : Settings} {engine : Engine}
    (h : Reachable story settings engine) : engine.main.role.isMain = true := by
  induction h with
  | create created =>
    obtain ⟨scene, -, rfl⟩ := create_eq_ok created
    rfl
  | @tick engine _ signal _ ih =>
    obtain ⟨tally, evaluated⟩ := (Evaluation.Agrees.frame signal).total engine {}
    have received : Evaluation.Ensures (fun e count => e = engine ∧ count = {})
        (signal.forM Evaluation.receive) (fun _ e _ => e.main.role.isMain = true)
        (fun _ e _ => e.main.role.isMain = true) := by
      refine Evaluation.TallyRules.ensures_receive
        (P := fun _ e _ => e.main.role.isMain = true) ?_ ?_
      · rintro - _ _ ⟨rfl, -⟩
        exact ih
      · rintro _ - _ _ ⟨rfl, -⟩
        exact ih
    obtain ⟨_, last, isMain, -, cues, hafter⟩ :=
      Evaluation.isMain_tallyRules.exists_last received evaluated
    show ((Part.outcome (frame signal) engine).2).main.role.isMain = true
    rw [hafter]
    exact isMain
  | @write engine _ write ih => rwa [engine.write_main write]

end VisualNovel

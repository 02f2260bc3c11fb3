import VisualNovel.Proofs.Chronicle

/-!
# The course of a frame

What the log of a frame looks like. A script that is read or started speaks, obeys tags, starts
other scripts and moves slots, and nothing else happens in it (`Happening.isScripted`); only the
main script lets the frames of halts and rests pass, once each at most. Everything else happens
outside of scripts: a signal is taken, scenes begin, the timers run once, and the cues are handed
out last.

`Account.Ensures` is the logic of parts with the log so far, and `Account.Phases` is the walk
through a frame with three facts: one until the timers have run, one until the main script has been
read, and one from then on.
-/

namespace VisualNovel

/-! ## What happens in scripts -/

namespace Happening

/-- Whether it happens in a script that is read or started. -/
def isScripted : Happening → Bool
  | spoken _ => true
  | obeyed .. => true
  | started _ => true
  | refused _ => true
  | slots _ => true
  | looked => true
  | _ => false

/-- Whether it happens when a script is read, whose frames may pass. -/
def isRead : Happening → Bool
  | haltWent => true
  | restWent => true
  | happening => happening.isScripted

/-- What happens in a script happens when a script is read. -/
theorem isRead_of_isScripted {happening : Happening} (h : happening.isScripted = true) :
    happening.isRead = true := by
  cases happening with
  | haltWent => rfl
  | restWent => rfl
  | _ => exact h

/-- All of it happens in scripts. -/
def Scripted (log : List Happening) : Prop :=
  ∀ happening ∈ log, happening.isScripted = true

/-- A log without an entry happens in scripts. -/
@[simp] theorem scripted_nil : Scripted [] := by
  intro happening mem
  cases mem

/-- All of a log happens in scripts if its first entry and the others do. -/
@[simp] theorem scripted_cons {happening : Happening} {log : List Happening} :
    Scripted (happening :: log) ↔ happening.isScripted = true ∧ Scripted log :=
  List.forall_mem_cons

/-- All of two logs happens in scripts if all of each does. -/
@[simp] theorem scripted_append {log log' : List Happening} :
    Scripted (log ++ log') ↔ Scripted log ∧ Scripted log' :=
  List.forall_mem_append

/-- What does not happen in scripts is not in the log of one. -/
theorem Scripted.not_mem {log : List Happening} (h : Scripted log) {happening : Happening}
    (outside : happening.isScripted = false) : happening ∉ log := by
  intro mem
  rw [h happening mem] at outside
  cases outside

end Happening

open Happening

namespace Role

variable (role : Role) (blocks : Blocks) (s : Session)

/-- What happens at a line, until a script is started, is a line that is spoken or a tag that is
obeyed. -/
theorem forall_mem_logPlan {p : Happening → Prop} (spoken : ∀ words, p (.spoken words))
    (obeyed : ∀ isMain freshNames instruction tag, p (.obeyed isMain freshNames instruction tag))
    (raw : String) : ∀ happening ∈ role.logPlan blocks s raw, p happening := by
  unfold logPlan logFilled logTag
  split
  · simp
  · split
    · simp
    · split
      · simp
      · simp
      · split <;> simp [spoken]
      · split
        · simp
        · split <;> simp [obeyed]

/-- A line that is read happens in a script. -/
theorem logPlan_scripted (raw : String) : Scripted (role.logPlan blocks s raw) :=
  role.forall_mem_logPlan blocks s (fun _ => rfl) (fun _ _ _ _ => rfl) raw

/-- So does the look at the pauses. -/
theorem logLook_scripted : Scripted role.logLook := by
  unfold logLook
  split <;> simp [isScripted]

end Role

section scripts

variable {start : Starter} {scribe : Scribe} (h : ∀ s launch, Scripted (scribe s launch))

include h

/-- So does what an effect starts. -/
theorem Effect.log_scripted (effect : Effect) : Scripted (effect.log scribe) := by
  unfold Effect.log
  split
  · exact scripted_nil
  · exact h _ _

/-- So does a line with what it starts. -/
theorem Role.logLine_scripted (role : Role) (blocks : Blocks) (s : Session) (raw : String) :
    Scripted (role.logLine scribe blocks s raw) :=
  scripted_append.2 ⟨role.logPlan_scripted blocks s raw, Effect.log_scripted h _⟩

/-- By induction on the lines. -/
theorem Role.logLines_scripted (role : Role) (lines : List String) (blocks : Blocks) (s : Session) :
    Scripted (role.logLines start scribe lines blocks s) := by
  induction lines generalizing blocks s with
  | nil => exact scripted_nil
  | cons raw lines ih =>
    unfold logLines
    refine scripted_append.2 ⟨Role.logLine_scripted h role blocks s raw, ?_⟩
    split
    · exact ih _ _
    · refine scripted_append.2 ⟨role.logLook_scripted, ?_⟩
      split
      · exact scripted_nil
      · exact ih _ _
    · exact scripted_nil
    · exact scripted_nil

/-- No frames pass in a reusable script. -/
theorem Reader.log_scripted (reader : Reader) (background : reader.role.isMain = false)
    (s : Session) :
    Scripted (reader.log start scribe s) := by
  have advance (reader : Reader) (background : reader.role.isMain = false) :
      Scripted (reader.logAdvance start scribe s) := by
    unfold logAdvance
    rw [show reader.role.lookUp s = (false, s) by simp [Role.lookUp, background]]
    exact scripted_append.2 ⟨reader.role.logLook_scripted, Role.logLines_scripted h _ _ _ _⟩
  unfold log
  split
  · exact scripted_nil
  · split
    · exact advance reader background
    · split
      · exact scripted_nil
      · next loaded hload => exact advance loaded (load_role hload ▸ background)

end scripts

/-- By induction on the bound. -/
theorem Session.logStartWithin_scripted (bound : Nat) (s : Session) (launch : Launch) :
    Scripted (logStartWithin bound s launch) := by
  induction bound generalizing s launch with
  | zero => simp [logStartWithin, isScripted]
  | succ bound ih =>
    unfold logStartWithin
    split
    · simp [isScripted]
    · next script _ =>
      have read : Scripted ((Reader.ofScript launch script).log (startWithin bound)
          (logStartWithin bound) (s.enlist launch)) := Reader.log_scripted ih _ rfl _
      simp [isScripted, read]

/-- Nothing but scripts happens when a script is started. -/
theorem Session.logStart_scripted (s : Session) (launch : Launch) :
    Scripted (s.logStart launch) :=
  logStartWithin_scripted _ s launch

/-! ## The frames of a pause -/

namespace Reader

variable {start : Starter} {scribe : Scribe} (h : ∀ s launch, Scripted (scribe s launch))

include h

/-- The frames of halts and rests pass when a script is read. -/
theorem isRead_of_mem_log (reader : Reader) (s : Session) :
    ∀ happening ∈ reader.log start scribe s, happening.isRead = true := by
  have lines (reader : Reader) (s : Session) :
      ∀ happening ∈ reader.logProceed start scribe s, happening.isRead = true :=
    fun happening mem => isRead_of_isScripted (Role.logLines_scripted h _ _ _ _ happening mem)
  have look (role : Role) : ∀ happening ∈ role.logLook, happening.isRead = true :=
    fun happening mem => isRead_of_isScripted (role.logLook_scripted happening mem)
  have elapse (s : Session) : ∀ happening ∈ s.logElapse start scribe, happening.isRead = true := by
    unfold Session.logElapse
    refine List.forall_mem_append.2 ⟨List.forall_mem_cons.2 ⟨rfl, ?_⟩, ?_⟩
    · exact fun happening mem => isRead_of_isScripted (Effect.log_scripted h _ happening mem)
    · split <;> simp [isRead]
  have advance (reader : Reader) :
      ∀ happening ∈ reader.logAdvance start scribe s, happening.isRead = true := by
    unfold logAdvance
    refine List.forall_mem_append.2 ⟨look _, ?_⟩
    split
    · exact lines reader _
    · refine List.forall_mem_append.2 ⟨elapse _, ?_⟩
      split
      · simp
      · refine List.forall_mem_append.2 ⟨look _, ?_⟩
        split
        · simp
        · exact lines reader _
  unfold log
  split
  · simp
  · split
    · exact advance reader
    · split
      · simp
      · exact advance _

end Reader

/-! ## The logic of accounts -/

namespace Engine.Account

variable {α β : Type} {s : Session}

/-- From every engine and log so far with `P`, the part ends with `Q` or fails with `E`. The log is
that of all happenings since the session `s`. -/
def Ensures (s : Session) (P : Engine → List Happening → Prop) (x : Account α)
    (Q : α → Engine → List Happening → Prop) (E : Failure → Engine → List Happening → Prop) :
    Prop :=
  ∀ engine past, engine.session = s.replay past → P engine past →
    (∀ a engine', x.part.outcome engine = (.ok a, engine') → Q a engine' (past ++ x.log engine)) ∧
      ∀ failure engine', x.part.outcome engine = (.error failure, engine') →
        E failure engine' (past ++ x.log engine)

variable {P P' : Engine → List Happening → Prop} {Q Q' : α → Engine → List Happening → Prop}
  {E E' : Failure → Engine → List Happening → Prop} {x : Account α}

/-- The log of a part that follows goes on with the log so far. -/
theorem replay_of_outcome {engine engine' : Engine} {past : List Happening}
    {result : Except Failure α} (hs : engine.session = s.replay past)
    (hout : x.part.outcome engine = (result, engine')) :
    engine'.session = s.replay (past ++ x.log engine) := by
  rw [Session.replay_append, ← hs, x.replay, hout]

namespace Ensures

/-- What does nothing ends with what held before. -/
theorem pure {a : α} (h : ∀ engine past, P engine past → Q a engine past) :
    Ensures s P (Pure.pure a) Q E := by
  intro engine past _ hP
  refine ⟨?_, ?_⟩
  · rintro _ _ ⟨⟩
    rw [show (Pure.pure a : Account α).log engine = [] from rfl, List.append_nil]
    exact h engine past hP
  · rintro _ _ ⟨⟩

/-- One part after another. -/
theorem bind {next : α → Account β} {R : β → Engine → List Happening → Prop}
    (h : Ensures s P x Q E) (h' : ∀ a, Ensures s (Q a) (next a) R E) :
    Ensures s P (x >>= next) R E := by
  intro engine past hs hP
  obtain ⟨ok, failed⟩ := h engine past hs hP
  have hlog : (x >>= next).log engine = x.log engine ++ logNext next (x.part.outcome engine) := rfl
  rw [hlog, part_bind, Part.outcome_bind]
  rcases hout : x.part.outcome engine with ⟨failure | a, engine'⟩
  · rw [logNext, List.append_nil]
    refine ⟨?_, ?_⟩
    · rintro _ _ ⟨⟩
    · rintro _ _ ⟨⟩
      exact failed _ _ hout
  · have rest := h' a engine' _ (replay_of_outcome hs hout) (ok a engine' hout)
    rw [List.append_assoc] at rest
    exact rest

/-- Less asked of what was before, more promised of what comes after. -/
theorem imp (h : Ensures s P x Q E) (hP : ∀ engine past, P' engine past → P engine past)
    (hQ : ∀ a engine past, Q a engine past → Q' a engine past)
    (hE : ∀ failure engine past, E failure engine past → E' failure engine past) :
    Ensures s P' x Q' E' := by
  intro engine past hs hP'
  obtain ⟨ok, failed⟩ := h engine past hs (hP engine past hP')
  exact ⟨fun a e ha => hQ a e _ (ok a e ha), fun f e hf => hE f e _ (failed f e hf)⟩

/-- A look at the engine. -/
theorem get :
    Ensures s P Account.get (fun seen engine past => seen = engine ∧ P engine past) E := by
  intro engine past _ hP
  refine ⟨?_, ?_⟩
  · rintro _ _ ⟨⟩
    rw [show Account.get.log engine = [] from rfl, List.append_nil]
    exact ⟨rfl, hP⟩
  · rintro _ _ ⟨⟩

/-- A part for each element of a list, with an invariant that knows which elements are left. -/
theorem forM {body : β → Account Unit} (I : List β → Engine → List Happening → Prop)
    (step : ∀ b rest, Ensures s (I (b :: rest)) (body b) (fun _ => I rest) E) (list : List β) :
    Ensures s (I list) (list.forM body) (fun _ => I []) E := by
  induction list with
  | nil => exact pure fun _ _ h => h
  | cons b rest ih => exact bind (step b rest) fun _ => ih

/-- A part of which it is enough to know what kinds of things happen in it, for a fact of the log
that outlasts them. -/
theorem of_log {I : List Happening → Prop} {p : Happening → Prop}
    (kinds : ∀ engine, ∀ happening ∈ x.log engine, p happening)
    (step : ∀ past log, (∀ happening ∈ log, p happening) → I past → I (past ++ log)) :
    Ensures s (fun _ => I) x (fun _ _ => I) (fun _ _ => I) :=
  fun engine past _ hI =>
    ⟨fun _ _ _ => step past _ (kinds engine) hI, fun _ _ _ => step past _ (kinds engine) hI⟩

/-- The rule for a scene that is to begin: there may be none, it may be missing, or it begins. -/
theorem beginScene {Q : Bool → Engine → List Happening → Prop}
    (stays : ∀ engine past, P engine past → engine.session.pendingScene = none →
      Q false engine past)
    (missing : ∀ engine past scene error, P engine past → engine.session.pendingScene = some scene →
      engine.session.story.checkScene scene = .error error →
      E (.story error) engine.unpend (past ++ [.sceneMissing]))
    (begins : ∀ engine past scene, P engine past → engine.session.pendingScene = some scene →
      engine.session.story.checkScene scene = .ok () →
      Q true (engine.unpend.enterScene scene) (past ++ [.sceneBegan scene])) :
    Ensures s P Account.beginScene Q E := by
  intro engine past _ hP
  unfold Account.beginScene
  dsimp only
  rw [Part.outcome_beginScene]
  rcases hscene : engine.session.pendingScene with _ | scene
  · refine ⟨?_, ?_⟩
    · rintro _ _ ⟨⟩
      rw [List.append_nil]
      exact stays engine past hP hscene
    · rintro _ _ ⟨⟩
  · dsimp only
    rcases hcheck : engine.session.story.checkScene scene with error | ⟨⟩
    · refine ⟨?_, ?_⟩
      · rintro _ _ ⟨⟩
      · rintro _ _ ⟨⟩
        exact missing engine past scene error hP hscene hcheck
    · refine ⟨?_, ?_⟩
      · rintro _ _ ⟨⟩
        exact begins engine past scene hP hscene hcheck
      · rintro _ _ ⟨⟩

/-- The rule for the timers: they run, and then scripts are started, one after another, with an
invariant that knows which of them are left. -/
theorem runTimers (I : List Launch → Engine → List Happening → Prop)
    (ran : ∀ engine past, engine.session = s.replay past → P engine past →
      I engine.session.timers.tick.1 (engine.after .timersRan) (past ++ [.timersRan]))
    (starts : ∀ launch rest,
      Ensures s (I (launch :: rest)) (Account.launch launch) (fun _ => I rest) E) :
    Ensures s P Account.runTimers (fun _ => I []) E := by
  intro engine past hs hP
  have all := forM I starts engine.session.timers.tick.1 (engine.after .timersRan)
    (past ++ [.timersRan]) (by rw [Session.replay_append, ← hs]; rfl) (ran engine past hs hP)
  rw [part_forM, List.append_assoc] at all
  exact all

end Ensures

/-! ## The course of a frame -/

/-- What the parts of a frame have to show: `B` holds until the timers have run, `M` until the main
script has been read, `A` from then on, and `E` after a failure. -/
structure Phases (s : Session) (signal : Option Signal) (B M A : Engine → List Happening → Prop)
    (E : Failure → Engine → List Happening → Prop) : Prop where
  /-- The signal is taken. -/
  receive : ∀ signal', signal = some signal' → Ensures s B (receive signal') (fun _ => B) E
  /-- A scene begins before the timers run. -/
  early : Ensures s B beginScene (fun _ => B) E
  /-- The timers run. -/
  timers : Ensures s B runTimers (fun _ => M) E
  /-- A scene begins before the main script is read. -/
  late : Ensures s M beginScene (fun _ => M) E
  /-- The main script is read. -/
  main : Ensures s M readMain (fun _ => A) E
  /-- A scene begins afterwards, and its script is read. -/
  scene : Ensures s A readNewScene (fun _ => A) E
  /-- The script in a slot is read. -/
  slot : ∀ index, Ensures s A (readBackground index) (fun _ => A) E
  /-- Slots are given up. -/
  purge : Ensures s A purge (fun _ => A) E
  /-- It is told what is waited for. -/
  look : Ensures s A waiting (fun _ => A) E

/-- The end of a frame, which shows cues and what is waited for: after the past it was told what is
waited for, with `A`, and then the cues were handed out. -/
structure Closes (s : Session) (A : Engine → List Happening → Prop) (shown : List Cue × Waiting)
    (engine : Engine) (log past : List Happening) : Prop where
  /-- The fact at the end. -/
  fact : ∃ last, A last past ∧ last.session = s.replay past ∧ last.takeCues = (shown.1, engine) ∧
    ∃ seen : Engine, seen.waiting = (shown.2, last)
  /-- The cues are handed out last. -/
  log : log = past ++ [.handedOut]

/-- Through all parts of a frame. -/
theorem Phases.frame {signal : Option Signal} {B M A : Engine → List Happening → Prop}
    (h : Phases s signal B M A E) :
    Ensures s B (frame signal) (fun shown engine log => ∃ past,
      Closes s A shown engine log past) E := by
  have received : Ensures s B (signal.forM Account.receive) (fun _ => B) E := by
    cases signal with
    | none => exact .pure fun _ _ hB => hB
    | some signal => exact h.receive signal rfl
  refine .bind received fun _ => .bind h.early fun _ => .bind h.timers fun _ => ?_
  refine .bind h.late fun _ => .bind h.main fun _ => .bind h.scene fun _ =>
    .bind .get fun seen => ?_
  have slots : Ensures s (fun engine past => seen = engine ∧ A engine past)
      ((List.range seen.session.background.size).forM readBackground) (fun _ => A) E :=
    (Ensures.forM (fun _ => A) (fun index _ => h.slot index) _).imp (fun _ _ hA => hA.2)
      (fun _ _ _ hA => hA) fun _ _ _ hE => hE
  refine .bind slots fun _ => .bind h.scene fun _ => .bind h.purge fun _ => ?_
  -- What is waited for is told before the cues are handed out.
  have look : Ensures s A waiting
      (fun shown engine log => A engine log ∧ ∃ seen : Engine, seen.waiting = (shown, engine))
      E := by
    intro engine past hs hA
    have told : waiting.part.outcome engine = (.ok engine.waiting.1, engine.waiting.2) := rfl
    refine
      ⟨fun shown engine' hout => ⟨(h.look engine past hs hA).1 shown engine' hout, engine, ?_⟩, ?_⟩
    · obtain ⟨shown', after⟩ := Prod.mk.inj (told.symm.trans hout)
      exact Prod.ext (Except.ok.inj shown') after
    · intro failure engine' hout
      cases (Prod.mk.inj (told.symm.trans hout)).1
  refine .bind look fun shown => ?_
  have handOut : Ensures s
      (fun engine log => A engine log ∧ ∃ seen : Engine, seen.waiting = (shown, engine)) takeCues
      (fun cues engine log => ∃ past, Closes s A (cues, shown) engine log past) E := by
    rintro engine past hs ⟨hA, seen⟩
    refine ⟨?_, ?_⟩
    · rintro _ _ ⟨⟩
      exact ⟨past, ⟨engine, hA, hs, rfl, seen⟩, rfl⟩
    · rintro _ _ ⟨⟩
  exact .bind handOut fun _ => .pure fun _ _ closes => closes

/-- What is ensured of a frame holds of its log. -/
theorem Ensures.tick {engine : Engine} {signal : Option Signal}
    {Q : List Cue × Waiting → Engine → List Happening → Prop}
    (h : Ensures engine.session P (frame signal) Q E) (hP : P engine []) :
    (∀ cues waiting after, engine.tick signal = (.ok (cues, waiting), after) →
      Q (cues, waiting) after (engine.log signal)) ∧
    ∀ failure after, engine.tick signal = (.error failure, after) →
      E failure after (engine.log signal) := by
  have frame := h engine [] rfl hP
  rw [part_frame] at frame
  exact ⟨fun cues waiting after => frame.1 (cues, waiting) after, frame.2⟩

/-! ### What happens in the parts -/

/-- A signal is received, and what follows happens in scripts. -/
theorem eq_or_scripted_of_mem_receive {signal : Signal} {engine : Engine} :
    ∀ happening ∈ (receive signal).log engine,
      happening = .received signal ∨ happening.isScripted = true :=
  List.forall_mem_cons.2
    ⟨.inl rfl, fun happening mem =>
      .inr (Effect.log_scripted Session.logStart_scripted _ happening mem)⟩

/-- Where a scene is to begin, it begins, or it is missing. -/
theorem eq_of_mem_beginScene {engine : Engine} :
    ∀ happening ∈ beginScene.log engine,
      (∃ scene, happening = .sceneBegan scene) ∨ happening = .sceneMissing := by
  unfold beginScene
  dsimp only
  split
  · simp
  · split <;> simp

/-- The turn of the main script happens when it is read. -/
theorem isRead_of_mem_readMain {engine : Engine} :
    ∀ happening ∈ readMain.log engine, happening.isRead = true :=
  Reader.isRead_of_mem_log Session.logStart_scripted _ _

/-- The turn of a background script happens when it is read. -/
theorem isRead_of_mem_readBackground {index : Nat} {engine : Engine} :
    ∀ happening ∈ (readBackground index).log engine, happening.isRead = true := by
  unfold readBackground
  dsimp only
  split
  · simp
  · split
    · simp
    · next reader background _ =>
      refine List.forall_mem_append.2 ⟨List.forall_mem_cons.2 ⟨rfl, ?_⟩,
        by simp [isRead, isScripted]⟩
      exact Reader.isRead_of_mem_log Session.logStart_scripted _ _

/-! ### Facts of the log -/

/-- A property of all that happens in a frame, but for the timers and the cues that are handed
out. -/
structure Common (signal : Option Signal) (p : Happening → Prop) : Prop where
  /-- Scripts are read. -/
  read {happening : Happening} : happening.isRead = true → p happening
  /-- The signal is taken. -/
  received {signal' : Signal} : signal = some signal' → p (.received signal')
  /-- A scene begins. -/
  began (scene : SceneRef) : p (.sceneBegan scene)
  /-- A scene is missing. -/
  missing : p .sceneMissing

/-- A walk through a frame with facts of its log that outlast what is common, given what the timers
do. -/
theorem Phases.of_common {signal : Option Signal} {p : Happening → Prop}
    {I J : List Happening → Prop} (common : Common signal p)
    (before : ∀ past log, (∀ happening ∈ log, p happening) → I past → I (past ++ log))
    (after : ∀ past log, (∀ happening ∈ log, p happening) → J past → J (past ++ log))
    (timers : Ensures s (fun _ => I) runTimers (fun _ _ => J) E)
    (failsBefore : ∀ failure engine past, I past → E failure engine past)
    (failsAfter : ∀ failure engine past, J past → E failure engine past) :
    Phases s signal (fun _ => I) (fun _ => J) (fun _ => J) E := by
  have ofBefore {α : Type} {x : Account α}
      (kinds : ∀ engine, ∀ happening ∈ x.log engine, p happening) :
      Ensures s (fun _ => I) x (fun _ _ => I) E :=
    (Ensures.of_log kinds before).imp (fun _ _ h => h) (fun _ _ _ h => h) failsBefore
  have ofAfter {α : Type} {x : Account α}
      (kinds : ∀ engine, ∀ happening ∈ x.log engine, p happening) :
      Ensures s (fun _ => J) x (fun _ _ => J) E :=
    (Ensures.of_log kinds after).imp (fun _ _ h => h) (fun _ _ _ h => h) failsAfter
  have scene (engine : Engine) : ∀ happening ∈ beginScene.log engine, p happening := by
    intro happening mem
    rcases eq_of_mem_beginScene happening mem with ⟨scene, rfl⟩ | rfl
    · exact common.began scene
    · exact common.missing
  have main (engine : Engine) : ∀ happening ∈ readMain.log engine, p happening :=
    fun happening mem => common.read (isRead_of_mem_readMain happening mem)
  refine ⟨?_, ofBefore scene, timers, ofAfter scene, ofAfter main, ?_, ?_, ?_, ?_⟩
  · intro signal' hsignal
    refine ofBefore fun engine happening mem => ?_
    rcases eq_or_scripted_of_mem_receive happening mem with rfl | scripted
    · exact common.received hsignal
    · exact common.read (isRead_of_isScripted scripted)
  · refine .bind (ofAfter scene) fun begun => ?_
    cases begun with
    | false => exact .pure fun _ _ h => h
    | true => exact ofAfter main
  · exact fun index => ofAfter fun _ happening mem =>
      common.read (isRead_of_mem_readBackground happening mem)
  · exact ofAfter fun _ => List.forall_mem_singleton.2 (common.read rfl)
  · exact ofAfter fun _ => List.forall_mem_singleton.2 (common.read rfl)

/-- What the timers do to facts of the log that outlast what is common. -/
theorem Ensures.timers_of_common {signal : Option Signal} {p : Happening → Prop}
    {I J : List Happening → Prop} (common : Common signal p)
    (after : ∀ past log, (∀ happening ∈ log, p happening) → J past → J (past ++ log))
    (timers : ∀ past, I past → J (past ++ [.timersRan]))
    (failsAfter : ∀ failure engine past, J past → E failure engine past) :
    Ensures s (fun _ => I) Account.runTimers (fun _ _ => J) E := by
  refine .runTimers (fun _ _ => J) (fun _ past _ hI => timers past hI) fun launch _ => ?_
  refine (Ensures.of_log (p := p) (fun engine happening mem => ?_) after).imp (fun _ _ h => h)
    (fun _ _ _ h => h) failsAfter
  exact common.read (isRead_of_isScripted (engine.session.logStart_scripted launch happening mem))

/-- Neither do the timers run in it, nor are cues handed out. -/
def Inner (happening : Happening) : Prop :=
  happening ≠ .timersRan ∧ happening ≠ .handedOut

/-- All that happens in a frame, but for the timers and the cues that are handed out, is neither of
these. -/
theorem inner_common (signal : Option Signal) : Common signal Inner where
  read {happening} h := by
    refine ⟨?_, ?_⟩
    · rintro rfl
      cases h
    · rintro rfl
      cases h
  received _ := ⟨nofun, nofun⟩
  began _ := ⟨nofun, nofun⟩
  missing := ⟨nofun, nofun⟩

/-- The timers have run so many times, and no cues have been handed out. -/
def Timed (count : Nat) (log : List Happening) : Prop :=
  log.count .timersRan = count ∧ .handedOut ∉ log

/-- What is neither the timers nor cues that are handed out does not count as a run of the timers.
-/
theorem Timed.append_inner {count : Nat} (past log : List Happening)
    (inner : ∀ happening ∈ log, Inner happening) (h : Timed count past) :
    Timed count (past ++ log) := by
  have noTimers : log.count .timersRan = 0 :=
    List.count_eq_zero.2 fun mem => (inner _ mem).1 rfl
  refine ⟨by rw [List.count_append, noTimers, h.1]; rfl, ?_⟩
  simp only [List.mem_append, not_or]
  exact ⟨h.2, fun mem => (inner _ mem).2 rfl⟩

/-- The timers run once in a frame, and at most once in one that fails. -/
theorem phases_timed (signal : Option Signal) :
    Phases s signal (fun _ => Timed 0) (fun _ => Timed 1) (fun _ => Timed 1)
      (fun _ _ log => ∃ count ≤ 1, Timed count log) := by
  have failsAfter (failure : Failure) (engine : Engine) (past : List Happening) (h : Timed 1 past) :
      ∃ count ≤ 1, Timed count past := ⟨1, by omega, h⟩
  refine .of_common (inner_common signal) Timed.append_inner Timed.append_inner
    (.timers_of_common (inner_common signal) Timed.append_inner ?_ failsAfter)
    (fun _ _ _ h => ⟨0, by omega, h⟩) failsAfter
  intro past h
  refine ⟨by rw [List.count_append, h.1]; rfl, ?_⟩
  simp [h.2]

end Engine.Account

namespace Engine

open Account

variable {engine after : Engine} {signal : Option Signal}

/-- In a frame that does not fail the timers run once, and the cues are handed out once and last. -/
theorem log_eq_of_ok {cues : List Cue} {waiting : Waiting}
    (h : engine.tick signal = (.ok (cues, waiting), after)) :
    ∃ log, engine.log signal = log ++ [.handedOut] ∧ Timed 1 log ∧
      cues = (engine.session.replay log).cues := by
  obtain ⟨log, ⟨last, timed, replayed, taken, -⟩, hlog⟩ :=
    ((phases_timed signal).frame.tick ⟨rfl, List.not_mem_nil⟩).1 cues waiting after h
  exact ⟨log, hlog, timed, replayed ▸ (congrArg Prod.fst taken).symm⟩

/-- In a frame that fails the timers run at most once, and no cues are handed out. -/
theorem log_timed_of_error {failure : Failure} (h : engine.tick signal = (.error failure, after)) :
    ∃ count ≤ 1, Timed count (engine.log signal) :=
  ((phases_timed signal).frame.tick ⟨rfl, List.not_mem_nil⟩).2 failure after h

/-- A frame by its result. -/
theorem tick_eq_of_result {result : Except Failure (List Cue × Waiting)}
    (h : (engine.tick signal).1 = result) : engine.tick signal = (result, (engine.tick signal).2) :=
  Prod.ext h rfl

/-- Only the signal of a frame is taken in it. -/
theorem eq_of_received_mem {signal' : Signal} (h : .received signal' ∈ engine.log signal) :
    signal = some signal' := by
  -- Every happening of the frame, if it is a signal, is the signal of the frame.
  let p (happening : Happening) : Prop :=
    ∀ signal', happening = .received signal' → signal = some signal'
  have common : Common signal p :=
    { read := by
        rintro _ read _ rfl
        cases read
      received := by
        rintro _ hsignal _ ⟨⟩
        exact hsignal
      began := fun _ => nofun
      missing := nofun }
  have grow (past log : List Happening) (hlog : ∀ happening ∈ log, p happening)
      (hpast : ∀ happening ∈ past, p happening) : ∀ happening ∈ past ++ log, p happening :=
    List.forall_mem_append.2 ⟨hpast, hlog⟩
  have phases : Phases engine.session signal (fun _ past => ∀ happening ∈ past, p happening)
      (fun _ past => ∀ happening ∈ past, p happening)
      (fun _ past => ∀ happening ∈ past, p happening)
      (fun _ _ past => ∀ happening ∈ past, p happening) :=
    .of_common common grow grow
      (.timers_of_common common grow (fun past hpast => grow past _ (by simp [p]) hpast)
        fun _ _ _ h => h)
      (fun _ _ _ h => h) (fun _ _ _ h => h)
  obtain ⟨ok, failed⟩ := phases.frame.tick (fun _ mem => absurd mem List.not_mem_nil)
  rcases htick : engine.tick signal with ⟨failure | ⟨cues, waiting⟩, after⟩
  · exact failed failure after htick _ h signal' rfl
  · obtain ⟨log, ⟨last, hlog, -⟩, heq⟩ := ok cues waiting after htick
    rw [heq] at h
    exact grow log _ (by simp [p]) hlog _ h signal' rfl

/-- The signal of a frame is taken first, and no other one. -/
theorem exists_log_eq_received (engine : Engine) (signal : Option Signal) :
    ∃ rest, engine.log signal = signal.toList.map .received ++ rest ∧
      ∀ signal', .received signal' ∉ rest := by
  have unsignalled (engine : Engine) (signal' : Signal) : .received signal' ∉ engine.log none :=
    fun mem => nomatch eq_of_received_mem mem
  cases signal with
  | none => exact ⟨_, rfl, unsignalled engine⟩
  | some signal =>
    -- Behind the signal a frame goes on like one without a signal.
    have hlog : engine.log (some signal) =
        .received signal :: ((signal.effect engine.session).log Session.logStart ++
          logNext (fun _ => Account.frame none) ((receive signal).part.outcome engine)) := rfl
    refine ⟨_, hlog, fun signal' mem => ?_⟩
    rcases List.mem_append.1 mem with mem | mem
    · exact (Effect.log_scripted Session.logStart_scripted _).not_mem rfl mem
    · generalize (receive signal).part.outcome engine = received at mem
      obtain ⟨_ | _, next⟩ := received
      · cases mem
      · exact unsignalled next signal' mem

/-- A frame that does not fail takes its signal first and hands out the cues last, and does neither
in between. -/
theorem exists_log_between {cues : List Cue} {waiting : Waiting}
    (h : engine.tick signal = (.ok (cues, waiting), after)) :
    ∃ between, engine.log signal = signal.toList.map .received ++ between ++ [.handedOut] ∧
      (∀ signal', .received signal' ∉ between) ∧ .handedOut ∉ between ∧
      cues = (engine.session.replay (signal.toList.map .received ++ between)).cues := by
  obtain ⟨log, hlog, ⟨-, waits⟩, hcues⟩ := log_eq_of_ok h
  obtain ⟨rest, hrest, unsignalled⟩ := exists_log_eq_received engine signal
  rcases List.eq_nil_or_concat rest with rfl | ⟨between, last, rfl⟩
  · -- Then the cues would be handed out before the signal.
    rw [hlog, List.append_nil] at hrest
    have mem : Happening.handedOut ∈ signal.toList.map .received := hrest ▸ by simp
    simp at mem
  · rw [List.concat_eq_append, ← List.append_assoc] at hrest
    obtain ⟨rfl, hlast⟩ := List.append_inj' (hlog.symm.trans hrest) rfl
    cases hlast
    simp only [List.concat_eq_append, List.mem_append, not_or] at unsignalled waits
    exact ⟨between, hrest, fun signal' => (unsignalled signal').1, waits.2, hcues⟩

end Engine

end VisualNovel

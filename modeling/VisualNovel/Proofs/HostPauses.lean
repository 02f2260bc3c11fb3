import VisualNovel.Proofs.FinishedStories
import VisualNovel.Proofs.Strides
import VisualNovel.Proofs.TimerLatency

/-!
# Pauses of the host

A host may pause a story and let it go on, at any frame. Frames pass meanwhile: halts and rests come
nearer to their end, and only the main script stays where it is. So a pause changes in which frame a
cue comes. Main statement (`pausing_changes_only_timing`): it does not change the cues. From one
engine on, two hosts that only pause and resume, each in its own way, are told the same cues in the
same order, as far as both have come.

Every frame goes some strides along the one course of the story (`Engine.comesTo_of_tick`), and a
host that pauses goes fewer of them. This needs two things. No timer is set: timers go on during a
pause, while the main script does not. And where a halt with a budget ends, the main script goes on
freely. A host that pauses just then parts the end of the halt from what the main script does next,
and two things are different after that: a script that was started by the end of the halt can be
started again, and a scene that it went to begins at once. The two stories at the end of the module
show that the cues do differ then.
-/

namespace VisualNovel

/-! ## Budgets and timers along a log -/

namespace Session

variable {s t : Session}

/-- A budget stays right as long as the halt is the same. -/
theorem Budgeted.of_eq (h : s.Budgeted) (same : t.pause.halt = s.pause.halt) : t.Budgeted := by
  unfold Budgeted
  rw [same]
  exact h

/-- A halt that begins may have a budget. -/
theorem Budgeted.halt (h : s.Budgeted) (budget : Option Nat) :
    (s.halt budget).session.Budgeted := by
  unfold Session.halt Halt.start?
  split
  · split
    · exact h
    · next halt started =>
      -- A halt that has begun is a halt.
      have begun : halt.halted = true := by
        split at started
        · cases started
        · cases started
          rfl
      dsimp only [withHook]
      intro notHalted
      split at notHalted <;> cases begun.symm.trans notHalted
  · exact h

/-- A halt that ends has no budget left. -/
theorem unhalt_budgeted (s : Session) : s.unhalt.session.Budgeted := by
  unfold unhalt withHook
  dsimp only
  split <;> exact fun _ => rfl

/-- Whatever happens, only a halt has a budget. -/
theorem Budgeted.apply (h : s.Budgeted) (happening : Happening) : (happening.apply s).Budgeted := by
  by_cases touched : happening.reach.halt = true
  · cases happening with
    | received signal =>
      cases signal with
      | click =>
        show s.click.session.Budgeted
        unfold click
        split
        · exact h
        · split
          · exact s.unhalt_budgeted
          · exact h
      | _ => cases touched
    | obeyed isMain freshNames instruction tag =>
      have fresh : Session.Budgeted { s with freshNames } := h
      cases instruction with
      | halt => exact fresh.halt none
      | haltAuto =>
        show (haltAuto { s with freshNames } tag.arguments).session.Budgeted
        unfold haltAuto
        split
        · exact fresh.halt _
        · exact h
      | _ => cases touched
    | haltWent =>
      show s.advanceHalt.session.Budgeted
      unfold advanceHalt Halt.tick
      split_ifs
      · exact h
      · exact unhalt_budgeted _
      · exact h
      · exact h
    | sceneBegan scene => exact fun _ => rfl
    | _ => cases touched
  · exact h.of_eq ((happening.scope s).halt (Bool.eq_false_iff.2 touched))

/-- Through a log, only a halt has a budget. -/
theorem Budgeted.replay (h : s.Budgeted) (log : List Happening) : (s.replay log).Budgeted := by
  induction log generalizing s with
  | nil => exact h
  | cons happening log ih => exact ih (h.apply happening)

end Session

/-- In an engine that a story can come to, only a halt has a budget. -/
theorem Engine.Reachable.budgeted {story : Story} {settings : Settings} {engine : Engine}
    (h : Reachable story settings engine) : engine.session.Budgeted := by
  induction h with
  | create created =>
    obtain ⟨scene, -, rfl⟩ := create_eq_ok created
    exact fun _ => rfl
  | @tick engine _ signal _ ih =>
    rw [← engine.replay_log signal]
    exact ih.replay _
  | @write engine _ write ih => exact ih.of_eq (engine.write_ordinary write).holds.halt

namespace Happening

/-- Whether it is a tag that sets a timer. -/
def setsTimer : Happening → Bool
  | .obeyed _ _ .after _ => true
  | _ => false

/-- A log that goes on begins no scene earlier. -/
theorem mem_refusals_append {log : List Happening} {launch : Launch} (mem : launch ∈ refusals log)
    (more : List Happening) : launch ∈ refusals (log ++ more) := by
  induction log with
  | nil => cases mem
  | cons happening log ih =>
    cases happening with
    | sceneBegan scene => cases mem
    | refused other =>
      rcases List.mem_cons.1 mem with rfl | mem
      · exact List.mem_cons_self
      · exact List.mem_cons_of_mem _ (ih mem)
    | _ => exact ih mem

end Happening

namespace Session

variable {s : Session}

/-- What sets no timer leaves none pending where none was. -/
theorem timers_apply {happening : Happening} (none : s.timers.pending = [])
    (other : happening.setsTimer = false) : (happening.apply s).timers.pending = [] := by
  by_cases touched : happening.reach.timers = true
  · cases happening with
    | obeyed isMain freshNames instruction tag =>
      rw [Happening.timers_apply_obeyed]
      cases instruction with
      | after => cases other
      | cancelAfter =>
        unfold timersAfter cancelTimer
        dsimp only
        split
        · simp [Timers.cancel, none]
        · exact none
      | cancelAllAfter => rfl
      | _ => cases touched
    | timersRan => simp [Happening.apply, Timers.tick, none]
    | sceneBegan => rfl
    | received signal => cases signal <;> cases touched
    | _ => cases touched
  · rw [(happening.scope s).timers (Bool.eq_false_iff.2 touched)]
    exact none

/-- A log without timers, in which the main script goes on freely after its pauses. -/
structure Plain (s : Session) (log : List Happening) : Prop where
  /-- No timer is set. -/
  untimed : ∀ happening ∈ log, happening.setsTimer = false
  /-- The main script goes on freely. -/
  untangled : s.Untangled log

/-- Where no timer is set, none is pending. -/
theorem Plain.timers {log : List Happening} (h : s.Plain log) (none : s.timers.pending = []) :
    (s.replay log).timers.pending = [] := by
  have untimed := h.untimed
  clear h
  induction log generalizing s with
  | nil => exact none
  | cons happening log ih =>
    obtain ⟨first, rest⟩ := List.forall_mem_cons.1 untimed
    exact ih (timers_apply none first) rest

/-- What is plain was plain before. -/
theorem Plain.of_append {past log : List Happening} (h : s.Plain (past ++ log)) : s.Plain past := by
  refine ⟨(List.forall_mem_append.1 h.untimed).1, fun early rest hpast => ?_⟩
  have freely := h.untangled early (rest ++ log) (by rw [hpast, List.append_assoc]; rfl)
  exact ⟨freely.scene,
    fun launch mem => freely.scripts launch (Happening.mem_refusals_append mem log)⟩

/-- In the rest of a plain log the main script goes on freely. -/
theorem Plain.behind {past log : List Happening} (h : s.Plain (past ++ log)) :
    (s.replay past).Untangled log := by
  intro early rest hlog
  have freely := h.untangled (past ++ early) rest (by rw [hlog, List.append_assoc])
  rwa [List.append_assoc, replay_append] at freely

end Session

/-! ## Slots that nobody reads -/

/-- Every running script is over, and its reader is back. -/
structure Background.AllOver (story : Story) (background : Background) : Prop where
  /-- Every slot has its reader. -/
  settled : background.Settled story
  /-- Every script is noted as over. -/
  ended : background.AllEnded
  /-- Every reader is over. -/
  finished : ∀ slot ∈ background.slots, ∃ reader, slot.reader = some reader ∧ reader.finished = true

/-- Where no script is running, every running script is over. -/
theorem Background.allOver_empty (story : Story) : Background.AllOver story {} :=
  ⟨⟨by simp, by simp [Background.names]⟩, by simp [Background.AllEnded], by simp⟩

/-- A reader that comes back as it was taken out, and is noted as over already, changes nothing. -/
theorem Background.checkIn_of_noted {background : Background} {front rest : List Slot}
    {name : String} {reader : Reader}
    (hslots : background.slots = front ++ ⟨name, some reader⟩ :: rest)
    (hrole : reader.role.name? = some name) (noted : name ∈ background.ended) :
    Background.checkIn { background with slots := front ++ ⟨name, none⟩ :: rest }
      front.length reader =
      background := by
  unfold Background.checkIn
  rw [hrole]
  dsimp only
  rw [modify_length_append, Slot.refill_empty, ← hslots]
  simp [noted]

namespace Engine

variable {story : Story}

/-- The turn of a script that is over does nothing. -/
theorem outcome_readBackground_of_allOver {engine : Engine}
    (h : engine.session.background.AllOver story) (index : Nat) :
    (Part.readBackground index).outcome engine = (.ok (), engine) := by
  rw [Part.outcome_readBackground]
  split
  · rfl
  · rcases hout : engine.session.background.checkOut? index with _ | ⟨reader, out⟩
    · rfl
    · obtain ⟨front, name, rest, rfl, hslots, rfl⟩ := Background.checkOut?_eq_some hout
      have mem : ⟨name, some reader⟩ ∈ engine.session.background.slots := by simp [hslots]
      obtain ⟨_, ⟨⟩, hrole⟩ := (h.settled.filled _ mem).reader
      obtain ⟨_, ⟨⟩, finished⟩ := h.finished _ mem
      have step (s : Session) : reader.step Session.start s = { reader, session := s } := by
        unfold Reader.step
        rw [if_pos finished]
      have back := Background.checkIn_of_noted hslots hrole (h.ended _ mem)
      dsimp only
      rw [step]
      unfold Reading.checkIn
      dsimp only
      rw [back]
      rfl

/-- After a frame of the main script that began without running scripts, all of them are over. -/
theorem allOver_of_step {engine : Engine} (runs : engine.session.story = story)
    (alone : engine.session.background = {})
    (ok : (engine.main.step Session.start engine.session).failure = none) :
    (engine.main.step Session.start engine.session).session.background.AllOver story := by
  have grown := engine.main.step_lasting Session.Grown.lasting engine.session
  have leaves := engine.main.step_lasting Session.Leaves.lasting engine.session
  rw [ok] at grown leaves
  have settled : engine.Settled story :=
    ⟨runs, by rw [alone]; exact (Background.allOver_empty story).settled⟩
  obtain ⟨added, hadded, isOver⟩ := leaves.added
  refine ⟨(settled.grown grown engine.main).slots, allEnded_of_grown ?_ grown, ?_⟩
  · rw [alone]
    exact (Background.allOver_empty story).ended
  · rw [hadded, alone]
    exact isOver rfl

/-! ## A frame goes along the course -/

/-- The engine has come from the origin by some strides, and the cues are those that the strides
have told. -/
structure OnCourse (story : Story) (origin engine : Engine) : Prop where
  /-- The strides. -/
  came : ∃ told, engine.session.cues = origin.session.cues ++ told ∧
    origin.settled.ComesTo told engine.settled
  /-- The main reader reads the main script. -/
  isMain : engine.main.role.isMain = true
  /-- The engine runs the story. -/
  runs : engine.session.story = story
  /-- All running scripts are over. -/
  slots : engine.session.background.AllOver story

/-- The engine is on its course, and no script is running. -/
structure Cleared (story : Story) (origin engine : Engine) : Prop
    extends OnCourse story origin engine where
  /-- No script is running. -/
  alone : engine.session.background = {}

/-- The engine is on its course, no script is running, and no scene is to begin. -/
structure Ready (story : Story) (origin engine : Engine) :
    Prop extends Cleared story origin engine where
  /-- No scene is to begin. -/
  pending : engine.session.pendingScene = none

section course

variable {origin engine after : Engine}

/-- An engine that differs only in what strides do not depend on is as far. -/
theorem OnCourse.of_settled (h : OnCourse story origin engine)
    (settled : after.settled = engine.settled) (cues : after.session.cues = engine.session.cues)
    (main : after.main = engine.main) (runs : after.session.story = engine.session.story)
    (slots : after.session.background.AllOver story) : OnCourse story origin after := by
  obtain ⟨told, hcues, course⟩ := h.came
  exact ⟨⟨told, cues.trans hcues, settled ▸ course⟩, main ▸ h.isMain, runs.trans h.runs, slots⟩

/-- A scene that begins is a stride, and tells nothing. -/
theorem OnCourse.beginScene (h : OnCourse story origin engine) {scene : SceneRef}
    (pending : engine.session.pendingScene = some scene) :
    Ready story origin (engine.unpend.enterScene scene) := by
  obtain ⟨told, hcues, course⟩ := h.came
  have next : engine.settled.stride = engine.settled.unpend.enterScene scene :=
    stride_of_scene pending
  have one := ComesTo.stride engine.settled
  rw [next] at one
  refine ⟨⟨⟨⟨told, hcues, ?_⟩, rfl, h.runs, Background.allOver_empty story⟩, rfl⟩, rfl⟩
  have arrived := course.trans one
  rwa [show (engine.settled.unpend.enterScene scene).session.cues = [] from rfl, List.append_nil]
    at arrived

/-- Reading the main script is some strides. -/
theorem Ready.readMain (h : Ready story origin engine) (budgeted : engine.session.Budgeted)
    (untangled : engine.session.Untangled (Account.readMain.log engine))
    (ok : Part.readMain.outcome engine = (.ok (), after)) : OnCourse story origin after := by
  rw [Part.outcome_readMain] at ok
  obtain ⟨hresult, rfl⟩ := Prod.mk.inj ok
  have unfailing := Part.resultOf_eq_ok.1 hresult
  obtain ⟨told, hcues, course⟩ := h.came
  obtain ⟨more, run, hmore⟩ :=
    comesTo_of_step h.isMain h.pending h.alone budgeted untangled unfailing
  refine ⟨⟨told ++ more, ?_, course.trans run⟩, ?_, ?_, allOver_of_step h.runs h.alone unfailing⟩
  · rw [hmore, hcues, List.append_assoc]
  · exact (Reader.step_role _ _ _).symm ▸ h.isMain
  · exact (engine.main.step_lasting Session.Grown.lasting engine.session).story.trans h.runs

end course

/-! ### The parts of a frame -/

namespace Account

variable {α β : Type} {origin : Engine} {P : Engine → Prop}

/-- A part that leads from one fact of the engine to another, if the log of the frame is plain. -/
def Leads (origin : Engine) (P : Engine → Prop) (x : Account α) (Q : α → Engine → Prop) : Prop :=
  Ensures origin.session (fun engine past => origin.session.Plain past → P engine) x
    (fun a engine past => origin.session.Plain past → Q a engine) (fun _ _ _ => True)

namespace Leads

/-- A part leads to a fact if every outcome without a failure shows it. -/
theorem of_outcome {x : Account α} {Q : α → Engine → Prop}
    (h : ∀ engine past a after, engine.session = origin.session.replay past →
      origin.session.Plain (past ++ x.log engine) → P engine →
      x.part.outcome engine = (.ok a, after) → Q a after) : Leads origin P x Q := by
  intro engine past hs hP
  refine ⟨fun a after hout plain => ?_, fun _ _ _ => trivial⟩
  exact h engine past a after hs plain (hP plain.of_append) hout

/-- A part that does nothing leads from a fact of the engine to the same one. -/
theorem pure (a : α) : Leads origin P (Pure.pure a) fun _ => P :=
  Ensures.pure fun _ _ h => h

/-- Parts lead on one after the other. -/
theorem bind {x : Account α} {Q : α → Engine → Prop} {next : α → Account β}
    {R : β → Engine → Prop} (h : Leads origin P x Q) (h' : ∀ a, Leads origin (Q a) (next a) R) :
    Leads origin P (x >>= next) R :=
  Ensures.bind h h'

/-- The host pauses the story, or lets it go on. -/
theorem receive {signal : Signal} {manual : Bool}
    (pauses : signal.effect = fun s => { session := s.setManual manual }) :
    Leads origin (Cleared story origin) (Account.receive signal) fun _ => Cleared story origin := by
  refine .of_outcome fun engine past _ after _ _ h hout => ?_
  have hout : (Part.receive signal).outcome engine = (.ok (), after) := hout
  rw [Part.receive_eq, pauses, Part.outcome_perform] at hout
  obtain ⟨-, rfl⟩ := Prod.mk.inj hout
  exact ⟨h.of_settled rfl rfl rfl rfl h.slots, h.alone⟩

/-- A scene that is to begin begins. -/
theorem beginScene (onCourse : ∀ engine, P engine → OnCourse story origin engine) :
    Leads origin P Account.beginScene fun began engine =>
      (began = true → Ready story origin engine) ∧
        (began = false → P engine ∧ engine.session.pendingScene = none) := by
  refine .of_outcome fun engine past began after _ _ h hout => ?_
  have hout : Part.beginScene.outcome engine = (.ok began, after) := hout
  rw [Part.outcome_beginScene] at hout
  rcases hpending : engine.session.pendingScene with _ | scene
  · rw [hpending] at hout
    cases hout
    exact ⟨nofun, fun _ => ⟨h, hpending⟩⟩
  · rw [hpending] at hout
    dsimp only at hout
    rcases hcheck : engine.session.story.checkScene scene with error | ⟨⟩
    · rw [hcheck] at hout
      cases hout
    · rw [hcheck] at hout
      cases hout
      exact ⟨fun _ => (onCourse engine h).beginScene hpending, nofun⟩

/-- No timer comes due. -/
theorem runTimers (none : origin.session.timers.pending = []) :
    Leads origin P Account.runTimers fun _ => P := by
  refine .of_outcome fun engine past _ after hs plain h hout => ?_
  have hout : Part.runTimers.outcome engine = (.ok (), after) := hout
  have untimed := plain.of_append.timers none
  rw [← hs] at untimed
  rw [Part.outcome_runTimers_of_none untimed] at hout
  cases hout
  exact h

/-- The main script is read. -/
theorem readMain (budgeted : origin.session.Budgeted) :
    Leads origin (Ready story origin) Account.readMain fun _ => OnCourse story origin := by
  refine .of_outcome fun engine past _ after hs plain h hout => ?_
  have untangled := plain.behind
  rw [← hs] at untangled
  exact h.readMain (hs ▸ budgeted.replay past) untangled hout

/-- A scene that is to begin begins, and its script is read. -/
theorem readNewScene (budgeted : origin.session.Budgeted) :
    Leads origin (OnCourse story origin) Account.readNewScene fun _ => OnCourse story origin := by
  refine .bind (.beginScene fun _ h => h) fun began => ?_
  cases began with
  | false => exact Ensures.pure fun _ _ h plain => ((h plain).2 rfl).1
  | true =>
    exact (Leads.readMain budgeted).imp (fun _ _ h plain => (h plain).1 rfl) (fun _ _ _ h => h)
      fun _ _ _ h => h

/-- The scripts in the slots are over. -/
theorem readBackgrounds (indices : List Nat) :
    Leads origin (OnCourse story origin) (indices.forM Account.readBackground)
      fun _ => OnCourse story origin := by
  refine Ensures.forM (fun _ engine past => origin.session.Plain past →
    OnCourse story origin engine)
    (fun index rest => ?_) indices
  refine Leads.of_outcome fun engine past _ after _ _ h hout => ?_
  have hout : (Part.readBackground index).outcome engine = (.ok (), after) := hout
  rw [outcome_readBackground_of_allOver h.slots] at hout
  cases hout
  exact h

/-- The scripts that are over lose their slots. -/
theorem purge :
    Leads origin (OnCourse story origin) Account.purge fun _ => Cleared story origin := by
  refine .of_outcome fun engine past _ after _ _ h hout => ?_
  cases hout
  have empty := h.slots.ended.purge
  refine ⟨h.of_settled rfl rfl rfl rfl ?_, empty⟩
  show Background.AllOver story engine.session.background.purge
  rw [empty]
  exact Background.allOver_empty story

/-- It is told what is waited for. -/
theorem waiting :
    Leads origin (Cleared story origin) Account.waiting fun _ => Cleared story origin := by
  refine .of_outcome fun engine past _ after _ _ h hout => ?_
  have looked : after = { engine with session := engine.session.heldBy.2 } := by
    rw [← engine.waiting_engine]
    exact (congrArg Prod.snd hout).symm
  have unseen := engine.session.heldBy_eq
  have story' : after.session.story = engine.session.story := by rw [looked, unseen]
  have cues : after.session.cues = engine.session.cues := by rw [looked, unseen]
  have slots : after.session.background = engine.session.background := by rw [looked, unseen]
  have settled : after.settled = engine.settled := by
    unfold Engine.settled
    rw [story', looked, engine.session.calm_heldBy]
  exact ⟨h.of_settled settled cues (by rw [looked]) story' (slots ▸ h.slots), slots.trans h.alone⟩

end Leads

/-- A frame in which the host at most pauses the story or lets it go on leads along the course, and
hands out what was told on the way. -/
theorem leads_frame {signal : Option Signal} (budgeted : origin.session.Budgeted)
    (none : origin.session.timers.pending = [])
    (pauses : ∀ received, signal = some received → received = .pause ∨ received = .resume) :
    Leads origin (Cleared story origin) (Account.frame signal) fun shown engine =>
      ∃ told, shown.1 = origin.session.cues ++ told ∧
      origin.settled.ComesTo told engine.settled := by
  have received : Leads origin (Cleared story origin) (signal.forM Account.receive)
      fun _ => Cleared story origin := by
    rcases signal with _ | signal
    · exact .pure ()
    · rcases pauses signal rfl with rfl | rfl
      · exact .receive rfl
      · exact .receive rfl
  have scene {P : Engine → Prop} (cleared : ∀ engine, P engine → Cleared story origin engine) :
      Leads origin P Account.beginScene fun _ => Ready story origin := by
    refine (Leads.beginScene fun engine h => (cleared engine h).toOnCourse).imp (fun _ _ h => h)
      (fun began engine past h plain => ?_) fun _ _ _ h => h
    cases began with
    | false =>
      obtain ⟨before, pending⟩ := (h plain).2 rfl
      exact ⟨cleared engine before, pending⟩
    | true => exact (h plain).1 rfl
  have handOut (shown : Waiting) :
      Leads origin (Cleared story origin) (Account.takeCues >>= fun cues => Pure.pure (cues, shown))
        fun shown engine =>
          ∃ told, shown.1 = origin.session.cues ++ told ∧
            origin.settled.ComesTo told engine.settled := by
    refine .of_outcome fun engine past _ after _ _ h hout => ?_
    cases hout
    exact h.came
  -- The order of a frame: signal, scene, timers, scene, main script, scene, slots, scene, cues.
  refine .bind received fun _ => .bind (scene fun _ h => h) fun _ =>
    .bind (.runTimers none) fun _ => ?_
  refine .bind (scene fun _ h => h.toCleared) fun _ => .bind (.readMain budgeted) fun _ => ?_
  refine .bind (.readNewScene budgeted) fun _ => Ensures.bind .get fun seen => ?_
  have slots : Ensures origin.session
      (fun engine past => seen = engine ∧
        (origin.session.Plain past → OnCourse story origin engine))
      ((List.range seen.session.background.size).forM Account.readBackground)
      (fun _ engine past => origin.session.Plain past → OnCourse story origin engine)
      (fun _ _ _ => True) :=
    (Leads.readBackgrounds _).imp (fun _ _ h => h.2) (fun _ _ _ h => h) fun _ _ _ h => h
  refine Ensures.bind slots fun _ => Leads.bind (.readNewScene budgeted) fun _ => ?_
  exact .bind .purge fun _ => .bind .waiting handOut

end Account

/-- A frame in which the host at most pauses the story or lets it go on goes some strides along the
course, and hands out what they tell. -/
theorem comesTo_of_tick {settings : Settings} {engine after : Engine} {signal : Option Signal}
    {cues : List Cue} {waiting : Waiting} (reachable : Reachable story settings engine)
    (alone : engine.session.background = {}) (none : engine.session.timers.pending = [])
    (pauses : ∀ received, signal = some received → received = .pause ∨ received = .resume)
    (ok : engine.tick signal = (.ok (cues, waiting), after))
    (plain : engine.session.Plain (engine.log signal)) :
    ∃ told, cues = engine.session.cues ++ told ∧ engine.settled.ComesTo told after.settled := by
  have start : Cleared story engine engine := by
    refine
      ⟨⟨⟨[], (List.append_nil _).symm, .refl _⟩, reachable.isMain, reachable.settled.runs, ?_⟩,
        alone⟩
    rw [alone]
    exact Background.allOver_empty story
  exact ((Account.leads_frame reachable.budgeted none pauses).tick fun _ => start).1 cues waiting
    after ok plain

/-- A frame that succeeds leaves neither running scripts nor cues behind. -/
theorem left_of_tick {settings : Settings} {engine after : Engine} {signal : Option Signal}
    {cues : List Cue} {waiting : Waiting} (reachable : Reachable story settings engine)
    (ok : engine.tick signal = (.ok (cues, waiting), after)) :
    after.session.background = {} ∧ after.session.cues = [] := by
  constructor
  · exact ((ensures_frame signal engine reachable.settled).1 _ after ok).2
  · obtain ⟨log, hlog, -⟩ := log_eq_of_ok ok
    have replayed := engine.replay_log signal
    rw [ok, hlog, Session.replay_append] at replayed
    exact replayed ▸ rfl

/-! ## Two hosts -/

/-- The frames with one signal after another. -/
def frames (engine : Engine) : List (Option Signal) → List Frame
  | [] => []
  | signal :: signals => ⟨engine, signal⟩ :: (engine.tick signal).2.frames signals

/-- All cues that are handed out in frames with one signal after another. -/
def stream (engine : Engine) (signals : List (Option Signal)) : List Cue :=
  (engine.frames signals).flatMap fun frame => handedOut (frame.engine.tick frame.signal).1

/-- In the frame the host at most pauses the story or lets it go on, the frame succeeds, and no
timer is set. -/
structure Frame.Smooth (frame : Frame) : Prop where
  /-- The host at most pauses the story or lets it go on. -/
  signal : frame.signal ∈ [none, some .pause, some .resume]
  /-- The frame succeeds. -/
  succeeds : (frame.engine.tick frame.signal).1.isOk = true
  /-- No timer is set. -/
  untimed : ∀ happening ∈ frame.log, happening.setsTimer = false

instance (frame : Frame) : Decidable frame.Smooth :=
  decidable_of_iff (frame.signal ∈ [none, some .pause, some .resume] ∧
      (frame.engine.tick frame.signal).1.isOk = true ∧ ∀ happening ∈ frame.log,
      happening.setsTimer = false)
    ⟨fun h => ⟨h.1, h.2.1, h.2.2⟩, fun h => ⟨h.signal, h.succeeds, h.untimed⟩⟩

/-- In the frame the main script goes on freely where a pause has ended. -/
abbrev Frame.Untangled (frame : Frame) : Prop :=
  frame.engine.session.Untangled frame.log

/-- Frames go along the course, by induction on their signals. -/
theorem comesTo_of_frames {settings : Settings} {engine : Engine} {signals : List (Option Signal)}
    (reachable : Reachable story settings engine) (alone : engine.session.background = {})
    (none : engine.session.timers.pending = [])
    (smooth : ∀ frame ∈ engine.frames signals, frame.Smooth)
    (untangled : ∀ frame ∈ engine.frames signals, frame.Untangled) :
    engine.stream signals = [] ∨ ∃ told last,
      engine.stream signals = engine.session.cues ++ told ∧ engine.settled.ComesTo told last := by
  -- By induction on the frames, each of which leaves an engine of the same kind.
  induction signals generalizing engine with
  | nil => exact .inl rfl
  | cons signal signals ih =>
    obtain ⟨first, later⟩ := List.forall_mem_cons.1 smooth
    obtain ⟨free, free'⟩ := List.forall_mem_cons.1 untangled
    have plain : engine.session.Plain (engine.log signal) := ⟨first.untimed, free⟩
    have stream_eq : engine.stream (signal :: signals) =
      handedOut (engine.tick signal).1 ++ (engine.tick signal).2.stream signals := rfl
    have timers : (engine.tick signal).2.session.timers.pending = [] := by
      rw [← engine.replay_log signal]
      exact plain.timers none
    have succeeds := first.succeeds
    have next := reachable.tick signal
    have pauses : ∀ received, signal = some received → received = .pause ∨ received = .resume := by
      rintro received rfl
      simpa using first.signal
    rw [stream_eq]
    rcases htick : engine.tick signal with ⟨failure | ⟨cues, waiting⟩, after⟩
    · rw [htick] at succeeds
      cases succeeds
    rw [htick] at next timers later free'
    obtain ⟨told, rfl, course⟩ := comesTo_of_tick reachable alone none pauses htick plain
    obtain ⟨noSlots, noCues⟩ := left_of_tick reachable htick
    right
    rcases ih (next fun _ => nofun) noSlots timers later free'
      with nothing | ⟨more, last, hmore, course'⟩
    · exact ⟨told, _, by rw [nothing, List.append_nil]; rfl, course⟩
    · refine ⟨told ++ more, last, ?_, course.trans course'⟩
      rw [hmore, noCues]
      simp [handedOut]

/-- Pausing changes only timing. Two hosts go on from one engine that has neither running scripts
nor timers, and only pause the story and let it go on. If all their frames succeed and set no timer,
and the main script goes on freely where a pause has ended, then they are told the same cues, as far
as both have come. -/
theorem pausing_changes_only_timing {settings : Settings} {engine : Engine}
    (reachable : Reachable story settings engine) (alone : engine.session.background = {})
    (none : engine.session.timers.pending = []) (first second : List (Option Signal))
    (smooth : ∀ frame ∈ engine.frames first ++ engine.frames second, frame.Smooth)
    (untangled : ∀ frame ∈ engine.frames first ++ engine.frames second, frame.Untangled) :
    engine.stream first <+: engine.stream second ∨
      engine.stream second <+: engine.stream first := by
  rw [List.forall_mem_append] at smooth untangled
  rcases comesTo_of_frames reachable alone none smooth.1 untangled.1
    with nothing | ⟨told, _, htold, course⟩
  · exact .inl (nothing ▸ List.nil_prefix)
  rcases comesTo_of_frames reachable alone none smooth.2 untangled.2
    with nothing | ⟨told', _, htold', course'⟩
  · exact .inr (nothing ▸ List.nil_prefix)
  rw [htold, htold', List.prefix_append_right_inj, List.prefix_append_right_inj]
  exact course.comparable course'

/-- A story that halts for a frame and then goes on with some lines; a script is started when the
halt ends. -/
def halting (lines script : String) : Story where
  startup := some ⟨"dawn", "street"⟩
  chapters := .ofEntries [("dawn", { scenes := .ofEntries [
    ("street",
      "<text_dialog_define:9,4,5,no animation,no animation,center,,1,1,9,no,,,,,,bell,,9,2>\n" ++
        "<halt_auto:1>\n" ++ lines), ("garden", "Bye.")] })]
  reusables := .ofEntries [("bell", script)]

/-- The engine of such a story at the beginning. -/
def haltingNew (lines script : String) : Engine :=
  .opening (halting lines script) {} ⟨"dawn", "street"⟩

/-- A story in which a bell rings when the halt ends, and which rests after it and goes to another
scene. -/
def promenade : Story :=
  halting "One.\n<rest:1>\n<scene:dawn,garden>" "<play_sound:ding>"

/-- The engine of that story at the beginning. -/
def promenadeNew : Engine :=
  haltingNew "One.\n<rest:1>\n<scene:dawn,garden>" "<play_sound:ding>"

/-- One host pauses in the halt and again in the rest, and has heard less than a host that never
pauses. -/
theorem promenade_paused_in_halt_and_rest :
    ∃ engine, Engine.create promenade {} = .ok engine ∧
      (∀ frame ∈ engine.frames [none, some .pause, none, some .resume, some .pause] ++
        engine.frames (List.replicate 6 none), frame.Smooth ∧ frame.Untangled) ∧
      (engine.stream [none, some .pause, none, some .resume, some .pause]).tail =
        [.clearText, .playAudio .fx "ding" false, .dialogText "One."] ∧
      engine.stream [none, some .pause, none, some .resume, some .pause] <+:
        engine.stream (List.replicate 6 none) := by
  obtain ⟨created, alone, timers, frames, paused, length⟩ :
      Engine.create promenade {} = .ok promenadeNew ∧ promenadeNew.session.background = {} ∧
      promenadeNew.session.timers.pending = [] ∧
      (∀ frame ∈ promenadeNew.frames [none, some .pause, none, some .resume, some .pause] ++
        promenadeNew.frames (List.replicate 6 none), frame.Smooth ∧ frame.Untangled) ∧
      (promenadeNew.stream [none, some .pause, none, some .resume, some .pause]).tail =
        [.clearText, .playAudio .fx "ding" false, .dialogText "One."] ∧
      (promenadeNew.stream (List.replicate 6 none)).length = 5 := by
    decide +kernel
  generalize promenadeNew = engine at created alone timers frames paused length
  refine ⟨engine, created, frames, paused, ?_⟩
  rcases pausing_changes_only_timing (.create created) alone timers
    [none, some .pause, none, some .resume, some .pause] (List.replicate 6 none)
    (fun frame mem => (frames frame mem).1) fun frame mem => (frames frame mem).2
      with behind | farther
  · exact behind
  · -- The host that pauses has not heard more.
    have most := farther.length_le
    have fewer := congrArg List.length paused
    simp only [List.length_tail, List.length_cons, List.length_nil] at fewer
    omega

/-- Where the main script does not go on freely, a pause at the end of a halt changes the cues. If
the script that is started there goes to a scene, the rest of the old scene is skipped. If the main
script calls that script too, it is heard twice. -/
theorem pause_at_end_of_halt_changes_cues :
    (∃ engine, Engine.create (halting "Hello." "<scene:dawn,garden>") {} = .ok engine ∧
      (∀ frame ∈ engine.frames [none, none, none] ++ engine.frames [none, some .pause, none,
        some .resume], frame.Smooth) ∧
      (engine.stream [none, none, none]).tail =
        [.clearText, .dialogText "Hello.", .dialogText "Bye."] ∧
      (engine.stream [none, some .pause, none, some .resume]).tail =
        [.clearText, .dialogText "Bye."] ∧
      ¬ (engine.stream [none, none, none] <+: engine.stream [none, some .pause, none,
        some .resume] ∨ engine.stream [none, some .pause, none,
        some .resume] <+: engine.stream [none, none, none])) ∧
    ∃ engine, Engine.create (halting "<call:bell>\nBye." "<play_sound:ding>") {} = .ok engine ∧
      (∀ frame ∈ engine.frames [none, none, none] ++ engine.frames [none, some .pause, none,
        some .resume], frame.Smooth) ∧
      (engine.stream [none, none, none]).tail =
        [.clearText, .playAudio .fx "ding" false, .dialogText "Bye."] ∧
      (engine.stream [none, some .pause, none, some .resume]).tail =
        [.clearText, .playAudio .fx "ding" false, .playAudio .fx "ding" false, .dialogText "Bye."] ∧
      ¬ (engine.stream [none, none, none] <+: engine.stream [none, some .pause, none,
        some .resume] ∨ engine.stream [none, some .pause, none,
        some .resume] <+: engine.stream [none, none, none]) := by
  refine ⟨⟨haltingNew "Hello." "<scene:dawn,garden>", ?_⟩,
    haltingNew "<call:bell>\nBye." "<play_sound:ding>", ?_⟩
  · decide +kernel
  · decide +kernel

end Engine

end VisualNovel

import Mathlib.Data.List.DropRight
import VisualNovel.Proofs.Backlog
import VisualNovel.Proofs.FrameLogs
import VisualNovel.Proofs.PlainHalt

/-!
# Cues and history

Two streams leave a running story: the cues, which wait in the session until a frame hands them out,
and the history, which keeps the latest events. Both are told here from the log of all that has
happened, without the session that carries them: what a happening tells the host is what it leaves
where no cue is waiting (`Happening.cues`), and only three kinds of happenings are events
(`Happening.entries`).

Main statement (`streams_agree`): through frames that fail and frames that do not, what was handed
out, with what still waits behind it, is the stream of all cues; the history is the end of the
stream of all events; and the lines in both streams are the same, in the same order.
-/

namespace VisualNovel

/-! ## What a happening adds -/

namespace Happening

/-- What a happening tells the host: the cues that it leaves where none are waiting. -/
def cues (happening : Happening) (s : Session) : List Cue :=
  (apply { s with cues := [] } happening).cues

/-- The events of a happening: a line that is spoken, a script that is started, a scene that
begins. -/
def entries (happening : Happening) (s : Session) : List Entry :=
  match happening with
  | spoken words => [⟨.spoken words, s.clock⟩]
  | started launch => [⟨.started launch.name, s.clock⟩]
  | sceneBegan scene => [⟨.sceneChange scene.chapter scene.scene, s.clock⟩]
  | _ => []

end Happening

namespace Session

/-- All that is collected from the happenings of a log, each seen from the session before it. -/
def collect {β : Type} (f : Happening → Session → List β) : Session → List Happening → List β
  | _, [] => []
  | s, happening :: log => f happening s ++ collect f (happening.apply s) log

/-- All that is told to the host in a log. -/
def emitted (s : Session) (log : List Happening) : List Cue :=
  s.collect Happening.cues log

/-- All events of a log. -/
def recorded (s : Session) (log : List Happening) : List Entry :=
  s.collect Happening.entries log

/-- What two logs yield is what the first yields and then what the second yields behind it. -/
theorem collect_append {β : Type} (f : Happening → Session → List β) (s : Session)
    (log log' : List Happening) :
    s.collect f (log ++ log') = s.collect f log ++ (s.replay log).collect f log' := by
  induction log generalizing s with
  | nil => rfl
  | cons happening log ih =>
    rw [List.cons_append, collect, collect, ih, List.append_assoc]
    rfl

/-! ## Cues are added behind those that wait -/

end Session

namespace Happening

/-- What is told comes behind the cues that wait, whatever they are, unless they are handed out. No
line is told but where it is spoken. -/
theorem exists_told {happening : Happening} (h : happening ≠ .handedOut) (s : Session) :
    ∃ new, (∀ cues, (apply { s with cues } happening).cues = cues ++ new) ∧
      ((∀ words, happening ≠ .spoken words) → ∀ cue ∈ new, cue.text? = none) := by
  -- What a tag, a signal or a frame of a halt tells does not depend on what waits: it is told by
  -- the bare session.
  have allowed {scope : Scope} {told : List Cue} (cue : Cue)
    (mem : cue ∈ told.filter scope.allows) :
      cue.text? = none := Scope.text?_of_allows (List.mem_filter.1 mem).2
  cases happening with
  | received signal =>
    refine ⟨(signal.effect s.bare).session.cues.filter signal.scope.allows, fun cues => ?_,
      fun _ => allowed⟩
    show (signal.effect { s with cues }).session.cues = _
    rw [signal.effect_amend]
    rfl
  | obeyed isMain freshNames instruction tag =>
    have same (cues : List Cue) :
        Session.execute { s with freshNames, cues } isMain instruction tag =
          (Session.execute (Session.bare { s with freshNames }) isMain instruction tag).map
            (·.map (Session.amend { s with freshNames, cues } instruction.scope)) :=
      Session.execute_amend _ isMain instruction tag
    unfold apply
    dsimp only
    rcases hexecute : Session.execute (Session.bare { s with freshNames }) isMain instruction tag
      with _ | outcome
    · refine ⟨[], fun cues => ?_, by simp⟩
      rw [same, hexecute]
      exact (List.append_nil _).symm
    · refine ⟨outcome.effect.session.cues.filter instruction.scope.allows, fun cues => ?_,
        fun _ => allowed⟩
      rw [same, hexecute]
      rfl
  | looked =>
    refine ⟨[], fun cues => ?_, by simp⟩
    show (Session.heldBy { s with cues }).2.cues = _
    rw [Session.heldBy_eq, List.append_nil]
  | haltWent =>
    refine ⟨s.bare.advanceHalt.session.cues.filter (Scope.allows { text := true, halt := true }),
      fun cues => ?_, fun _ => allowed⟩
    show (Session.advanceHalt { s with cues }).session.cues = _
    rw [Session.advanceHalt_amend]
    rfl
  | handedOut => exact absurd rfl h
  | spoken words => exact ⟨[.dialogText words], fun _ => rfl, fun other => absurd rfl (other words)⟩
  | _ => exact ⟨[], fun _ => (List.append_nil _).symm, by simp⟩

/-- What is told comes behind the cues that wait, unless they are handed out. -/
theorem cues_apply {happening : Happening} (h : happening ≠ .handedOut) (s : Session) :
    (apply s happening).cues = s.cues ++ happening.cues s := by
  obtain ⟨new, told, -⟩ := exists_told h s
  rw [cues, told [], List.nil_append]
  exact told s.cues

end Happening

/-- Through a log in which no cues are handed out, all that is told comes behind the cues that
wait. -/
theorem Session.cues_replay {log : List Happening} (waits : .handedOut ∉ log) (s : Session) :
    (s.replay log).cues = s.cues ++ s.emitted log := by
  induction log generalizing s with
  | nil => exact (List.append_nil _).symm
  | cons happening log ih =>
    simp only [List.mem_cons, not_or] at waits
    rw [replay_cons, ih waits.2, Happening.cues_apply (fun same => waits.1 same.symm),
      List.append_assoc]
    rfl

/-! ## Lines are spoken in one place -/

/-- Only a line that is spoken is a line among the cues, and only it is one among the events. -/
theorem Happening.words_agree (happening : Happening) (s : Session) :
    (happening.entries s).filterMap Entry.spoken? = (happening.cues s).filterMap Cue.text? := by
  by_cases told : happening = .handedOut ∨ ∃ words, happening = .spoken words
  · obtain rfl | ⟨words, rfl⟩ := told
    · rfl
    · rfl
  · rw [not_or, not_exists] at told
    obtain ⟨new, behind, quiet⟩ := exists_told told.1 s
    rw [cues, behind [], List.nil_append, List.filterMap_eq_nil_iff.2 (quiet told.2)]
    cases happening with
    | spoken words => exact absurd rfl (told.2 words)
    | _ => rfl

/-- The lines in both streams of a log are the same. -/
theorem Session.words_agree (s : Session) (log : List Happening) :
    (s.recorded log).filterMap Entry.spoken? = (s.emitted log).filterMap Cue.text? := by
  induction log generalizing s with
  | nil => rfl
  | cons happening log ih =>
    have first := happening.words_agree s
    have rest := ih (happening.apply s)
    unfold recorded emitted at rest ⊢
    rw [collect, collect, List.filterMap_append, List.filterMap_append, first, rest]

/-! ## The history is the end of all events -/

/-- The end of a list and one more element, of which the end is kept. -/
theorem rtake_push {α : Type} (list : List α) (a : α) (limit : Nat) :
    (list.rtake limit ++ [a]).rtake limit = (list ++ [a]).rtake limit := by
  cases limit with
  | zero => rw [List.rtake_zero, List.rtake_zero]
  | succ limit =>
    rw [List.rtake_concat_succ, List.rtake_concat_succ]
    simp [List.rtake_eq_reverse_take_reverse, List.take_take]

/-- The history keeps the end of all events. -/
def History.Keeps (history : History) (all : List Entry) : Prop :=
  history.entries = all.rtake history.limit

/-- A history that keeps the end of all events still does after one more. -/
theorem History.Keeps.push {history : History} {all : List Entry} (h : history.Keeps all)
    (entry : Entry) : (history.push entry).Keeps (all ++ [entry]) := by
  show (history.entries ++ [entry]).rtake history.limit = _
  rw [h, rtake_push]
  rfl

namespace Happening

/-- A happening puts its events into the history. -/
theorem keeps_apply {s : Session} {all : List Entry} (h : s.history.Keeps all)
    (happening : Happening) :
    (apply s happening).history.Keeps (all ++ happening.entries s) ∧
      (apply s happening).history.limit = s.history.limit := by
  by_cases touched : happening.reach.history = true
  · cases happening with
    | spoken words => exact ⟨h.push _, rfl⟩
    | started launch => exact ⟨h.push _, rfl⟩
    | sceneBegan scene => exact ⟨h.push _, rfl⟩
    | received signal => cases signal <;> cases touched
    | obeyed isMain freshNames instruction tag => cases instruction <;> cases touched
    | _ => cases touched
  · rw [(happening.scope s).history (Bool.eq_false_iff.2 touched)]
    have none : happening.entries s = [] := by
      cases happening with
      | spoken _ => exact absurd rfl touched
      | started _ => exact absurd rfl touched
      | sceneBegan _ => exact absurd rfl touched
      | _ => rfl
    rw [none, List.append_nil]
    exact ⟨h, rfl⟩

end Happening

/-- A history that keeps the end of all events still does after a log, with the same room. -/
theorem Session.keeps_replay {s : Session} {all : List Entry} (h : s.history.Keeps all)
    (log : List Happening) :
    (s.replay log).history.Keeps (all ++ s.recorded log) ∧
      (s.replay log).history.limit = s.history.limit := by
  induction log generalizing s all with
  | nil =>
    rw [recorded, collect, List.append_nil]
    exact ⟨h, rfl⟩
  | cons happening log ih =>
    obtain ⟨first, limit⟩ := happening.keeps_apply h
    obtain ⟨rest, limit'⟩ := ih first
    rw [List.append_assoc] at rest
    exact ⟨rest, limit'.trans limit⟩

/-! ## Frames -/

namespace Engine

variable {engine after : Engine} {signal : Option Signal}

/-- All that is told in a frame. -/
def told (engine : Engine) (signal : Option Signal) : List Cue :=
  engine.session.emitted (engine.log signal)

/-- A frame that succeeds hands out what was waiting and then what was told in it, and leaves
nothing. -/
theorem cues_of_ok {cues : List Cue} {waiting : Waiting}
    (h : engine.tick signal = (.ok (cues, waiting), after)) :
    cues = engine.session.cues ++ engine.told signal ∧ after.session.cues = [] := by
  obtain ⟨log, hlog, ⟨-, waits⟩, hcues⟩ := log_eq_of_ok h
  have hafter := engine.replay_log signal
  rw [hlog, h, Session.replay_append] at hafter
  refine ⟨?_, congrArg Session.cues hafter.symm⟩
  have nothing : (engine.session.replay log).collect Happening.cues [.handedOut] = [] := rfl
  rw [hcues, Session.cues_replay waits, told, hlog, Session.emitted, Session.emitted,
    Session.collect_append, nothing, List.append_nil]

/-- A frame that fails leaves what was waiting and then what was told in it. -/
theorem cues_of_error {failure : Failure} (h : engine.tick signal = (.error failure, after)) :
    after.session.cues = engine.session.cues ++ engine.told signal := by
  obtain ⟨_, -, -, waits⟩ := log_timed_of_error h
  have hafter := engine.replay_log signal
  rw [h] at hafter
  rw [← hafter, Session.cues_replay waits]
  rfl

/-! ## Performances -/

/-- What a host does next: it plays a frame, or writes. -/
inductive Move where
  /-- A frame. -/
  | frame (signal : Option Signal)
  /-- A write. -/
  | write (write : Write)

/-- The cues that are handed out by the result of a frame. -/
def handedOut : Except Failure (List Cue × Waiting) → List Cue
  | .ok (cues, _) => cues
  | .error _ => []

end Engine

open Engine

/-- A story on its way, with the streams that have left it. -/
structure Performance where
  /-- The engine. -/
  engine : Engine
  /-- The cues that its frames have handed out. -/
  delivered : List Cue
  /-- All cues that were told. -/
  told : List Cue
  /-- All events. -/
  events : List Entry

namespace Performance

/-- A new engine, whose only event is the scene that it begins. -/
def opening (engine : Engine) (scene : SceneRef) : Performance where
  engine := engine
  delivered := []
  told := []
  events := [⟨.sceneChange scene.chapter scene.scene, 0⟩]

/-- One move. -/
def step (p : Performance) : Move → Performance
  | .frame signal =>
    { engine := (p.engine.tick signal).2
      delivered := p.delivered ++ handedOut (p.engine.tick signal).1
      told := p.told ++ p.engine.told signal
      events := p.events ++ p.engine.session.recorded (p.engine.log signal) }
  | .write write => { p with engine := p.engine.write write }

/-- Many moves. -/
def run (p : Performance) (moves : List Move) : Performance :=
  moves.foldl step p

/-- The streams belong together, and the session is at their ends. -/
structure Agrees (limit : Nat) (p : Performance) : Prop where
  /-- What was told is handed out or waits. -/
  cues : p.delivered ++ p.engine.session.cues = p.told
  /-- The history is the end of all events. -/
  history : p.engine.session.history.Keeps p.events
  /-- Its length does not change. -/
  limit : p.engine.session.history.limit = limit
  /-- The lines are the same. -/
  lines : p.events.filterMap Entry.spoken? = p.told.filterMap Cue.text?

variable {limit : Nat} {p : Performance}

/-- A move keeps the streams together: by the cues of a frame, by the history of its log and by the
lines of its log. -/
theorem Agrees.step (h : p.Agrees limit) (move : Move) : (p.step move).Agrees limit := by
  cases move with
  | frame signal =>
    have keeps := Session.keeps_replay h.history (p.engine.log signal)
    rw [p.engine.replay_log signal] at keeps
    refine ⟨?_, keeps.1, keeps.2.trans h.limit, ?_⟩
    · show p.delivered ++ handedOut (p.engine.tick signal).1 ++
        (p.engine.tick signal).2.session.cues =
        p.told ++ p.engine.told signal
      rw [← h.cues]
      rcases htick : p.engine.tick signal with ⟨failure | ⟨cues, waiting⟩, after⟩
      · rw [handedOut, List.append_nil, cues_of_error htick, List.append_assoc]
      · obtain ⟨hcues, nothing⟩ := cues_of_ok htick
        rw [handedOut, nothing, List.append_nil, hcues, List.append_assoc]
    · show (p.events ++ p.engine.session.recorded _).filterMap Entry.spoken? =
        (p.told ++ p.engine.session.emitted _).filterMap Cue.text?
      rw [List.filterMap_append, List.filterMap_append, h.lines, Session.words_agree]
  | write write =>
    obtain ⟨store, stage, clock, freshNames, hwrite⟩ := p.engine.write_session write
    refine ⟨?_, ?_, ?_, h.lines⟩
    · show p.delivered ++ (p.engine.write write).session.cues = p.told
      rw [hwrite]
      exact h.cues
    · show (p.engine.write write).session.history.Keeps p.events
      rw [hwrite]
      exact h.history
    · show (p.engine.write write).session.history.limit = limit
      rw [hwrite]
      exact h.limit

/-- So do many moves. -/
theorem Agrees.run (h : p.Agrees limit) (moves : List Move) : (p.run moves).Agrees limit := by
  induction moves generalizing p with
  | nil => exact h
  | cons move moves ih => exact ih (h.step move)

/-- At the beginning there is one event, and no cue. -/
theorem opening_agrees {story : Story} {settings : Settings} {scene : SceneRef} {engine : Engine}
    (opens : (settings.startup <|> story.startup) = some scene)
    (created : Engine.create story settings = .ok engine) :
    (opening engine scene).Agrees settings.historyLimit := by
  unfold Engine.create at created
  rw [opens] at created
  dsimp only at created
  cases found : story.checkScene scene with
  | error error =>
    rw [found] at created
    cases created
  | ok _ =>
    rw [found] at created
    cases created
    exact ⟨rfl, rfl, rfl, rfl⟩

/-- From the beginning of a story, through frames that fail and frames that do not: what was handed
out, with what still waits, is all that was told; a frame that succeeds hands out what waits, and
then what was told in it, and leaves nothing; the history is the end of all events; and the lines
among the events are those among the cues. -/
theorem streams_agree {story : Story} {settings : Settings} {scene : SceneRef} {engine : Engine}
    (opens : (settings.startup <|> story.startup) = some scene)
    (created : Engine.create story settings = .ok engine) (moves : List Move) :
    let played := (opening engine scene).run moves
    played.delivered ++ played.engine.session.cues = played.told ∧
    (∀ signal cues waiting after, played.engine.tick signal = (.ok (cues, waiting), after) →
      cues = played.engine.session.cues ++ played.engine.told signal ∧ after.session.cues = []) ∧
    played.engine.session.history.entries = played.events.rtake settings.historyLimit ∧
    played.events.filterMap Entry.spoken? = played.told.filterMap Cue.text? := by
  intro played
  have agrees : played.Agrees settings.historyLimit := (opening_agrees opens created).run moves
  refine ⟨agrees.cues, fun _ _ _ _ => cues_of_ok, ?_, agrees.lines⟩
  have history := agrees.history
  unfold History.Keeps at history
  rwa [agrees.limit] at history

/-- A story with a tag in its scene that fails, behind a line and a script. -/
def faltering : Story where
  startup := some ⟨"dawn", "street"⟩
  chapters := .ofEntries [("dawn", { scenes := .ofEntries [("street",
    "Hello.\n<call:bell>\n<dialog_text_sound:tick>\nWorld.")] })]
  reusables := .ofEntries [("bell", "<play_sound:ding>")]

/-- The engine of that story at the beginning, with room for two events. -/
def falteringNew : Engine :=
  .opening faltering { historyLimit := 2 } ⟨"dawn", "street"⟩

/-- What is told before the first frame fails is handed out by the second one, and of four events
the history keeps two. -/
theorem faltering_streams_agree :
    ∃ played, played = (opening falteringNew ⟨"dawn", "street"⟩).run [.frame none, .frame none] ∧
      (falteringNew.tick none).1 = .error (.story (.dialogUndefined "dialog_text_sound")) ∧
      played.told = [.dialogText "Hello.", .playAudio .fx "ding" false, .dialogText "World."] ∧
      played.told = played.delivered ∧
      played.engine.session.history.entries = [⟨.started "bell", 0⟩, ⟨.spoken "World.", 0⟩] ∧
      played.events.filterMap Entry.spoken? = ["Hello.", "World."] := by
  obtain ⟨created, failed, handed, nothing, events, events'⟩ :
      Engine.create faltering { historyLimit := 2 } = .ok falteringNew ∧
      (falteringNew.tick none).1 = .error (.story (.dialogUndefined "dialog_text_sound")) ∧
      ((falteringNew.tick none).2.tick none).1 =
        .ok ([.dialogText "Hello.", .playAudio .fx "ding" false, .dialogText "World."], .finished) ∧
      ((falteringNew.tick none).2.tick none).2.session.cues = [] ∧
      falteringNew.session.recorded (falteringNew.log none) =
        [⟨.spoken "Hello.", 0⟩, ⟨.started "bell", 0⟩] ∧
      (falteringNew.tick none).2.session.recorded ((falteringNew.tick none).2.log none) =
        [⟨.spoken "World.", 0⟩] := by
    decide +kernel
  have opens : (({ historyLimit := 2 } : Settings).startup <|> faltering.startup) =
    some ⟨"dawn", "street"⟩ := rfl
  -- From here on the engine is any one with these frames, so that no step evaluates them again.
  generalize falteringNew = engine at created failed handed nothing events events' ⊢
  obtain ⟨cues, -, history, lines⟩ := streams_agree opens created [.frame none, .frame none]
  refine ⟨_, rfl, failed, ?_⟩
  simp only [run, List.foldl, step, opening, failed, handed, nothing, events, events', handedOut]
    at cues history lines ⊢
  exact ⟨cues.symm, cues.symm, history, lines.trans (cues ▸ rfl)⟩

end Performance

end VisualNovel

import VisualNovel.Proofs.FrameLogs
import VisualNovel.Proofs.Slots

/-!
# Timers that are due

What becomes of the timers that are due in a frame. They are taken in their order, and each of them
has its script started, with its own parameters, unless a script of that name is running. But a
start may fail, and then the frame ends with it, while the timers behind it are no longer pending:
they are lost (`due_timers_fate`). So no timer is lost in a frame that does not fail, or that fails
anywhere else.

That the script of a timer is there at all is an invariant of reachable engines
(`Reachable.knownTimers`): a tag sets a timer for a script of the story only.
-/

namespace VisualNovel

/-! ## Timers along a log -/

/-- What a tag leaves of the timers. -/
def Session.timersAfter (s : Session) (instruction : Instruction) (arguments : Option String) :
    Timers :=
  match instruction with
  | .after => (s.startTimer arguments).timers
  | .cancelAfter => (s.cancelTimer arguments).timers
  | .cancelAllAfter => {}
  | _ => s.timers

namespace Happening

/-- Behind a tag, the timers are what it leaves of them. -/
theorem timers_apply_obeyed (s : Session) (isMain : Bool) (freshNames : List String)
    (instruction : Instruction) (tag : Tag) :
    (apply s (.obeyed isMain freshNames instruction tag)).timers =
      s.timersAfter instruction tag.arguments := by
  by_cases sets : instruction.scope.timers = true
  · cases instruction with
    | after =>
      show (Session.startTimer { s with freshNames } tag.arguments).timers = _
      unfold Session.timersAfter Session.startTimer
      dsimp only
      split
      · rfl
      · split <;> rfl
    | cancelAfter =>
      show (Session.cancelTimer { s with freshNames } tag.arguments).timers = _
      unfold Session.timersAfter Session.cancelTimer
      dsimp only
      split <;> rfl
    | cancelAllAfter => rfl
    | _ => cases sets
  · have untouched := ((Happening.obeyed isMain freshNames instruction tag).scope s).timers
      (Bool.eq_false_iff.2 sets)
    rw [untouched]
    cases instruction with
    | after => exact absurd rfl sets
    | cancelAfter => exact absurd rfl sets
    | cancelAllAfter => exact absurd rfl sets
    | _ => rfl

end Happening

/-! ## Timers of scripts that are there -/

/-- Every pending timer is for a script of the story. -/
def Session.KnownTimers (s : Session) : Prop :=
  ∀ timer ∈ s.timers.pending, s.story.reusables.contains timer.launch.name = true

namespace Timers

/-- A timer that is left was pending. -/
theorem exists_of_mem_left {timers : Timers} {timer : Timer} (h : timer ∈ timers.tick.2.pending) :
    ∃ old ∈ timers.pending, old.launch = timer.launch := by
  unfold tick at h
  simp only [List.partition_eq_filter_filter, List.mem_filter, List.mem_map] at h
  obtain ⟨⟨old, hold, rfl⟩, -⟩ := h
  exact ⟨old, hold, rfl⟩

/-- A timer that is due was pending. -/
theorem exists_of_mem_due {timers : Timers} {launch : Launch} (h : launch ∈ timers.tick.1) :
    ∃ timer ∈ timers.pending, timer.launch = launch := by
  unfold tick at h
  simp only [List.partition_eq_filter_filter, List.mem_filter, List.mem_map] at h
  obtain ⟨_, ⟨⟨old, hold, rfl⟩, -⟩, rfl⟩ := h
  exact ⟨old, hold, rfl⟩

/-- A timer that was added is the new one or was there. -/
theorem mem_add {timers : Timers} {launch : Launch} {frames : Nat} {timer : Timer}
    (h : timer ∈ (timers.add launch frames).pending) :
    timer ∈ timers.pending ∨ timer.launch = launch := by
  unfold add add? at h
  split at h
  · exact .inl h
  · rcases List.mem_append.1 h with h | h
    · exact .inl h
    · rw [List.mem_singleton.1 h]
      exact .inr rfl

end Timers

namespace Session

variable {s : Session}

/-- The timers that a tag leaves are for scripts of the story. -/
theorem KnownTimers.timersAfter (h : s.KnownTimers) (instruction : Instruction)
    (arguments : Option String) :
    ∀ timer ∈ (s.timersAfter instruction arguments).pending,
      s.story.reusables.contains timer.launch.name = true := by
  intro timer mem
  unfold Session.timersAfter at mem
  split at mem
  · unfold startTimer at mem
    split at mem
    · exact h timer mem
    · next launch frames _ =>
      split at mem
      · next known =>
        rcases Timers.mem_add mem with mem | rfl
        · exact h timer mem
        · exact known
      · exact h timer mem
  · unfold cancelTimer at mem
    split at mem
    · exact h timer (List.mem_of_mem_filter mem)
    · exact h timer mem
  · cases mem
  · exact h timer mem

/-- Whatever happens, timers are for scripts of the story. -/
theorem KnownTimers.apply (h : s.KnownTimers) (happening : Happening) :
    (happening.apply s).KnownTimers := by
  intro timer mem
  rw [happening.story_apply]
  by_cases touched : happening.reach.timers = true
  · cases happening with
    | obeyed isMain freshNames instruction tag =>
      rw [Happening.timers_apply_obeyed] at mem
      exact h.timersAfter instruction tag.arguments timer mem
    | timersRan =>
      obtain ⟨old, hold, hlaunch⟩ := Timers.exists_of_mem_left mem
      rw [← hlaunch]
      exact h old hold
    | sceneBegan => cases mem
    | received signal => cases signal <;> cases touched
    | _ => cases touched
  · rw [(happening.scope s).timers (Bool.eq_false_iff.2 touched)] at mem
    exact h timer mem

/-- Through a log, every pending timer stays one for a script of the story. -/
theorem KnownTimers.replay (h : s.KnownTimers) (log : List Happening) :
    (s.replay log).KnownTimers := by
  induction log generalizing s with
  | nil => exact h
  | cons happening log ih => exact ih (h.apply happening)

end Session

namespace Engine

/-- The timers of a reachable engine are for scripts of its story. -/
theorem Reachable.knownTimers {story : Story} {settings : Settings} {engine : Engine}
    (h : Reachable story settings engine) : engine.session.KnownTimers := by
  induction h with
  | create created =>
    obtain ⟨scene, -, rfl⟩ := create_eq_ok created
    intro timer mem
    cases mem
  | @tick engine _ signal _ ih =>
    rw [← engine.replay_log signal]
    exact ih.replay _
  | @write engine _ write ih =>
    obtain ⟨store, stage, clock, freshNames, hwrite⟩ := engine.write_session write
    rw [hwrite]
    exact ih

end Engine

/-! ## The fate of a timer -/

namespace Session

/-- In the log since the session the script of the launch is started: it is there to be read and not
running, and its reader, with the parameters of the launch, reads it at once. -/
def StartedIn (s : Session) (launch : Launch) (log : List Happening) : Prop :=
  ∃ past script bound rest, (s.replay past).startable? launch = some script ∧
    log = past ++ .started launch ::
      ((Reader.ofScript launch script).log (startWithin bound) (logStartWithin bound)
        ((s.replay past).enlist launch) ++ rest)

/-- In the log since the session the script of the launch is not started because one of its name is
running: it was started and has not lost its slot. -/
def RefusedIn (s : Session) (launch : Launch) (log : List Happening) : Prop :=
  ∃ past rest, (s.replay past).background.contains launch.name = true ∧
    log = past ++ .refused launch :: rest

variable {s : Session} {launch : Launch} {log : List Happening}

/-- A script that is started in a log is started in a longer one. -/
theorem StartedIn.append (h : s.StartedIn launch log) (more : List Happening) :
    s.StartedIn launch (log ++ more) := by
  obtain ⟨past, script, bound, rest, startable, rfl⟩ := h
  exact ⟨past, script, bound, rest ++ more, startable, by simp⟩

/-- A script that is refused in a log is refused in a longer one. -/
theorem RefusedIn.append (h : s.RefusedIn launch log) (more : List Happening) :
    s.RefusedIn launch (log ++ more) := by
  obtain ⟨past, rest, running, rfl⟩ := h
  exact ⟨past, rest ++ more, running, by simp⟩

/-- A script that is started in a log is told of there. -/
theorem StartedIn.mem (h : s.StartedIn launch log) : .started launch ∈ log := by
  obtain ⟨past, script, bound, rest, -, rfl⟩ := h
  simp

/-- A script that is refused in a log is told of there. -/
theorem RefusedIn.mem (h : s.RefusedIn launch log) : .refused launch ∈ log := by
  obtain ⟨past, rest, -, rfl⟩ := h
  simp

/-- A script that does not start is refused, within every bound. -/
theorem logStart_of_startable?_eq_none (h : s.startable? launch = none) :
    s.logStart launch = [.refused launch] := by
  unfold logStart
  cases s.story.reusables.size with
  | zero => rfl
  | succ bound =>
    unfold logStartWithin
    rw [h]

/-- A script that starts is read, within a bound for what it starts in turn. -/
theorem logStart_of_startable?_eq_some {script : String} (h : s.startable? launch = some script) :
    ∃ bound rest, s.logStart launch = .started launch ::
      ((Reader.ofScript launch script).log (startWithin bound) (logStartWithin bound)
        (s.enlist launch) ++ rest) := by
  obtain ⟨-, -, found⟩ := startable?_eq_some h
  unfold logStart
  rcases hsize : s.story.reusables.size with _ | bound
  · have empty : s.story.reusables.entries = [] := List.length_eq_zero_iff.1 hsize
    rw [Dict.find?, empty] at found
    cases found
  · unfold logStartWithin
    rw [h]
    exact ⟨bound, _, rfl⟩

/-- A script that is there and has a name is started, unless one of its name is running. -/
theorem started_or_refused (s : Session) {launch : Launch} (past : List Happening)
    (named : launch.name ≠ "") (known : s.story.reusables.contains launch.name = true) :
    s.StartedIn launch (past ++ (s.replay past).logStart launch) ∨
      s.RefusedIn launch (past ++ (s.replay past).logStart launch) := by
  rw [← s.story_replay past] at known
  rcases hstart : (s.replay past).startable? launch with _ | script
  · right
    refine ⟨past, [], ?_, by rw [logStart_of_startable?_eq_none hstart]⟩
    obtain ⟨script, found⟩ := Option.isSome_iff_exists.1 known
    by_contra free
    rw [startable?, if_neg (by simp [named, free]), found] at hstart
    cases hstart
  · left
    obtain ⟨bound, rest, hlog⟩ := logStart_of_startable?_eq_some hstart
    exact ⟨past, script, bound, rest, hstart, by rw [hlog]⟩

end Session

/-! ## The fate of all timers that are due -/

namespace Engine

open Account Happening

/-- Of the timers that are due after `before`, some are handled in the log that follows, and some
are left. -/
structure Handled (s : Session) (before after : List Happening) (handled left : List Launch) :
    Prop where
  /-- The timers are handled in their order. -/
  due : (s.replay before).timers.tick.1 = handled ++ left
  /-- A timer that is handled has its script started, or refused because one of its name is
  running. -/
  fate : ∀ launch ∈ handled, launch.name ≠ "" →
    (s.replay (before ++ [.timersRan])).StartedIn launch after ∨
      (s.replay (before ++ [.timersRan])).RefusedIn launch after

/-- What becomes of the timers that are due after `before`, in a frame that ends with a failure or
without one: they are handled, or lost. -/
structure Fates (s : Session) (failure : Option Failure) (before after : List Happening)
    (handled lost : List Launch) : Prop extends Handled s before after handled lost where
  /-- Timers are lost only by the failure of the last start before them, with which the frame
  ends. -/
  lost : lost ≠ [] → ∃ launch past error, handled.getLast? = some launch ∧ failure = some error ∧
    after = past ++ (s.replay (before ++ .timersRan :: past)).logStart launch ∧
    ((s.replay (before ++ .timersRan :: past)).start launch).2 = some error

/-- The failure that ended a frame. -/
def failure? {α : Type} : Except Failure α → Option Failure
  | .ok _ => none
  | .error failure => some failure

variable {s : Session} {before after : List Happening} {handled left : List Launch}

/-- What is handled in a log is handled in a longer one. -/
theorem Handled.append (h : Handled s before after handled left) (more : List Happening) :
    Handled s before (after ++ more) handled left where
  due := h.due
  fate launch mem named :=
    (h.fate launch mem named).imp (·.append more) (·.append more)

/-- The next start handles the next timer. -/
theorem Handled.next {launch : Launch} (known : s.KnownTimers)
    (h : Handled s before after handled (launch :: left)) :
    Handled s before (after ++ (s.replay (before ++ .timersRan :: after)).logStart launch)
      (handled ++ [launch]) left where
  due := by rw [h.due, List.append_assoc]; rfl
  fate launch' mem named := by
    rcases List.mem_append.1 mem with mem | mem
    · exact ((h.append _).fate launch' mem named)
    · obtain rfl := List.mem_singleton.1 mem
      have due : launch' ∈ (s.replay before).timers.tick.1 := by simp [h.due]
      obtain ⟨timer, pending, rfl⟩ := Timers.exists_of_mem_due due
      have there := known.replay before timer pending
      rw [Session.story_replay, ← s.story_replay (before ++ [.timersRan])] at there
      have start := Session.started_or_refused _ after named there
      rwa [← Session.replay_append, List.append_assoc] at start

/-- The timers have run once, and those that were due are handled but for some that are left. -/
def Handling (s : Session) (left : List Launch) (log : List Happening) : Prop :=
  ∃ before after handled, log = before ++ .timersRan :: after ∧ .timersRan ∉ before ∧
    .timersRan ∉ after ∧ Handled s before after handled left

/-- Where the timers have run only once, the log can be divided there in one way. -/
theorem eq_of_timersRan {before after before' after' : List Happening} (h : .timersRan ∉ before)
    (h' : .timersRan ∉ after)
    (same : before' ++ .timersRan :: after' = before ++ .timersRan :: after) :
    before' = before ∧ after' = after := by
  obtain ⟨hbefore, -, hafter⟩ := (List.append_cons_inj_of_notMem h h').1 same.symm
  exact ⟨hbefore.symm, hafter.symm⟩

/-- One start after another, until one of them fails. -/
theorem handling_launch (known : s.KnownTimers) (launch : Launch) (left : List Launch) :
    Account.Ensures s (fun _ => Handling s (launch :: left)) (Account.launch launch)
      (fun _ _ => Handling s left)
      (fun failure _ log => ∀ before after, log = before ++ .timersRan :: after →
        ∃ handled lost, Fates s (some failure) before after handled lost) := by
  rintro engine _ hs ⟨before, after, handled, rfl, once, once', fates⟩
  have next := fates.next known
  have still : .timersRan ∉ after ++ engine.session.logStart launch := by
    simp only [List.mem_append, not_or]
    exact ⟨once', (engine.session.logStart_scripted launch).not_mem rfl⟩
  have outcome : (Account.launch launch).part.outcome engine =
      (Part.resultOf (engine.session.start launch).2,
        { engine with session := (engine.session.start launch).1 }) :=
    Part.outcome_perform (fun session => { session, launch := some launch }) engine
  rw [← hs] at next
  refine ⟨fun _ _ _ => ⟨before, _, _, ?_, once, still, next⟩, fun failure engine' hout => ?_⟩
  · simp [Account.launch]
  · intro before' after' hlog
    have failed : (engine.session.start launch).2 = some failure :=
      Part.resultOf_eq_error.1 (Prod.mk.inj (outcome.symm.trans hout)).1
    rw [Account.launch, List.append_assoc, List.cons_append] at hlog
    obtain ⟨rfl, rfl⟩ := eq_of_timersRan once still hlog.symm
    rw [hs] at failed
    exact ⟨_, left, next, fun _ => ⟨launch, after, failure, by simp, rfl, by rw [← hs], failed⟩⟩

/-- The timers run, and what is due is handled, unless a start fails. -/
theorem handling_runTimers (known : s.KnownTimers) :
    Account.Ensures s (fun _ log => .timersRan ∉ log) Account.runTimers (fun _ _ => Handling s [])
      (fun failure _ log => ∀ before after, log = before ++ .timersRan :: after →
        ∃ handled lost, Fates s (some failure) before after handled lost) := by
  refine .runTimers (fun left _ => Handling s left) ?_ fun launch left =>
    handling_launch known launch left
  intro engine past hs once
  exact ⟨past, [], [], rfl, once, List.not_mem_nil, by rw [← hs]; rfl, by simp⟩

/-- Every timer that is due in a frame is handled, in its order, but for those behind one whose
start fails. A timer with a name that is handled has its script started with its own parameters, or
a script of that name is running. If the frame does not end with a start that fails, no timer is
lost. -/
theorem due_timers_fate {story : Story} {settings : Settings} {engine : Engine}
    (reachable : Reachable story settings engine) (signal : Option Signal)
    {before after : List Happening} (ran : engine.log signal = before ++ .timersRan :: after) :
    ∃ handled lost,
      Fates engine.session (failure? (engine.tick signal).1) before after handled lost := by
  have known := reachable.knownTimers
  -- Before the timers run nothing is due; from then on all that was due is handled. A failure in
  -- between tells what is lost.
  have phases : Phases engine.session signal (fun _ log => .timersRan ∉ log)
      (fun _ => Handling engine.session []) (fun _ => Handling engine.session [])
      (fun failure _ log => ∀ before after, log = before ++ .timersRan :: after →
        ∃ handled lost, Fates engine.session (some failure) before after handled lost) := by
    refine .of_common (inner_common signal) ?_ ?_ (handling_runTimers known) ?_ ?_
    · intro past log inner once
      simp only [List.mem_append, not_or]
      exact ⟨once, fun mem => (inner _ mem).1 rfl⟩
    · rintro _ log inner ⟨before, after, handled, rfl, once, once', fates⟩
      refine ⟨before, after ++ log, handled, by simp, once, ?_, fates.append log⟩
      simp only [List.mem_append, not_or]
      exact ⟨once', fun mem => (inner _ mem).1 rfl⟩
    · rintro failure _ _ once before after rfl
      simp at once
    · rintro failure _ _ ⟨before, after, handled, rfl, once, once', fates⟩ before' after' hlog
      obtain ⟨rfl, rfl⟩ := eq_of_timersRan once once' hlog.symm
      exact ⟨handled, [], fates, nofun⟩
  obtain ⟨ok, failed⟩ := phases.frame.tick List.not_mem_nil
  rcases htick : engine.tick signal with ⟨failure | ⟨cues, waiting⟩, last⟩
  · exact failed failure last htick before after ran
  · obtain ⟨past, ⟨-, ⟨before', after', handled, rfl, once, once', fates⟩, -⟩, hlog⟩ :=
      ok cues waiting last htick
    rw [hlog, List.append_assoc, List.cons_append] at ran
    have still : .timersRan ∉ after' ++ [.handedOut] := by simp [once']
    obtain ⟨rfl, rfl⟩ := eq_of_timersRan once still ran.symm
    exact ⟨handled, [], fates.append _, nofun⟩

/-- A story whose main script sets two timers for the same frame. The script of the first calls that
of the second. -/
def chiming : Story where
  startup := some ⟨"dawn", "street"⟩
  chapters := .ofEntries [("dawn", { scenes := .ofEntries [("street",
    "<after:1,bell,tone=low>\n<after:1,echo>")] })]
  reusables := .ofEntries [("bell", "<call:echo>"), ("echo", "<play_sound:ding>")]

/-- The engine of that story at the beginning. -/
def chimingNew : Engine :=
  .opening chiming {} ⟨"dawn", "street"⟩

/-- What the first of its timers starts. -/
def chimingBell : Launch :=
  ⟨"bell", some { values := .ofEntries [("tone", "low")] }⟩

/-- In the second frame both timers are due. The script of the first is started with its parameter,
that of the second is running by then, and none is lost. -/
theorem chiming_timers_fate :
    ∃ engine after, Reachable chiming {} engine ∧ engine.log none = [] ++ .timersRan :: after ∧
      engine.session.timers.tick.1 = [chimingBell, ⟨"echo", none⟩] ∧
      .started chimingBell ∈ after ∧ .refused ⟨"echo", none⟩ ∈ after ∧
      ∃ handled lost, Fates engine.session none [] after handled lost := by
  obtain ⟨created, first, second, ran, due, started, refused⟩ :
      Engine.create chiming {} = .ok chimingNew ∧
      (chimingNew.tick none).1 = .ok ([], .finished) ∧
      ((chimingNew.tick none).2.tick none).1 = .ok ([.playAudio .fx "ding" false], .finished) ∧
      ((chimingNew.tick none).2.log none).head? = some .timersRan ∧
      (chimingNew.tick none).2.session.timers.tick.1 = [chimingBell, ⟨"echo", none⟩] ∧
      .started chimingBell ∈ ((chimingNew.tick none).2.log none).tail ∧
      .refused ⟨"echo", none⟩ ∈ ((chimingNew.tick none).2.log none).tail := by
    decide +kernel
  have reachable : Reachable chiming {} (chimingNew.tick none).2 :=
    .tick (.create created) none (by simp [first])
  have hlog : (chimingNew.tick none).2.log none =
      [] ++ .timersRan :: ((chimingNew.tick none).2.log none).tail := List.eq_cons_of_mem_head? ran
  have fates := due_timers_fate reachable none hlog
  rw [second] at fates
  exact ⟨_, _, reachable, hlog, due, started, refused, fates⟩

/-- A story whose main script sets two timers for the same frame. The script of the first fails. -/
def stumbling : Story where
  startup := some ⟨"dawn", "street"⟩
  chapters := .ofEntries [("dawn", { scenes := .ofEntries [("street",
    "<after:1,clumsy>\n<after:1,bell>")] })]
  reusables := .ofEntries [("clumsy", "<dialog_text_sound:tick>"), ("bell", "<play_sound:ding>")]

/-- The engine of that story at the beginning. -/
def stumblingNew : Engine :=
  .opening stumbling {} ⟨"dawn", "street"⟩

/-- The timer for the bell is due in the second frame, and lost in it: its script is neither started
nor refused, and the timer is no longer pending. -/
theorem stumbling_timer_is_lost :
    ∃ engine after, Reachable stumbling {} engine ∧ engine.log none = [] ++ .timersRan :: after ∧
      ⟨"bell", none⟩ ∈ engine.session.timers.tick.1 ∧
      ¬ (engine.session.replay [.timersRan]).StartedIn ⟨"bell", none⟩ after ∧
      ¬ (engine.session.replay [.timersRan]).RefusedIn ⟨"bell", none⟩ after ∧
      (engine.tick none).2.session.timers.contains "bell" = false := by
  obtain ⟨created, first, ran, due, unstarted, unrefused, gone⟩ :
      Engine.create stumbling {} = .ok stumblingNew ∧
      (stumblingNew.tick none).1 = .ok ([], .finished) ∧
      ((stumblingNew.tick none).2.log none).head? = some .timersRan ∧
      ⟨"bell", none⟩ ∈ (stumblingNew.tick none).2.session.timers.tick.1 ∧
      .started ⟨"bell", none⟩ ∉ ((stumblingNew.tick none).2.log none).tail ∧
      .refused ⟨"bell", none⟩ ∉ ((stumblingNew.tick none).2.log none).tail ∧
      ((stumblingNew.tick none).2.tick none).2.session.timers.contains "bell" = false := by
    decide +kernel
  have reachable : Reachable stumbling {} (stumblingNew.tick none).2 :=
    .tick (.create created) none (by simp [first])
  exact ⟨_, _, reachable, List.eq_cons_of_mem_head? ran, due, fun h => unstarted h.mem,
    fun h => unrefused h.mem, gone⟩

end Engine

end VisualNovel

import VisualNovel.Proofs.DueTimers

/-!
# When a timer fires

A timer that is set with a number of frames fires when the timers have run that many times. The
timers run once in a frame, after the signal was taken and before the main script is read, whoever
sets a timer. So the frame in which it fires depends on when it was set: after the timers of a frame
have run, as the main script and all scripts that it calls or that timers start do, it fires that
number of frames later; and before they have run, as a script does that the signal started, one
frame earlier (`timer_fires_on_time`).

The argument follows one timer through the log. `Timers.Awaits` says that there is exactly one timer
for its script, and how often the timers have yet to run. Every happening but the running of the
timers keeps it, unless it cancels the timer or begins a scene (`Happening.spares`).
-/

namespace VisualNovel

/-! ## One timer -/

namespace Timers

/-- There is one timer for the script of the launch: the timers have to run so many times until it
fires. -/
def Awaits (timers : Timers) (launch : Launch) (left : Nat) : Prop :=
  ∃ elapsed, timers.pending.filter (·.launch.name == launch.name) =
    [{ launch, frames := elapsed + left, elapsed }]

variable {timers : Timers} {launch : Launch} {left : Nat}

/-- A timer that waits is pending. -/
theorem Awaits.contains (h : timers.Awaits launch left) : timers.contains launch.name = true := by
  obtain ⟨elapsed, h⟩ := h
  have mem : { launch, frames := elapsed + left, elapsed } ∈ timers.pending :=
    List.mem_of_mem_filter (h ▸ List.mem_singleton_self _)
  simp only [Timers.contains, names, List.contains_eq_mem, List.mem_map, decide_eq_true_eq]
  exact ⟨_, mem, rfl⟩

/-- A new timer is awaited for all of its frames. -/
theorem awaits_add {frames : Nat} (new : timers.contains launch.name = false) (some : 0 < frames) :
    (timers.add launch frames).Awaits launch frames := by
  have none : timers.pending.filter (·.launch.name == launch.name) = [] := by
    rw [List.filter_eq_nil_iff]
    intro timer mem same
    simp only [Timers.contains, names, List.contains_eq_mem, decide_eq_false_iff_not, List.mem_map,
      not_exists, not_and] at new
    exact new timer mem (beq_iff_eq.1 same)
  refine ⟨0, ?_⟩
  have adds : timers.add launch frames = { pending := timers.pending ++ [{ launch, frames }] } := by
    unfold add add?
    rw [if_neg (by simp [new]; omega)]
    rfl
  simp [adds, none]

/-- A timer is awaited as before when another one is set, and none is set for its own script. -/
theorem Awaits.add (h : timers.Awaits launch left) (other : Launch) (frames : Nat) :
    (timers.add other frames).Awaits launch left := by
  unfold Timers.add add?
  split
  · exact h
  · next free =>
    obtain ⟨elapsed, hpending⟩ := h
    have different : (other.name == launch.name) = false := by
      rw [beq_eq_false_iff_ne]
      intro same
      rw [same, Awaits.contains ⟨elapsed, hpending⟩] at free
      simp at free
    exact ⟨elapsed, by simp [hpending, different]⟩

/-- A timer is awaited as before when the one for another script is cancelled. -/
theorem Awaits.cancel (h : timers.Awaits launch left) {name : String} (other : name ≠ launch.name) :
    (timers.cancel name).Awaits launch left := by
  obtain ⟨elapsed, hpending⟩ := h
  refine ⟨elapsed, ?_⟩
  rw [← hpending]
  unfold Timers.cancel
  rw [List.filter_filter]
  refine List.filter_congr fun timer _ => ?_
  by_cases same : timer.launch.name = launch.name
  · simp [same, other.symm]
  · simp [same]

/-- The timer for the script, after the timers have run. -/
theorem filter_advance (launch : Launch) (timers : Timers) :
    (timers.pending.map Timer.advance).filter (·.launch.name == launch.name) =
      (timers.pending.filter (·.launch.name == launch.name)).map Timer.advance := by
  rw [List.filter_map]
  rfl

/-- A timer that is awaited once fires when the timers run. -/
theorem Awaits.due (h : timers.Awaits launch 1) : launch ∈ timers.tick.1 := by
  obtain ⟨elapsed, hpending⟩ := h
  have mem : { launch, frames := elapsed + 1, elapsed } ∈ timers.pending :=
    List.mem_of_mem_filter (hpending ▸ List.mem_singleton_self _)
  unfold tick
  simp only [List.partition_eq_filter_filter, List.mem_map, List.mem_filter]
  exact ⟨_, ⟨⟨_, mem, rfl⟩, by simp [Timer.isDue, Timer.advance]⟩, rfl⟩

/-- A timer that is awaited more than once is awaited once less when the timers run, and does not
fire. -/
theorem Awaits.tick (h : timers.Awaits launch (left + 1)) (more : 0 < left) :
    timers.tick.2.Awaits launch left ∧ ∀ other ∈ timers.tick.1, other.name ≠ launch.name := by
  obtain ⟨elapsed, hpending⟩ := h
  have hadvanced := filter_advance launch timers
  rw [hpending, List.map_singleton] at hadvanced
  have notDue : (Timer.advance { launch, frames := elapsed + (left + 1), elapsed }).isDue =
      false := by
    refine decide_eq_false ?_
    show ¬ elapsed + (left + 1) ≤ elapsed + 1
    omega
  refine ⟨⟨elapsed + 1, ?_⟩, ?_⟩
  · unfold Timers.tick
    simp only [List.partition_eq_filter_filter]
    rw [List.filter_comm, hadvanced, List.filter_cons_of_pos (by simp [notDue]), List.filter_nil,
      Timer.advance, show elapsed + (left + 1) = elapsed + 1 + left by omega]
  · intro other mem same
    unfold Timers.tick at mem
    simp only [List.partition_eq_filter_filter, List.mem_map, List.mem_filter] at mem
    obtain ⟨timer, ⟨hmem, due⟩, rfl⟩ := mem
    have here : timer ∈ (timers.pending.map Timer.advance).filter (·.launch.name == launch.name) :=
      List.mem_filter.2 ⟨List.mem_map.2 hmem, beq_iff_eq.2 same⟩
    rw [hadvanced] at here
    obtain rfl := List.mem_singleton.1 here
    rw [notDue] at due
    cases due

end Timers

/-! ## One timer along a log -/

/-- Whether it neither cancels the timer for a script nor begins a scene. -/
def Happening.spares (name : String) : Happening → Bool
  | .obeyed _ _ .cancelAfter tag => Shape.name.decode? tag.arguments != some (name, ())
  | .obeyed _ _ .cancelAllAfter _ => false
  | .sceneBegan _ => false
  | _ => true

namespace Session

open Happening

variable {s : Session} {launch : Launch} {left : Nat}

/-- What spares a timer and is no running of the timers keeps it. -/
theorem awaits_apply {happening : Happening} (h : s.timers.Awaits launch left)
    (spares : happening.spares launch.name = true) (other : happening ≠ .timersRan) :
    (happening.apply s).timers.Awaits launch left := by
  -- What is not about timers leaves them. Of the rest, only what cancels the timer could end the
  -- wait.
  by_cases touched : happening.reach.timers = true
  · cases happening with
    | obeyed isMain freshNames instruction tag =>
      rw [timers_apply_obeyed]
      cases instruction with
      | after =>
        show (s.startTimer tag.arguments).timers.Awaits launch left
        unfold startTimer
        split
        · exact h
        · split
          · exact h.add _ _
          · exact h
      | cancelAfter =>
        show (s.cancelTimer tag.arguments).timers.Awaits launch left
        unfold cancelTimer
        split
        · next name hname =>
          refine h.cancel fun same => ?_
          rw [same] at hname
          exact absurd hname (bne_iff_ne.1 spares)
        · exact h
      | cancelAllAfter => cases spares
      | _ => exact h
    | timersRan => exact absurd rfl other
    | sceneBegan => cases spares
    | received signal => cases signal <;> cases touched
    | _ => cases touched
  · rw [(happening.scope s).timers (Bool.eq_false_iff.2 touched)]
    exact h

/-- By induction on a log in which the timers do not run. -/
theorem awaits_replay {log : List Happening} (h : s.timers.Awaits launch left)
    (spares : ∀ happening ∈ log, happening.spares launch.name = true) (still : .timersRan ∉ log) :
    (s.replay log).timers.Awaits launch left := by
  induction log generalizing s with
  | nil => exact h
  | cons happening log ih =>
    simp only [List.mem_cons, not_or] at still
    exact ih (awaits_apply h (spares _ List.mem_cons_self) fun same => still.1 same.symm)
      (fun happening mem => spares happening (List.mem_cons_of_mem _ mem)) still.2

/-- Through a log in which the timers run once: the timer is awaited once less, and does not
fire. -/
theorem awaits_through {early late : List Happening} (h : s.timers.Awaits launch (left + 1))
    (more : 0 < left)
    (spares : ∀ happening ∈ early ++ .timersRan :: late, happening.spares launch.name = true)
    (once : .timersRan ∉ early) (once' : .timersRan ∉ late) :
    (s.replay (early ++ .timersRan :: late)).timers.Awaits launch left ∧
      ∀ other ∈ (s.replay early).timers.tick.1, other.name ≠ launch.name := by
  have first :=
    awaits_replay h (fun happening mem => spares happening (List.mem_append_left _ mem)) once
  obtain ⟨next, quiet⟩ := first.tick more
  refine ⟨?_, quiet⟩
  rw [replay_append, replay_cons]
  refine awaits_replay (s := apply (s.replay early) .timersRan) next (fun happening mem => ?_) once'
  exact spares happening (List.mem_append_right _ (List.mem_cons_of_mem _ mem))

/-- A tag that sets a new timer. -/
theorem awaits_obeyed (isMain : Bool) (freshNames : List String) {tag : Tag} {count : Nat}
    (arguments : Launch.ofAfter? tag.arguments = some (launch, count))
    (known : s.story.reusables.contains launch.name = true)
    (new : s.timers.contains launch.name = false) (some : 0 < count) :
    (apply s (.obeyed isMain freshNames .after tag)).timers.Awaits launch count := by
  rw [timers_apply_obeyed]
  show (s.startTimer tag.arguments).timers.Awaits launch count
  unfold startTimer
  rw [arguments]
  dsimp only
  rw [if_pos known]
  exact Timers.awaits_add new some

end Session

/-! ## Runs of frames -/

namespace Engine

open Happening Account

/-- A frame of a run: the engine that it begins with, and its signal. -/
structure Frame where
  /-- The engine. -/
  engine : Engine
  /-- The signal. -/
  signal : Option Signal

/-- What happens in a frame. -/
def Frame.log (frame : Frame) : List Happening :=
  frame.engine.log frame.signal

/-- The timer for a launch is due in a frame when the timers run. -/
def Frame.Fires (frame : Frame) (launch : Launch) : Prop :=
  ∃ before after, frame.log = before ++ .timersRan :: after ∧
    launch ∈ (frame.engine.session.replay before).timers.tick.1

/-- In a frame, after the past, a tag sets a new timer: its script is there, and no timer for it is
pending. -/
structure Frame.Sets (frame : Frame) (past : List Happening) (launch : Launch) (count : Nat) :
    Prop where
  /-- The tag. -/
  tag : ∃ isMain freshNames tag later, Launch.ofAfter? tag.arguments = some (launch, count) ∧
    frame.log = past ++ .obeyed isMain freshNames .after tag :: later
  /-- The script is there. -/
  known : (frame.engine.session.replay past).story.reusables.contains launch.name = true
  /-- The timer is new. -/
  new : (frame.engine.session.replay past).timers.contains launch.name = false

/-- Runs in which all frames succeed, with writes of the host between them. -/
inductive Plays : Engine → List Frame → Engine → Prop where
  /-- Nothing has happened. -/
  | nil (engine : Engine) : Plays engine [] engine
  /-- A frame that succeeds comes first. -/
  | frame {engine after last : Engine} {signal : Option Signal} {cues : List Cue}
    {waiting : Waiting}
    {frames : List Frame} (ok : engine.tick signal = (.ok (cues, waiting), after))
    (rest : Plays after frames last) : Plays engine (⟨engine, signal⟩ :: frames) last
  /-- A write of the host comes first. -/
  | write {engine last : Engine} {frames : List Frame} (write : Write)
    (rest : Plays (engine.write write) frames last) : Plays engine frames last

variable {engine after last : Engine} {signal : Option Signal} {frames : List Frame}

/-- The rest of a run, behind one of its frames. -/
theorem Plays.behind (run : engine.Plays frames last) {index : Nat} {frame : Frame}
    (h : frames[index]? = some frame) :
    ∃ after cues waiting, frame.engine.tick frame.signal = (.ok (cues, waiting), after) ∧
      after.Plays (frames.drop (index + 1)) last := by
  induction run generalizing index with
  | nil => cases h
  | frame ok rest ih =>
    cases index with
    | zero =>
      cases h
      exact ⟨_, _, _, ok, rest⟩
    | succ index => exact ih h
  | write write rest ih => exact ih h

/-- In a frame that succeeds the timers run once, so its log can be divided there. -/
theorem exists_timersRan {cues : List Cue} {waiting : Waiting}
    (ok : engine.tick signal = (.ok (cues, waiting), after)) :
    ∃ early late, engine.log signal = early ++ .timersRan :: late ∧ .timersRan ∉ early ∧
      .timersRan ∉ late := by
  obtain ⟨log, hlog, timed, -⟩ := log_eq_of_ok ok
  have once : (engine.log signal).count .timersRan = 1 := by
    rw [hlog, List.count_append, timed.1]
    rfl
  have mem : .timersRan ∈ engine.log signal :=
    List.count_pos_iff.1 (by rw [once]; exact Nat.one_pos)
  obtain ⟨early, late, hsplit⟩ := List.append_of_mem mem
  rw [hsplit, List.count_append, List.count_cons_self] at once
  exact ⟨early, late, hsplit, List.count_eq_zero.1 (by omega), List.count_eq_zero.1 (by omega)⟩

/-- The frame in which a timer fires, if it was set in a frame after the past, by how many frames
later it is to fire. -/
def firingFrame (index : Nat) (past : List Happening) (count : Nat) : Nat :=
  if .timersRan ∈ past then index + count else index + count - 1

/-- From the place behind a past in one frame until the timers run in another one, everything spares
the timer for a script. -/
def SparedUntil (frames : List Frame) (name : String) (first place final : Nat) : Prop :=
  ∀ index position frame happening, frames[index]? = some frame →
    frame.log[position]? = some happening →
    (first < index ∨ first = index ∧ place < position) →
    (index < final ∨ index = final ∧ .timersRan ∉ frame.log.take (position + 1)) →
    happening.spares name = true

/-- Where everything spares the timer, so does everything between two places. -/
theorem sparedUntil_of_all {name : String}
    (all : ∀ frame ∈ frames, ∀ happening ∈ frame.log, happening.spares name = true)
    (first place final : Nat) : SparedUntil frames name first place final :=
  fun _ _ frame happening hframe hposition _ _ =>
    all frame (List.mem_of_getElem? hframe) happening (List.mem_of_getElem? hposition)

/-- Something in the middle of a list has a place behind the front, up to which nothing else is
there. -/
theorem exists_position {α : Type} (front back : List α) {middle : List α} {a : α}
    (h : a ∈ middle) :
    ∃ position, (front ++ (middle ++ back))[position]? = some a ∧ front.length ≤ position ∧
      (front ++ (middle ++ back)).take (position + 1) ⊆ front ++ middle := by
  obtain ⟨i, hlt, hi⟩ := List.mem_iff_getElem.1 h
  refine ⟨front.length + i, ?_, by omega, ?_⟩
  · rw [List.getElem?_append_right (by omega), Nat.add_sub_cancel_left,
      List.getElem?_append_left hlt, List.getElem?_eq_getElem hlt, hi]
  · rw [← List.append_assoc, List.take_append_of_le_length (by simp; omega)]
    exact List.take_subset _ _

/-- A timer that is awaited at the beginning of a run fires when the timers have run that many
times. -/
theorem Plays.fires {launch : Launch} {left : Nat} (run : engine.Plays frames last)
    (h : engine.session.timers.Awaits launch (left + 1))
    (spared : ∀ index position frame happening, frames[index]? = some frame →
      frame.log[position]? = some happening →
      (index < left ∨ index = left ∧ .timersRan ∉ frame.log.take (position + 1)) →
      happening.spares launch.name = true) :
    (∀ frame, frames[left]? = some frame → frame.Fires launch) ∧
      ∀ index frame, index < left → frames[index]? = some frame →
        ∀ other, other.name = launch.name → ¬ frame.Fires other := by
  -- By induction on the frames. In the last one the timer is due, in those before it waits.
  induction run generalizing left with
  | nil => exact ⟨fun _ hframe => by simp at hframe, fun _ _ _ hframe => by simp at hframe⟩
  | @frame engine after _ signal _ _ frames ok rest ih =>
    obtain ⟨early, late, hlog, once, once'⟩ := exists_timersRan ok
    cases left with
    | zero =>
      refine ⟨?_, fun _ _ lt => absurd lt (Nat.not_lt_zero _)⟩
      rintro _ ⟨⟩
      refine ⟨early, late, hlog, ?_⟩
      refine (Session.awaits_replay h (fun happening mem => ?_) once).due
      obtain ⟨position, hposition, -, hsubset⟩ := exists_position [] (.timersRan :: late) mem
      rw [List.nil_append, ← hlog] at hposition hsubset
      exact spared 0 position _ happening rfl hposition (.inr ⟨rfl, fun mem => once (hsubset mem)⟩)
    | succ left =>
      have all : ∀ happening ∈ early ++ .timersRan :: late, happening.spares launch.name =
          true := by
        intro happening mem
        obtain ⟨position, hposition⟩ := List.mem_iff_getElem?.1 (hlog ▸ mem)
        exact spared 0 position ⟨engine, signal⟩ happening rfl hposition (.inl (Nat.succ_pos left))
      obtain ⟨next, quiet⟩ := Session.awaits_through h (Nat.succ_pos left) all once once'
      have hafter := engine.replay_log signal
      rw [ok, hlog] at hafter
      rw [hafter] at next
      obtain ⟨fires, before⟩ := ih next fun index position frame happening hframe hposition place =>
        spared (index + 1) position frame happening hframe hposition
          (place.imp Nat.succ_lt_succ fun place => ⟨congrArg _ place.1, place.2⟩)
      refine ⟨fires, fun index frame lt hframe other same => ?_⟩
      cases index with
      | zero =>
        cases hframe
        rintro ⟨early', late', hlog', due⟩
        obtain ⟨rfl, -⟩ := eq_of_timersRan once once' (hlog'.symm.trans hlog)
        exact quiet other due same
      | succ index => exact before index frame (Nat.lt_of_succ_lt_succ lt) hframe other same
  | @write engine _ frames write rest ih =>
    obtain ⟨store, stage, clock, freshNames, hwrite⟩ := engine.write_session write
    refine ih ?_ spared
    rw [hwrite]
    exact h

/-- The same behind a frame, at whose end the timer is awaited. -/
theorem Plays.fires_behind {launch : Launch} {left index place : Nat}
    (rest : after.Plays (frames.drop (index + 1)) last)
    (h : after.session.timers.Awaits launch (left + 1))
    (spared : SparedUntil frames launch.name index place (index + 1 + left)) :
    (∀ frame, frames[index + 1 + left]? = some frame → frame.Fires launch) ∧
      ∀ i frame, index < i → i < index + 1 + left → frames[i]? = some frame →
        ∀ other, other.name = launch.name → ¬ frame.Fires other := by
  obtain ⟨fires, before⟩ := rest.fires h fun i position frame happening hframe hposition place => by
    rw [List.getElem?_drop] at hframe
    refine spared _ position frame happening hframe hposition (.inl (by omega)) ?_
    exact place.imp (by omega) fun place => ⟨by omega, place.2⟩
  refine ⟨fun frame hframe => fires frame (by rwa [List.getElem?_drop]),
    fun i frame lo hi hframe => ?_⟩
  refine before (i - (index + 1)) frame (by omega) ?_
  rwa [List.getElem?_drop, Nat.add_sub_cancel' (by omega)]

section set

variable {frame : Frame} {index left : Nat} {past later : List Happening} {set : Happening}
  {launch : Launch} {cues : List Cue} {waiting : Waiting}

/-- A timer that is set after the timers of its frame have run has all its frames before it. -/
theorem fires_of_set_late (hframe : frames[index]? = some frame)
    (ok : frame.engine.tick frame.signal = (.ok (cues, waiting), after))
    (rest : after.Plays (frames.drop (index + 1)) last) (hset : frame.log = past ++ set :: later)
    (start : (set.apply (frame.engine.session.replay past)).timers.Awaits launch (left + 1))
    (still : .timersRan ∉ later)
    (spared : SparedUntil frames launch.name index past.length (index + 1 + left)) :
    (∀ f, frames[index + 1 + left]? = some f → f.Fires launch) ∧
      ∀ i f, index < i → i < index + 1 + left → frames[i]? = some f →
        ∀ other, other.name = launch.name → ¬ f.Fires other := by
  have spares : ∀ happening ∈ later, happening.spares launch.name = true := by
    intro happening mem
    obtain ⟨position, hposition, behind, -⟩ := exists_position (past ++ [set]) [] mem
    rw [List.append_nil, List.append_assoc, List.singleton_append, ← hset] at hposition
    rw [List.length_append, List.length_singleton] at behind
    exact spared index position frame happening hframe hposition (.inr ⟨rfl, by omega⟩)
      (.inl (by omega))
  have next := Session.awaits_replay start spares still
  have hafter := frame.engine.replay_log frame.signal
  rw [ok, show frame.engine.log frame.signal = _ from hset, Session.replay_append,
    Session.replay_cons] at hafter
  rw [hafter] at next
  exact Plays.fires_behind rest next spared

/-- A timer that is set before the timers of its frame run loses its first frame to it. -/
theorem fires_of_set_early {middle : List Happening} (hframe : frames[index]? = some frame)
    (ok : frame.engine.tick frame.signal = (.ok (cues, waiting), after))
    (rest : after.Plays (frames.drop (index + 1)) last)
    (hset : frame.log = past ++ set :: (middle ++ .timersRan :: later))
    (start : (set.apply (frame.engine.session.replay past)).timers.Awaits launch (left + 1))
    (once : .timersRan ∉ past ++ set :: middle) (once' : .timersRan ∉ later)
    (spared : SparedUntil frames launch.name index past.length (index + left)) :
    (∀ f, frames[index + left]? = some f → f.Fires launch) ∧
      ∀ i f, index ≤ i → i < index + left → frames[i]? = some f →
        ∀ other, other.name = launch.name → ¬ f.Fires other := by
  have hlog : frame.log = (past ++ set :: middle) ++ .timersRan :: later := by
    rw [hset, List.append_assoc, List.cons_append]
  have noMiddle : .timersRan ∉ middle := fun mem =>
    once (List.mem_append_right _ (List.mem_cons_of_mem _ mem))
  cases left with
  | zero =>
    -- It fires in this very frame.
    have spares : ∀ happening ∈ middle, happening.spares launch.name = true := by
      intro happening mem
      obtain ⟨position, hposition, behind, hsubset⟩ :=
        exists_position (past ++ [set]) (.timersRan :: later) mem
      rw [List.append_assoc, List.singleton_append] at hposition hsubset
      rw [List.append_assoc, List.singleton_append, ← hset] at hsubset
      rw [← hset] at hposition
      rw [List.length_append, List.length_singleton] at behind
      exact spared index position frame happening hframe hposition (.inr ⟨rfl, by omega⟩)
        (.inr ⟨rfl, fun mem => once (hsubset mem)⟩)
    refine ⟨fun f hf => ?_, fun i f lo hi => absurd hi (by omega)⟩
    obtain rfl : frame = f := Option.some.inj (hframe.symm.trans hf)
    refine ⟨_, _, hlog, ?_⟩
    rw [Session.replay_append, Session.replay_cons]
    exact (Session.awaits_replay start spares noMiddle).due
  | succ left =>
    have spares : ∀ happening ∈ middle ++ .timersRan :: later, happening.spares launch.name =
        true := by
      intro happening mem
      obtain ⟨position, hposition, behind, -⟩ := exists_position (past ++ [set]) [] mem
      rw [List.append_nil, List.append_assoc, List.singleton_append, ← hset] at hposition
      rw [List.length_append, List.length_singleton] at behind
      exact spared index position frame happening hframe hposition (.inr ⟨rfl, by omega⟩)
        (.inl (by omega))
    obtain ⟨next, quiet⟩ := Session.awaits_through start (Nat.succ_pos left) spares noMiddle once'
    have hafter := frame.engine.replay_log frame.signal
    rw [ok, show frame.engine.log frame.signal = _ from hset, Session.replay_append,
      Session.replay_cons] at hafter
    rw [hafter] at next
    rw [show index + (left + 1) = index + 1 + left by omega] at spared ⊢
    obtain ⟨fires, before⟩ := Plays.fires_behind rest next spared
    refine ⟨fires, fun i f lo hi hf other same => ?_⟩
    rcases Nat.lt_or_eq_of_le lo with lo | rfl
    · exact before i f lo hi hf other same
    · obtain rfl : frame = f := Option.some.inj (hframe.symm.trans hf)
      rintro ⟨early, late, hlog', due⟩
      obtain ⟨rfl, -⟩ := eq_of_timersRan once once' (hlog'.symm.trans hlog)
      rw [Session.replay_append, Session.replay_cons] at due
      exact quiet other due same

end set

/-- A timer that is set fires on time. In a run of frames that all succeed, a tag sets a new timer
with some frames, and nothing cancels it and no scene begins until it is to fire. If the timers of
that frame had run before, it fires that many frames later; if they had not, as where the signal
started the script, it fires one frame earlier than that. It does not fire before. -/
theorem timer_fires_on_time (run : engine.Plays frames last) {index : Nat} {frame : Frame}
    (hframe : frames[index]? = some frame) {past : List Happening} {launch : Launch} {count : Nat}
    (sets : frame.Sets past launch count) (some : 0 < count)
    (spared : SparedUntil frames launch.name index past.length (firingFrame index past count)) :
    (∀ f, frames[firingFrame index past count]? = .some f → f.Fires launch) ∧
      ∀ i f, (index < i ∨ index = i ∧ .timersRan ∉ past) → i < firingFrame index past count →
        frames[i]? = .some f → ∀ other, other.name = launch.name → ¬ f.Fires other := by
  obtain ⟨after, cues, waiting, ok, rest⟩ := run.behind hframe
  obtain ⟨early, late, hlog, once, once'⟩ := exists_timersRan ok
  obtain ⟨isMain, freshNames, tag, later, arguments, hset⟩ := sets.tag
  have start := Session.awaits_obeyed isMain freshNames arguments sets.known sets.new some
  obtain ⟨left, rfl⟩ : ∃ left, count = left + 1 := ⟨count - 1, by omega⟩
  have same : past ++ .obeyed isMain freshNames .after tag :: later = early ++ .timersRan :: late :=
    hset.symm.trans hlog
  -- The frame in which it is set counts if the timers have still to run in it.
  by_cases ran : .timersRan ∈ past
  · have still : .timersRan ∉ later := by
      obtain ⟨front, back, rfl⟩ := List.append_of_mem ran
      rw [List.append_assoc, List.cons_append] at same
      obtain ⟨-, rfl⟩ := eq_of_timersRan once once' same
      exact fun mem => once' (List.mem_append_right _ (List.mem_cons_of_mem _ mem))
    rw [firingFrame, if_pos ran, ← Nat.add_assoc, Nat.add_right_comm] at spared ⊢
    obtain ⟨fires, before⟩ := fires_of_set_late hframe ok rest hset start still spared
    exact ⟨fires, fun i f place => before i f (place.resolve_right fun place => place.2 ran)⟩
  · have mem : .timersRan ∈ later := by
      have mem : .timersRan ∈ past ++ .obeyed isMain freshNames .after tag :: later := by
        simp [same]
      simpa [ran] using mem
    obtain ⟨middle, late', rfl⟩ := List.append_of_mem mem
    rw [← List.cons_append, ← List.append_assoc] at same
    obtain ⟨hearly, hlate⟩ := eq_of_timersRan once once' same
    rw [← hearly] at once
    rw [← hlate] at once'
    rw [firingFrame, if_neg ran, ← Nat.add_assoc, Nat.add_sub_cancel] at spared ⊢
    obtain ⟨fires, before⟩ := fires_of_set_early hframe ok rest hset start once once' spared
    exact ⟨fires, fun i f place =>
      before i f (place.elim Nat.le_of_lt fun place => Nat.le_of_eq place.1)⟩

/-- What comes behind the front of a list, from its place on. -/
theorem eq_append_of_place {α : Type} {list front : List α} {a : α} {place : Nat}
    (hfront : list.take place = front) (here : list[place]? = some a) :
    list = front ++ a :: list.drop (place + 1) := by
  obtain ⟨lt, rfl⟩ := List.getElem?_eq_some_iff.1 here
  conv_lhs => rw [← List.take_append_drop place list, hfront, List.drop_eq_getElem_cons lt]

/-- A timer is set at a place of the log. -/
theorem Frame.Sets.of_place {past : List Happening} {place count : Nat} {isMain : Bool}
    {freshNames : List String} {tag : Tag} {launch : Launch}
    (hpast : (engine.log signal).take place = past)
    (here : (engine.log signal)[place]? = some (.obeyed isMain freshNames .after tag))
    (arguments : Launch.ofAfter? tag.arguments = some (launch, count))
    (known : (engine.session.replay past).story.reusables.contains launch.name = true)
    (new : (engine.session.replay past).timers.contains launch.name = false) :
    Frame.Sets ⟨engine, signal⟩ past launch count :=
  ⟨⟨_, _, _, _, arguments, eq_append_of_place hpast here⟩, known, new⟩

/-- A timer fires at a place of the log. -/
theorem Frame.Fires.of_place {place : Nat} {launch : Launch}
    (here : (engine.log signal)[place]? = some .timersRan)
    (due : launch ∈ (engine.session.replay ((engine.log signal).take place)).timers.tick.1) :
    Frame.Fires ⟨engine, signal⟩ launch :=
  ⟨_, _, eq_append_of_place rfl here, due⟩

/-- A story whose main script sets a timer with two frames. -/
def tolling : Story where
  startup := some ⟨"dawn", "street"⟩
  chapters := .ofEntries [("dawn", { scenes := .ofEntries [("street", "<after:2,bell>")] })]
  reusables := .ofEntries [("bell", "<play_sound:ding>")]

/-- The engine of that story at the beginning. -/
def tollingNew : Engine :=
  .opening tolling {} ⟨"dawn", "street"⟩

/-- The main script sets its timer in the first frame, after the timers have run, and it fires in
the third. -/
theorem tolling_timer_fires :
    ∃ first second third last past, tollingNew.Plays [first, second, third] last ∧
      first.Sets past ⟨"bell", none⟩ 2 ∧ .timersRan ∈ past ∧ third.Fires ⟨"bell", none⟩ ∧
      ¬ second.Fires ⟨"bell", none⟩ := by
  obtain ⟨ok₀, ok₁, ok₂, front, here, arguments, known, new, spared₀, spared₁, spared₂⟩ :
      (tollingNew.tick none).1 = .ok ([], .finished) ∧
      ((tollingNew.tick none).2.tick none).1 = .ok ([], .finished) ∧
      (((tollingNew.tick none).2.tick none).2.tick none).1 =
        .ok ([.playAudio .fx "ding" false], .finished) ∧
      (tollingNew.log none).take 2 = [.timersRan, .looked] ∧
      (tollingNew.log none)[2]? = some (.obeyed true [] .after ⟨"after", some "2,bell"⟩) ∧
      Launch.ofAfter? (some "2,bell") = some (⟨"bell", none⟩, 2) ∧
      (tollingNew.session.replay [.timersRan, .looked]).story.reusables.contains "bell" = true ∧
      (tollingNew.session.replay [.timersRan, .looked]).timers.contains "bell" = false ∧
      (∀ happening ∈ tollingNew.log none, happening.spares "bell" = true) ∧
      (∀ happening ∈ (tollingNew.tick none).2.log none, happening.spares "bell" = true) ∧
      (∀ happening ∈ ((tollingNew.tick none).2.tick none).2.log none,
        happening.spares "bell" = true) := by
    decide +kernel
  have run : tollingNew.Plays [⟨tollingNew, none⟩, ⟨(tollingNew.tick none).2, none⟩,
      ⟨((tollingNew.tick none).2.tick none).2, none⟩]
      (((tollingNew.tick none).2.tick none).2.tick none).2 :=
    .frame (tick_eq_of_result ok₀) (.frame (tick_eq_of_result ok₁)
      (.frame (tick_eq_of_result ok₂) (.nil _)))
  have sets : Frame.Sets ⟨tollingNew, none⟩ [.timersRan, .looked] ⟨"bell", none⟩ 2 :=
    .of_place front here arguments known new
  have spared : ∀ frame ∈ [⟨tollingNew, none⟩, ⟨(tollingNew.tick none).2, none⟩,
      (⟨((tollingNew.tick none).2.tick none).2, none⟩ : Frame)], ∀ happening ∈ frame.log,
      happening.spares "bell" = true := by
    simp only [List.forall_mem_cons, Frame.log]
    exact ⟨spared₀, spared₁, spared₂, fun _ mem => absurd mem List.not_mem_nil⟩
  have ran : .timersRan ∈ [Happening.timersRan, .looked] := List.mem_cons_self
  -- From here on no frame has to be computed.
  generalize (⟨tollingNew, none⟩ : Frame) = first at run sets spared
  generalize (⟨(tollingNew.tick none).2, none⟩ : Frame) = second at run spared
  generalize (⟨((tollingNew.tick none).2.tick none).2, none⟩ : Frame) = third at run spared
  generalize (((tollingNew.tick none).2.tick none).2.tick none).2 = last at run
  generalize [Happening.timersRan, .looked] = past at sets ran
  have hfiring : firingFrame 0 past 2 = 2 := by rw [firingFrame, if_pos ran]
  obtain ⟨fires, before⟩ := timer_fires_on_time run List.getElem?_cons_zero sets Nat.two_pos
    (sparedUntil_of_all spared _ _ _)
  rw [hfiring] at fires before
  exact ⟨first, second, third, last, past, run, sets, ran, fires third rfl,
    before 1 second (.inl Nat.one_pos) Nat.one_lt_two rfl _ rfl⟩

/-- A frame that begins with its timers fires none but those that are due then. -/
theorem Frame.not_fires {launch : Launch} (ran : (engine.log signal).head? = some .timersRan)
    (once : .timersRan ∉ (engine.log signal).tail)
    (notDue : launch ∉ engine.session.timers.tick.1) :
    ¬ Frame.Fires ⟨engine, signal⟩ launch := by
  rintro ⟨before, after, hlog, due⟩
  have split : before ++ .timersRan :: after = [] ++ .timersRan :: (engine.log signal).tail :=
    hlog.symm.trans (List.eq_cons_of_mem_head? ran)
  obtain ⟨rfl, -⟩ := eq_of_timersRan List.not_mem_nil once split
  exact notDue due

/-- A story whose dialog starts a script at the end of a halt. The script sets a timer with one
frame. -/
def ringing : Story where
  startup := some ⟨"dawn", "street"⟩
  chapters := .ofEntries [("dawn", { scenes := .ofEntries [("street",
    "<text_dialog_define:9,4,5,no animation,no animation,center,,1,1,9,no,,,,,,ring,,9,2>\n" ++
    "<halt>")] })]
  reusables := .ofEntries [("ring", "<after:1,bell>"), ("bell", "<play_sound:ding>")]

/-- The engine of that story at the beginning. -/
def ringingNew : Engine :=
  .opening ringing {} ⟨"dawn", "street"⟩

/-- A click ends the halt in the second frame, and the timer that is set then fires in that frame
and not in the next one. -/
theorem ringing_timer_fires_early :
    ∃ first second third last past, Reachable ringing {} ringingNew ∧
      ringingNew.Plays [first, second, third] last ∧ second.Sets past ⟨"bell", none⟩ 1 ∧
      (∀ frame ∈ [first, second, third], ∀ happening ∈ frame.log, happening.spares "bell" = true) ∧
      second.Fires ⟨"bell", none⟩ ∧ ¬ third.Fires ⟨"bell", none⟩ := by
  obtain ⟨created, ok₀, ok₁, ok₂, front, here, arguments, known, new, spared₀, spared₁, spared₂,
      ran, due, ran', once, notDue⟩ :
      Engine.create ringing {} = .ok ringingNew ∧
      (ringingNew.tick none).1.isOk = true ∧
      ((ringingNew.tick none).2.tick (some .click)).1 =
        .ok ([.clearText, .playAudio .fx "ding" false], .finished) ∧
      (((ringingNew.tick none).2.tick (some .click)).2.tick none).1 = .ok ([], .finished) ∧
      ((ringingNew.tick none).2.log (some .click)).take 2 =
        [.received .click, .started ⟨"ring", none⟩] ∧
      ((ringingNew.tick none).2.log (some .click))[2]? =
        some (.obeyed false [] .after ⟨"after", some "1,bell"⟩) ∧
      Launch.ofAfter? (some "1,bell") = some (⟨"bell", none⟩, 1) ∧
      ((ringingNew.tick none).2.session.replay
        [.received .click, .started ⟨"ring", none⟩]).story.reusables.contains "bell" = true ∧
      ((ringingNew.tick none).2.session.replay
        [.received .click, .started ⟨"ring", none⟩]).timers.contains "bell" = false ∧
      (∀ happening ∈ ringingNew.log none, happening.spares "bell" = true) ∧
      (∀ happening ∈ (ringingNew.tick none).2.log (some .click), happening.spares "bell" = true) ∧
      (∀ happening ∈ ((ringingNew.tick none).2.tick (some .click)).2.log none,
        happening.spares "bell" = true) ∧
      ((ringingNew.tick none).2.log (some .click))[4]? = some .timersRan ∧
      ⟨"bell", none⟩ ∈ ((ringingNew.tick none).2.session.replay
        (((ringingNew.tick none).2.log (some .click)).take 4)).timers.tick.1 ∧
      (((ringingNew.tick none).2.tick (some .click)).2.log none).head? = some .timersRan ∧
      .timersRan ∉ (((ringingNew.tick none).2.tick (some .click)).2.log none).tail ∧
      ⟨"bell", none⟩ ∉ ((ringingNew.tick none).2.tick (some .click)).2.session.timers.tick.1 := by
    decide +kernel
  rcases first : (ringingNew.tick none).1 with failure | ⟨cues, waiting⟩
  · rw [first] at ok₀
    cases ok₀
  have run : ringingNew.Plays [⟨ringingNew, none⟩, ⟨(ringingNew.tick none).2, some .click⟩,
      ⟨((ringingNew.tick none).2.tick (some .click)).2, none⟩]
      (((ringingNew.tick none).2.tick (some .click)).2.tick none).2 :=
    .frame (tick_eq_of_result first) (.frame (tick_eq_of_result ok₁)
      (.frame (tick_eq_of_result ok₂) (.nil _)))
  have sets : Frame.Sets ⟨(ringingNew.tick none).2, some .click⟩
      [.received .click, .started ⟨"ring", none⟩] ⟨"bell", none⟩ 1 :=
    .of_place front here arguments known new
  have fires : Frame.Fires ⟨(ringingNew.tick none).2, some .click⟩ ⟨"bell", none⟩ :=
    .of_place ran due
  have silent : ¬ Frame.Fires ⟨((ringingNew.tick none).2.tick (some .click)).2, none⟩
      ⟨"bell", none⟩ := Frame.not_fires ran' once notDue
  refine ⟨_, _, _, _, _, .create created, run, sets, ?_, fires, silent⟩
  simp only [List.forall_mem_cons, Frame.log]
  exact ⟨spared₀, spared₁, spared₂, fun _ mem => absurd mem List.not_mem_nil⟩

end Engine

end VisualNovel

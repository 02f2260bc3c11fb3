import VisualNovel.Proofs.Margins
import VisualNovel.Proofs.SceneIsolation
import VisualNovel.Proofs.Slots

/-!
# Strides of a story

A frame does one or more of three things for the main script: a scene begins, a frame of a pause
passes, or the script is read on until something holds it again. Each of them is a stride. Which
stride comes next, and what it tells the host, depends on little: not on the history or the time,
nor on scripts that are over, nor on the hold of the host. What it depends on is the settled engine
(`Engine.settled`), and `Engine.stride` is the next stride from there.

So there is one course that a story takes (`Engine.course`), and a frame can only go some strides
along it. This module shows it for the reading of the main script (`Engine.comesTo_of_step`), which
takes no stride where only the host holds the script, one where it is held or reads on, and two
where a pause ends and the script reads on in the same frame.

Between these two strides a frame differs from its strides. The script that the end of the pause has
started is over, but its slot is still taken, so it cannot be started again in that frame; and if it
went to a scene, the main script is still read before that scene begins. `Session.GoesOnFreely`
excludes both.
-/

namespace VisualNovel

/-! ## Settled sessions -/

/-- A second look at the same stage keeps all rules. -/
theorem WaitRules.holding_holding (rules : WaitRules) (stage : Stage) :
    WaitRules.holding (rules.holding stage) stage = rules.holding stage := by
  simp only [holding, List.filter_filter, Bool.and_self]

namespace Session

variable (s : Session)

/-- The bare session after a look. -/
def calm : Session :=
  { s.bare with waits := s.awaited }

/-- The history, the time and the cues of the session. -/
def backlog : Backlog :=
  ⟨s.history, s.clock, s.cues⟩

/-- The running scripts of the session, and the hold of the host. -/
def margin : Margin :=
  ⟨s.background.slots, s.background.ended, s.pause.manual⟩

/-- Where no script is running, the margin is the hold of the host. -/
theorem margin_of_alone {s : Session} (alone : s.background = {}) :
    s.margin = { manual := s.pause.manual } := by
  unfold margin
  rw [alone]

/-- After a look the session is its calm one, with all that was left out. -/
theorem heldBy_snd : s.heldBy.2 = (s.calm.onto s.backlog).within s.margin := by
  rw [heldBy_eq]
  simp [calm, bare, backlog, margin, onto, within, Background.within]

/-- A second look forgets nothing more. -/
theorem awaited_heldBy : s.heldBy.2.awaited = s.awaited := by
  rw [heldBy_eq]
  unfold awaited
  dsimp only
  split
  · rfl
  · exact WaitRules.holding_holding s.waits s.stage

/-- A second look finds the same. -/
theorem ownHold_heldBy : s.heldBy.2.ownHold = s.ownHold := by
  have twice := WaitRules.holding_holding s.waits s.stage
  rw [heldBy_eq]
  unfold ownHold awaited
  dsimp only
  split_ifs <;> simp_all

/-- A second look changes nothing. -/
theorem calm_heldBy : s.heldBy.2.calm = s.calm := by
  have waits := s.awaited_heldBy
  rw [heldBy_eq] at waits ⊢
  unfold calm
  rw [waits]
  rfl

/-- The calm session is held by the same, the host apart. -/
theorem ownHold_calm : s.calm.ownHold = s.ownHold := by
  have same := s.ownHold_heldBy
  rwa [heldBy_snd] at same

/-- The main script finds itself held by something, or by the host. -/
theorem lookUp_eq {role : Role} (isMain : role.isMain = true) :
    role.lookUp s = (s.ownHold.isSome || s.pause.manual, s.heldBy.2) := by
  have held : s.heldBy.1.isSome = (s.ownHold.isSome || s.pause.manual) := by
    rw [heldBy_eq]
    cases s.ownHold <;> cases s.pause.manual <;> rfl
  unfold Role.lookUp isHeld
  rw [if_pos isMain, ← held]

end Session

/-! ## Readers with their lines -/

namespace Reader

/-- The reader with the lines of its script, if it has still to get them. -/
def primed (reader : Reader) (story : Story) : Reader :=
  if reader.finished || reader.loaded then reader
  else
    match reader.load story with
    | .ok loaded => loaded
    | .error _ => reader

variable {reader : Reader} {story : Story}

/-- A reader that has its lines is primed. -/
theorem primed_of_loaded (h : reader.loaded = true) : reader.primed story = reader := by
  simp [primed, h]

/-- A reader stays that of its script when it gets its lines. -/
theorem primed_role (reader : Reader) (story : Story) :
    (reader.primed story).role = reader.role := by
  unfold primed
  split
  · rfl
  · split
    · next hload => exact load_role hload
    · rfl

/-- A reader is no sooner over for having its lines. -/
theorem primed_finished (reader : Reader) (story : Story) :
    (reader.primed story).finished = reader.finished := by
  unfold primed
  split
  · rfl
  · split
    · next hload =>
      obtain ⟨lines, rfl⟩ := eq_of_load hload
      rfl
    · rfl

/-- A reader that is not over and does not fail gets its lines first, and then does what it does
with them. -/
theorem step_eq_advance {start : Starter} {s : Session} (unfinished : reader.finished = false)
    (ok : (reader.step start s).failure = none) :
    (reader.primed s.story).loaded = true ∧
      reader.step start s = (reader.primed s.story).advance start s ∧
      ∀ scribe, reader.log start scribe s = (reader.primed s.story).logAdvance start scribe s := by
  by_cases loaded : reader.loaded = true
  · rw [primed_of_loaded loaded]
    refine ⟨loaded, ?_, fun scribe => ?_⟩
    · unfold step
      simp [unfinished, loaded]
    · unfold log
      simp [unfinished, loaded]
  · rcases hload : reader.load s.story with error | full
    · -- Then it would fail.
      unfold step at ok
      simp [unfinished, loaded, hload] at ok
    · have primed : reader.primed s.story = full := by
        unfold primed
        simp [unfinished, loaded, hload]
      rw [primed]
      refine ⟨?_, ?_, fun scribe => ?_⟩
      · obtain ⟨lines, rfl⟩ := eq_of_load hload
        rfl
      · unfold step
        simp [unfinished, loaded, hload]
      · unfold log
        simp [unfinished, loaded, hload]

end Reader

/-! ## Strides -/

namespace Engine

/-- What the next stride depends on: the main reader with its lines, and the calm session. -/
def settled (engine : Engine) : Engine where
  main := engine.main.primed engine.session.story
  session := engine.session.calm

/-- The next stride: a scene that is to begin begins, or else a frame of a pause passes for a main
script that is held, or else it is read on. When the main script is over there is nothing left to
do. -/
def stride (engine : Engine) : Engine :=
  match engine.session.pendingScene with
  | some scene => engine.unpend.enterScene scene
  | none =>
    if engine.main.finished then engine
    else if engine.session.ownHold.isSome then
      { engine with session := (engine.session.elapse Session.start).1 }
    else
      let reading := engine.main.proceed Session.start engine.session
      { main := reading.reader, session := reading.session }

/-- What some strides from a settled engine on have told, and the settled engine after them. -/
def course (engine : Engine) : Nat → List Cue × Engine
  | 0 => ([], engine)
  | strides + 1 =>
    let (told, last) := engine.course strides
    (told ++ last.stride.session.cues, last.stride.settled)

/-- Strides and more strides make one course. -/
theorem course_add (engine : Engine) (strides more : Nat) :
    engine.course (strides + more) =
      ((engine.course strides).1 ++ ((engine.course strides).2.course more).1,
        ((engine.course strides).2.course more).2) := by
  induction more with
  | zero => simp [course]
  | succ more ih => simp [course, ih]

/-- More strides tell more. -/
theorem course_isPrefix (engine : Engine) {strides more : Nat} (h : strides ≤ more) :
    (engine.course strides).1 <+: (engine.course more).1 := by
  obtain ⟨rest, rfl⟩ := Nat.exists_eq_add_of_le h
  rw [course_add]
  exact List.prefix_append _ _

/-- Some strides lead from one settled engine to another, and tell the cues. -/
def ComesTo (engine : Engine) (told : List Cue) (last : Engine) : Prop :=
  ∃ strides, engine.course strides = (told, last)

namespace ComesTo

variable {engine middle last : Engine} {told more : List Cue}

/-- Without a stride, an engine comes to itself. -/
theorem refl (engine : Engine) : engine.ComesTo [] engine := ⟨0, rfl⟩

/-- One stride. -/
theorem stride (engine : Engine) :
    engine.ComesTo engine.stride.session.cues engine.stride.settled :=
  ⟨1, rfl⟩

/-- Strides lead on one after the other. -/
theorem trans (h : engine.ComesTo told middle) (h' : middle.ComesTo more last) :
    engine.ComesTo (told ++ more) last := by
  obtain ⟨strides, hfirst⟩ := h
  obtain ⟨strides', hsecond⟩ := h'
  refine ⟨strides + strides', ?_⟩
  rw [course_add, hfirst, hsecond]

/-- There is one course, and who has gone farther on it has told more. -/
theorem comparable {last' : Engine} {told' : List Cue} (h : engine.ComesTo told last)
    (h' : engine.ComesTo told' last') : told <+: told' ∨ told' <+: told := by
  obtain ⟨strides, hfirst⟩ := h
  obtain ⟨strides', hsecond⟩ := h'
  have told_eq : told = (engine.course strides).1 := by rw [hfirst]
  have told'_eq : told' = (engine.course strides').1 := by rw [hsecond]
  rw [told_eq, told'_eq]
  exact (Nat.le_total strides strides').imp engine.course_isPrefix engine.course_isPrefix

end ComesTo

section next

variable {engine : Engine}

/-- A scene that is to begin is the next stride. -/
theorem stride_of_scene {scene : SceneRef} (pending : engine.session.pendingScene = some scene) :
    engine.stride = engine.unpend.enterScene scene := by
  unfold stride
  rw [pending]

/-- A frame of the pauses is the next stride of a main script that is held. -/
theorem stride_of_held (pending : engine.session.pendingScene = none)
    (unfinished : engine.main.finished = false) (held : engine.session.ownHold.isSome = true) :
    engine.stride = { engine with session := (engine.session.elapse Session.start).1 } := by
  unfold stride
  simp [pending, unfinished, held]

/-- Reading on is the next stride of a main script that is free. -/
theorem stride_of_free (pending : engine.session.pendingScene = none)
    (unfinished : engine.main.finished = false) (free : engine.session.ownHold = none) :
    engine.stride =
      { main := (engine.main.proceed Session.start engine.session).reader
        session := (engine.main.proceed Session.start engine.session).session } := by
  unfold stride
  simp [pending, unfinished, free]

end next

end Engine

/-! ## Scripts that are over -/

/-- A run adds slots behind those that are there. After a run without a failure their scripts are
over, and nothing else is noted as over. -/
structure Session.Leaves (failure : Option Failure) (s t : Session) : Prop where
  /-- The slots that are added. -/
  added : ∃ added, t.background.slots = s.background.slots ++ added ∧
    (failure = none → ∀ slot ∈ added, ∃ reader, slot.reader = some reader ∧ reader.finished = true)
  /-- What is noted as over has a slot, or was noted before. -/
  noted : ∀ name ∈ t.background.ended, name ∈ s.background.ended ∨ name ∈ t.background.names

/-- A reader that comes back adds at most its own name. -/
theorem Background.mem_ended_checkIn {background : Background} {index : Nat} {reader : Reader}
    {name : String} (h : name ∈ (background.checkIn index reader).ended) :
    name ∈ background.ended ∨ reader.role.name? = some name := by
  unfold checkIn at h
  split at h
  · exact .inl h
  · next name' hname =>
    dsimp only at h
    split at h
    · rcases List.mem_append.1 h with mem | mem
      · exact .inl mem
      · rw [List.mem_singleton.1 mem]
        exact .inr hname
    · exact .inl h

namespace Session

/-- A change that keeps the running scripts leaves none behind. -/
theorem Keeps.leaves {s t : Session} (h : s.Keeps t) (failure : Option Failure) :
    Leaves failure s t where
  added := ⟨[], by rw [h.background, List.append_nil], by simp⟩
  noted name mem := .inl (h.background ▸ mem)

namespace Leaves

variable {s t u : Session} {failure : Option Failure}

/-- What is left without a failure is left. -/
theorem weaken (failure : Option Failure) (h : Leaves none s t) : Leaves failure s t := by
  obtain ⟨added, hadded, isOver⟩ := h.added
  exact ⟨⟨added, hadded, fun _ => isOver rfl⟩, h.noted⟩

/-- What is left twice in a row is left. -/
theorem trans (h : Leaves none s t) (h' : Leaves failure t u) : Leaves failure s u := by
  obtain ⟨first, hfirst, isOver⟩ := h.added
  obtain ⟨second, hsecond, isOver'⟩ := h'.added
  refine ⟨⟨first ++ second, by rw [hsecond, hfirst, List.append_assoc], fun ok => ?_⟩, ?_⟩
  · exact List.forall_mem_append.2 ⟨isOver rfl, isOver' ok⟩
  · intro name mem
    rcases h'.noted name mem with mem | mem
    · refine (h.noted name mem).imp_right fun mem => ?_
      simp only [Background.names, hsecond, List.map_append, List.mem_append]
      exact .inl mem
    · exact .inr mem

/-- A script that is started gets a slot behind the others, and its reader comes back into it. -/
theorem started {launch : Launch} {script : String} {reading : Reading}
    (_ : s.startable? launch = some script)
    (role : reading.reader.role = .background launch.name launch.parameters)
    (finished : reading.failure = none → reading.reader.finished = true)
    (run : Leaves reading.failure (s.enlist launch) reading.session) :
    Leaves reading.failure s (reading.checkIn s.background.size).1 := by
  have hrole : reading.reader.role.name? = some launch.name := by rw [role]; rfl
  obtain ⟨added, hadded, isOver⟩ := run.added
  have hslots : reading.session.background.slots =
      s.background.slots ++ ⟨launch.name, none⟩ :: added := by
    rw [hadded]
    exact List.append_assoc _ _ _
  have names : (reading.checkIn s.background.size).1.background.names =
      reading.session.background.names := Background.checkIn_names _ _ _
  refine ⟨⟨⟨launch.name, some reading.reader⟩ :: added, Background.checkIn_slots hslots hrole, ?_⟩,
    ?_⟩
  · exact fun ok => List.forall_mem_cons.2 ⟨⟨_, rfl, finished ok⟩, isOver ok⟩
  · intro name mem
    rw [names]
    rcases Background.mem_ended_checkIn mem with mem | hname
    · exact run.noted name mem
    · rw [hrole] at hname
      cases hname
      simp [Background.names, hslots]

/-- What is left lasts through a run. -/
theorem lasting : Lasting Leaves where
  refl s := (Keeps.refl s).leaves none
  weaken := weaken
  trans := trans
  plan role blocks s raw := (role.plan_keeps blocks s raw).leaves none
  look role s := (role.lookUp_keeps s).leaves none
  halt s := s.advanceHalt_stays.toKeeps.leaves none
  rest s := s.advanceRest_ordinary.keeps.leaves none
  started := started

end Leaves

/-- Where no script was running, a frame of a pause notes as over only what has a slot. -/
theorem margin_settled_of_elapse {s t : Session} {failure : Option Failure}
    (alone : s.background = {}) (passed : s.elapse start = (t, failure)) : t.margin.Settled := by
  have run := Leaves.lasting.rules.elapse (fun s launch _ => start_lasting Leaves.lasting s launch)
    (s := s) trivial
  rw [passed] at run
  intro name mem
  refine (run.noted name mem).resolve_left fun mem => ?_
  rw [alone] at mem
  cases mem

end Session

/-! ## Halts and rests -/

namespace Session

/-- Only a halt has a budget. -/
def Budgeted (s : Session) : Prop :=
  s.pause.halt.halted = false → s.pause.halt.budget = 0

/-- Where nothing of the story holds the main script, there is no halt and no rest. -/
theorem halt_eq_of_ownHold {s : Session} (h : s.ownHold = none) :
    s.pause.halt.halted = false ∧ s.pause.rest.length = 0 := by
  unfold ownHold at h
  split_ifs at h with dialog halt rest waits
  exact ⟨by simpa using halt, by simpa [Rest.isResting] using rest⟩

/-- Where neither a halt nor a rest holds the main script, no frame of them passes. -/
theorem elapse_of_free {s : Session} (budgeted : s.Budgeted) (free : s.ownHold = none)
    (start : Starter) : s.elapse start = (s, none) := by
  obtain ⟨notHalted, notResting⟩ := halt_eq_of_ownHold free
  have halt : s.advanceHalt = { session := s } := by
    unfold advanceHalt Halt.tick
    rw [if_pos (budgeted notHalted)]
  have rest : s.advanceRest = s := by
    unfold advanceRest Rest.tick
    rw [if_pos notResting]
  unfold elapse Effect.perform
  rw [halt]
  dsimp only
  rw [rest]

end Session

/-! ## Reading the main script -/

/-- The scripts that are asked for and refused, until a scene begins. -/
def Happening.refusals : List Happening → List Launch
  | [] => []
  | .sceneBegan _ :: _ => []
  | .refused launch :: rest => launch :: refusals rest
  | _ :: rest => refusals rest

/-- In scripts no scene begins, so all refusals count. -/
theorem Happening.mem_refusals {log : List Happening} {launch : Launch} (scripted : Scripted log)
    (mem : .refused launch ∈ log) : launch ∈ refusals log := by
  induction log with
  | nil => cases mem
  | cons happening log ih =>
    obtain ⟨first, rest⟩ := scripted_cons.1 scripted
    rcases List.mem_cons.1 mem with rfl | later
    · exact List.mem_cons_self
    · cases happening with
      | sceneBegan scene => cases first
      | refused other => exact List.mem_cons_of_mem _ (ih rest later)
      | _ => exact ih rest later

/-- After a frame of a pause, the main script goes on freely: if nothing holds it any more, no scene
is to begin; and until a scene begins, no script that still has its slot is asked for. -/
structure Session.GoesOnFreely (s : Session) (rest : List Happening) : Prop where
  /-- No scene is to begin. -/
  scene : s.heldBy.1 = none → s.pendingScene = none
  /-- No script that still has its slot is asked for. -/
  scripts : ∀ launch ∈ Happening.refusals rest, launch.name ∉ s.background.names

/-- Wherever a frame of a pause passes in a log, the main script goes on freely. -/
def Session.Untangled (s : Session) (log : List Happening) : Prop :=
  ∀ past rest, log = past ++ .restWent :: rest → (s.replay (past ++ [.restWent])).GoesOnFreely rest

instance (s : Session) (rest : List Happening) : Decidable (s.GoesOnFreely rest) :=
  decidable_of_iff ((s.heldBy.1 = none → s.pendingScene = none) ∧
      ∀ launch ∈ Happening.refusals rest, launch.name ∉ s.background.names)
    ⟨fun h => ⟨h.1, h.2⟩, fun h => ⟨h.scene, h.scripts⟩⟩

/-- A log can be looked through from place to place. -/
theorem Session.untangled_iff (s : Session) (log : List Happening) :
    s.Untangled log ↔ ∀ place < log.length, log[place]? = some .restWent →
      (s.replay (log.take (place + 1))).GoesOnFreely (log.drop (place + 1)) := by
  constructor
  · intro h place _ there
    have take : log.take (place + 1) = log.take place ++ [.restWent] := by
      rw [List.take_add_one, there]
      rfl
    have split : log = log.take place ++ .restWent :: log.drop (place + 1) := by
      conv_lhs => rw [← List.take_append_drop (place + 1) log, take, List.append_assoc]
      rfl
    rw [take]
    exact h _ _ split
  · rintro h past rest rfl
    have freely := h past.length (by simp) (by simp)
    have take : (past ++ .restWent :: rest).take (past.length + 1) = past ++ [.restWent] := by
      simp [List.take_add_one]
    have drop : (past ++ .restWent :: rest).drop (past.length + 1) = rest := by simp
    rwa [take, drop] at freely

instance (s : Session) (log : List Happening) : Decidable (s.Untangled log) :=
  decidable_of_iff' _ (s.untangled_iff log)

/-- Where the main script goes on freely, no script that still has its slot is asked for. -/
theorem Session.GoesOnFreely.spares {s : Session} {log : List Happening}
    (h : s.GoesOnFreely (.looked :: log)) (scripted : Happening.Scripted log) :
    s.margin.Spares log := by
  intro launch mem
  have refused : launch ∈ Happening.refusals log := Happening.mem_refusals scripted mem
  exact h.scripts launch refused

/-- Where no script at the margin is asked for, reading on is the same as in the calm session. -/
theorem Reader.proceed_dressed (reader : Reader) {s : Session} (free : s.pause.manual = false)
    (settled : s.margin.Settled)
    (spares : s.margin.Spares (reader.logProceed Session.start Session.logStart s.heldBy.2)) :
    ∃ b : Backlog, b.cues = s.cues ∧
      reader.proceed Session.start s.heldBy.2 =
        (reader.proceed Session.start s.calm).map (fun t => (t.onto b).within s.margin) := by
  obtain ⟨b, hcues, honto⟩ := Role.readLines_onto Session.start_blind reader.role reader.lines
    reader.blocks s.calm s.backlog
  refine ⟨b, hcues, ?_⟩
  rw [s.heldBy_snd] at spares ⊢
  have within := Role.readLines_within Session.start_marginal settled reader.role reader.lines
    reader.blocks (s.calm.onto s.backlog) (fun _ => free.symm) spares
  rw [honto] at within
  exact within

/-- A frame of a pause is the same as in the calm session, where no script is running. -/
theorem Session.elapse_dressed {s : Session} (alone : s.background = {}) :
    ∃ b : Backlog, b.cues = s.cues ∧
      s.heldBy.2.elapse Session.start =
        (((s.calm.elapse Session.start).1.onto b).within { manual := s.pause.manual },
          (s.calm.elapse Session.start).2) := by
  obtain ⟨b, hcues, honto⟩ := Session.elapse_onto Session.start_blind s.calm s.backlog
  refine ⟨b, hcues, ?_⟩
  rw [s.heldBy_snd, Session.margin_of_alone alone, Session.elapse_within Session.start_marginal,
    honto]

namespace Engine

/-- Where nothing holds the main script, reading on is one stride. -/
theorem comesTo_of_proceed {reader : Reader} {s : Session} (unfinished : reader.finished = false)
    (pending : s.pendingScene = none) (own : s.ownHold = none) (free : s.pause.manual = false)
    (settled : s.margin.Settled)
    (spares : s.margin.Spares (reader.logProceed Session.start Session.logStart s.heldBy.2)) :
    let reading := reader.proceed Session.start s.heldBy.2
    ∃ told, ComesTo ⟨reader, s.calm⟩ told (Engine.settled ⟨reading.reader, reading.session⟩) ∧
      reading.session.cues = s.cues ++ told := by
  intro reading
  obtain ⟨b, hcues, hreading⟩ := reader.proceed_dressed free settled spares
  have next : Engine.stride ⟨reader, s.calm⟩ = _ :=
    stride_of_free pending unfinished (s.ownHold_calm.trans own)
  have one := ComesTo.stride ⟨reader, s.calm⟩
  rw [next] at one
  have last := congrArg (fun reading : Reading => Engine.settled ⟨reading.reader, reading.session⟩)
    hreading
  have cues : reading.session.cues = b.cues ++ (reader.proceed Session.start s.calm).session.cues :=
    congrArg (·.session.cues) hreading
  exact ⟨_, last.symm ▸ one, by rw [cues, hcues]⟩

section advance

variable {reader : Reader} {s t u : Session}

/-- With a reader that has its lines, the settled engine is that of the calm session. -/
theorem settled_of_loaded (loaded : reader.loaded = true) (s : Session) :
    Engine.settled ⟨reader, s⟩ = ⟨reader, s.calm⟩ := by
  unfold Engine.settled
  rw [Reader.primed_of_loaded loaded]

/-- After a frame of a pause, the main script looks again. -/
theorem advance_of_elapse (held : reader.role.lookUp s = (true, t))
    (passed : t.elapse Session.start = (u, none)) :
    reader.advance Session.start s =
      if (reader.role.lookUp u).1 then { reader, session := (reader.role.lookUp u).2 }
      else reader.proceed Session.start (reader.role.lookUp u).2 := by
  unfold Reader.advance
  rw [held]
  dsimp only
  rw [passed]
  dsimp only
  rcases reader.role.lookUp u with ⟨_ | _, _⟩ <;> rfl

/-- In a frame that succeeds, the frame of a pause does. -/
theorem elapse_of_advance (held : reader.role.lookUp s = (true, t))
    (ok : (reader.advance Session.start s).failure = none) :
    ∃ u, t.elapse Session.start = (u, none) := by
  unfold Reader.advance at ok
  rw [held] at ok
  dsimp only at ok
  rcases hrun : t.elapse Session.start with ⟨u, _ | failure⟩
  · exact ⟨u, rfl⟩
  · rw [hrun] at ok
    cases ok

/-- Where something holds the main script, a frame of the pause is one stride. -/
theorem comesTo_of_elapse (loaded : reader.loaded = true) (unfinished : reader.finished = false)
    (pending : s.pendingScene = none) (alone : s.background = {}) (own : s.ownHold.isSome = true)
    (passed : s.heldBy.2.elapse Session.start = (u, none)) :
    ∃ told, ComesTo ⟨reader, s.calm⟩ told ⟨reader, u.calm⟩ ∧ u.cues = s.cues ++ told := by
  obtain ⟨b, hcues, dressed⟩ := Session.elapse_dressed alone
  rw [passed] at dressed
  obtain ⟨hu, -⟩ := Prod.mk.inj dressed
  have next : Engine.stride ⟨reader, s.calm⟩ = _ :=
    stride_of_held pending unfinished (s.ownHold_calm ▸ own)
  have one := ComesTo.stride ⟨reader, s.calm⟩
  rw [next, settled_of_loaded loaded] at one
  have calm : u.calm = (s.calm.elapse Session.start).1.calm := by
    rw [hu]
    rfl
  have cues : u.cues = b.cues ++ (s.calm.elapse Session.start).1.cues := congrArg Session.cues hu
  exact ⟨_, calm ▸ one, by rw [cues, hcues]⟩

variable (isMain : reader.role.isMain = true)

include isMain

/-- A main script that only the host holds stays where it is. -/
theorem advance_of_manual (budgeted : s.Budgeted) (own : s.ownHold = none)
    (hold : s.pause.manual = true) :
    reader.advance Session.start s = { reader, session := s.heldBy.2.heldBy.2 } := by
  have passes : s.heldBy.2.elapse Session.start = (s.heldBy.2, none) := by
    refine Session.elapse_of_free ?_ (s.ownHold_heldBy.trans own) _
    rw [Session.heldBy_eq]
    exact budgeted
  have hold' : s.heldBy.2.pause.manual = true := by
    rw [Session.heldBy_eq]
    exact hold
  have held : reader.role.lookUp s = (true, s.heldBy.2) := by
    rw [s.lookUp_eq isMain, hold, Bool.or_true]
  rw [advance_of_elapse held passes, s.heldBy.2.lookUp_eq isMain, hold', Bool.or_true]
  rfl

/-- After a frame of a pause that leaves nothing to hold the main script, it goes on freely. -/
theorem goesOnFreely_of_untangled {v : Session} (held : reader.role.lookUp s = (true, t))
    (passed : t.elapse Session.start = (u, none)) (free : reader.role.lookUp u = (false, v))
    (untangled : s.Untangled (reader.logAdvance Session.start Session.logStart s)) :
    u.GoesOnFreely (.looked :: reader.logProceed Session.start Session.logStart v) := by
  have look : reader.role.logLook = [.looked] := by simp [Role.logLook, isMain]
  have elapse : t.logElapse Session.start Session.logStart =
      .haltWent :: t.advanceHalt.log Session.logStart ++ [.restWent] := by
    unfold Session.elapse at passed
    unfold Session.logElapse
    rcases hrun : t.advanceHalt.perform Session.start with ⟨_, _ | _⟩
    · rfl
    · rw [hrun] at passed
      cases passed
  have log : reader.logAdvance Session.start Session.logStart s =
      (.looked :: .haltWent :: t.advanceHalt.log Session.logStart) ++
        .restWent :: .looked :: reader.logProceed Session.start Session.logStart v := by
    unfold Reader.logAdvance
    simp [held, passed, free, look, elapse]
  -- Until there, the log is that of a look and of the frame that passes.
  have until_then :
      s.replay (.looked :: .haltWent :: t.advanceHalt.log Session.logStart ++ [.restWent]) =
      u := by
    have looked : s.heldBy.2 = t := by
      rw [s.lookUp_eq isMain] at held
      exact congrArg Prod.snd held
    have run := Session.logStart_faithful.replay_logElapse t
    rw [elapse, passed] at run
    rw [← looked] at run ⊢
    exact run
  have freely := untangled _ _ log
  rwa [until_then] at freely

/-- Where something holds the main script, a frame of the pause is one stride; and if the script
goes on in the same frame, that is another one. -/
theorem comesTo_of_held (loaded : reader.loaded = true) (unfinished : reader.finished = false)
    (pending : s.pendingScene = none) (alone : s.background = {}) (own : s.ownHold.isSome = true)
    (untangled : s.Untangled (reader.logAdvance Session.start Session.logStart s))
    (ok : (reader.advance Session.start s).failure = none) :
    let reading := reader.advance Session.start s
    ∃ told, ComesTo ⟨reader, s.calm⟩ told (Engine.settled ⟨reading.reader, reading.session⟩) ∧
      reading.session.cues = s.cues ++ told := by
  have held : reader.role.lookUp s = (true, s.heldBy.2) := by
    rw [s.lookUp_eq isMain, own, Bool.true_or]
  obtain ⟨u, passed⟩ := elapse_of_advance held ok
  obtain ⟨told, first, hfirst⟩ := comesTo_of_elapse loaded unfinished pending alone own passed
  have look := u.lookUp_eq isMain
  rw [advance_of_elapse held passed, look]
  rcases hfree : (u.ownHold.isSome || u.pause.manual) with _ | _
  · -- The pause has ended.
    have free : u.ownHold = none ∧ u.pause.manual = false := by simpa using hfree
    have unheld : u.heldBy.1 = none := by
      rw [Session.heldBy_eq, free.1, free.2]
      rfl
    have alone' : s.heldBy.2.background = {} := by
      rw [Session.heldBy_eq]
      exact alone
    have freely :=
      goesOnFreely_of_untangled isMain held passed (look.trans (by rw [hfree])) untangled
    obtain ⟨more, second, hsecond⟩ :=
      comesTo_of_proceed unfinished (freely.scene unheld) free.1 free.2
      (Session.margin_settled_of_elapse alone' passed)
      (freely.spares (Role.logLines_scripted Session.logStart_scripted _ _ _ _))
    exact ⟨told ++ more, first.trans second, by rw [← List.append_assoc, ← hfirst]; exact hsecond⟩
  · -- It goes on.
    have cues : u.heldBy.2.cues = u.cues := by rw [Session.heldBy_eq]
    refine ⟨told, ?_, cues.trans hfirst⟩
    show ComesTo _ _ (Engine.settled ⟨reader, u.heldBy.2⟩)
    rw [settled_of_loaded loaded, u.calm_heldBy]
    exact first

/-- What a reader with its lines does in a frame is some strides. -/
theorem comesTo_of_advance (loaded : reader.loaded = true) (unfinished : reader.finished = false)
    (pending : s.pendingScene = none) (alone : s.background = {}) (budgeted : s.Budgeted)
    (untangled : s.Untangled (reader.logAdvance Session.start Session.logStart s))
    (ok : (reader.advance Session.start s).failure = none) :
    let reading := reader.advance Session.start s
    ∃ told, ComesTo ⟨reader, s.calm⟩ told (Engine.settled ⟨reading.reader, reading.session⟩) ∧
      reading.session.cues = s.cues ++ told := by
  intro reading
  have margin := Session.margin_of_alone alone
  rcases own : s.ownHold with _ | reason
  · rcases hold : s.pause.manual with _ | _
    · -- Nothing holds the script, and it is read on.
      have hreading : reading = reader.proceed Session.start s.heldBy.2 := by
        show reader.advance Session.start s = _
        unfold Reader.advance
        rw [s.lookUp_eq isMain, own, hold]
        rfl
      rw [hreading]
      refine comesTo_of_proceed unfinished pending own hold ?_ ?_
      · rw [margin]
        exact Margin.settled_of_manual _
      · rw [margin]
        exact Margin.spares_of_manual _ _
    · have hreading : reading = _ := advance_of_manual isMain budgeted own hold
      have calm : s.heldBy.2.heldBy.2.calm = s.calm := by
        rw [Session.calm_heldBy, Session.calm_heldBy]
      have stays : Engine.settled ⟨reader, s.heldBy.2.heldBy.2⟩ = ⟨reader, s.calm⟩ := by
        rw [settled_of_loaded loaded, calm]
      have cues : s.heldBy.2.heldBy.2.cues = s.cues := by rw [Session.heldBy_eq, Session.heldBy_eq]
      rw [hreading]
      exact ⟨[], stays ▸ .refl _, by rw [cues, List.append_nil]⟩
  · exact comesTo_of_held isMain loaded unfinished pending alone (by rw [own]; rfl) untangled ok

end advance

/-- What a frame of the main script does is some strides: none where it is over or only the host
holds it, one where it is held or is read on, and two where it is read on after a pause has
ended. -/
theorem comesTo_of_step {engine : Engine} (isMain : engine.main.role.isMain = true)
    (pending : engine.session.pendingScene = none) (alone : engine.session.background = {})
    (budgeted : engine.session.Budgeted)
    (untangled : engine.session.Untangled
      (engine.main.log Session.start Session.logStart engine.session))
    (ok : (engine.main.step Session.start engine.session).failure = none) :
    let reading := engine.main.step Session.start engine.session
    ∃ told, engine.settled.ComesTo told (Engine.settled ⟨reading.reader, reading.session⟩) ∧
      reading.session.cues = engine.session.cues ++ told := by
  intro reading
  by_cases finished : engine.main.finished = true
  · have hreading : reading = { reader := engine.main, session := engine.session } := by
      show engine.main.step Session.start engine.session = _
      unfold Reader.step
      rw [if_pos finished]
    rw [hreading]
    exact ⟨[], .refl _, (List.append_nil _).symm⟩
  · have unfinished : engine.main.finished = false := by simpa using finished
    obtain ⟨loaded, hstep, hlog⟩ := Reader.step_eq_advance unfinished ok
    have hreading : reading = _ := hstep
    rw [hreading]
    refine comesTo_of_advance ?_ loaded ?_ pending alone budgeted (hlog _ ▸ untangled) (hstep ▸ ok)
    · rw [Reader.primed_role, isMain]
    · rw [Reader.primed_finished, unfinished]

end Engine

end VisualNovel

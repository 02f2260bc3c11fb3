import VisualNovel.Proofs.FrameLogs

/-!
# Scripts that are over, and the hold of the host

Two things stand at the margin of a session. A reusable script that is over keeps its slot until the
frame ends, and the host may hold the main script. `Session.within` puts a session into such a
margin: more slots before its own, with the names that are noted as over, and another hold.

Tags look at neither. A start looks at the slots, but only at their names: a script whose name is at
the margin is refused. So whoever asks for none of these scripts does within the margin what it does
without, and the log shows whether it did (`Margin.Spares`). The main script looks at the hold as
well; it does the same where the hold is the same.
-/

namespace VisualNovel

/-- What stands at the margin of a session. -/
structure Margin where
  /-- Slots before those of the session. -/
  slots : List Slot := []
  /-- Names that are noted as over. -/
  ended : List String := []
  /-- Whether the host holds the main script. -/
  manual : Bool := false

namespace Margin

/-- The names of the scripts at the margin. -/
def names (m : Margin) : List String :=
  m.slots.map (·.name)

/-- What is noted as over has a slot. -/
def Settled (m : Margin) : Prop :=
  m.ended ⊆ m.names

/-- No script at the margin is refused, that is, none of them is asked for. -/
def Spares (m : Margin) (log : List Happening) : Prop :=
  ∀ launch, .refused launch ∈ log → launch.name ∉ m.names

/-- A margin that is spared by a log is spared by each part of it. -/
theorem Spares.of_subset {m : Margin} {log log' : List Happening} (h : m.Spares log)
    (subset : log' ⊆ log) : m.Spares log' :=
  fun launch mem => h launch (subset mem)

end Margin

/-- The running scripts, behind those at a margin. -/
def Background.within (background : Background) (m : Margin) : Background where
  slots := m.slots ++ background.slots
  ended := m.ended ++ background.ended

/-- The session within a margin. -/
def Session.within (s : Session) (m : Margin) : Session :=
  { s with background := s.background.within m, pause := { s.pause with manual := m.manual } }

/-! ## Tags, looks and lines -/

namespace Session

variable (s : Session) (m : Margin)

/-- The story within a margin is the same. -/
@[simp] theorem within_story : (s.within m).story = s.story := rfl

/-- No tag sees the margin. -/
theorem unseen_within : Unseen (·.within m) where
  bare _ := rfl
  amend s scope free t := by simp [amend, within, free]
  names _ _ := rfl

/-- A look does the same within a margin, but for the hold of the host. -/
theorem heldBy_within :
    (s.within m).heldBy = (s.ownHold.or (if m.manual then some .manual else none),
      s.heldBy.2.within m) := by
  rw [heldBy_eq, heldBy_eq]
  rfl

end Session

namespace Role

variable (role : Role) (blocks : Blocks) (s : Session) (m : Margin)

/-- A line asks for the same within a margin. -/
theorem plan_within (raw : String) :
    role.plan blocks (s.within m) raw = (role.plan blocks s raw).map (·.within m) := by
  obtain same | ⟨words, spoken, spoken'⟩ := (Session.unseen_within m).plan role blocks s raw
  · exact same
  · rw [spoken, spoken']
    rfl

/-- A reader looks the same way, if it does not read the main script or the hold is the same. -/
theorem lookUp_within {s : Session} {m : Margin}
    (hold : role.isMain = true → s.pause.manual = m.manual) :
    role.lookUp (s.within m) = ((role.lookUp s).1, (role.lookUp s).2.within m) := by
  unfold lookUp
  split
  · next isMain =>
    unfold Session.isHeld
    rw [Session.heldBy_within, ← hold isMain, s.heldBy_eq]
  · rfl

/-- A look leaves the hold of the host as it is. -/
theorem lookUp_manual : (role.lookUp s).2.pause.manual = s.pause.manual := by
  unfold lookUp
  split
  · exact s.heldBy_scope.manual rfl
  · rfl

end Role

/-! ## Starts -/

/-- A way of starting scripts that is the same within a margin, unless it is asked for a script
there. -/
def Starter.Marginal (start : Starter) (scribe : Scribe) : Prop :=
  ∀ m : Margin, m.Settled → ∀ s launch, m.Spares (scribe (s.within m) launch) →
    start (s.within m) launch = ((start s launch).1.within m, (start s launch).2)

/-- A margin without scripts is settled. -/
theorem Margin.settled_of_manual (manual : Bool) : Margin.Settled { manual } :=
  List.Subset.refl []

/-- A margin without scripts is asked for none. -/
theorem Margin.spares_of_manual (manual : Bool) (log : List Happening) :
    Margin.Spares { manual } log :=
  fun _ _ => List.not_mem_nil

section marginal

variable {start : Starter} {scribe : Scribe} (marginal : start.Marginal scribe)

include marginal

/-- An effect does the same within a margin that it spares. -/
theorem Effect.perform_within {m : Margin} (settled : m.Settled) (effect : Effect)
    (spares : m.Spares ((effect.map (·.within m)).log scribe)) :
    (effect.map (·.within m)).perform start =
      ((effect.perform start).1.within m, (effect.perform start).2) := by
  obtain ⟨s, _ | launch⟩ := effect
  · rfl
  · exact marginal m settled s launch spares

/-- No script changes the hold of the host, as it does the same under every one. -/
theorem Effect.perform_manual (effect : Effect) :
    (effect.perform start).1.pause.manual = effect.session.pause.manual := by
  have same := Effect.perform_within marginal
    (Margin.settled_of_manual effect.session.pause.manual) effect (Margin.spares_of_manual _ _)
  exact congrArg (fun run : Session × Option Failure => run.1.pause.manual) same

/-- So does a line with what it starts. -/
theorem Plan.carryOut_within {m : Margin} (settled : m.Settled) (plan : Plan)
    (spares : m.Spares ((plan.map (·.within m)).effect.log scribe)) :
    (plan.map (·.within m)).carryOut start = (plan.carryOut start).map (·.within m) := by
  have perform : (plan.map (·.within m)).effect.perform start = _ :=
    Effect.perform_within marginal settled plan.effect spares
  unfold Plan.carryOut
  rw [perform]
  rcases plan.effect.perform start with ⟨_, _ | _⟩ <;> rfl

/-- A line does not change whether the host holds the story. -/
theorem Role.carryOut_manual (role : Role) (blocks : Blocks) (s : Session) (raw : String) :
    ((role.plan blocks s raw).carryOut start).session.pause.manual = s.pause.manual := by
  have planned : (role.plan blocks s raw).effect.session.pause.manual = s.pause.manual :=
    congrArg (fun plan : Plan => plan.effect.session.pause.manual)
      (role.plan_within blocks s { manual := s.pause.manual } raw)
  have performed := Effect.perform_manual marginal (role.plan blocks s raw).effect
  unfold Plan.carryOut
  rcases hrun : (role.plan blocks s raw).effect.perform start with ⟨t, _ | failure⟩
  · rw [hrun] at performed
    exact performed.trans planned
  · rw [hrun] at performed
    exact performed.trans planned

/-- Reading lines, by induction on them. The hold counts for the main script only. -/
theorem Role.readLines_within {m : Margin} (settled : m.Settled) (role : Role) (lines : List String)
    (blocks : Blocks) (s : Session) (hold : role.isMain = true → s.pause.manual = m.manual)
    (spares : m.Spares (role.logLines start scribe lines blocks (s.within m))) :
    role.readLines start lines blocks (s.within m) =
      (role.readLines start lines blocks s).map (·.within m) := by
  induction lines generalizing blocks s with
  | nil => rfl
  | cons raw lines ih =>
    unfold Role.logLines at spares
    dsimp only at spares
    have line : m.Spares (((role.plan blocks s raw).map (·.within m)).effect.log scribe) := by
      refine spares.of_subset fun happening mem => ?_
      rw [Role.logLine, role.plan_within]
      exact List.mem_append_left _ (List.mem_append_right _ mem)
    have kept := Role.carryOut_manual marginal role blocks s raw
    rw [role.plan_within, Plan.carryOut_within marginal settled _ line] at spares
    unfold Role.readLines
    rw [role.plan_within, Plan.carryOut_within marginal settled _ line]
    generalize (role.plan blocks s raw).carryOut start = progress at spares kept
    obtain ⟨t, blocks', verdict⟩ := progress
    have hold' : role.isMain = true → t.pause.manual = m.manual :=
      fun isMain => kept.trans (hold isMain)
    have rest := spares.of_subset (List.subset_append_right _ _)
    cases verdict with
    | onward => exact ih blocks' t hold' rest
    | look =>
      have look := role.lookUp_within hold'
      dsimp only [Progress.map] at rest ⊢
      rw [look] at rest ⊢
      have held := role.lookUp_manual t
      rcases hlook : role.lookUp t with ⟨_ | _, u⟩
      · rw [hlook] at rest held
        exact ih blocks' u (fun isMain => held.trans (hold' isMain))
          (rest.of_subset (List.subset_append_right _ _))
      · rfl
    | finish => rfl
    | fail failure => rfl

/-- The pauses take the same turn within a margin without scripts. -/
theorem Session.elapse_within (s : Session) (manual : Bool) :
    (s.within { manual }).elapse start =
      ((s.elapse start).1.within { manual }, (s.elapse start).2) := by
  have perform := Effect.perform_within marginal (Margin.settled_of_manual manual) s.advanceHalt
    (Margin.spares_of_manual manual _)
  unfold Session.elapse
  rw [(unseen_within { manual }).advanceHalt, perform]
  rcases s.advanceHalt.perform start with ⟨_, _ | _⟩ <;> rfl

/-- A background reader takes the same turn within a margin that it spares. -/
theorem Reader.advance_within {m : Margin} (settled : m.Settled) (reader : Reader)
    (background : reader.role.isMain = false) (s : Session)
    (spares : m.Spares (reader.logAdvance start scribe (s.within m))) :
    reader.advance start (s.within m) = (reader.advance start s).map (·.within m) := by
  have look (s : Session) : reader.role.lookUp s = (false, s) := by simp [Role.lookUp, background]
  unfold Reader.logAdvance at spares
  unfold Reader.advance
  rw [look] at spares
  rw [look, look]
  refine Role.readLines_within marginal settled _ _ _ s (fun isMain => ?_)
    (spares.of_subset (List.subset_append_right _ _))
  rw [background] at isMain
  cases isMain

/-- A frame of a reader of a reusable script. -/
theorem Reader.step_within {m : Margin} (settled : m.Settled) (reader : Reader)
    (background : reader.role.isMain = false) (s : Session)
    (spares : m.Spares (reader.log start scribe (s.within m))) :
    reader.step start (s.within m) = (reader.step start s).map (·.within m) := by
  unfold Reader.log at spares
  unfold Reader.step
  rw [Session.within_story] at spares ⊢
  by_cases finished : reader.finished = true
  · rw [if_pos finished, if_pos finished]
    rfl
  · rw [if_neg finished] at spares
    rw [if_neg finished, if_neg finished]
    by_cases loaded : reader.loaded = true
    · rw [if_pos loaded] at spares
      rw [if_pos loaded, if_pos loaded]
      exact Reader.advance_within marginal settled reader background s spares
    · rw [if_neg loaded] at spares
      rw [if_neg loaded, if_neg loaded]
      rcases hload : reader.load s.story with error | full
      · rfl
      · rw [hload] at spares
        exact Reader.advance_within marginal settled full (Reader.load_role hload ▸ background) s
          spares

end marginal

/-- A script gets its slot behind those at the margin. -/
theorem Session.enlist_within (s : Session) (m : Margin) (launch : Launch) :
    (s.within m).enlist launch = (s.enlist launch).within m := by
  simp [Session.enlist, Session.within, Background.within, Background.reserve, Session.record]

/-- A reader comes back into its slot, which is behind those at the margin. -/
theorem Background.checkIn_within (background : Background) (index : Nat) (reader : Reader)
    {m : Margin} (new : ∀ name, reader.role.name? = some name → name ∉ m.ended) :
    (background.within m).checkIn (m.slots.length + index) reader =
      (background.checkIn index reader).within m := by
  unfold Background.checkIn
  rcases hname : reader.role.name? with _ | name
  · rfl
  · have modify (front : List Slot) (f : Slot → Slot) :
        (front ++ background.slots).modify (front.length + index) f =
          front ++ background.slots.modify index f := by
      induction front with
      | nil => simp
      | cons slot front ih => simpa [Nat.add_right_comm] using ih
    have slots :
        (background.within m).slots.modify (m.slots.length + index) (·.refill name reader) =
        m.slots ++ background.slots.modify index (·.refill name reader) := modify _ _
    have noted : (background.within m).ended.contains name = background.ended.contains name := by
      simp [Background.within, new name hname]
    dsimp only
    rw [slots, noted]
    split
    · exact congrArg (Background.mk _) (List.append_assoc _ _ _)
    · rfl

/-- Within a margin, a script is running if it runs there or at the margin. -/
theorem Background.contains_within (background : Background) (m : Margin) (name : String) :
    (background.within m).contains name =
      (decide (name ∈ m.names) || background.contains name) := by
  simp [Background.contains, Background.names, within, Margin.names]

/-- A script at the margin cannot be started. -/
theorem Session.startable?_of_mem (s : Session) {m : Margin} {launch : Launch}
    (there : launch.name ∈ m.names) : (s.within m).startable? launch = none := by
  have runs := s.background.contains_within m launch.name
  unfold startable? within
  simp [runs, there]

/-- Any other script can be started if it can be started without the margin. -/
theorem Session.startable?_of_not_mem (s : Session) {m : Margin} {launch : Launch}
    (new : launch.name ∉ m.names) : (s.within m).startable? launch = s.startable? launch := by
  have runs := s.background.contains_within m launch.name
  unfold startable? within
  simp [runs, new]

/-- Starting a script, by induction on the bound on nesting. -/
theorem Session.startWithin_marginal (bound : Nat) :
    Starter.Marginal (startWithin bound) (logStartWithin bound) := by
  -- By induction on the bound of nested starts, which the lines of the script are read with.
  induction bound with
  | zero => exact fun _ _ _ _ _ => rfl
  | succ bound ih =>
    intro m settled s launch spares
    unfold logStartWithin at spares
    unfold startWithin
    by_cases there : launch.name ∈ m.names
    · -- Then it would be refused.
      rw [s.startable?_of_mem there] at spares
      exact absurd there (spares launch (List.mem_singleton_self _))
    · rw [s.startable?_of_not_mem there] at spares ⊢
      rcases hscript : s.startable? launch with _ | script
      · rfl
      · rw [hscript] at spares
        have place : (s.within m).background.size = m.slots.length + s.background.size :=
          List.length_append
        dsimp only at spares ⊢
        rw [s.enlist_within] at spares ⊢
        have read := Reader.step_within ih settled (.ofScript launch script) rfl (s.enlist launch)
          (spares.of_subset fun happening mem => by simp [mem])
        rw [read, place]
        generalize hreading : (Reader.ofScript launch script).step (startWithin bound)
          (s.enlist launch) = reading
        have role : reading.reader.role = .background launch.name launch.parameters :=
          hreading ▸ Reader.step_role _ _ _
        have back := reading.session.background.checkIn_within s.background.size reading.reader
          (m := m) fun name hname => ?_
        · exact congrArg (fun background : Background =>
            (({ reading.session.within m with background } : Session), reading.failure)) back
        · rw [role] at hname
          cases hname
          exact fun mem => there (settled mem)

/-- Starting a script does the same within a margin, unless a script there is asked for. -/
theorem Session.start_marginal : Starter.Marginal Session.start logStart :=
  fun m settled s launch => Session.startWithin_marginal s.story.reusables.size m settled s launch

end VisualNovel

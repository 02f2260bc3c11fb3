import VisualNovel.Proofs.Countdowns
import VisualNovel.Proofs.HostPauses
import VisualNovel.Proofs.LinesMet

/-!
# Frames in which a tag halts the main script

A tag that halts the main script for a number of frames may stand in the main script, or in a script
that is started at any time of a frame. If it stands in one that a signal or a timer starts, the
main script has its turn in the same frame, and the first frame of the halt passes at once. This
module tells what is left of the halt at the end of the frame (`halt_of_haltedIn`): all of its
frames but those that have counted, which is at most one, and none if the tag stands in the main
script.

The reason is the order of a frame. Behind a turn of the main script, no frame of a halt passes
before another scene begins (`oneTurn_log`).
-/

namespace VisualNovel

/-! ## Halts along a log -/

namespace Session

variable {s : Session}

/-- How many frames of a halt count in a log: those that pass while no text is appearing. -/
def counted : Session → List Happening → Nat
  | _, [] => 0
  | s, happening :: log =>
    (if happening = .haltWent ∧ s.dialog.textAnimating = false then 1 else 0) +
      (happening.apply s).counted log

/-- No more frames count than pass. -/
theorem counted_le (s : Session) (log : List Happening) : s.counted log ≤ log.count .haltWent := by
  induction log generalizing s with
  | nil => exact Nat.le_refl 0
  | cons happening log ih =>
    have later := ih (happening.apply s)
    rw [counted, List.count_cons]
    by_cases went : happening = .haltWent
    · subst went
      simp only [true_and, BEq.rfl, if_true]
      split <;> omega
    · simp only [went, false_and, if_false]
      omega

/-- What happens to a halt of which frames are left. -/
theorem halt_apply {budget elapsed : Nat} (halt : s.pause.halt = ⟨true, budget, elapsed⟩)
    {happening : Happening} (unsignalled : ∀ signal, happening ≠ .received signal)
    (stays : ∀ scene, happening ≠ .sceneBegan scene)
    (left : happening = .haltWent → elapsed < budget) :
    (happening.apply s).pause.halt =
      ⟨true, budget,
        elapsed + if happening = .haltWent ∧ s.dialog.textAnimating = false then 1 else 0⟩ := by
  have halted : s.pause.halt.halted = true := congrArg Halt.halted halt
  by_cases touched : happening.reach.halt = true
  · cases happening with
    | received signal => exact absurd rfl (unsignalled signal)
    | sceneBegan scene => exact absurd rfl (stays scene)
    | obeyed isMain freshNames instruction tag =>
      -- There is a halt already, so that another one is no halt.
      have again (more : Option Nat) := halt_of_halted (s := { s with freshNames }) halted more
      cases instruction with
      | halt => exact (congrArg (·.pause.halt) (again none)).trans halt
      | haltAuto =>
        refine Eq.trans ?_ halt
        show (haltAuto { s with freshNames } tag.arguments).session.pause.halt = _
        unfold haltAuto
        split
        · rw [again]
        · rfl
      | _ => cases touched
    | haltWent =>
      have left := left rfl
      show s.advanceHalt.session.pause.halt = _
      unfold advanceHalt Halt.tick
      rw [halt, if_neg (by simp; omega), if_neg (by simp; omega)]
      cases s.dialog.textAnimating <;> rfl
    | _ => cases touched
  · have other : happening ≠ .haltWent := by
      rintro rfl
      exact touched rfl
    rw [(happening.scope s).halt (Bool.eq_false_iff.2 touched), halt]
    simp [other]

/-- Along a log that neither takes a signal nor begins a scene, as many frames pass as count. -/
theorem halt_replay {budget elapsed : Nat} (halt : s.pause.halt = ⟨true, budget, elapsed⟩)
    {log : List Happening} (unsignalled : ∀ signal, .received signal ∉ log)
    (stays : ∀ scene, .sceneBegan scene ∉ log) (left : elapsed + log.count .haltWent ≤ budget) :
    (s.replay log).pause.halt = ⟨true, budget, elapsed + s.counted log⟩ := by
  induction log generalizing s elapsed with
  | nil => exact halt
  | cons happening log ih =>
    have next := halt_apply halt (fun signal same => unsignalled signal (same ▸ List.mem_cons_self))
      (fun scene same => stays scene (same ▸ List.mem_cons_self))
      (fun went => by rw [went, List.count_cons_self] at left; omega)
    have later := ih next (fun signal mem => unsignalled signal (List.mem_cons_of_mem _ mem))
      (fun scene mem => stays scene (List.mem_cons_of_mem _ mem)) (by
        rw [List.count_cons] at left
        by_cases went : happening = .haltWent
        · subst went
          simp only [true_and, BEq.rfl, if_true] at left ⊢
          split <;> omega
        · simp only [went, false_and, if_false]
          omega)
    rw [replay_cons, later, counted, Nat.add_assoc]

end Session

/-! ## Turns of the main script -/

namespace Happening

/-- Whether it happens in the turn of the main script only: a frame of a halt passes, or the main
script obeys a tag. -/
def isTurn : Happening → Bool
  | haltWent => true
  | obeyed isMain .. => isMain
  | _ => false

/-- Behind a turn of the main script, no frame of a halt passes until another scene begins. -/
def OneTurn (log : List Happening) : Prop :=
  ∀ past happening future, log = past ++ happening :: future → happening.isTurn = true →
    (∀ scene, .sceneBegan scene ∉ future) → .haltWent ∉ future

/-- The main script may have its turn. -/
def Unturned (log : List Happening) : Prop :=
  ∀ later, OneTurn later → OneTurn (log ++ later)

variable {past log : List Happening}

/-- A log in which no frame of a halt passes is that of one turn at most. -/
theorem OneTurn.of_not_mem (none : .haltWent ∉ log) : OneTurn log := by
  rintro past happening future rfl - -
  simp only [List.mem_append, List.mem_cons, not_or] at none
  exact none.2.2

/-- No frame of a halt passes behind the first happening. -/
theorem OneTurn.cons (first : Happening) (none : .haltWent ∉ log) : OneTurn (first :: log) := by
  rintro (_ | ⟨head, past⟩) happening future split turn stays
  · obtain ⟨-, rfl⟩ := List.cons.inj split
    exact none
  · obtain ⟨-, split⟩ := List.cons.inj split
    exact OneTurn.of_not_mem none past happening future split turn stays

/-- One turn stays one where no further frame of a halt passes. -/
theorem OneTurn.append (h : OneTurn past) (none : .haltWent ∉ log) : OneTurn (past ++ log) := by
  intro early happening future split turn stays
  rcases List.append_eq_append_iff.1 split with ⟨middle, rfl, hlog⟩ | ⟨middle, hpast, hfuture⟩
  · -- The turn is behind what was before.
    rw [hlog] at none
    simp only [List.mem_append, List.mem_cons, not_or] at none
    exact none.2.2
  · cases middle with
    | nil =>
      rw [List.nil_append] at hfuture
      rw [← hfuture] at none
      exact fun mem => none (List.mem_cons_of_mem _ mem)
    | cons first middle =>
      obtain ⟨rfl, rfl⟩ := List.cons.inj hfuture
      have before :=
        h early _ middle hpast turn fun scene mem => stays scene (List.mem_append_left _ mem)
      exact fun mem => (List.mem_append.1 mem).elim before none

/-- A log without what happens in the turn only leaves the turn to come. -/
theorem unturned_of_forall (h : ∀ happening ∈ log, happening.isTurn = false) : Unturned log := by
  intro later one
  induction log with
  | nil => exact one
  | cons first log ih =>
    obtain ⟨quiet, h⟩ := List.forall_mem_cons.1 h
    rintro (_ | ⟨head, past⟩) happening future split turn stays
    · obtain ⟨rfl, -⟩ := List.cons.inj split
      rw [quiet] at turn
      cases turn
    · obtain ⟨-, split⟩ := List.cons.inj split
      exact ih h past happening future split turn stays

/-- Two such logs leave the turn to come. -/
theorem Unturned.append (h : Unturned past) (h' : Unturned log) : Unturned (past ++ log) := by
  intro later one
  rw [List.append_assoc]
  exact h _ (h' later one)

/-- A turn behind such a log is one turn. -/
theorem Unturned.oneTurn (h : Unturned past) (one : OneTurn log) : OneTurn (past ++ log) :=
  h log one

/-- A scene that begins gives the main script another turn. -/
theorem unturned_began (past : List Happening) (scene : SceneRef) :
    Unturned (past ++ [.sceneBegan scene]) := by
  intro later one early happening future split turn stays
  rw [List.append_assoc] at split
  rcases List.append_eq_append_iff.1 split with ⟨middle, rfl, hlater⟩ | ⟨middle, hpast, hfuture⟩
  · cases middle with
    | nil =>
      obtain ⟨rfl, -⟩ := List.cons.inj hlater
      cases turn
    | cons first middle =>
      obtain ⟨-, hlater⟩ := List.cons.inj hlater
      exact one middle happening future hlater turn stays
  · cases middle with
    | nil =>
      obtain ⟨rfl, -⟩ := List.cons.inj hfuture
      cases turn
    | cons first middle =>
      obtain ⟨-, rfl⟩ := List.cons.inj hfuture
      exact absurd (List.mem_append_right _ List.mem_cons_self) (stays scene)

end Happening

open Happening

/-- A script that is started is not the main one. -/
theorem Effect.Opens.isMain {effect : Effect} {a : Activation} (opens : effect.Opens a) :
    a.role.isMain = false := by
  cases opens
  rfl

/-- Neither is one that it starts in turn. -/
theorem Activation.isMain_of_goes {a b : Activation} (goes : Relation.ReflTransGen Goes a b)
    (other : a.role.isMain = false) : b.role.isMain = false := by
  induction goes with
  | refl => exact other
  | tail _ step ih =>
    cases step with
    | into opens => exact opens.isMain
    | onward _ _ => exact ih
    | looks _ _ _ => exact ih

/-- At the line of another script, the main script has no turn. -/
theorem Role.isTurn_of_mem_logPlan {role : Role} (other : role.isMain = false) (blocks : Blocks)
    (s : Session) (raw : String) :
    ∀ happening ∈ role.logPlan blocks s raw, happening.isTurn = false := by
  unfold logPlan logFilled logTag
  split
  · simp
  · split
    · simp
    · split
      · simp
      · simp
      · simp [other]
      · split
        · simp
        · split <;> simp [isTurn, other]

/-- In a script that is started, the main script has no turn. -/
theorem Effect.isTurn_of_mem_log {effect : Effect} :
    ∀ happening ∈ effect.log Session.logStart, happening.isTurn = false := by
  intro happening mem
  cases happening with
  | haltWent =>
    exact absurd mem ((Effect.log_scripted Session.logStart_scripted effect).not_mem rfl)
  | obeyed isMain freshNames instruction tag =>
    obtain ⟨a, opens, role, raw, lines, blocks, s, course, here⟩ :=
      Effect.exists_opens_of_mem_logStart mem rfl
    exact Role.isTurn_of_mem_logPlan (Activation.isMain_of_goes course opens.isMain) _ _ _ _ here
  | _ => rfl

/-- In a frame of a reader there is one turn of the main script at most. -/
theorem Reader.oneTurn_log (reader : Reader) (s : Session) :
    OneTurn (reader.log Session.start Session.logStart s) := by
  have advance (reader : Reader) :
      OneTurn (reader.logAdvance Session.start Session.logStart s) := by
    have look : .haltWent ∉ reader.role.logLook := reader.role.logLook_scripted.not_mem rfl
    have looks : Unturned reader.role.logLook := by
      refine unturned_of_forall ?_
      unfold Role.logLook
      split <;> simp [isTurn]
    have proceed (t : Session) : .haltWent ∉ reader.logProceed Session.start Session.logStart t :=
      (Role.logLines_scripted Session.logStart_scripted _ _ _ _).not_mem rfl
    unfold logAdvance
    refine looks.oneTurn ?_
    -- A frame of the halt passes first, if at all. Hooks and lines come behind it.
    rcases reader.role.lookUp s with ⟨_ | _, t⟩
    · exact .of_not_mem (proceed t)
    · have hook : .haltWent ∉ t.advanceHalt.log Session.logStart :=
        (Effect.log_scripted Session.logStart_scripted _).not_mem rfl
      dsimp only [Session.logElapse]
      rw [List.append_assoc, List.cons_append]
      refine .cons _ ?_
      simp only [List.mem_append, not_or]
      refine ⟨hook, ?_, ?_⟩
      · rcases t.advanceHalt.perform Session.start with ⟨u, _ | failure⟩ <;> simp
      · rcases t.elapse Session.start with ⟨u, _ | failure⟩
        · dsimp only
          rcases reader.role.lookUp u with ⟨_ | _, v⟩
          · exact fun mem => (List.mem_append.1 mem).elim look (proceed v)
          · exact fun mem => (List.mem_append.1 mem).elim look List.not_mem_nil
        · exact List.not_mem_nil
  unfold log
  split
  · exact .of_not_mem List.not_mem_nil
  · split
    · exact advance reader
    · split
      · exact .of_not_mem List.not_mem_nil
      · exact advance _

/-! ## Frames -/

namespace Engine

open Account

variable {s : Session}

/-- Where a scene may begin, the turn of the main script is still to come. -/
theorem unturned_beginScene :
    Account.Ensures s (fun _ => Unturned) beginScene (fun _ _ => Unturned) (fun _ _ _ => True) := by
  refine .beginScene (fun _ _ unturned _ => unturned) (fun _ _ _ _ _ _ _ => trivial) ?_
  exact fun _ past scene _ _ _ => unturned_began past scene

/-- It still is when the timers have run. -/
theorem unturned_runTimers :
    Account.Ensures s (fun _ => Unturned) runTimers (fun _ _ => Unturned) (fun _ _ _ => True) := by
  refine .runTimers (fun _ _ => Unturned) ?_ ?_
  · exact fun _ _ _ unturned => unturned.append (unturned_of_forall (by simp [isTurn]))
  · intro launch rest engine past _ unturned
    refine ⟨fun _ _ _ => unturned.append (unturned_of_forall ?_), fun _ _ _ => trivial⟩
    exact @Effect.isTurn_of_mem_log ⟨engine.session, some launch⟩

/-- Reading the main script is a turn. -/
theorem oneTurn_readMain :
    Account.Ensures s (fun _ => Unturned) readMain (fun _ _ => OneTurn) (fun _ _ _ => True) :=
  fun engine _ _ unturned =>
    ⟨fun _ _ _ => unturned.oneTurn (engine.main.oneTurn_log engine.session), fun _ _ _ => trivial⟩

/-- The turn of a new scene is the only one since it began. -/
theorem oneTurn_readNewScene :
    Account.Ensures s (fun _ => OneTurn) readNewScene (fun _ _ => OneTurn) (fun _ _ _ => True) := by
  have begins : Account.Ensures s (fun _ => OneTurn) beginScene
      (fun begun _ log => if begun then Unturned log else OneTurn log) (fun _ _ _ => True) := by
    refine .beginScene (fun _ _ one _ => one) (fun _ _ _ _ _ _ _ => trivial) ?_
    exact fun _ past scene _ _ _ => unturned_began past scene
  refine .bind begins fun begun => ?_
  cases begun with
  | false => exact .pure fun _ _ one => one
  | true => exact oneTurn_readMain

/-- A part that keeps slots settled, with a fact of the log. -/
theorem settled_of_log {story : Story} {α : Type} {x : Account α} {I : List Happening → Prop}
    {J : α → List Happening → Prop} (settles : Part.Settles story x.part)
    (h : Account.Ensures s (fun _ => I) x (fun a _ => J a) (fun _ _ _ => True)) :
    Account.Ensures s (fun engine log => engine.Settled story ∧ I log) x
      (fun a engine log => engine.Settled story ∧ J a log) (fun _ _ _ => True) := by
  intro engine past hs ⟨settled, hI⟩
  refine ⟨fun a after hout => ⟨(settles engine settled).1 a after hout, ?_⟩, fun _ _ _ => trivial⟩
  exact (h engine past hs hI).1 a after hout

/-- The readers in slots have no turn of the main script. -/
theorem oneTurn_readBackground {story : Story} (index : Nat) :
    Account.Ensures s (fun engine log => engine.Settled story ∧ OneTurn log) (readBackground index)
      (fun _ engine log => engine.Settled story ∧ OneTurn log) (fun _ _ _ => True) := by
  intro engine past _ ⟨settled, one⟩
  refine ⟨fun a after hout => ⟨(Part.settles_readBackground index engine settled).1 a after hout,
    ?_⟩, fun _ _ _ => trivial⟩
  refine one.append ?_
  unfold readBackground
  dsimp only
  by_cases pending : engine.session.pendingScene.isSome = true
  · rw [if_pos pending]
    exact List.not_mem_nil
  · rw [if_neg pending]
    rcases out : engine.session.background.checkOut? index with _ | ⟨reader, background⟩
    · exact List.not_mem_nil
    · have read :
          Scripted (reader.log Session.start Session.logStart { engine.session with background }) :=
        Reader.log_scripted Session.logStart_scripted reader (settled.isMain_of_checkOut? out) _
      have none :
          .haltWent ∉ reader.log Session.start Session.logStart
            { engine.session with background } :=
        read.not_mem rfl
      simpa using none

/-- Each scene has one turn of the main script in a frame. -/
theorem phases_oneTurn {story : Story} (signal : Option Signal) :
    Phases s signal (fun engine log => engine.Settled story ∧ Unturned log)
      (fun engine log => engine.Settled story ∧ Unturned log)
      (fun engine log => engine.Settled story ∧ OneTurn log) (fun _ _ _ => True) where
  receive signal' _ := by
    refine settled_of_log (Part.settles_receive signal') fun engine past _ unturned => ?_
    refine ⟨fun _ _ _ => unturned.append (unturned_of_forall ?_), fun _ _ _ => trivial⟩
    exact List.forall_mem_cons.2 ⟨rfl, Effect.isTurn_of_mem_log⟩
  early := settled_of_log Part.settles_beginScene unturned_beginScene
  timers := settled_of_log Part.settles_runTimers unturned_runTimers
  late := settled_of_log Part.settles_beginScene unturned_beginScene
  -- The turn itself. Behind it, only another scene brings a further one.
  main := settled_of_log Part.settles_readMain oneTurn_readMain
  scene := settled_of_log (part_readNewScene ▸ Part.settles_readNewScene) oneTurn_readNewScene
  slot := oneTurn_readBackground
  purge := by
    rintro engine past - ⟨settled, one⟩
    refine ⟨?_, fun _ _ _ => trivial⟩
    rintro _ _ ⟨⟩
    exact ⟨⟨settled.runs, settled.slots.purge⟩, one.append (by simp [Account.purge])⟩
  look := by
    rintro engine past - ⟨settled, one⟩
    refine ⟨fun told after hout => ?_, fun _ _ _ => trivial⟩
    obtain ⟨-, rfl⟩ := Prod.mk.inj hout
    exact ⟨settled.grown (engine.waiting_keeps.grown none) _,
      one.append (by simp [Account.waiting])⟩

variable {story : Story} {settings : Settings} {engine after : Engine} {signal : Option Signal}
  {cues : List Cue}
  {waiting : Waiting}

/-- In a frame that succeeds the main script has one turn in each scene. -/
theorem oneTurn_log (reachable : Reachable story settings engine)
    (ok : engine.tick signal = (.ok (cues, waiting), after)) : OneTurn (engine.log signal) := by
  have begins : Unturned [] := fun _ one => one
  obtain ⟨past, ⟨last, ⟨-, one⟩, -⟩, hlog⟩ :=
    ((phases_oneTurn signal).frame.tick ⟨reachable.settled, begins⟩).1 cues waiting after ok
  rw [hlog]
  exact one.append (by simp)

/-! ## Tags that halt -/

/-- In the frame a tag of a script, the main one or another, halts the main script for a number of
frames: it was not halted, the dialog was defined, and no other scene begins afterwards. So many of
the frames have counted in the same frame. -/
inductive HaltedIn (engine : Engine) (signal : Option Signal) (budget : Nat) :
    Bool → Nat → Prop where
  /-- The tag stands somewhere in the log. -/
  | tag {past future : List Happening} {isMain : Bool} {freshNames : List String} {tag : Tag}
    {s : Session}
    (log : engine.log signal = past ++ .obeyed isMain freshNames .haltAuto tag :: future)
    (met : s = engine.session.replay past)
    (frames : frames? tag.arguments = some budget)
    (free : s.pause.halt.halted = false)
    (defined : s.dialog.isDefined = true)
    (stays : ∀ scene, .sceneBegan scene ∉ future) :
    HaltedIn engine signal budget isMain
      ((Happening.apply s (.obeyed isMain freshNames .haltAuto tag)).counted future)

end Engine

/-- A tag that halts the main script begins a halt of which no frame has passed. -/
theorem Session.halt_obeyed {s : Session} {budget : Nat} {isMain : Bool}
    {freshNames : List String} {tag : Tag} (frames : frames? tag.arguments = some budget)
    (free : s.pause.halt.halted = false) (defined : s.dialog.isDefined = true) :
    (Happening.apply s (.obeyed isMain freshNames .haltAuto tag)).pause.halt =
      ⟨true, budget, 0⟩ := by
  show (haltAuto { s with freshNames } tag.arguments).session.pause.halt = _
  have started : s.pause.halt.start? (some budget) = some ⟨true, budget, 0⟩ := by
    simp [Halt.start?, free]
  rw [haltAuto, frames]
  show (halt { s with freshNames } (some budget)).session.pause.halt = _
  rw [halt, if_pos defined]
  dsimp only
  rw [started]
  dsimp only [withHook]
  split <;> rfl

/-- As long as no other scene begins, a halt lets one frame pass at most. -/
theorem Happening.OneTurn.count_le {past future : List Happening} (one : OneTurn (past ++ future))
    (stays : ∀ scene, .sceneBegan scene ∉ future) : future.count .haltWent ≤ 1 := by
  by_cases mem : .haltWent ∈ future
  · obtain ⟨before, behind, hfuture, none⟩ := List.eq_append_cons_of_mem mem
    subst hfuture
    have last := one (past ++ before) .haltWent behind (by rw [List.append_assoc]) rfl
      fun scene mem => stays scene (by simp [mem])
    rw [List.count_append, List.count_cons_self, List.count_eq_zero.2 none,
      List.count_eq_zero.2 last]
  · rw [List.count_eq_zero.2 mem]
    exact Nat.zero_le 1

namespace Engine

/-- The signal is taken before any tag is obeyed. -/
theorem not_mem_of_obeyed {engine : Engine} {signal : Option Signal} {past future : List Happening}
    {happening : Happening} (log : engine.log signal = past ++ happening :: future)
    (ofLine : happening.ofLine = true) (signal' : Signal) : .received signal' ∉ future := by
  intro mem
  obtain ⟨rest, hlog, none⟩ := engine.exists_log_eq_received signal
  rw [log] at hlog
  cases signal with
  | none =>
    have hrest : past ++ happening :: future = rest := hlog
    exact none signal' (hrest ▸ List.mem_append_right _ (List.mem_cons_of_mem _ mem))
  | some signal =>
    cases past with
    | nil =>
      -- The first happening is the signal, and no line tells it.
      obtain ⟨rfl, -⟩ := List.cons.inj hlog
      cases ofLine
    | cons first past =>
      have hrest : past ++ happening :: future = rest := (List.cons.inj hlog).2
      exact none signal' (hrest ▸ List.mem_append_right _ (List.mem_cons_of_mem _ mem))

variable {story : Story} {settings : Settings} {engine after : Engine} {signal : Option Signal}
  {cues : List Cue}
  {waiting : Waiting}

/-- What is left of the halt at the end of the frame. -/
theorem halt_of_haltedIn {budget counted : Nat} {isMain : Bool}
    (reachable : Reachable story settings engine)
    (ok : engine.tick signal = (.ok (cues, waiting), after))
    (halted : engine.HaltedIn signal budget isMain counted) :
    0 < budget ∧ after.session.pause.halt = ⟨true, budget, counted⟩ ∧ counted ≤ 1 ∧
      (isMain = true → counted = 0) := by
  have one := oneTurn_log reachable ok
  have replayed := engine.replay_log signal
  rw [ok] at replayed
  cases halted with
  | @tag past future _ freshNames tag s log met frames free defined stays =>
    subst met
    have some : 0 < budget := by simpa using (Option.filter_eq_some_iff.1 frames).2
    have begun := @Session.halt_obeyed _ _ isMain freshNames _ frames free defined
    rw [log] at one replayed
    have most : future.count .haltWent ≤ 1 := by
      have split : past ++ .obeyed isMain freshNames .haltAuto tag :: future =
          (past ++ [.obeyed isMain freshNames .haltAuto tag]) ++ future := by simp
      rw [split] at one
      exact one.count_le stays
    have ends := Session.halt_replay begun (not_mem_of_obeyed log rfl) stays (by omega)
    rw [Session.replay_append, Session.replay_cons] at replayed
    refine ⟨some, ?_, Nat.le_trans (Session.counted_le _ _) most, fun own => ?_⟩
    · rw [← replayed, ends, Nat.zero_add]
    · subst own
      have none := List.count_eq_zero.2 (one past _ future rfl rfl stays)
      exact Nat.le_zero.1 (none ▸ Session.counted_le _ _)

end Engine

end VisualNovel

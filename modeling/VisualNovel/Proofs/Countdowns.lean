import Mathlib.Logic.Function.Iterate
import VisualNovel.Proofs.CountedFrames
import VisualNovel.Proofs.FrameLogs
import VisualNovel.Proofs.Slots

/-!
# Countdowns

A rest, and a halt with a budget, tell the host how many frames are left. The countdown is the main
script's: its reader lets one frame of each pause pass when it finds itself held, and no other
script does. So if the main script is not over, the next frame takes one off what was told, and ends
a pause of which none was left. If the main script is over, its reader does nothing, and a pause
that another script asked for stays at what was told, frame after frame
(`countdowns_in_next_frame`).

Pauses are followed through the log of the frame. Outside of tags that pause, signals and scenes,
only the happenings `haltWent` and `restWent` touch them, and these stand in the log once each or
not at all.
-/

namespace VisualNovel

/-! ## Counting down -/

/-- What is left after a frame: one frame less, or nothing of a countdown that was at its end. -/
def countDown : Nat → Option Nat
  | 0 => none
  | left + 1 => some left

/-- The rest tells how many frames are left, or is over. -/
def Rest.Shows (rest : Rest) : Option Nat → Prop
  | some left => rest.isResting = true ∧ rest.remaining = left
  | none => rest.isResting = false

/-- The halt goes on by itself and tells how many frames are left, or is over. -/
def Halt.Shows (halt : Halt) : Option Nat → Prop
  | some left => halt.isAuto = true ∧ halt.remaining = left
  | none => halt.halted = false

/-- A frame takes one off a rest. -/
theorem Rest.shows_tick {rest : Rest} {left : Nat} (h : rest.Shows (some left)) :
    rest.tick.2.Shows (countDown left) := by
  obtain ⟨resting, hleft⟩ := h
  simp only [isResting, remaining, decide_eq_true_eq] at resting hleft
  unfold tick
  rw [if_neg (by omega)]
  cases left with
  | zero =>
    rw [if_pos (by omega)]
    rfl
  | succ left =>
    rw [if_neg (by omega)]
    refine ⟨by simpa [isResting] using resting, ?_⟩
    show rest.length - (rest.elapsed + 1) = left
    omega

/-- The halt one frame later, if no text is appearing. -/
def Halt.pass (halt : Halt) : Halt :=
  match halt.tick false with
  | (.holding, halt) => halt
  | (.expired, _) => {}

/-- A frame takes one off a halt with a budget. -/
theorem Halt.shows_pass {halt : Halt} {left : Nat} (h : halt.Shows (some left)) :
    halt.pass.Shows (countDown left) := by
  obtain ⟨auto, hleft⟩ := h
  simp only [isAuto, Bool.and_eq_true, decide_eq_true_eq] at auto
  simp only [remaining] at hleft
  unfold pass tick
  rw [if_neg (by omega)]
  cases left with
  | zero =>
    rw [if_pos (by omega)]
    rfl
  | succ left =>
    rw [if_neg (by omega), if_neg (by decide)]
    refine ⟨by simpa [isAuto] using auto, ?_⟩
    show halt.budget - (halt.elapsed + 1) = left
    omega

/-! ## Pauses along a log -/

/-- Whether a tag pauses the main script for frames or until a click. -/
def Instruction.pauses : Instruction → Bool
  | .halt => true
  | .haltAuto => true
  | .rest => true
  | _ => false

/-- A tag that does not pause the main script has no pause in its scope. -/
theorem Instruction.pause_scope {instruction : Instruction} (h : instruction.pauses = false) :
    instruction.scope.pause = false := by
  cases instruction with
  | halt => cases h
  | haltAuto => cases h
  | rest => cases h
  | _ => rfl

namespace Happening

/-- Nothing that sets or ends a pause, so that only frames that pass touch it. -/
structure Calm (log : List Happening) : Prop where
  /-- No signal is taken. -/
  signals : ∀ signal, .received signal ∉ log
  /-- No scene begins. -/
  scenes : ∀ scene, .sceneBegan scene ∉ log
  /-- No tag pauses. -/
  tags : ∀ isMain freshNames instruction tag, .obeyed isMain freshNames instruction tag ∈ log →
    instruction.pauses = false

/-- The beginning of a calm log is calm. -/
theorem Calm.of_append {log log' : List Happening} (h : Calm (log ++ log')) : Calm log where
  signals signal mem := h.signals signal (List.mem_append_left _ mem)
  scenes scene mem := h.scenes scene (List.mem_append_left _ mem)
  tags isMain freshNames instruction tag mem :=
    h.tags isMain freshNames instruction tag (List.mem_append_left _ mem)

/-- The end of a calm log is calm. -/
theorem Calm.of_cons {happening : Happening} {log : List Happening} (h : Calm (happening :: log)) :
    Calm log where
  signals signal mem := h.signals signal (List.mem_cons_of_mem _ mem)
  scenes scene mem := h.scenes scene (List.mem_cons_of_mem _ mem)
  tags isMain freshNames instruction tag mem :=
    h.tags isMain freshNames instruction tag (List.mem_cons_of_mem _ mem)

/-- In a calm log, what is no frame that passes touches no pause. -/
theorem Calm.head {happening : Happening} {log : List Happening} (h : Calm (happening :: log)) :
    happening = .haltWent ∨ happening = .restWent ∨ happening.reach.pause = false := by
  cases happening with
  | received signal => exact absurd List.mem_cons_self (h.signals signal)
  | sceneBegan scene => exact absurd List.mem_cons_self (h.scenes scene)
  | obeyed isMain freshNames instruction tag =>
    exact .inr (.inr (Instruction.pause_scope (h.tags _ _ _ _ List.mem_cons_self)))
  | haltWent => exact .inl rfl
  | restWent => exact .inr (.inl rfl)
  | _ => exact .inr (.inr rfl)

end Happening

namespace Session

open Happening

/-- A frame of a halt, if no text is appearing. -/
theorem advanceHalt_pause (s : Session) (still : s.dialog.textAnimating = false) :
    s.advanceHalt.session.pause.halt = s.pause.halt.pass ∧
      s.advanceHalt.session.dialog.textAnimating = false := by
  unfold advanceHalt Halt.pass
  rw [still]
  rcases s.pause.halt.tick false with ⟨_ | _, halt⟩
  · exact ⟨rfl, still⟩
  · dsimp only [unhalt, withHook]
    split <;> exact ⟨rfl, rfl⟩

/-- A frame of a halt leaves the rest. -/
theorem advanceHalt_rest (s : Session) : s.advanceHalt.session.pause.rest = s.pause.rest := by
  rw [advanceHalt_amend]
  rfl

/-- Along a calm log, a rest loses as many frames as pass. -/
theorem replay_rest {log : List Happening} (calm : Calm log) (s : Session) :
    (s.replay log).pause.rest =
      (fun rest : Rest => rest.tick.2)^[log.count .restWent] s.pause.rest := by
  induction log generalizing s with
  | nil => rfl
  | cons happening log ih =>
    rw [replay_cons, ih calm.of_cons]
    rcases calm.head with rfl | rfl | untouched
    · rw [List.count_cons_of_ne (by decide)]
      exact congrArg _ s.advanceHalt_rest
    · rw [List.count_cons_self, Function.iterate_succ_apply]
      rfl
    · rw [((happening.scope s).pause untouched).1, List.count_cons_of_ne]
      rintro rfl
      cases untouched

/-- Along a calm log, a halt loses as many frames as pass, if no text is appearing. -/
theorem replay_halt {log : List Happening} (calm : Calm log) (s : Session)
    (still : s.dialog.textAnimating = false) :
    (s.replay log).pause.halt = Halt.pass^[log.count .haltWent] s.pause.halt := by
  induction log generalizing s with
  | nil => rfl
  | cons happening log ih =>
    rw [replay_cons]
    rcases calm.head with rfl | rfl | untouched
    · obtain ⟨halt, still'⟩ := s.advanceHalt_pause still
      rw [ih calm.of_cons (apply s .haltWent) still', List.count_cons_self,
        Function.iterate_succ_apply]
      exact congrArg _ halt
    · rw [ih calm.of_cons (apply s .restWent) still, List.count_cons_of_ne (by decide)]
      rfl
    · obtain ⟨pause, text⟩ := (happening.scope s).pause untouched
      rw [ih calm.of_cons _ (text.trans still), pause, List.count_cons_of_ne]
      rintro rfl
      cases untouched

end Session

/-! ## The frames of the main script -/

open Happening

/-- The frames that pass in a log, of halts and of rests. -/
def Happening.Passing (count : Nat) (log : List Happening) : Prop :=
  log.count .haltWent = count ∧ log.count .restWent = count

/-- What happens in scripts lets no further frames pass. -/
theorem Happening.Passing.append_scripted {count : Nat} {past log : List Happening}
    (h : Passing count past) (scripted : Scripted log) : Passing count (past ++ log) := by
  refine ⟨?_, ?_⟩
  · rw [List.count_append, h.1, List.count_eq_zero.2 (scripted.not_mem rfl)]
    rfl
  · rw [List.count_append, h.2, List.count_eq_zero.2 (scripted.not_mem rfl)]
    rfl

/-- In scripts no frames pass. -/
theorem Happening.Scripted.passing {log : List Happening} (h : Scripted log) : Passing 0 log :=
  Passing.append_scripted (show Passing 0 [] from ⟨rfl, rfl⟩) h

/-- Along a calm log in which no frame passes, the pauses stay as they are. -/
theorem Session.replay_pause {log : List Happening} (calm : Calm log) (passing : Passing 0 log)
    (s : Session) : (s.replay log).pause = s.pause := by
  induction log generalizing s with
  | nil => rfl
  | cons happening log ih =>
    have noHalt := List.count_eq_zero.1 passing.1
    have noRest := List.count_eq_zero.1 passing.2
    have untouched : happening.reach.pause = false := by
      rcases calm.head with rfl | rfl | untouched
      · exact absurd List.mem_cons_self noHalt
      · exact absurd List.mem_cons_self noRest
      · exact untouched
    have later : Passing 0 log :=
      ⟨List.count_eq_zero.2 fun mem => noHalt (List.mem_cons_of_mem _ mem),
        List.count_eq_zero.2 fun mem => noRest (List.mem_cons_of_mem _ mem)⟩
    rw [replay_cons, ih calm.of_cons later, ((happening.scope s).pause untouched).1]

/-- What holds the main script, where it is a rest. -/
theorem Session.shows_rest_of_heldBy (s : Session) {left : Nat}
    (h : s.heldBy.1 = some (.rest left)) :
    s.pause.rest.Shows (some left) := by
  unfold heldBy at h
  dsimp only at h
  split_ifs at h with _ _ _ resting <;> cases h
  exact ⟨resting, rfl⟩

/-- What holds the main script, where it is a halt with a budget. -/
theorem Session.shows_halt_of_heldBy (s : Session) {left : Nat}
    (h : s.heldBy.1 = some (.haltAuto left)) : s.pause.halt.Shows (some left) := by
  unfold heldBy at h
  dsimp only at h
  split_ifs at h with _ _ auto <;> cases h
  exact ⟨auto, rfl⟩

/-- A halt and a rest each hold the main script. -/
theorem Session.isHeld_of_shows {s : Session}
    (h : s.pause.halt.halted = true ∨ s.pause.rest.isResting = true) : s.isHeld.1 = true := by
  unfold isHeld heldBy
  dsimp only
  split_ifs <;> simp_all

section main

variable {start : Starter} {scribe : Scribe} (h : ∀ s launch, Scripted (scribe s launch))

include h

/-- A held frame lets one frame of each pause pass, unless it fails. -/
theorem Session.logElapse_passing (s : Session) (ok : (s.elapse start).2 = none) :
    Passing 1 (s.logElapse start scribe) := by
  have hook : Scripted (s.advanceHalt.log scribe) := Effect.log_scripted h _
  unfold elapse at ok
  unfold logElapse
  rcases hp : s.advanceHalt.perform start with ⟨t, _ | failure⟩
  · have noHalt : .haltWent ∉ s.advanceHalt.log scribe := hook.not_mem rfl
    have noRest : .restWent ∉ s.advanceHalt.log scribe := hook.not_mem rfl
    exact ⟨by simp [List.count_eq_zero.2 noHalt], by simp [List.count_eq_zero.2 noRest]⟩
  · rw [hp] at ok
    cases ok

/-- A main script that is held lets one frame of each pause pass, unless it fails. -/
theorem Reader.log_passing (reader : Reader) (isMain : reader.role.isMain = true)
    (unfinished : reader.finished = false) {s : Session} (held : s.isHeld.1 = true)
    (ok : (reader.step start s).failure = none) : Passing 1 (reader.log start scribe s) := by
  have advance (reader : Reader) (isMain : reader.role.isMain = true)
      (ok : (reader.advance start s).failure = none) :
      Passing 1 (reader.logAdvance start scribe s) := by
    have look : reader.role.lookUp s = (true, s.isHeld.2) := by
      rw [Role.lookUp, if_pos isMain, ← held]
    unfold Reader.advance at ok
    unfold logAdvance
    rw [look] at ok ⊢
    dsimp only at ok ⊢
    -- The pauses take one frame; whatever is read behind it happens in scripts, and takes none.
    rcases helapse : s.isHeld.2.elapse start with ⟨t, _ | failure⟩
    · have passing := Session.logElapse_passing h s.isHeld.2 (congrArg Prod.snd helapse)
      have first : Passing 1 (reader.role.logLook ++ s.isHeld.2.logElapse start scribe) := by
        have look := reader.role.logLook_scripted.passing
        exact ⟨by rw [List.count_append, look.1, passing.1],
          by rw [List.count_append, look.2, passing.2]⟩
      rw [← List.append_assoc]
      refine first.append_scripted (scripted_append.2 ⟨reader.role.logLook_scripted, ?_⟩)
      rcases reader.role.lookUp t with ⟨_ | _, u⟩
      · exact Role.logLines_scripted h _ _ _ _
      · exact scripted_nil
    · rw [helapse] at ok
      cases ok
  unfold step at ok
  unfold log
  rw [unfinished] at ok ⊢
  rw [if_neg (by decide)] at ok ⊢
  split
  · next loaded =>
    rw [if_pos loaded] at ok
    exact advance reader isMain ok
  · next unloaded =>
    rw [if_neg unloaded] at ok
    rcases hload : reader.load s.story with error | loaded
    · rw [hload] at ok
      cases ok
    · rw [hload] at ok
      exact advance loaded (load_role hload ▸ isMain) ok

end main

/-! ## Frames -/

/-- Giving up slots leaves the others filled. -/
theorem Background.Settled.purge {story : Story} {background : Background}
    (h : background.Settled story) : background.purge.Settled story :=
  ⟨fun slot hslot => h.filled slot (List.mem_of_mem_filter hslot),
    h.nodup.sublist (List.filter_sublist.map _)⟩

namespace Engine

open Account

variable {story : Story} {s : Session} {main : Reader} {count : Nat}

/-- In a calm frame, until the main script is read: its reader is as it was, and no frames have
passed. -/
def Unread (story : Story) (main : Reader) (engine : Engine) (log : List Happening) : Prop :=
  Calm log → engine.Settled story ∧ engine.main = main ∧ Passing 0 log

/-- In a calm frame, after the main script was read: so many frames have passed. -/
def Passed (story : Story) (count : Nat) (engine : Engine) (log : List Happening) : Prop :=
  Calm log → engine.Settled story ∧ Passing count log

/-- In a calm frame no scene begins. -/
theorem calm_beginScene {I : Engine → List Happening → Prop} :
    Account.Ensures s (fun engine log => Calm log → I engine log) beginScene
      (fun begun engine log => Calm log → begun = false ∧ I engine log) (fun _ _ _ => True) := by
  refine .beginScene (fun engine past hI _ calm => ⟨rfl, hI calm⟩) (fun _ _ _ _ _ _ _ => trivial) ?_
  intro engine past scene _ _ _ calm
  exact absurd (List.mem_append_right _ List.mem_cons_self) (calm.scenes scene)

/-- The timers leave the reader of the main script as it was. -/
theorem unread_runTimers :
    Account.Ensures s (Unread story main) runTimers (fun _ => Unread story main)
    (fun _ _ _ => True) := by
  refine .runTimers (fun _ => Unread story main) ?_ ?_
  · intro engine past _ unread calm
    obtain ⟨settled, hmain, passing⟩ := unread calm.of_append
    refine ⟨⟨settled.runs, settled.slots⟩, hmain, ?_, ?_⟩
    · rw [List.count_append, passing.1]
      rfl
    · rw [List.count_append, passing.2]
      rfl
  · intro launch rest engine past _ unread
    refine ⟨fun ⟨⟩ engine' hout calm => ?_, fun _ _ _ => trivial⟩
    obtain ⟨settled, hmain, passing⟩ := unread calm.of_append
    refine ⟨(Part.settles_launch launch engine settled).1 () engine' hout, ?_,
      passing.append_scripted (engine.session.logStart_scripted launch)⟩
    have outcome := Part.outcome_perform (fun session => { session, launch := some launch }) engine
    have hmain' : engine'.main = engine.main :=
      congrArg (fun outcome => outcome.2.main) (hout.symm.trans outcome)
    exact hmain'.trans hmain

/-- Reading the main script, which a pause holds, lets one frame pass or, if it is over, none. -/
theorem passed_readMain (isMain : main.role.isMain = true)
    (held : s.pause.halt.halted = true ∨ s.pause.rest.isResting = true) :
    Account.Ensures s (Unread story main) readMain
      (fun _ => Passed story (if main.finished then 0 else 1)) (fun _ _ _ => True) := by
  intro engine past hs unread
  refine ⟨fun ⟨⟩ engine' hout calm => ?_, fun _ _ _ => trivial⟩
  obtain ⟨settled, rfl, passing⟩ := unread calm.of_append
  refine ⟨(Part.settles_readMain engine settled).1 () engine' hout, ?_⟩
  have ok : (engine.main.step Session.start engine.session).failure = none := by
    rw [show readMain.part = Part.readMain from rfl, Part.outcome_readMain] at hout
    exact Part.resultOf_eq_ok.1 (congrArg Prod.fst hout)
  -- No frame has passed since the frame began, so the pause still holds.
  have pause := Session.replay_pause calm.of_append passing s
  rw [← hs] at pause
  rw [← pause] at held
  by_cases finished : engine.main.finished
  · rw [if_pos finished]
    have idle : readMain.log engine = [] := if_pos finished
    rw [idle, List.append_nil]
    exact passing
  · rw [if_neg finished]
    have one := Reader.log_passing Session.logStart_scripted engine.main isMain
      (Bool.eq_false_iff.2 finished) (Session.isHeld_of_shows held) ok
    exact ⟨by rw [List.count_append, passing.1]; exact (Nat.zero_add _).trans one.1,
      by rw [List.count_append, passing.2]; exact (Nat.zero_add _).trans one.2⟩

/-- No other reader lets frames pass. -/
theorem passed_readBackground (index : Nat) :
    Account.Ensures s (Passed story count) (readBackground index) (fun _ => Passed story count)
      (fun _ _ _ => True) := by
  intro engine past hs passed
  refine ⟨fun ⟨⟩ engine' hout calm => ?_, fun _ _ _ => trivial⟩
  obtain ⟨settled, passing⟩ := passed calm.of_append
  rw [show (readBackground index).part = Part.readBackground index from rfl,
    Part.outcome_readBackground] at hout
  unfold readBackground
  dsimp only
  by_cases pending : engine.session.pendingScene.isSome
  · rw [if_pos pending] at hout ⊢
    cases hout
    exact ⟨settled, by rwa [List.append_nil]⟩
  · rw [if_neg pending] at hout ⊢
    rcases out : engine.session.background.checkOut? index with _ | ⟨reader, background⟩
    · rw [out] at hout
      cases hout
      exact ⟨settled, by rwa [List.append_nil]⟩
    · rw [out] at hout
      obtain ⟨-, rfl⟩ := Prod.mk.inj hout
      refine ⟨(settled.turn out).1, passing.append_scripted ?_⟩
      simp only [scripted_append, scripted_cons, scripted_nil, and_true]
      have isMain := settled.isMain_of_checkOut? out
      exact ⟨⟨rfl, Reader.log_scripted Session.logStart_scripted reader isMain _⟩, rfl⟩

/-- The turn of a new scene lets no further frames pass. -/
theorem passed_readNewScene :
    Account.Ensures s (Passed story count) readNewScene (fun _ => Passed story count)
      (fun _ _ _ => True) := by
  refine .bind calm_beginScene fun begun => ?_
  cases begun with
  | false => exact .pure fun _ _ passed calm => (passed calm).2
  | true =>
    intro engine past _ passed
    refine ⟨fun _ _ _ calm => ?_, fun _ _ _ => trivial⟩
    obtain ⟨⟨⟩, -⟩ := passed calm.of_append

/-- The course of a calm frame of an engine that is held. -/
theorem calm_phases (isMain : main.role.isMain = true)
    (held : s.pause.halt.halted = true ∨ s.pause.rest.isResting = true) :
    Phases s none (Unread story main) (Unread story main)
      (Passed story (if main.finished then 0 else 1)) (fun _ _ _ => True) where
  receive := nofun
  early := calm_beginScene.imp (fun _ _ h => h) (fun _ _ _ h calm => (h calm).2) fun _ _ _ h => h
  timers := unread_runTimers
  late := calm_beginScene.imp (fun _ _ h => h) (fun _ _ _ h calm => (h calm).2) fun _ _ _ h => h
  main := passed_readMain isMain held
  scene := passed_readNewScene
  slot := passed_readBackground
  purge := by
    intro engine past _ passed
    refine ⟨?_, fun _ _ _ => trivial⟩
    rintro _ _ ⟨⟩ calm
    obtain ⟨settled, passing⟩ := passed calm.of_append
    refine ⟨⟨settled.runs, settled.slots.purge⟩, passing.append_scripted ?_⟩
    exact scripted_cons.2 ⟨rfl, scripted_nil⟩
  look := by
    intro engine past _ passed
    refine ⟨?_, fun _ _ _ => trivial⟩
    rintro _ engine' hout calm
    obtain ⟨settled, passing⟩ := passed calm.of_append
    obtain ⟨-, rfl⟩ := Prod.mk.inj hout
    refine ⟨settled.grown (engine.waiting_keeps.grown none) _, passing.append_scripted ?_⟩
    exact scripted_cons.2 ⟨rfl, scripted_nil⟩

/-- In a calm frame of an engine that is held one frame of each pause passes or, if the main script
is over, none. -/
theorem log_passing {story : Story} {settings : Settings} {engine after : Engine} {cues : List Cue}
    {waiting : Waiting} (reachable : Reachable story settings engine)
    (held : engine.session.pause.halt.halted = true ∨ engine.session.pause.rest.isResting = true)
    (ok : engine.tick none = (.ok (cues, waiting), after)) (calm : Calm (engine.log none)) :
    Passing (if engine.main.finished then 0 else 1) (engine.log none) := by
  have start : Unread story engine.main engine [] := fun _ => ⟨reachable.settled, rfl, rfl, rfl⟩
  obtain ⟨past, ⟨last, passed, -⟩, hlog⟩ :=
    ((calm_phases reachable.isMain held).frame.tick start).1 cues waiting after ok
  rw [hlog] at calm ⊢
  obtain ⟨halts, rests⟩ := (passed calm.of_append).2
  exact ⟨by rw [List.count_append, halts]; rfl, by rw [List.count_append, rests]; rfl⟩

/-- What is waited for holds the main script, unless nothing does. -/
theorem heldBy_of_waiting {engine : Engine} {reason : Waiting} (h : engine.waiting.1 = reason)
    (some : reason ≠ .nothing) (unfinished : reason ≠ .finished) :
    engine.session.heldBy.1 = .some reason := by
  unfold waiting at h
  rcases hheld : engine.session.heldBy with ⟨_ | held, s⟩
  · rw [hheld] at h
    dsimp only at h
    split at h
    · exact absurd h.symm unfinished
    · exact absurd h.symm some
  · rw [hheld] at h
    exact congrArg Option.some h

/-- What a frame tells of a countdown is what the pause shows after it. -/
theorem shows_of_tick {engine after : Engine} {signal : Option Signal} {cues : List Cue}
    {waiting : Waiting} (h : engine.tick signal = (.ok (cues, waiting), after)) (left : Nat) :
    (waiting = .rest left → after.session.pause.rest.Shows (some left)) ∧
      (waiting = .haltAuto left → after.session.pause.halt.Shows (some left)) := by
  obtain ⟨past, ⟨last, -, -, taken, seen, told⟩, -⟩ :=
    ((phases_timed signal).frame.tick ⟨rfl, List.not_mem_nil⟩).1 cues waiting after h
  have hpause : after.session.pause = seen.session.pause := by
    have hlast : last = { seen with session := seen.session.heldBy.2 } := by
      rw [← seen.waiting_engine, told]
    cases taken
    rw [hlast]
    exact (seen.session.heldBy_scope.pause rfl).1
  rw [hpause]
  have reason : seen.waiting.1 = waiting := congrArg Prod.fst told
  refine ⟨fun hrest => seen.session.shows_rest_of_heldBy ?_,
    fun hhalt => seen.session.shows_halt_of_heldBy ?_⟩
  · rw [hrest] at reason
    exact heldBy_of_waiting reason nofun nofun
  · rw [hhalt] at reason
    exact heldBy_of_waiting reason nofun nofun

/-- **The course of a countdown.** After a frame that told how many frames of a rest are left, or of
a halt while no text is appearing, take a frame without a signal that does not fail, and in which no
scene begins and no tag pauses. If the main script is not over, the countdown has one frame less, or
has ended if none was left. If the main script is over, it is where it was. -/
theorem countdowns_in_next_frame {story : Story} {settings : Settings}
    {engine middle after : Engine} {signal : Option Signal} {cues cues' : List Cue}
    {waiting waiting' : Waiting}
    (reachable : Reachable story settings engine)
    (first : engine.tick signal = (.ok (cues, waiting), middle))
    (second : middle.tick none = (.ok (cues', waiting'), after))
    (scenes : ∀ scene, .sceneBegan scene ∉ middle.log none)
    (tags : ∀ isMain freshNames instruction tag,
      .obeyed isMain freshNames instruction tag ∈ middle.log none → instruction.pauses = false)
    (left : Nat) :
    (waiting = .rest left →
      after.session.pause.rest.Shows (if middle.main.finished then some left else countDown left)) ∧
    (waiting = .haltAuto left → middle.session.dialog.textAnimating = false →
      after.session.pause.halt.Shows
        (if middle.main.finished then some left else countDown left)) := by
  have reachable' : Reachable story settings middle := by
    have next := reachable.tick signal (by simp [first])
    rwa [first] at next
  have calm : Calm (middle.log none) :=
    ⟨fun _ mem => absurd (eq_of_received_mem mem) nofun, scenes, tags⟩
  -- What was told is what the pauses show, and the next frame takes one frame from them, or none.
  obtain ⟨rests, halts⟩ := shows_of_tick first left
  have replayed := middle.replay_log none
  rw [second] at replayed
  refine ⟨fun told => ?_, fun told still => ?_⟩
  · have shows := rests told
    have passing := log_passing reachable' (.inr shows.1) second calm
    have rest := middle.session.replay_rest calm
    rw [replayed, passing.2] at rest
    rw [rest]
    by_cases finished : middle.main.finished
    · simpa [finished] using shows
    · simpa [finished] using Rest.shows_tick shows
  · have shows := halts told
    have passing := log_passing reachable' (.inl (Bool.and_eq_true_iff.1 shows.1).1) second calm
    have halt := middle.session.replay_halt calm still
    rw [replayed, passing.1] at halt
    rw [halt]
    by_cases finished : middle.main.finished
    · simpa [finished] using shows
    · simpa [finished] using Halt.shows_pass shows

/-- A story whose main script rests before its last line. -/
def drowsy : Story where
  startup := some ⟨"dawn", "street"⟩
  chapters := .ofEntries [("dawn", { scenes := .ofEntries [("street", "<rest:3>\nMorning.")] })]

/-- The engine of that story at the beginning. -/
def drowsyNew : Engine :=
  .opening drowsy {} ⟨"dawn", "street"⟩

/-- The first frame tells that three frames are left, and after the second one there are two. -/
theorem drowsy_rest_goes_on :
    ∃ engine middle after cues cues' waiting, Reachable drowsy {} engine ∧
      engine.tick none = (.ok (cues, .rest 3), middle) ∧ middle.main.finished = false ∧
      middle.tick none = (.ok (cues', waiting), after) ∧
      after.session.pause.rest.Shows (some 2) := by
  obtain ⟨created, first, unfinished, second, hlog⟩ :
      Engine.create drowsy {} = .ok drowsyNew ∧
      (drowsyNew.tick none).1 = .ok ([], .rest 3) ∧
      (drowsyNew.tick none).2.main.finished = false ∧
      ((drowsyNew.tick none).2.tick none).1 = .ok ([], .rest 2) ∧
      (drowsyNew.tick none).2.log none =
        [.timersRan, .looked, .haltWent, .restWent, .looked, .slots {}, .looked, .handedOut] := by
    decide +kernel
  have reachable : Reachable drowsy {} drowsyNew := .create created
  have goesOn := (countdowns_in_next_frame reachable (tick_eq_of_result first)
    (tick_eq_of_result second) (by simp [hlog]) (by simp [hlog]) 3).1 rfl
  rw [unfinished] at goesOn
  exact ⟨_, _, _, _, _, _, reachable, tick_eq_of_result first, unfinished, tick_eq_of_result second,
    goesOn⟩

/-- A story whose main script sets a timer and is over. The script of the timer asks for a rest. -/
def napping : Story where
  startup := some ⟨"dawn", "street"⟩
  chapters := .ofEntries [("dawn", { scenes := .ofEntries [("street", "<after:1,nap>")] })]
  reusables := .ofEntries [("nap", "<rest:3>")]

/-- The engine of that story at the beginning. -/
def nappingNew : Engine :=
  .opening napping {} ⟨"dawn", "street"⟩

/-- Once the main script is over, a rest that was told to have three frames left is still told to
have three in the next frame, in which no scene begins and no tag is obeyed. -/
theorem napping_rest_is_frozen :
    ∃ engine middle after cues cues', Reachable napping {} engine ∧
      engine.tick none = (.ok (cues, .rest 3), middle) ∧
      middle.tick none = (.ok (cues', .rest 3), after) ∧
      (∀ scene, .sceneBegan scene ∉ middle.log none) ∧
      (∀ isMain freshNames instruction tag,
        .obeyed isMain freshNames instruction tag ∉ middle.log none) ∧
      ¬ after.session.pause.rest.Shows (countDown 3) := by
  obtain ⟨created, zeroth, first, second, hlog, frozen⟩ :
      Engine.create napping {} = .ok nappingNew ∧
      (nappingNew.tick none).1 = .ok ([], .finished) ∧
      ((nappingNew.tick none).2.tick none).1 = .ok ([], .rest 3) ∧
      (((nappingNew.tick none).2.tick none).2.tick none).1 = .ok ([], .rest 3) ∧
      ((nappingNew.tick none).2.tick none).2.log none =
        [.timersRan, .slots {}, .looked, .handedOut] ∧
      (((nappingNew.tick none).2.tick none).2.tick none).2.session.pause.rest.remaining = 3 := by
    decide +kernel
  have reachable : Reachable napping {} (nappingNew.tick none).2 :=
    .tick (.create created) none (by simp [zeroth])
  refine ⟨_, _, _, _, _, reachable, tick_eq_of_result first, tick_eq_of_result second,
    by simp [hlog], by simp [hlog], ?_⟩
  rintro ⟨-, remaining⟩
  rw [frozen] at remaining
  cases remaining

end Engine

end VisualNovel

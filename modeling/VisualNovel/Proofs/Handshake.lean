import VisualNovel.Playback
import VisualNovel.Proofs.CueStream
import VisualNovel.Proofs.DialogMoves
import VisualNovel.Proofs.StageChanges

/-!
# A host that answers

A story waits for its host: after an animation of the dialog has begun, for the signal that it is
over, and after a scene under a cover was asked for, for the signals that the screen is covered and
that the cover is gone. A host that does not answer leaves the story waiting for ever. The one that
plays without a screen keeps its answers in a queue, and `Session.Answered` is the promise that it
keeps: whatever is awaited has its answer in the queue, and the end of an animation of the dialog is
there once.

Inside a frame the cues are not answered yet, and what the promise speaks of is the queue with the
answers to the cues behind it. Each happening of a frame adds the cue to what it begins
(`Answered.apply`), a signal that is taken ends what it answers (`Answered.receive`), and so the
promise outlasts every frame.
-/

namespace VisualNovel

/-! ## Screenings -/

/-- A frame of a screening. -/
structure Take where
  /-- What the frame begins with. -/
  before : Playback
  /-- What comes of it. -/
  shown : Shown

/-- All frames that are played, at most so many. -/
def Playback.screening (autoClick : Bool) : Nat → Playback → List Take
  | 0, _ => []
  | frames + 1, playback =>
    match playback.frame autoClick with
    | .error _ => []
    | .ok shown =>
      ⟨playback, shown⟩ :: if shown.isLast then [] else screening autoClick frames shown.next

/-- What is played is what the frames of the screening show. -/
theorem Playback.toList_play (autoClick : Bool) (frames : Nat) (playback : Playback)
    (shown : Array Cue) :
    (play autoClick frames playback shown).1.toList =
      shown.toList ++ (screening autoClick frames playback).flatMap (·.shown.cues) := by
  induction frames generalizing playback shown with
  | zero => simp [play, screening]
  | succ frames ih =>
    unfold play screening
    rcases playback.frame autoClick with failure | next
    · simp
    · dsimp only
      split
      · simp
      · rw [ih]
        simp

/-! ## What is awaited -/

/-- All that a session awaits is answered by some reports: the end of an animation of the dialog
once, and only then. -/
structure Session.Answered (s : Session) (reports : List Signal) : Prop where
  /-- The animation of the dialog. -/
  dialog : reports.count .dialogAnimationFinished = if s.dialog.animating.isSome then 1 else 0
  /-- The cover that a scene waits for. -/
  covered : s.coveredScene.isSome = true → .screenCovered ∈ reports
  /-- The cover that passes over the screen. -/
  cover : s.stage.coverActive = true → .coverFinished ∈ reports

/-- Other reports do no harm. -/
theorem Session.Answered.append {s : Session} {reports : List Signal} (h : s.Answered reports)
    (others : List Signal) (other : .dialogAnimationFinished ∉ others) :
    s.Answered (reports ++ others) where
  dialog := by rw [List.count_append, List.count_eq_zero.2 other, h.dialog]; rfl
  covered wait := List.mem_append_left _ (h.covered wait)
  cover wait := List.mem_append_left _ (h.cover wait)

/-! ## What begins -/

/-- The host has an answer only for a cue that begins an animation of the dialog or a cover. -/
theorem Cue.count_reports_of_not_concernsDialog {cues : List Cue}
    (h : ∀ cue ∈ cues, cue.concernsDialog = false) :
    (cues.flatMap Cue.reports).count .dialogAnimationFinished = 0 := by
  refine List.count_eq_zero.2 fun mem => ?_
  obtain ⟨cue, hcue, hreport⟩ := List.mem_flatMap.1 mem
  have other := h cue hcue
  cases cue with
  | showDialog _ => cases other
  | hideDialog _ => cases other
  | _ => simp [Cue.reports] at hreport

/-- Without a signal, the dialog begins as many animations as the host has answers for. -/
theorem Dialog.Moves.count_reports {d d' : Dialog} {cues : List Cue} (h : Moves none d cues d') :
    (if d.animating.isSome then 1 else 0) +
      (cues.flatMap Cue.reports).count .dialogAnimationFinished =
        if d'.animating.isSome then 1 else 0 := by
  cases h with
  | stays _ alike quiet => rw [Cue.count_reports_of_not_concernsDialog quiet, alike.animating]; rfl
  | isDefined hidden fit => rfl
  | @appears _ style _ _ still =>
    rw [still]
    cases style.intro != .noAnimation <;> rfl
  | @disappears _ style _ _ still =>
    rw [still]
    cases style.outro != .noAnimation <;> rfl

/-- Without a signal, a scene waits for a cover, or a cover passes, only if that was so, or if the
cue for a cover is told. -/
theorem Happening.covers {happening : Happening}
    (unsignalled : ∀ signal, happening ≠ .received signal) (s : Session) :
    (((apply s happening).coveredScene.isSome = true → s.coveredScene.isSome = true) ∧
      (apply s happening).stage.coverActive = s.stage.coverActive) ∨
    ∃ color fadeIn fadeOut hold,
      (apply s happening).cues = s.cues ++ [.coverScreen color fadeIn fadeOut hold] := by
  have same {t : Session} (covered : t.coveredScene = s.coveredScene)
      (cover : t.stage.coverActive = s.stage.coverActive) :
      (t.coveredScene.isSome = true → s.coveredScene.isSome = true) ∧
        t.stage.coverActive = s.stage.coverActive :=
    ⟨fun wait => covered ▸ wait, cover⟩
  by_cases untouched : happening.reach.stage = false ∧ happening.reach.coveredScene = false
  · have scope := happening.scope s
    exact .inl (same (scope.coveredScene untouched.2)
      (congrArg Stage.coverActive (scope.stage untouched.1)))
  · cases happening with
    | received signal => exact absurd rfl (unsignalled signal)
    | obeyed isMain freshNames instruction tag =>
      unfold apply
      dsimp only
      rcases hexecute : Session.execute { s with freshNames } isMain instruction tag
        with _ | outcome
      · exact .inl ⟨id, rfl⟩
      · dsimp only
        -- Of all tags, only the change of scene behind a cover touches either.
        by_cases covers : instruction = .sceneWithFade
        · subst covers
          rcases Session.execute_sceneWithFade hexecute with same | ⟨_, color, fadeIn,
            fadeOut, hold, same⟩
          · exact .inl (by rw [same]; exact ⟨id, rfl⟩)
          · exact .inr ⟨color, fadeIn, fadeOut, hold, by rw [same]; rfl⟩
        · obtain ⟨turns, covered⟩ := Session.execute_turns hexecute covers
          exact .inl (same covered turns.coverActive)
    | sceneBegan scene => exact .inl ⟨nofun, rfl⟩
    | _ => exact absurd ⟨rfl, rfl⟩ untouched

/-- What happens to the dialog without a signal. -/
theorem Happening.dialogMoves {happening : Happening}
    (unsignalled : ∀ signal, happening ≠ .received signal) (kept : happening ≠ .handedOut)
    (s : Session) :
    Session.DialogMoves none s (apply s happening) := by
  open Session in
  cases happening with
  | received signal => exact absurd rfl (unsignalled signal)
  | spoken words => exact s.speak_dialogMoves words
  | obeyed isMain freshNames instruction tag =>
    unfold apply
    dsimp only
    split
    · next outcome hexecute => exact (execute_deed _ hexecute).dialogMoves
    · exact .silent (by simp) ⟨rfl, rfl, rfl, rfl⟩ rfl
  | started launch => exact .silent (by simp) ⟨rfl, rfl, rfl, rfl⟩ rfl
  | refused launch => exact .silent (by simp) ⟨rfl, rfl, rfl, rfl⟩ rfl
  | slots background => exact (Moment.slots s background).dialogMoves
  | looked => exact (Moment.look s).dialogMoves
  | haltWent => exact (Moment.halt s).dialogMoves
  | restWent => exact (Moment.rest s).dialogMoves
  | timersRan => exact (Moment.timers s _).dialogMoves
  | sceneBegan scene => exact (Moment.scene s scene).dialogMoves
  | sceneMissing => exact (Moment.missing s).dialogMoves
  | handedOut => exact absurd rfl kept

/-! ## What ends -/

namespace Signal

/-- A scene that still waits for a cover has waited, and the screen was not reported to be
covered. -/
theorem covered_of_effect {signal : Signal} {s : Session}
    (h : (signal.effect s).session.coveredScene.isSome = true) :
    s.coveredScene.isSome = true ∧ signal ≠ .screenCovered := by
  by_cases covers : signal = .screenCovered
  · subst covers
    have ended : s.screenCovered.coveredScene = none := by
      unfold Session.screenCovered
      split
      · assumption
      · rfl
    rw [show (effect .screenCovered s).session = s.screenCovered from rfl, ended] at h
    cases h
  · rw [(effect_stays covers s).coveredScene] at h
    exact ⟨h, covers⟩

/-- A cover that still passes has passed, and was not reported to be gone. -/
theorem cover_of_effect {signal : Signal} {s : Session}
    (h : (signal.effect s).session.stage.coverActive = true) :
    s.stage.coverActive = true ∧ signal ≠ .coverFinished := by
  by_cases uncovers : signal = .coverFinished
  · subst uncovers
    cases h
  · refine ⟨?_, uncovers⟩
    by_cases stops : ∃ group name animation, signal = .spriteAnimationStopped group name animation
    · obtain ⟨group, name, animation, rfl⟩ := stops
      have same : (s.spriteAnimationStopped group name animation).session.stage.coverActive =
          s.stage.coverActive := by
        unfold Session.spriteAnimationStopped
        dsimp only
        split
        · rfl
        · exact Stage.coverActive_setCast ..
      exact same ▸ h
    · have others (group : Group) (name : String) (animation : Animation) :
          signal ≠ .spriteAnimationStopped group name animation :=
        fun same => stops ⟨group, name, animation, same⟩
      -- No tag is at work here, so any will do.
      have turns : Stage.Turns .exit s.stage (signal.effect s).session.stage :=
        effect_turns uncovers others s
      exact turns.coverActive ▸ h

end Signal

/-! ## The promise -/

namespace Session.Answered

variable {s : Session} {queue : List Signal}

/-- What begins without a signal is answered by the reports on its cue. -/
theorem apply (h : s.Answered (queue ++ s.cues.flatMap Cue.reports)) {happening : Happening}
    (unsignalled : ∀ signal, happening ≠ .received signal) (kept : happening ≠ .handedOut) :
    (happening.apply s).Answered (queue ++ (happening.apply s).cues.flatMap Cue.reports) := by
  obtain ⟨cues, hcues, moves⟩ := happening.dialogMoves unsignalled kept s
  have longer : queue ++ s.cues.flatMap Cue.reports ++ cues.flatMap Cue.reports =
      queue ++ (happening.apply s).cues.flatMap Cue.reports := by
    rw [hcues, List.flatMap_append, List.append_assoc]
  have old {signal : Signal} (mem : signal ∈ queue ++ s.cues.flatMap Cue.reports) :
      signal ∈ queue ++ (happening.apply s).cues.flatMap Cue.reports :=
    longer ▸ List.mem_append_left _ mem
  have dialog := moves.count_reports
  rw [← h.dialog, ← List.count_append, longer] at dialog
  rcases happening.covers unsignalled s with ⟨covered, cover⟩ | ⟨color, fadeIn, fadeOut, hold, told⟩
  · exact ⟨dialog, fun wait => old (h.covered (covered wait)),
      fun wait => old (h.cover (cover ▸ wait))⟩
  · have new : Cue.reports (.coverScreen color fadeIn fadeOut hold) ⊆
        queue ++ (happening.apply s).cues.flatMap Cue.reports := by
      intro signal mem
      rw [told]
      exact List.mem_append_right _ (List.mem_flatMap.2 ⟨_, by simp, mem⟩)
    exact ⟨dialog, fun _ => new (by simp [Cue.reports]), fun _ => new (by simp [Cue.reports])⟩

/-- So it is with all that happens without a signal. -/
theorem replay (h : s.Answered (queue ++ s.cues.flatMap Cue.reports)) {log : List Happening}
    (unsignalled : ∀ signal, .received signal ∉ log) (kept : .handedOut ∉ log) :
    (s.replay log).Answered (queue ++ (s.replay log).cues.flatMap Cue.reports) := by
  induction log generalizing s with
  | nil => exact h
  | cons happening log ih =>
    simp only [List.mem_cons, not_or] at unsignalled kept
    exact ih (h.apply (fun signal same => (unsignalled signal).1 same.symm) (Ne.symm kept.1))
      (fun signal => (unsignalled signal).2) kept.2

/-- A signal that is taken ends what it is the answer to. -/
theorem receive {signal : Signal} (h : s.Answered (signal :: queue)) (none : s.cues = []) :
    (signal.effect s).session.Answered (queue ++ (signal.effect s).session.cues.flatMap
      Cue.reports) := by
  obtain ⟨cues, hcues, moves⟩ := s.effect_dialogMoves signal
  rw [none, List.nil_append] at hcues
  have left {report : Signal} (mem : report ∈ signal :: queue) (other : signal ≠ report) :
      report ∈ queue ++ (signal.effect s).session.cues.flatMap Cue.reports :=
    List.mem_append_left _ ((List.mem_cons.1 mem).resolve_left (Ne.symm other))
  have covered := fun wait => left (h.covered (Signal.covered_of_effect wait).1)
    (Signal.covered_of_effect wait).2
  have cover :=
    fun wait => left (h.cover (Signal.cover_of_effect wait).1) (Signal.cover_of_effect wait).2
  refine ⟨?_, covered, cover⟩
  have dialog := h.dialog
  rw [hcues, List.count_append]
  generalize (signal.effect s).session.dialog = d at moves
  cases moves with
  | stays other alike quiet =>
    rw [List.count_cons_of_ne fun same => other (congrArg some same)] at dialog
    rw [Cue.count_reports_of_not_concernsDialog quiet, alike.animating, dialog]
    rfl
  | finishes =>
    -- The animation was answered once, and this was the answer.
    rw [List.count_cons_self] at dialog
    show queue.count .dialogAnimationFinished + 0 = 0
    split at dialog <;> omega

/-- Through a frame: the cues that it hands out are answered behind what is left in the queue. -/
theorem tick {engine after : Engine} {cues : List Cue} {waiting : Waiting}
    (h : engine.session.Answered queue) (none : engine.session.cues = [])
    (ok : engine.tick queue.head? = (.ok (cues, waiting), after)) :
    after.session.Answered (queue.tail ++ cues.flatMap Cue.reports) := by
  obtain ⟨between, hlog, unsignalled, kept, rfl⟩ := Engine.exists_log_between ok
  have hafter := engine.replay_log queue.head?
  rw [hlog, ok, Session.replay_append] at hafter
  have received : (engine.session.replay (queue.head?.toList.map .received)).Answered
      (queue.tail ++
        (engine.session.replay (queue.head?.toList.map .received)).cues.flatMap Cue.reports) := by
    cases queue with
    | nil =>
      show engine.session.Answered ([] ++ engine.session.cues.flatMap Cue.reports)
      rw [none]
      exact h
    | cons signal queue => exact h.receive none
  have all := received.replay unsignalled kept
  rw [← Session.replay_append] at all
  rw [← hafter]
  exact ⟨all.dialog, all.covered, all.cover⟩

end Session.Answered

/-! ## Playing -/

/-- Only the ends of animations of sprites are reported of the stage. -/
theorem Stage.exists_of_mem_reports {stage : Stage} {signal : Signal} (h : signal ∈ stage.reports) :
    ∃ group name animation, signal = .spriteAnimationStopped group name animation := by
  obtain ⟨group, -, h⟩ := List.mem_flatMap.1 h
  obtain ⟨⟨name, sprite⟩, -, h⟩ := List.mem_flatMap.1 h
  obtain ⟨animation, -, rfl⟩ := List.mem_map.1 h
  exact ⟨group, name, animation, rfl⟩

/-- A frame of a playback: it goes on from an engine that has taken the first report. -/
theorem Playback.exists_tick_of_frame {playback : Playback} {autoClick : Bool} {shown : Shown}
    (h : playback.frame autoClick = .ok shown) :
    ∃ waiting after, playback.engine.tick playback.queue.head? =
      (.ok (shown.cues, waiting), after) ∧
      shown.next.engine = after.withStage after.session.stage.settled ∧
      (shown.next.queue =
          playback.queue.tail ++ shown.cues.flatMap Cue.reports ++ after.session.stage.reports ∨
        playback.queue.tail ++ shown.cues.flatMap Cue.reports ++ after.session.stage.reports = [] ∧
          shown.next.queue = [.click]) := by
  unfold frame at h
  rcases htick : playback.engine.tick playback.queue.head? with ⟨failure | ⟨cues, waiting⟩, after⟩
  · rw [htick] at h
    cases h
  · rw [htick] at h
    cases h
    refine ⟨waiting, after, rfl, rfl, ?_⟩
    dsimp only
    split
    · next clicked =>
      simp only [Bool.and_eq_true, List.isEmpty_iff] at clicked
      exact .inr ⟨clicked.2, rfl⟩
    · exact .inl rfl

namespace Playback

/-- Between frames all that is awaited is answered, and no cue waits. -/
structure Answers (playback : Playback) : Prop where
  /-- The answers are in the queue. -/
  answered : playback.engine.session.Answered playback.queue
  /-- All cues have been handed out. -/
  told : playback.engine.session.cues = []

/-- A frame keeps the promise. -/
theorem Answers.frame {playback : Playback} (h : playback.Answers) {autoClick : Bool}
    {shown : Shown} (played : playback.frame autoClick = .ok shown) : shown.next.Answers := by
  obtain ⟨waiting, after, ok, hengine, hqueue⟩ := exists_tick_of_frame played
  have answered := (h.answered.tick h.told ok).append after.session.stage.reports fun mem => by
    obtain ⟨_, _, _, ⟨⟩⟩ := Stage.exists_of_mem_reports mem
  have settled : Session.Answered (after.withStage after.session.stage.settled).session
      (playback.queue.tail ++ shown.cues.flatMap Cue.reports ++ after.session.stage.reports) :=
    ⟨answered.dialog, answered.covered, answered.cover⟩
  refine ⟨?_, ?_⟩
  · rw [hengine]
    rcases hqueue with same | ⟨empty, clicked⟩
    · rwa [same]
    · rw [clicked]
      rw [empty] at settled
      exact settled.append [.click] (by simp)
  · rw [hengine]
    exact (Engine.cues_of_ok ok).2

/-- So do all frames. -/
theorem Answers.screening {playback : Playback} (h : playback.Answers) (autoClick : Bool)
    (limit : Nat) :
    ∀ take ∈ screening autoClick limit playback, take.shown.next.Answers := by
  induction limit generalizing playback with
  | zero => exact fun _ mem => nomatch mem
  | succ limit ih =>
    unfold Playback.screening
    split
    · exact fun _ mem => nomatch mem
    · next shown played =>
      have next := h.frame played
      refine List.forall_mem_cons.2 ⟨next, ?_⟩
      split
      · exact fun _ mem => nomatch mem
      · exact ih next

/-- A new playback awaits nothing. -/
theorem answers_of_create {story : Story} {settings : Settings} {playback : Playback}
    (created : create story settings = .ok playback) : playback.Answers := by
  obtain ⟨engine, hengine, rfl⟩ := map_eq_ok.1 created
  obtain ⟨scene, -, rfl⟩ := Engine.create_eq_ok hengine
  exact ⟨⟨rfl, nofun, nofun⟩, rfl⟩

/-- **The handshake.** After every frame that is played of a story, whatever its settings, with
clicks or without, and however many frames there are at most: the queue holds the end of an
animation of the dialog once if there is such an animation, and not otherwise; it holds the report
of a covered screen if a scene waits for it; and it holds the end of the cover if a cover passes
over the screen. So with an empty queue none of them is awaited. The frames are those whose cues are
played. -/
theorem whatever_is_awaited_is_answered {story : Story} {settings : Settings} {playback : Playback}
    (created : create story settings = .ok playback) (autoClick : Bool) (limit : Nat) :
    (play autoClick limit playback #[]).1.toList =
      (screening autoClick limit playback).flatMap (·.shown.cues) ∧
    ∀ take ∈ screening autoClick limit playback, ∀ engine queue, take.shown.next = ⟨engine, queue⟩ →
      queue.count .dialogAnimationFinished =
        (if engine.session.dialog.animating.isSome then 1 else 0) ∧
      (engine.session.coveredScene.isSome = true → .screenCovered ∈ queue) ∧
      (engine.session.stage.coverActive = true → .coverFinished ∈ queue) ∧
      (queue = [] → engine.session.dialog.animating = none ∧ engine.session.coveredScene = none ∧
        engine.session.stage.coverActive = false) := by
  refine ⟨by simpa using toList_play autoClick limit playback #[],
    fun take mem engine queue next => ?_⟩
  have answers := (answers_of_create created).screening autoClick limit take mem
  rw [next] at answers
  obtain ⟨dialog, covered, cover⟩ := answers.answered
  refine ⟨dialog, covered, cover, ?_⟩
  rintro rfl
  refine ⟨?_, ?_, ?_⟩
  · by_contra animating
    simp [Option.isSome_iff_ne_none.2 animating] at dialog
  · by_contra wait
    exact nomatch covered (Option.isSome_iff_ne_none.2 wait)
  · by_contra passes
    exact nomatch cover (by simpa using passes)

/-- A story that shows its dialog with an animation and goes to another scene under a cover. -/
def curtain : Story where
  startup := some ⟨"dawn", "street"⟩
  chapters := .ofEntries [("dawn", { scenes := .ofEntries [
    ("street", "<text_dialog_define:9,4,5,fade in,no animation,center,,1,1,9,no,,,,,,,,9,2>\n" ++
      "<text_dialog_show>\n<scene_with_fade:black,1,2,3,dawn,garden>"),
    ("garden", "Hello.")] })]

/-- The playback of that story at the beginning. -/
def curtainNew : Playback where
  engine := .opening curtain {} ⟨"dawn", "street"⟩

/-- The dialog appears in the first frame and the cover is asked for in the second one, and both are
answered. -/
theorem curtain_is_answered :
    ∃ playback first second, create curtain {} = .ok playback ∧
      first ∈ screening false 9 playback ∧ second ∈ screening false 9 playback ∧
      first.shown.next.engine.session.dialog.animating.isSome = true ∧
      first.shown.next.queue.count .dialogAnimationFinished = 1 ∧
      second.shown.next.engine.session.coveredScene.isSome = true ∧
      .screenCovered ∈ second.shown.next.queue := by
  obtain ⟨created, appears, covers⟩ : create curtain {} = .ok curtainNew ∧
      (screening false 9 curtainNew)[0]?.map
        (·.shown.next.engine.session.dialog.animating.isSome) = some true ∧
      (screening false 9 curtainNew)[1]?.map
        (·.shown.next.engine.session.coveredScene.isSome) = some true := by
    decide +kernel
  generalize curtainNew = playback at created appears covers
  obtain ⟨first, hfirst, appears⟩ := Option.map_eq_some_iff.1 appears
  obtain ⟨second, hsecond, covers⟩ := Option.map_eq_some_iff.1 covers
  have answered := (whatever_is_awaited_is_answered created false 9).2
  obtain ⟨dialog, -⟩ := answered first (List.mem_of_getElem? hfirst) _ _ rfl
  obtain ⟨-, covered, -⟩ := answered second (List.mem_of_getElem? hsecond) _ _ rfl
  rw [appears] at dialog
  exact ⟨playback, first, second, created, List.mem_of_getElem? hfirst,
    List.mem_of_getElem? hsecond, appears, dialog, covers, covered covers⟩

end Playback

end VisualNovel

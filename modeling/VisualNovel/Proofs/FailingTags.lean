import VisualNovel.Proofs.Chronicle
import VisualNovel.Proofs.ReviewSoundness

/-!
# The tag that failed

A frame fails for want of a scene deep inside of it: at a tag of a script that was started by
another one, by a timer or by a signal. The log shows which tag it was. `Session.FailsAt` says so of
the log of a run: the failing tag stands at its end, and behind it readers only go back into their
slots. So the session is left as it was just before the tag.

It is proved along the log, from a line to the lines of a reader and to the scripts that start one
another. A reader could also fail before its first line, if the scene that it reads is missing; that
this does not happen is a hypothesis here.
-/

namespace VisualNovel

/-- Whether a scene was sought that is not there. -/
def StoryError.missesScene : StoryError → Bool
  | unknownChapter _ => true
  | unknownScene .. => true
  | _ => false

/-- Whether a scene was sought that is not there. -/
def Failure.missesScene : Failure → Bool
  | story error => error.missesScene
  | crash _ => false

/-- What is harmless has nothing to do with scenes. -/
theorem Failure.Harmless.not_missesScene {failure : Failure} (h : failure.Harmless) :
    failure.missesScene = false := by
  cases failure with
  | crash => rfl
  | story error =>
    obtain ⟨tag, rfl⟩ := h error rfl
    rfl

/-! ## Logs that end with a tag -/

/-- The log of a run that failed at a tag: the tag was obeyed last, and behind it readers went back
into their slots. -/
def Session.FailsAt (s : Session) (failure : Failure) (log : List Happening) : Prop :=
  ∃ past isMain freshNames instruction tag, ∃ slots : List Background,
    log = past ++ .obeyed isMain freshNames instruction tag :: slots.map .slots ∧
    Session.execute { s.replay past with freshNames } isMain instruction tag = .error failure

namespace Session.FailsAt

variable {s : Session} {failure : Failure} {log : List Happening}

/-- What went before goes before. -/
theorem behind (front : List Happening) (h : (s.replay front).FailsAt failure log) :
    s.FailsAt failure (front ++ log) := by
  obtain ⟨past, isMain, freshNames, instruction, tag, slots, rfl, fails⟩ := h
  refine ⟨front ++ past, isMain, freshNames, instruction, tag, slots, (List.append_assoc ..).symm,
    ?_⟩
  rwa [replay_append]

/-- A reader goes back into its slot. -/
theorem checkIn (h : s.FailsAt failure log) (background : Background) :
    s.FailsAt failure (log ++ [.slots background]) := by
  obtain ⟨past, isMain, freshNames, instruction, tag, slots, rfl, fails⟩ := h
  exact ⟨past, isMain, freshNames, instruction, tag, slots ++ [background], by simp, fails⟩

/-- The session is left as it was before the tag, but for the names that a block may have drawn and
the slots. -/
theorem replay_eq (h : s.FailsAt failure log) :
    ∃ past isMain freshNames instruction tag, ∃ slots : List Background,
      log = past ++ .obeyed isMain freshNames instruction tag :: slots.map .slots ∧
      Session.execute { s.replay past with freshNames } isMain instruction tag = .error failure ∧
      s.replay log =
        { s.replay past with freshNames, background := (s.replay log).background } := by
  obtain ⟨past, isMain, freshNames, instruction, tag, slots, rfl, fails⟩ := h
  refine ⟨past, isMain, freshNames, instruction, tag, slots, rfl, fails, ?_⟩
  have goBack (slots : List Background) (t : Session) :
      t.replay (slots.map .slots) =
        { t with background := (t.replay (slots.map .slots)).background } := by
    induction slots generalizing t with
    | nil => rfl
    | cons background slots ih => exact ih { t with background }
  have obeyed : (Happening.obeyed isMain freshNames instruction tag).apply (s.replay past) =
      { s.replay past with freshNames } := by
    simp only [Happening.apply, fails]
  rw [replay_append, replay_cons, obeyed]
  exact goBack slots _

end Session.FailsAt

/-- What is told of a start that fails for want of a scene shows the tag that failed. -/
def Scribe.Blames (scribe : Scribe) (start : Starter) : Prop :=
  ∀ s launch failure, (start s launch).2 = some failure → failure.missesScene = true →
    s.FailsAt failure (scribe s launch)

/-! ## Lines -/

/-- A value that cannot be put in is one that was asked for. -/
theorem Placeholder.fillPieces_eq_error {ε : Type} {value : String → Except ε (Option String)}
    {error : ε} {pieces : List Piece} (h : fillPieces value pieces = .error error) :
    ∃ name, value name = .error error := by
  induction pieces with
  | nil => cases h
  | cons piece pieces ih =>
    cases piece with
    | plain c =>
      rcases hrest : fillPieces value pieces with error' | filled
      · rw [fillPieces, hrest] at h
        cases h
        exact ih hrest
      · rw [fillPieces, hrest] at h
        cases h
    | hole source name =>
      rcases hvalue : value name with error' | text?
      · rw [fillPieces, hvalue] at h
        cases h
        exact ⟨name, hvalue⟩
      · rcases hrest : fillPieces value pieces with error' | filled
        · rw [fillPieces, hvalue, hrest] at h
          cases text? <;> cases h <;> exact ih hrest
        · rw [fillPieces, hvalue, hrest] at h
          cases text? <;> cases h

/-- If a line cannot be filled, that is because of one of its names. -/
theorem Placeholder.fill_eq_error {ε : Type} {sigil : Char}
    {value : String → Except ε (Option String)} {line : String} {error : ε}
    (h : fill sigil value line = .error error) :
    ∃ name, value name = .error error := by
  unfold fill at h
  rcases hpieces : fillPieces value (pieces sigil line.toList) with error' | filled
  · rw [hpieces] at h
    cases h
    exact fillPieces_eq_error hpieces
  · rw [hpieces] at h
    cases h

/-- A line that cannot be filled belongs to a reusable script, and lacks one of its parameters. -/
theorem Role.exists_of_fill_eq_error {role : Role} {s : Session} {line : String}
    {error : StoryError} (h : role.fill s line = .error error) :
    ∃ name parameters parameter, role = .background name parameters ∧
      parameters.bind (·.get? parameter) = none ∧ error = .unboundParameter name parameter := by
  cases role with
  | main => cases h
  | background name parameters =>
    dsimp only [fill, Parameters.fill] at h
    generalize hfill : Placeholder.fill (m := Except StoryError) _ _ _ = filled at h
    cases filled with
    | ok => cases h
    | error =>
      cases h
      obtain ⟨parameter, asked⟩ := Placeholder.fill_eq_error hfill
      split at asked
      · cases asked
      · next unbound =>
        cases asked
        exact ⟨name, parameters, parameter, rfl, unbound, rfl⟩

/-- So it does not lack a scene. -/
theorem Role.not_missesScene_of_fill {role : Role} {s : Session} {line : String}
    {error : StoryError} (h : role.fill s line = .error error) : error.missesScene = false := by
  obtain ⟨name, parameters, parameter, -, -, rfl⟩ := exists_of_fill_eq_error h
  rfl

namespace Role

variable {role : Role} {blocks : Blocks} {s : Session} {failure : Failure}

/-- A tag that fails for want of a scene starts nothing. -/
theorem failsAt_logTag {tag : Tag} (failed : (role.obey blocks s tag).verdict = .fail failure)
    (misses : failure.missesScene = true) :
    (role.obey blocks s tag).effect.launch = none ∧
      s.FailsAt failure (role.logTag blocks s tag) := by
  unfold obey at failed ⊢
  unfold logTag
  generalize Instruction.ofName? tag.name = instruction? at failed ⊢
  rcases instruction? with _ | instruction
  · cases failed
  · dsimp only at failed ⊢
    generalize blocks.obey s.freshNames instruction tag.arguments = obeyed at failed ⊢
    rcases obeyed with crash | ⟨blocks', freshNames⟩
    · cases failed
      cases misses
    · dsimp only at failed ⊢
      rcases hexecute : Session.execute { s with freshNames } role.isMain instruction tag
        with _ | outcome
      · rw [hexecute] at failed
        cases failed
        exact ⟨rfl, [], role.isMain, freshNames, instruction, tag, [], rfl, hexecute⟩
      · rw [hexecute] at failed
        rcases outcome with ⟨effect, _ | _⟩ <;> cases failed

/-- So does a line. -/
theorem failsAt_logPlan {raw : String} (failed : (role.plan blocks s raw).verdict = .fail failure)
    (misses : failure.missesScene = true) :
    (role.plan blocks s raw).effect.launch = none ∧
      s.FailsAt failure (role.logPlan blocks s raw) := by
  unfold plan at failed ⊢
  unfold logPlan
  dsimp only at failed ⊢
  split at failed
  · cases failed
  · next read =>
    rw [if_neg read, if_neg read]
    rcases hfill : role.fill s (Line.tidy raw) with error | line
    · rw [hfill] at failed
      cases failed
      cases misses.symm.trans (not_missesScene_of_fill hfill)
    · rw [hfill] at failed
      dsimp only [obeyLine, logFilled] at failed ⊢
      cases hread : Line.read line with
      | tag found =>
        rw [hread] at failed
        exact failsAt_logTag failed misses
      | spoken words =>
        rw [hread] at failed
        dsimp only at failed
        split at failed <;> cases failed
      | _ =>
        rw [hread] at failed
        cases failed

end Role

/-! ## Readers and starts -/

section readers

variable {start : Starter} {scribe : Scribe} (faithful : scribe.Faithful start)
  (blames : scribe.Blames start) {failure : Failure}

include blames in
/-- An effect that fails for want of a scene shows the tag that failed. -/
theorem Effect.failsAt_log {effect : Effect} (failed : (effect.perform start).2 = some failure)
    (misses : failure.missesScene = true) : effect.session.FailsAt failure (effect.log scribe) := by
  unfold perform at failed
  unfold log
  generalize effect.launch = launch? at failed ⊢
  rcases launch? with _ | launch
  · cases failed
  · exact blames effect.session launch failure failed misses

include blames in
/-- A line that fails for want of a scene shows the tag that failed. -/
theorem Role.failsAt_logLine {role : Role} {blocks : Blocks} {s : Session} {raw : String}
    (failed : ((role.plan blocks s raw).carryOut start).verdict = .fail failure)
    (misses : failure.missesScene = true) :
    s.FailsAt failure (role.logLine scribe blocks s raw) := by
  unfold Plan.carryOut at failed
  unfold logLine
  rcases hperform : (role.plan blocks s raw).effect.perform start with ⟨t, _ | failure'⟩
  · -- The line itself has failed, so that it has started nothing.
    rw [hperform] at failed
    obtain ⟨idle, fails⟩ := failsAt_logPlan failed misses
    rw [show (role.plan blocks s raw).effect.log scribe = [] by rw [Effect.log, idle],
      List.append_nil]
    exact fails
  · -- The script that it starts has failed.
    rw [hperform] at failed
    cases failed
    refine .behind _ ?_
    rw [role.replay_logPlan]
    exact Effect.failsAt_log blames (congrArg Prod.snd hperform) misses

include blames in
/-- A turn of the pauses that fails for want of a scene shows the tag that failed. -/
theorem Session.failsAt_logElapse {s : Session} (failed : (s.elapse start).2 = some failure)
    (misses : failure.missesScene = true) : s.FailsAt failure (s.logElapse start scribe) := by
  unfold elapse at failed
  unfold logElapse
  rcases hperform : s.advanceHalt.perform start with ⟨t, _ | failure'⟩
  · rw [hperform] at failed
    cases failed
  · rw [hperform] at failed
    cases failed
    rw [List.append_nil]
    exact .behind [.haltWent] (Effect.failsAt_log blames (congrArg Prod.snd hperform) misses)

include faithful blames

/-- By induction on the lines. -/
theorem Role.failsAt_logLines {role : Role} {lines : List String} {blocks : Blocks} {s : Session}
    (failed : (role.readLines start lines blocks s).failure = some failure)
    (misses : failure.missesScene = true) :
    s.FailsAt failure (role.logLines start scribe lines blocks s) := by
  -- By induction on the lines. What lies before the tag that fails is replayed.
  induction lines generalizing blocks s with
  | nil => cases failed
  | cons raw lines ih =>
    have line := faithful.replay_logLine role blocks s raw
    have here (h : ((role.plan blocks s raw).carryOut start).verdict = .fail failure) :
        s.FailsAt failure (role.logLine scribe blocks s raw) := Role.failsAt_logLine blames h misses
    unfold readLines at failed
    unfold logLines
    dsimp only at failed ⊢
    generalize (role.plan blocks s raw).carryOut start = progress at line here failed ⊢
    obtain ⟨t, blocks', verdict⟩ := progress
    cases verdict with
    | onward =>
      refine .behind _ ?_
      rw [line]
      exact ih failed
    | look =>
      refine .behind _ ?_
      rw [line]
      refine .behind _ ?_
      rw [role.replay_logLook]
      dsimp only at failed ⊢
      generalize role.lookUp t = look at failed ⊢
      obtain ⟨_ | _, u⟩ := look
      · exact ih failed
      · cases failed
    | finish => cases failed
    | fail failure' =>
      cases failed
      rw [List.append_nil]
      exact here rfl

/-- A turn of the main script that fails for want of a scene shows the tag that failed. -/
theorem Reader.failsAt_logAdvance {reader : Reader} {s : Session}
    (failed : (reader.advance start s).failure = some failure)
    (misses : failure.missesScene = true) :
    s.FailsAt failure (reader.logAdvance start scribe s) := by
  unfold advance at failed
  unfold logAdvance
  refine .behind _ ?_
  rw [reader.role.replay_logLook]
  generalize reader.role.lookUp s = look at failed ⊢
  obtain ⟨_ | _, t⟩ := look
  · exact Role.failsAt_logLines faithful blames failed misses
  · dsimp only at failed ⊢
    have elapsed := faithful.replay_logElapse t
    have held (h : (t.elapse start).2 = some failure) :
        t.FailsAt failure (t.logElapse start scribe) :=
      Session.failsAt_logElapse blames h misses
    generalize t.elapse start = outcome at elapsed held failed ⊢
    obtain ⟨u, _ | failure'⟩ := outcome
    · refine .behind _ ?_
      rw [elapsed]
      refine .behind _ ?_
      rw [reader.role.replay_logLook]
      dsimp only at failed ⊢
      generalize reader.role.lookUp u = look at failed ⊢
      obtain ⟨_ | _, v⟩ := look
      · exact Role.failsAt_logLines faithful blames failed misses
      · cases failed
    · rw [List.append_nil]
      exact held failed

/-- A reader whose scene is there fails at a tag. -/
theorem Reader.failsAt_log {reader : Reader} {s : Session}
    (there : ∀ scene, reader.role = .main scene → s.story.checkScene scene = .ok ())
    (failed : (reader.step start s).failure = some failure) (misses : failure.missesScene = true) :
    s.FailsAt failure (reader.log start scribe s) := by
  unfold step at failed
  unfold log
  split at failed
  · cases failed
  · next unfinished =>
    rw [if_neg unfinished]
    split at failed
    · next loaded =>
      rw [if_pos loaded]
      exact Reader.failsAt_logAdvance faithful blames failed misses
    · next unloaded =>
      rw [if_neg unloaded]
      rcases hload : reader.load s.story with error | loaded
      · exact absurd hload (Reader.load_ne_error there)
      · rw [hload] at failed
        exact Reader.failsAt_logAdvance faithful blames failed misses

end readers

/-- By induction on the bound. -/
theorem Session.logStartWithin_blames (bound : Nat) :
    Scribe.Blames (logStartWithin bound) (startWithin bound) := by
  induction bound with
  | zero =>
    intro s launch failure failed
    cases failed
  | succ bound ih =>
    intro s launch failure failed misses
    unfold startWithin at failed
    unfold logStartWithin
    generalize s.startable? launch = script? at failed ⊢
    rcases script? with _ | script
    · cases failed
    · have fails : (s.enlist launch).FailsAt failure ((Reader.ofScript launch script).log
          (startWithin bound) (logStartWithin bound) (s.enlist launch)) :=
        Reader.failsAt_log (logStartWithin_faithful bound) ih (by rintro _ ⟨⟩) failed misses
      exact (FailsAt.behind [.started launch] fails).checkIn _

/-- A start that fails for want of a scene, however deep in it, fails at a tag. -/
theorem Session.logStart_blames : Scribe.Blames logStart start :=
  fun s => logStartWithin_blames _ s

end VisualNovel

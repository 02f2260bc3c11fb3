import VisualNovel.Proofs.HaltingFrames

/-!
# Halts with a budget

A tag may halt the main script for a number of frames. The frames that count are those in which no
text is appearing when the halt is looked at, that is behind the signal of the frame; a click does
not end the halt, it only asks that the rest of the text appear. As long as fewer frames have
counted than the budget says, the frames tell how many are left and change nothing else. The frame
after that ends the halt, whether text is appearing or not, and the main script goes on in it
(`timed_halt_lasts_its_budget`).

One frame of a halt is computed whole from the order of its parts (`tick_of_heard`,
`Part.outcome_afterMain`): once for a frame while some are left (`TimedHalt.tick_of_left`), which
the run of them repeats (`TimedHalt.tickAll`), and once for the frame behind the last
(`TimedHalt.tick_of_spent`). What was told first in that one is read off its log
(`TimedHalt.told_of_spent`), since the scripts it goes on with tell more.
-/

namespace VisualNovel

/-! ## Signals about text -/

namespace Signal

/-- What a host may report about text, or that it reports nothing. -/
def aboutText : List (Option Signal) :=
  [none, some .click, some .textAnimationStarted, some .textAnimationFinished]

/-- Whether text is appearing after a signal. -/
def textAppears (appearing : Bool) : Option Signal → Bool
  | some .textAnimationStarted => true
  | some .textAnimationFinished => false
  | _ => appearing

/-- One for a frame that counts: no text is appearing in it. -/
def counts (appearing : Bool) : Nat :=
  if appearing then 0 else 1

/-- How many frames with these signals count. -/
def countable (appearing : Bool) : List (Option Signal) → Nat
  | [] => 0
  | signal :: signals =>
    counts (textAppears appearing signal) + countable (textAppears appearing signal) signals

/-- The cues of a signal about text, where nothing waits for a click: the rest of the text is to
appear. -/
def textCues (appearing : Bool) (signal : Option Signal) : List Cue :=
  if signal = some .click && appearing then [.speedUpText] else []

/-- What frames with these signals tell during a halt of which so many frames are left. -/
def heldFrames (left : Nat) (appearing : Bool) : List (Option Signal) → List (List Cue × Waiting)
  | [] => []
  | signal :: signals =>
    let left := left - counts (textAppears appearing signal)
    (textCues appearing signal, .haltAuto left) ::
      heldFrames left (textAppears appearing signal) signals

end Signal

open Signal

/-! ## Sessions during a halt -/

namespace Session

/-- The session after a signal about text, where nothing waits for a click. -/
def hear (s : Session) (signal : Option Signal) : Session :=
  { s with
    dialog := { s.dialog with textAnimating := textAppears s.dialog.textAnimating signal }
    cues := s.cues ++ textCues s.dialog.textAnimating signal }

/-- The session after so many frames of a halt, with text appearing or not. -/
def midHalt (s : Session) (appearing : Bool) (elapsed : Nat) : Session :=
  { s with
    dialog := { s.dialog with textAnimating := appearing }
    pause := { s.pause with halt := { s.pause.halt with elapsed } } }

/-- The session after a halt: the text is taken away, unless it is to be kept this once. -/
def released (s : Session) : Session :=
  { s with
    pause := { s.pause with halt := {} }
    dialog := { s.dialog with textAnimating := false, keepText := false }
    cues := s.cues ++ if s.dialog.keepText then [] else [.clearText] }

/-- The end of a halt releases the session and starts the hook. -/
theorem unhalt_eq (s : Session) : s.unhalt = s.released.withHook s.dialog.hooks.onUnhalt := by
  unfold unhalt released
  cases s.dialog.keepText <;> simp [emit]

variable {s : Session}

/-- A click does not end a halt with a budget. -/
theorem effect_of_auto (auto : s.pause.halt.isAuto = true) {signal : Signal}
    (mem : some signal ∈ aboutText) :
    signal.effect s = { session := s.hear (some signal) } := by
  simp only [aboutText, List.mem_cons, Option.some.injEq, List.not_mem_nil, or_false, reduceCtorEq,
    false_or] at mem
  rcases mem with rfl | rfl | rfl
  · show s.click = _
    unfold click hear
    by_cases appearing : s.dialog.textAnimating = true
    · have cues : textCues s.dialog.textAnimating (some .click) = [.speedUpText] := by
        simp [textCues, appearing]
      rw [if_pos appearing, cues]
      rfl
    · have cues : textCues s.dialog.textAnimating (some .click) = [] := by
        simp [textCues, appearing]
      rw [if_neg appearing, if_neg (by simp [auto]), cues, List.append_nil]
      rfl
  · simp [effect, hear, setTextAnimating, textAppears, textCues]
  · simp [effect, hear, setTextAnimating, textAppears, textCues]

/-- A look during a halt finds the main script held, and changes nothing. -/
theorem isHeld_of_halted (halted : s.pause.halt.halted = true) : s.isHeld = (true, s) := by
  unfold isHeld heldBy
  cases s.dialog.animating.isSome <;> cases s.pause.halt.isAuto <;> simp [halted]

/-- What a halt with a budget tells, if the dialog neither comes in nor goes out. -/
theorem heldBy_of_auto (auto : s.pause.halt.isAuto = true) (still : s.dialog.animating = none) :
    s.heldBy = (some (.haltAuto s.pause.halt.remaining), s) := by
  have halted : s.pause.halt.halted = true := (Bool.and_eq_true_iff.1 auto).1
  simp [heldBy, still, halted, auto]

/-- A frame of a halt of which some are left counts unless text is appearing. -/
theorem advanceHalt_of_left {budget elapsed : Nat} (halt : s.pause.halt = ⟨true, budget, elapsed⟩)
    (left : elapsed < budget) :
    s.advanceHalt =
      { session :=
          s.midHalt s.dialog.textAnimating (elapsed + counts s.dialog.textAnimating) } := by
  have tick : s.pause.halt.tick s.dialog.textAnimating =
      (.holding, ⟨true, budget, elapsed + counts s.dialog.textAnimating⟩) := by
    rw [halt, Halt.tick, if_neg (by simp; omega), if_neg (by simp; omega)]
    cases s.dialog.textAnimating <;> rfl
  rw [advanceHalt, tick, midHalt, halt]

/-- A halt of which no frame is left ends, whether text is appearing or not. -/
theorem advanceHalt_of_spent {budget : Nat} (halt : s.pause.halt = ⟨true, budget, budget⟩)
    (some : 0 < budget) :
    s.advanceHalt = s.released.withHook s.dialog.hooks.onUnhalt := by
  rw [← unhalt_eq]
  unfold advanceHalt Halt.tick
  rw [if_neg (by simp [halt]; omega), if_pos (by simp [halt])]

/-- Where no rest is under way, none goes on. -/
theorem advanceRest_of_awake (awake : s.pause.rest.isResting = false) : s.advanceRest = s := by
  have none : s.pause.rest.length = 0 := by simpa [Rest.isResting] using awake
  simp [advanceRest, Rest.tick, none]

end Session

section Turn

variable {reader : Reader} {start : Starter} {s t : Session}

/-- The turn of a main script that is halted: frames pass, and it goes on if nothing holds it
then. -/
theorem Reader.advance_of_elapsed (isMain : reader.role.isMain = true)
    (halted : s.pause.halt.halted = true) (elapsed : s.elapse start = (t, none)) :
    reader.advance start s =
      if t.isHeld.1 then { reader, session := t.isHeld.2 }
      else reader.proceed start t.isHeld.2 := by
  have look (s : Session) : reader.role.lookUp s = s.isHeld := if_pos isMain
  unfold advance
  rw [look, Session.isHeld_of_halted halted]
  dsimp only
  rw [elapsed]
  dsimp only
  rw [look]
  rcases t.isHeld with ⟨_ | _, u⟩ <;> rfl

/-- Where the frames cannot pass, it does not go on. -/
theorem Reader.advance_of_failed {failure : Failure} (isMain : reader.role.isMain = true)
    (halted : s.pause.halt.halted = true) (failed : s.elapse start = (t, some failure)) :
    reader.advance start s = { reader, session := t, failure := some failure } := by
  have look : reader.role.lookUp s = s.isHeld := if_pos isMain
  unfold advance
  rw [look, Session.isHeld_of_halted halted]
  dsimp only
  rw [failed]

end Turn

namespace Engine

/-- What happens in a part that succeeds comes before what happens in the next one. -/
theorem Account.log_then {α β : Type} {x : Account α} {next : α → Account β}
    {engine engine' : Engine} {a : α} (h : x.part.outcome engine = (.ok a, engine')) :
    (x >>= next).log engine = x.log engine ++ (next a).log engine' := by
  show x.log engine ++ logNext next (x.part.outcome engine) = _
  rw [h]
  rfl

/-- The log of two accounts in a row is the log of the first and what the second adds. -/
theorem Account.log_bind {α β : Type} (x : Account α) (next : α → Account β) (engine : Engine) :
    (x >>= next).log engine = x.log engine ++ logNext next (x.part.outcome engine) :=
  rfl

/-! ## Frames from the turn of the main script on -/

/-- The parts of a frame behind the turn of the main script. -/
def Part.afterMain : Part (List Cue × Waiting) := do
  readNewScene
  (List.range (← get).session.background.size).forM readBackground
  readNewScene
  change fun session => { session with background := session.background.purge }
  let waiting ← modifyGet Engine.waiting
  let cues ← modifyGet takeCues
  return (cues, waiting)

/-- A frame in which the main script has had its turn. -/
def afterTurn (reading : Reading) : Except Failure (List Cue × Waiting) × Engine :=
  match reading.failure with
  | some failure => (.error failure, ⟨reading.reader, reading.session⟩)
  | none => Part.afterMain.outcome ⟨reading.reader, reading.session⟩

/-- Where no scene is to begin and no timer is pending, the signal and the turn of the main script
come first. -/
theorem tick_of_heard {engine : Engine} {signal : Option Signal} {s : Session}
    (heard : (signal.forM Part.receive).outcome engine = (.ok (), { engine with session := s }))
    (pending : s.pendingScene = none) (timers : s.timers.pending = []) :
    engine.tick signal = afterTurn (engine.main.step Session.start s) := by
  have noScene : Part.beginScene.outcome { engine with session := s } =
      (.ok false, { engine with session := s }) := by
    rw [Part.outcome_beginScene]
    dsimp only
    rw [pending]
  have turn := Part.outcome_readMain { engine with session := s }
  rw [tick_eq]
  unfold frame
  rw [Part.outcome_then heard, Part.outcome_then noScene,
    Part.outcome_then (Part.outcome_runTimers_of_none timers), Part.outcome_then noScene,
    Part.outcome_bind, turn,
    afterTurn]
  cases (engine.main.step Session.start s).failure <;> rfl

/-- Where no scene is to begin and no other script is running, what is left of the frame is to tell
what the main script waits for and to hand out the cues. -/
theorem Part.outcome_afterMain {engine : Engine} (pending : engine.session.pendingScene = none)
    (alone : engine.session.background = {}) :
    afterMain.outcome engine =
      (.ok (engine.waiting.2.takeCues.1, engine.waiting.1), engine.waiting.2.takeCues.2) := by
  have noScene : readNewScene.outcome engine = (.ok (), engine) := by
    unfold readNewScene
    rw [outcome_bind, outcome_beginScene, pending]
    rfl
  have empty : engine.session.background.size = 0 := by
    rw [alone]
    rfl
  have purged : engine.session.background.purge = engine.session.background := by
    rw [alone]
    rfl
  have noScript : (List.forM (List.range 0) readBackground).outcome engine = (.ok (), engine) := rfl
  unfold afterMain
  rw [outcome_then noScene, outcome_then (outcome_get engine), empty, outcome_then noScript,
    outcome_then noScene, outcome_then (outcome_change _ engine), purged]
  rfl

/-- If something holds the main script then, that is told. -/
theorem afterTurn_of_held (reader : Reader) {s : Session} {reason : Waiting}
    (pending : s.pendingScene = none) (alone : s.background = {})
    (held : s.heldBy = (some reason, s)) :
    afterTurn { reader, session := s } =
      (.ok (s.cues, reason), ⟨reader, { s with cues := [] }⟩) := by
  have told : waiting ⟨reader, s⟩ = (reason, ⟨reader, s⟩) := by
    unfold waiting
    rw [held]
  refine (@Part.outcome_afterMain ⟨reader, s⟩ pending alone).trans ?_
  rw [told]
  rfl

/-- During a halt with a budget, of which so many frames have passed: the main script is not over,
nothing else counts frames, and nothing is left to do. -/
structure TimedHalt (engine : Engine) (budget elapsed : Nat) : Prop where
  /-- The main script is not over. -/
  unfinished : engine.main.finished = false
  /-- It has its lines. -/
  loaded : engine.main.loaded = true
  /-- It is the main script. -/
  isMain : engine.main.role.isMain = true
  /-- The halt. -/
  halt : engine.session.pause.halt = ⟨true, budget, elapsed⟩
  /-- It has a budget. -/
  budgeted : 0 < budget
  /-- The dialog neither comes in nor goes out. -/
  still : engine.session.dialog.animating = none
  /-- The main script does not rest. -/
  awake : engine.session.pause.rest.isResting = false
  /-- No scene is to begin. -/
  pending : engine.session.pendingScene = none
  /-- No timer is pending. -/
  timers : engine.session.timers.pending = []
  /-- No other script is running. -/
  alone : engine.session.background = {}
  /-- No cue is waiting. -/
  told : engine.session.cues = []

/-- The end of the halt in the frame with this signal, with the start of the hook. -/
def unhalts (engine : Engine) (signal : Option Signal) : Session × Option Failure :=
  ((engine.session.hear signal).released.withHook engine.session.dialog.hooks.onUnhalt).perform
    Session.start

namespace TimedHalt

variable {engine : Engine} {budget elapsed : Nat} {signal : Option Signal}

/-- A halt with a budget goes on by itself. -/
theorem isAuto (h : engine.TimedHalt budget elapsed) : engine.session.pause.halt.isAuto = true := by
  simp [h.halt, Halt.isAuto, h.budgeted]

/-- A signal about text does not end it. -/
theorem halted_hear (h : engine.TimedHalt budget elapsed) (signal : Option Signal) :
    (engine.session.hear signal).pause.halt.halted = true :=
  congrArg Halt.halted h.halt

/-- A signal about text is heard, and does nothing else. -/
theorem hears (h : engine.TimedHalt budget elapsed) (mem : signal ∈ aboutText) :
    (signal.forM Part.receive).outcome engine =
      (.ok (), { engine with session := engine.session.hear signal }) := by
  cases signal with
  | none =>
    have unheard : engine.session.hear none = engine.session := by
      simp [Session.hear, textAppears, textCues]
    rw [unheard]
    rfl
  | some signal =>
    show (Part.receive signal).outcome engine = _
    rw [Part.receive_eq, Part.outcome_perform, Session.effect_of_auto h.isAuto mem]
    rfl

/-- A frame begins with the signal and the turn of the main script. -/
theorem tick_eq (h : engine.TimedHalt budget elapsed) (mem : signal ∈ aboutText) :
    engine.tick signal =
      afterTurn (engine.main.advance Session.start (engine.session.hear signal)) := by
  rw [tick_of_heard (h.hears mem) h.pending h.timers, Reader.step, if_neg (by simp [h.unfinished]),
    if_pos h.loaded]

/-- It stays one after some more of its frames. -/
theorem midHalt (h : engine.TimedHalt budget elapsed) (appearing : Bool) (elapsed' : Nat) :
    TimedHalt { engine with session := engine.session.midHalt appearing elapsed' }
      budget elapsed' :=
  { h with halt := by simp [Session.midHalt, h.halt] }

/-- A frame while frames of the halt are left: one of them passes, unless text is appearing. -/
theorem tick_of_left (h : engine.TimedHalt budget elapsed) (left : elapsed < budget)
    (mem : signal ∈ aboutText) {appears : Bool}
    (heard : textAppears engine.session.dialog.textAnimating signal = appears) :
    engine.tick signal =
      (.ok (textCues engine.session.dialog.textAnimating signal,
        .haltAuto (budget - (elapsed + counts appears))),
        { engine with session := engine.session.midHalt appears (elapsed + counts appears) }) := by
  have halt : (engine.session.hear signal).pause.halt = ⟨true, budget, elapsed⟩ := h.halt
  have elapse : (engine.session.hear signal).elapse Session.start =
      ((engine.session.hear signal).midHalt appears (elapsed + counts appears), none) := by
    subst heard
    rw [Session.elapse, Session.advanceHalt_of_left halt left]
    exact congrArg (·, none) (Session.advanceRest_of_awake h.awake)
  obtain ⟨t, ht⟩ : ∃ t, t =
    (engine.session.hear signal).midHalt appears (elapsed + counts appears) := ⟨_, rfl⟩
  rw [← ht] at elapse
  have later : t.pause.halt = ⟨true, budget, elapsed + counts appears⟩ := by
    simp [ht, Session.midHalt, halt]
  have auto : t.pause.halt.isAuto = true := by simp [later, Halt.isAuto, h.budgeted]
  have held := Session.heldBy_of_auto auto (ht ▸ h.still)
  have ends := afterTurn_of_held engine.main (ht ▸ h.pending) (ht ▸ h.alone) held
  have cues : t.cues = textCues engine.session.dialog.textAnimating signal := by
    simp [ht, Session.midHalt, Session.hear, h.told]
  rw [h.tick_eq mem, Reader.advance_of_elapsed h.isMain (h.halted_hear signal) elapse,
    Session.isHeld_of_halted (by rw [later]), if_pos rfl, ends, later, cues]
  have handedOut : { t with cues := [] } =
      engine.session.midHalt appears (elapsed + counts appears) := by
    simp [ht, Session.midHalt, Session.hear, h.told]
  rw [handedOut]
  rfl

/-- Frames while frames of the halt are left, by induction on their signals. -/
theorem tickAll (h : engine.TimedHalt budget elapsed) {signals : List (Option Signal)}
    (about : ∀ signal ∈ signals, signal ∈ aboutText) {appearing : Bool}
    (heard : engine.session.dialog.textAnimating = appearing)
    (early : ∀ k < signals.length, elapsed + countable appearing (signals.take k) < budget) :
    engine.tickAll signals =
      ((heldFrames (budget - elapsed) appearing signals).map .ok,
        { engine with
          session := engine.session.midHalt (signals.foldl textAppears appearing)
            (elapsed + countable appearing signals) }) := by
  induction signals generalizing engine elapsed appearing with
  | nil =>
    subst heard
    have same : engine.session.midHalt engine.session.dialog.textAnimating elapsed =
        engine.session := by
      rw [Session.midHalt, h.halt, ← h.halt]
    exact congrArg (fun session => ([], { engine with session })) same.symm
  | cons signal signals ih =>
    obtain ⟨mem, about⟩ := List.forall_mem_cons.1 about
    have left : elapsed < budget := early 0 (Nat.zero_lt_succ _)
    have early' (k : Nat) (hk : k < signals.length) :
        elapsed + counts (textAppears appearing signal) +
            countable (textAppears appearing signal) (signals.take k) < budget := by
      have := early (k + 1) (Nat.succ_lt_succ hk)
      rwa [List.take_succ_cons, countable, ← Nat.add_assoc] at this
    have later :=
      ih (h.midHalt (textAppears appearing signal) (elapsed +
        counts (textAppears appearing signal)))
      about rfl early'
    rw [Engine.tickAll, h.tick_of_left left mem (by rw [heard])]
    dsimp only
    rw [later, heldFrames, countable, heard, Nat.sub_sub, Nat.add_assoc]
    rfl

/-- Behind the last frame of the halt, the halt ends. -/
theorem perform_of_spent (h : engine.TimedHalt budget budget) (signal : Option Signal) :
    (engine.session.hear signal).advanceHalt.perform Session.start = engine.unhalts signal := by
  have halt : (engine.session.hear signal).pause.halt = ⟨true, budget, budget⟩ := h.halt
  rw [Session.advanceHalt_of_spent halt h.budgeted]
  rfl

/-- In the frame behind the last one of the halt, the main script goes on if nothing holds it
then. -/
theorem tick_of_spent (h : engine.TimedHalt budget budget) (mem : signal ∈ aboutText) {t : Session}
    (ran : engine.unhalts signal = (t, none)) :
    engine.tick signal =
      afterTurn
        (if t.advanceRest.isHeld.1 then
          { reader := engine.main, session := t.advanceRest.isHeld.2 }
        else engine.main.proceed Session.start t.advanceRest.isHeld.2) := by
  have elapsed : (engine.session.hear signal).elapse Session.start = (t.advanceRest, none) := by
    rw [Session.elapse, h.perform_of_spent, ran]
  rw [h.tick_eq mem, Reader.advance_of_elapsed h.isMain (h.halted_hear signal) elapsed]

/-- It does not, and the frame fails, if the script of the hook does. -/
theorem tick_of_spent_of_failed (h : engine.TimedHalt budget budget) (mem : signal ∈ aboutText)
    {t : Session} {failure : Failure} (ran : engine.unhalts signal = (t, some failure)) :
    engine.tick signal = (.error failure, { engine with session := t }) := by
  have failed : (engine.session.hear signal).elapse Session.start = (t, some failure) := by
    rw [Session.elapse, h.perform_of_spent, ran]
  rw [h.tick_eq mem, Reader.advance_of_failed h.isMain (h.halted_hear signal) failed]
  rfl

/-- What happens first in a frame: the signal is taken, the timers run, and a frame of the halt
passes. -/
theorem log_eq (h : engine.TimedHalt budget elapsed) (mem : signal ∈ aboutText) :
    ∃ rest, engine.log signal =
      signal.toList.map .received ++ [.timersRan, .looked, .haltWent] ++ rest := by
  obtain ⟨hearing, hhearing⟩ : ∃ hearing : Engine, hearing =
      { engine with session := engine.session.hear signal } :=
    ⟨_, rfl⟩
  -- The parts of the frame, one after the other: the signal, no scene, no timer that is due, and
  -- the turn of the main script, in which a frame of the halt passes.
  have heard : (signal.forM Account.receive : Account Unit).part.outcome engine =
      (.ok (), hearing) := by
    rw [Account.part_receive, hhearing]
    exact h.hears mem
  have taken : (signal.forM Account.receive : Account Unit).log engine =
      signal.toList.map .received := by
    cases signal with
    | none => rfl
    | some signal =>
      show .received signal :: (signal.effect engine.session).log Session.logStart = _
      rw [Session.effect_of_auto h.isAuto mem]
      rfl
  have pending : hearing.session.pendingScene = none := hhearing ▸ h.pending
  have noScene : Account.beginScene.part.outcome hearing = (.ok false, hearing) := by
    show Part.beginScene.outcome hearing = _
    rw [Part.outcome_beginScene, pending]
  have noScene' : Account.beginScene.log hearing = [] := by
    unfold Account.beginScene
    dsimp only
    rw [pending]
  have timers : hearing.session.timers.pending = [] := hhearing ▸ h.timers
  have ran : Account.runTimers.log hearing = [.timersRan] := by
    have due : hearing.session.timers.tick.1 = [] := by simp [Timers.tick, timers]
    unfold Account.runTimers
    dsimp only
    rw [due]
    rfl
  obtain ⟨rest, turn⟩ : ∃ rest, Account.readMain.log hearing = [.looked, .haltWent] ++ rest := by
    have look : engine.main.role.lookUp (engine.session.hear signal) =
        (true, engine.session.hear signal) :=
      (if_pos h.isMain).trans (Session.isHeld_of_halted (h.halted_hear signal))
    have looked : engine.main.role.logLook = [.looked] := if_pos h.isMain
    subst hhearing
    show ∃ rest, engine.main.log Session.start Session.logStart (engine.session.hear signal) = _
    rw [Reader.log, if_neg (by simp [h.unfinished]), if_pos h.loaded, Reader.logAdvance,
      looked, look]
    exact ⟨_, rfl⟩
  unfold Engine.log Account.frame
  rw [Account.log_then heard, Account.log_then noScene,
    Account.log_then (Part.outcome_runTimers_of_none timers), Account.log_then noScene, taken,
    noScene', ran, Account.log_bind, turn]
  generalize Account.logNext _ (Account.readMain.part.outcome hearing) = more
  exact ⟨rest ++ more, by simp⟩

/-- What is told first in the frame that ends the halt: that the text is taken away, unless it is
kept. -/
theorem told_of_spent (h : engine.TimedHalt budget budget) (mem : signal ∈ aboutText) :
    textCues engine.session.dialog.textAnimating signal ++
      (if engine.session.dialog.keepText then [] else [.clearText]) <+: engine.told signal := by
  have halt : (engine.session.hear signal).pause.halt = ⟨true, budget, budget⟩ := h.halt
  -- The log up to the end of the halt is replayed step by step; its cues are the first ones told.
  have taken : engine.session.replay (signal.toList.map .received) =
      engine.session.hear signal := by
    cases signal with
    | none => simp [Session.hear, textAppears, textCues]
    | some signal =>
      show (signal.effect engine.session).session = _
      rw [Session.effect_of_auto h.isAuto mem]
  have ran : Happening.apply (engine.session.hear signal) .timersRan =
      engine.session.hear signal := by
    have none : (engine.session.hear signal).timers = {} := congrArg Timers.mk h.timers
    have tick : (engine.session.hear signal).timers.tick.2 =
        (engine.session.hear signal).timers := by
      rw [none]
      rfl
    exact congrArg (fun timers => { engine.session.hear signal with timers }) tick
  have look : Happening.apply (engine.session.hear signal) .looked = engine.session.hear signal :=
    congrArg Prod.snd (Session.isHeld_of_halted (h.halted_hear signal))
  have spent : Happening.apply (engine.session.hear signal) .haltWent =
      (engine.session.hear signal).released :=
    congrArg Effect.session (Session.advanceHalt_of_spent halt h.budgeted)
  obtain ⟨rest, hlog⟩ := h.log_eq mem
  have waits : Happening.handedOut ∉
      signal.toList.map Happening.received ++ [.timersRan, .looked, .haltWent] := by
    simp
  have first := Session.cues_replay waits engine.session
  rw [Session.replay_append, taken, Session.replay_cons, ran, Session.replay_cons, look,
    Session.replay_cons, spent, Session.replay_nil, h.told, List.nil_append] at first
  have cues : (engine.session.hear signal).released.cues =
      textCues engine.session.dialog.textAnimating signal ++
        if engine.session.dialog.keepText then [] else [.clearText] := by
    simp [Session.released, Session.hear, h.told]
  rw [Engine.told, hlog, Session.emitted, Session.collect_append, ← cues, first]
  exact List.prefix_append _ _

end TimedHalt

end Engine

/-! ## The beginning of a halt -/

/-- A reader that has read lines has its lines. -/
theorem Role.readLines_loaded (role : Role) (start : Starter) (lines : List String)
    (blocks : Blocks) (s : Session) :
    (role.readLines start lines blocks s).reader.loaded = true := by
  induction lines generalizing blocks s with
  | nil => rfl
  | cons raw lines ih =>
    unfold readLines
    dsimp only
    generalize (role.plan blocks s raw).carryOut start = progress
    obtain ⟨t, blocks', verdict⟩ := progress
    cases verdict with
    | onward => exact ih _ _
    | look =>
      dsimp only
      rcases role.lookUp t with ⟨_ | _, u⟩
      · exact ih _ _
      · rfl
    | finish => rfl
    | fail failure => rfl

/-- A main script that has had its turn without a failure has its lines, or is over. -/
theorem Reader.loaded_of_step {reader : Reader} {start : Starter} {s : Session}
    (ok : (reader.step start s).failure = none) :
    (reader.step start s).reader.loaded = true ∨ (reader.step start s).reader.finished = true := by
  have advance (reader : Reader) (loaded : reader.loaded = true) :
      (reader.advance start s).reader.loaded = true := by
    have proceed (t : Session) : (reader.proceed start t).reader.loaded = true :=
      Role.readLines_loaded _ _ _ _ _
    unfold Reader.advance
    rcases reader.role.lookUp s with ⟨_ | _, t⟩
    · exact proceed t
    · dsimp only
      rcases t.elapse start with ⟨u, _ | failure⟩
      · dsimp only
        rcases reader.role.lookUp u with ⟨_ | _, v⟩
        · exact proceed v
        · exact loaded
      · exact loaded
  unfold step at ok ⊢
  by_cases finished : reader.finished = true
  · rw [if_pos finished]
    exact .inr finished
  · rw [if_neg finished] at ok ⊢
    by_cases loaded : reader.loaded = true
    · rw [if_pos loaded]
      exact .inl (advance reader loaded)
    · rw [if_neg loaded] at ok ⊢
      rcases hload : reader.load s.story with error | full
      · rw [hload] at ok
        cases ok
      · obtain ⟨lines, rfl⟩ := eq_of_load hload
        exact .inl (advance _ rfl)

namespace Engine

/-- The main script has its lines, or is over. -/
def MainReady (engine : Engine) : Prop :=
  engine.main.loaded = true ∨ engine.main.finished = true

/-- After its turn the main script is ready. -/
theorem ready_readMain {P : Engine → Prop} :
    Part.Ensures P Part.readMain (fun _ => MainReady) (fun _ _ => True) :=
  .of_outcome Part.outcome_readMain (fun _ _ _ ok =>
    Reader.loaded_of_step (Part.resultOf_eq_ok.1 ok))
    (fun _ _ _ _ => trivial)

/-- It stays ready through the turn of a new scene. -/
theorem ready_readNewScene :
    Part.Ensures MainReady Part.readNewScene (fun _ => MainReady) (fun _ _ => True) := by
  have begins : Part.Ensures MainReady Part.beginScene
      (fun begun engine => begun = false → MainReady engine) (fun _ _ => True) :=
    .beginScene (fun _ ready _ _ => ready) (fun _ _ _ _ _ _ => trivial) fun _ _ _ _ _ => nofun
  refine .bind begins fun begun => ?_
  cases begun with
  | false => exact .pure fun _ ready => ready rfl
  | true => exact ready_readMain

/-- After a frame the main script is ready. -/
theorem ready_frame (signal : Option Signal) :
    Part.Ensures (fun _ => True) (frame signal) (fun _ => MainReady) (fun _ _ => True) := by
  have any {α : Type} (part : Part α) :
      Part.Ensures (fun _ => True) part (fun _ _ => True) (fun _ _ => True) :=
    fun _ _ => ⟨fun _ _ _ => trivial, fun _ _ _ => trivial⟩
  refine .bind (any _) fun _ => .bind (any _) fun _ => .bind (any _) fun _ =>
    .bind (any _) fun _ => ?_
  refine .bind ready_readMain fun _ => .bind ready_readNewScene fun _ => .bind .get fun seen => ?_
  have slot (index : Nat) : Part.Ensures MainReady (Part.readBackground index) (fun _ => MainReady)
      (fun _ _ => True) := by
    refine .readBackground (fun _ ready _ => ready) (fun _ ready _ => ready) ?_
    exact fun _ _ _ _ ready _ _ _ => ⟨fun _ => ready, fun _ _ => trivial⟩
  refine .bind ((Part.Ensures.forM (fun _ => MainReady) (fun index _ => slot index) _).imp
    (fun _ h => h.2) (fun _ _ h => h) fun _ _ h => h) fun _ => .bind ready_readNewScene fun _ => ?_
  refine .bind (Q := fun _ => MainReady) ?_ fun _ => .bind (Q := fun _ => MainReady) ?_ fun _ =>
    .bind (Q := fun _ => MainReady) (.modifyGet fun _ ready => ready) fun _ =>
      .pure fun _ ready => ready
  · exact .of_outcome (Part.outcome_change _) (fun _ _ ready _ => ready) fun _ _ _ _ => trivial
  · refine .modifyGet fun engine ready => ?_
    rw [engine.waiting_engine]
    exact ready

/-! ## The course of a halt -/

/-- Nothing but a halt holds the main script, which is not over, and nothing else is about to
happen. -/
structure OnlyHalted (engine : Engine) : Prop where
  /-- The main script is not over. -/
  unfinished : engine.main.finished = false
  /-- The dialog neither comes in nor goes out. -/
  still : engine.session.dialog.animating = none
  /-- The main script does not rest. -/
  awake : engine.session.pause.rest.isResting = false
  /-- It waits for no animation. -/
  unwaited : engine.session.waits.holding engine.session.stage = []
  /-- The host does not hold it. -/
  unpaused : engine.session.pause.manual = false
  /-- No scene is to begin. -/
  pending : engine.session.pendingScene = none
  /-- No timer is pending. -/
  timers : engine.session.timers.pending = []

instance (engine : Engine) : Decidable engine.OnlyHalted :=
  decidable_of_iff
    (engine.main.finished = false ∧ engine.session.dialog.animating = none ∧
      engine.session.pause.rest.isResting = false ∧
      engine.session.waits.holding engine.session.stage = [] ∧
      engine.session.pause.manual = false ∧ engine.session.pendingScene = none ∧
      engine.session.timers.pending = [])
    ⟨fun h => ⟨h.1, h.2.1, h.2.2.1, h.2.2.2.1, h.2.2.2.2.1, h.2.2.2.2.2.1, h.2.2.2.2.2.2⟩,
    fun h => ⟨h.unfinished, h.still, h.awake, h.unwaited, h.unpaused, h.pending, h.timers⟩⟩

/-- The halt ends in the frame with this signal, and the main script goes on. -/
structure Releases (engine : Engine) (signal : Option Signal) : Prop where
  /-- The text is taken away, unless it is to be kept this once; that is told before all else, but
  for the rest of the text that is to appear. -/
  clears : textCues engine.session.dialog.textAnimating signal ++
    (if engine.session.dialog.keepText then [] else [.clearText]) <+: engine.told signal
  /-- Where the script of the hook fails, so does the frame. -/
  fails : ∀ t failure, engine.unhalts signal = (t, some failure) →
    engine.tick signal = (.error failure, { engine with session := t })
  /-- Where something holds the main script then, it stays where it is; of a rest, one frame has
  passed. -/
  holds : ∀ t, engine.unhalts signal = (t, none) → t.advanceRest.isHeld.1 = true →
    engine.tick signal = afterTurn { reader := engine.main, session := t.advanceRest.isHeld.2 }
  /-- Where nothing does, it goes on with its next line. -/
  reads : ∀ t, engine.unhalts signal = (t, none) → t.advanceRest.isHeld.1 = false →
    engine.tick signal = afterTurn (engine.main.proceed Session.start t.advanceRest.isHeld.2)
  /-- So it does where there is no hook. -/
  hookless : engine.session.dialog.hooks.onUnhalt = none →
    engine.tick signal = afterTurn (engine.main.proceed Session.start
      { (engine.session.hear signal).released with waits := [] })

/-- Nothing but the halt holds the main script after some of its frames either. -/
theorem OnlyHalted.midHalt {engine : Engine} (h : engine.OnlyHalted) (appearing : Bool)
    (elapsed : Nat) :
    OnlyHalted { engine with session := engine.session.midHalt appearing elapsed } :=
  ⟨h.unfinished, h.still, h.awake, h.unwaited, h.unpaused, h.pending, h.timers⟩

/-- Where nothing else holds the main script, nothing does after the halt. -/
theorem OnlyHalted.isHeld_released {engine : Engine} (h : engine.OnlyHalted)
    (signal : Option Signal) :
    (engine.session.hear signal).released.advanceRest.isHeld =
      (false, { (engine.session.hear signal).released with waits := [] }) := by
  have rest : (engine.session.hear signal).released.advanceRest =
      (engine.session.hear signal).released :=
    Session.advanceRest_of_awake h.awake
  have halt : (engine.session.hear signal).released.pause.halt = {} := rfl
  have still : (engine.session.hear signal).released.dialog.animating = none := h.still
  have awake : (engine.session.hear signal).released.pause.rest.isResting = false := h.awake
  have unpaused : (engine.session.hear signal).released.pause.manual = false := h.unpaused
  have unwaited : (engine.session.hear signal).released.waits.holding
      (engine.session.hear signal).released.stage = [] := h.unwaited
  rw [rest]
  simp [Session.isHeld, Session.heldBy, halt, still, awake, unpaused, unwaited]

/-- A halt whose frames have all passed ends in the next frame. -/
theorem TimedHalt.releases {engine : Engine} {budget : Nat} (h : engine.TimedHalt budget budget)
    (only : engine.OnlyHalted) {signal : Option Signal} (mem : signal ∈ aboutText) :
    engine.Releases signal := by
  refine ⟨h.told_of_spent mem, fun _ _ => h.tick_of_spent_of_failed mem, fun t ran held => ?_,
    fun t ran free => ?_, fun none => ?_⟩
  · rw [h.tick_of_spent mem ran, if_pos held]
  · rw [h.tick_of_spent mem ran, if_neg (by simp [free])]
  · have ran : engine.unhalts signal = ((engine.session.hear signal).released, Option.none) := by
      rw [unhalts, none]
      rfl
    rw [h.tick_of_spent mem ran, only.isHeld_released]
    rfl

/-- A tag has halted the main script in a frame that succeeded. -/
theorem timedHalt_of_haltedIn {story : Story} {settings : Settings} {engine halted : Engine}
    {signal : Option Signal} {cues : List Cue} {waiting : Waiting} {budget counted : Nat}
    {isMain : Bool} (reachable : Reachable story settings engine)
    (ok : engine.tick signal = (.ok (cues, waiting), halted))
    (halts : engine.HaltedIn signal budget isMain counted) (only : halted.OnlyHalted) :
    halted.TimedHalt budget counted := by
  obtain ⟨budgeted, halt, -⟩ := halt_of_haltedIn reachable ok halts
  obtain ⟨alone, told⟩ := left_of_tick reachable ok
  have reachable' : Reachable story settings halted := by
    have next := reachable.tick signal (by simp [ok])
    rwa [ok] at next
  have ready : halted.MainReady := (ready_frame signal engine trivial).1 _ halted ok
  exact {
    unfinished := only.unfinished
    loaded := ready.resolve_right (by simp [only.unfinished])
    isMain := reachable'.isMain
    halt, budgeted
    still := only.still
    awake := only.awake
    pending := only.pending
    timers := only.timers
    alone, told }

/-- **A halt lasts its budget.** Take a frame that succeeds and in which a tag halts the main script
for a number of frames, and let nothing else hold the main script afterwards, no timer be pending
and no scene be to begin. At most one frame of the halt has counted already, and none if the tag
stands in the main script. Then take frames with any signals about text, each of them while fewer
frames have counted than the halt lasts. They succeed, tell how many frames are left and give no
cues but that the rest of the text is to appear, which is what a click asks for; nothing changes but
the number of frames and whether text is appearing. Once as many frames have counted as the halt
lasts, the next one ends the halt, whatever signal about text it gets: it takes the text away or
takes back that it is kept, starts the script of the hook, and goes on with the next line of the
main script unless something holds it. -/
theorem timed_halt_lasts_its_budget {story : Story} {settings : Settings} {engine halted : Engine}
    {signal : Option Signal} {cues : List Cue} {waiting : Waiting} {budget counted : Nat}
    {isMain : Bool} (reachable : Reachable story settings engine)
    (ok : engine.tick signal = (.ok (cues, waiting), halted))
    (halts : engine.HaltedIn signal budget isMain counted) (only : halted.OnlyHalted) :
    counted ≤ 1 ∧ (isMain = true → counted = 0) ∧
      ∀ signals, (∀ signal ∈ signals, signal ∈ aboutText) →
        (∀ k < signals.length,
          counted + countable halted.session.dialog.textAnimating (signals.take k) < budget) →
        ∃ last, last.session =
          halted.session.midHalt (signals.foldl textAppears halted.session.dialog.textAnimating)
            (counted + countable halted.session.dialog.textAnimating signals) ∧
          last.main = halted.main ∧ last.session.pause.halt.halted = true ∧
          halted.tickAll signals =
            ((heldFrames (budget - counted) halted.session.dialog.textAnimating signals).map .ok,
              last) ∧
          (counted + countable halted.session.dialog.textAnimating signals = budget →
            ∀ signal ∈ aboutText, last.Releases signal) := by
  obtain ⟨-, -, most, own⟩ := halt_of_haltedIn reachable ok halts
  have begins := timedHalt_of_haltedIn reachable ok halts only
  refine ⟨most, own, fun signals about early =>
    ⟨{ halted with session := _ }, rfl, rfl, ?_, begins.tickAll about rfl early, ?_⟩⟩
  · exact congrArg Halt.halted (begins.midHalt _ _).halt
  · intro spent signal mem
    have ends := begins.midHalt (signals.foldl textAppears halted.session.dialog.textAnimating)
      (counted + countable halted.session.dialog.textAnimating signals)
    rw [spent] at ends ⊢
    exact ends.releases (only.midHalt _ _) mem

/-- A story that halts until a click. The script that is started then gives the dialog another hook
and halts for two frames. -/
def recital : Story where
  startup := some ⟨"dawn", "street"⟩
  chapters := .ofEntries [("dawn", { scenes := .ofEntries [
    ("street",
      "<text_dialog_define:9,4,5,no animation,no animation,center,,1,1,9,no,,,,,,bell,,9,2>\n" ++
        "<halt>\nBye.")] })]
  reusables := .ofEntries [
    ("bell",
      "<text_dialog_define:9,4,5,no animation,no animation,center,,1,1,9,no,,,,,,knell,,9,2>\n" ++
        "<halt_auto:2>"),
    ("knell", "<play_sound:ding>")]

/-- The engine of that story at the beginning. -/
def recitalNew : Engine :=
  .opening recital {} ⟨"dawn", "street"⟩

/-- One of the two frames is that of the click. The other one has to wait until the text has
appeared, and another click only hurries that. -/
theorem recital_waits_for_text :
    ∃ engine halted last cues, Reachable recital {} engine ∧
      engine.tick (some .click) = (.ok (cues, .haltAuto 1), halted) ∧
      engine.HaltedIn (some .click) 2 false 1 ∧ halted.OnlyHalted ∧
      halted.tickAll [some .textAnimationStarted, some .click, some .textAnimationFinished] =
        ([([], .haltAuto 1), ([.speedUpText], .haltAuto 1), ([], .haltAuto 0)].map .ok, last) ∧
      last.Releases (some .click) ∧
      (last.tick (some .click)).1 =
        .ok ([.clearText, .playAudio .fx "ding" false, .dialogText "Bye."], .finished) := by
  obtain ⟨created, first, second, log, frames, free, defined, scenes, counted, only,
    appearing, ends⟩ :
      Engine.create recital {} = .ok recitalNew ∧
      (recitalNew.tick none).1.map Prod.snd = .ok .halt ∧
      ((recitalNew.tick none).2.tick (some .click)).1.map Prod.snd = .ok (.haltAuto 1) ∧
      (recitalNew.tick none).2.log (some .click) =
        ((recitalNew.tick none).2.log (some .click)).take 3 ++
          .obeyed false [] .haltAuto ⟨"halt_auto", some "2"⟩ ::
            ((recitalNew.tick none).2.log (some .click)).drop 4 ∧
      frames? (some "2") = some 2 ∧
      ((recitalNew.tick none).2.session.replay
        (((recitalNew.tick none).2.log (some .click)).take 3)).pause.halt.halted = false ∧
      ((recitalNew.tick none).2.session.replay
        (((recitalNew.tick none).2.log (some .click)).take 3)).dialog.isDefined = true ∧
      (((recitalNew.tick none).2.log (some .click)).drop 4).all (fun happening =>
        happening.isRead || happening == .timersRan || happening == .handedOut) = true ∧
      (Happening.apply ((recitalNew.tick none).2.session.replay
          (((recitalNew.tick none).2.log (some .click)).take 3))
        (.obeyed false [] .haltAuto ⟨"halt_auto", some "2"⟩)).counted
          (((recitalNew.tick none).2.log (some .click)).drop 4) = 1 ∧
      ((recitalNew.tick none).2.tick (some .click)).2.OnlyHalted ∧
      ((recitalNew.tick none).2.tick (some .click)).2.session.dialog.textAnimating = false ∧
      ((((recitalNew.tick none).2.tick (some .click)).2.tickAll
        [some .textAnimationStarted, some .click, some .textAnimationFinished]).2.tick
          (some .click)).1 =
        .ok ([.clearText, .playAudio .fx "ding" false, .dialogText "Bye."], .finished) := by
    decide +kernel
  generalize recitalNew = new
    at created first second log free defined scenes counted only appearing ends
  have reachable : Reachable recital {} (new.tick none).2 :=
    .tick (.create created) none fun crash failed => by
      rw [failed] at first
      cases first
  generalize (new.tick none).2 =
    engine at reachable second log free defined scenes counted only appearing ends
  have halts : engine.HaltedIn (some .click) 2 false 1 :=
    counted ▸ .tag log rfl frames free defined fun scene mem => by
      cases List.all_eq_true.1 scenes _ mem
  rcases ok : engine.tick (some .click) with ⟨failure | ⟨cues, waiting⟩, halted⟩
  · rw [ok] at second
    cases second
  · rw [ok] at second only appearing ends
    cases second
    obtain ⟨-, -, lasts⟩ := timed_halt_lasts_its_budget reachable ok halts only
    obtain ⟨last, -, -, -, held, releases⟩ :=
      lasts [some .textAnimationStarted, some .click, some .textAnimationFinished] (by decide) (by
        rw [appearing]
        decide)
    rw [held] at ends
    rw [appearing] at held releases
    exact ⟨engine, halted, last, cues, reachable, ok, halts, only, held, releases rfl _ (by decide),
      ends⟩

end Engine

end VisualNovel

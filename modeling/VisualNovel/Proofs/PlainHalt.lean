import VisualNovel.Proofs.Invariants

/-!
# A plain halt holds

A halt without a budget of frames is plain: the main script waits for a click. Meanwhile much goes
on. Timers start scripts, hooks and the ends of animations do, running scripts are read, and they
may halt, halt with a budget or rest themselves. None of this lets the main script go on: until a
click that finds all text shown, or another scene, it stands where it stood and says nothing.

What a script does during a plain halt is in `Session.holds_slotRules`: nobody but the main script
speaks, and a halt that is asked for during a halt is no halt. The main script itself is looked at
in `Reader.advance_of_plainlyHalted`. That no scene begins in a frame is read off its count.
-/

namespace VisualNovel

/-! ## Plain halts -/

namespace Session

/-- The main script is halted, and waits for a click. -/
def PlainlyHalted (s : Session) : Prop :=
  s.pause.halt.halted = true ∧ s.pause.halt.isAuto = false

instance (s : Session) : Decidable s.PlainlyHalted :=
  inferInstanceAs (Decidable (s.pause.halt.halted = true ∧ s.pause.halt.isAuto = false))

/-- The second session has the story and the halt of the first, and nothing was spoken in
between. -/
structure Holds (s t : Session) : Prop where
  /-- The story stays. -/
  story : t.story = s.story
  /-- The halt stays. -/
  halt : t.pause.halt = s.pause.halt
  /-- No line is among the new cues. -/
  cues : ∃ new, t.cues = s.cues ++ new ∧ ∀ words, .dialogText words ∉ new

variable {s t u : Session}

/-- A plain halt has no budget. -/
theorem PlainlyHalted.budget (h : s.PlainlyHalted) : s.pause.halt.budget = 0 := by
  obtain ⟨halted, plain⟩ := h
  simpa [Halt.isAuto, halted] using plain

/-- A plain halt that is held stays one. -/
theorem Holds.plainlyHalted (h : s.Holds t) (halted : s.PlainlyHalted) : t.PlainlyHalted := by
  unfold PlainlyHalted
  rw [h.halt]
  exact halted

/-- A change that tells the host nothing. -/
theorem Holds.silent (story : t.story = s.story) (halt : t.pause.halt = s.pause.halt)
    (cues : t.cues = s.cues) : s.Holds t :=
  ⟨story, halt, [], by rw [cues, List.append_nil], by simp⟩

/-- A session holds itself. -/
theorem Holds.refl (s : Session) : s.Holds s := .silent rfl rfl rfl

/-- What is held twice in a row is held. -/
theorem Holds.trans (h : s.Holds t) (h' : t.Holds u) : s.Holds u := by
  obtain ⟨first, hfirst, quiet⟩ := h.cues
  obtain ⟨second, hsecond, quiet'⟩ := h'.cues
  refine ⟨h'.story.trans h.story, h'.halt.trans h.halt, first ++ second, ?_, ?_⟩
  · rw [hsecond, hfirst, List.append_assoc]
  · intro words hmem
    rcases List.mem_append.1 hmem with hmem | hmem
    · exact quiet words hmem
    · exact quiet' words hmem

/-- What is ordinary for the dialog holds a halt. -/
theorem Ordinary.holds (h : s.Ordinary t) : s.Holds t := by
  obtain ⟨new, hcues, ordinary⟩ := h.cues
  refine ⟨h.stays.story, congrArg Core.halt h.core, new, hcues, fun words hmem => ?_⟩
  cases ordinary _ hmem

/-- An amendment whose scope is without the halt. -/
theorem Holds.amend {scope : Scope} (untouched : scope.halt = false) (t : Session) :
    s.Holds (s.amend scope t) := by
  obtain ⟨new, cues, allowed⟩ := s.amend_cues scope t
  refine ⟨rfl, (s.amend_holds scope t).halt untouched, new, cues, fun words mem => ?_⟩
  cases Scope.text?_of_allows (allowed _ mem)

/-- A halt that is asked for during a halt, with a budget or without, changes nothing. -/
theorem halt_of_halted (h : s.pause.halt.halted = true) (budget : Option Nat) :
    (s.halt budget).session = s := by
  unfold halt Halt.start?
  simp [h]

/-- A tag that is carried out during a halt. -/
theorem Deed.holds (h : s.Deed t) (halted : s.PlainlyHalted) : s.Holds t := by
  cases h with
  | ordinary ordinary => exact ordinary.holds
  | defineDialog arguments =>
    rw [defineDialog_amend]
    exact .amend rfl _
  | showDialog =>
    rw [showDialog_amend]
    exact .amend rfl _
  | closeDialog =>
    rw [closeDialog_amend]
    exact .amend rfl _
  | halt budget =>
    rw [halt_of_halted halted.1]
    exact .refl s
  | goTo scene _ => exact .silent rfl rfl rfl
  | @goToCovered scene _ cue ordinary =>
    refine ⟨rfl, rfl, [cue], rfl, fun words mem => ?_⟩
    rw [← List.mem_singleton.1 mem] at ordinary
    cases ordinary

/-- A line of a script that is not the main one, carried out during a halt. -/
theorem acts_holds {role : Role} (h : role.Acts s t) (other : role.isMain = false)
    (halted : s.PlainlyHalted) : s.Holds t := by
  cases h with
  | speaks words main => cases main.symm.trans other
  | obeys freshNames deed =>
    have fresh : s.Holds { s with freshNames } := .silent rfl rfl rfl
    exact fresh.trans (deed.holds halted)

/-- A frame of a plain halt does not bring it nearer to its end. -/
theorem advanceHalt_of_plainlyHalted (h : s.PlainlyHalted) : s.advanceHalt = { session := s } := by
  unfold advanceHalt Halt.tick
  rw [if_pos h.budget]

/-- During a plain halt all scripts but the main one leave the halt as it is, and do not speak. -/
theorem holds_slotRules :
    SlotRules PlainlyHalted (fun reader => reader.role.isMain = false) (fun _ => Holds) where
  refl _ := .refl _
  trans := .trans
  keeps halted run := run.plainlyHalted halted
  line := by
    intro role lines blocks s raw halted other
    exact ⟨acts_holds (role.plan_acts blocks s raw) other halted, other⟩
  fails _ _ _ run := run
  finish other := other
  look {s} _ := s.heldBy_ordinary.holds
  halt {s} halted := by
    rw [advanceHalt_of_plainlyHalted halted]
    exact .refl s
  rest {s} _ := s.advanceRest_ordinary.holds
  load _ other hload := Reader.load_role hload ▸ other
  unloaded _ _ _ := .refl _
  slots _ run := ⟨run.story, run.halt, run.cues⟩
  starts _ _ := ⟨rfl, .silent rfl rfl rfl⟩

/-- A signal that is received during a plain halt does not end it, if a click finds text that still
appears. -/
theorem effect_holds (signal : Signal) (h : signal = .click → s.dialog.textAnimating = true) :
    s.Holds (signal.effect s).session := by
  cases signal with
  | click =>
    show s.Holds s.click.session
    unfold click
    rw [if_pos (h rfl)]
    exact ⟨rfl, rfl, _, rfl, by simp⟩
  | _ =>
    rw [Signal.effect_amend]
    exact .amend rfl _

/-- A look during a plain halt finds the main script held, and changes nothing. -/
theorem isHeld_of_plainlyHalted (h : s.PlainlyHalted) : s.isHeld = (true, s) := by
  obtain ⟨halted, plain⟩ := h
  unfold isHeld heldBy
  by_cases moving : s.dialog.animating.isSome = true
  · simp [moving]
  · simp [moving, halted, plain]

end Session

/-! ## The main script during a plain halt -/

namespace Reader

/-- The lines that a reader has not read yet, which are those of its whole script if it has not got
its lines from the story. -/
def remaining (reader : Reader) (story : Story) : Except StoryError (List String) :=
  if reader.loaded then .ok reader.lines else (reader.load story).map (·.lines)

variable {reader : Reader} {s : Session} (start : Starter)

/-- In a frame of a plain halt the main script stays where it is. -/
theorem advance_of_plainlyHalted (isMain : reader.role.isMain = true) (h : s.PlainlyHalted) :
    reader.advance start s = { reader, session := s.advanceRest } := by
  have look {t : Session} (ht : t.PlainlyHalted) : reader.role.lookUp t = (true, t) := by
    unfold Role.lookUp
    rw [if_pos isMain, Session.isHeld_of_plainlyHalted ht]
  have elapse : s.elapse start = (s.advanceRest, none) := by
    unfold Session.elapse
    rw [Session.advanceHalt_of_plainlyHalted h]
    rfl
  have still : s.advanceRest.PlainlyHalted := s.advanceRest_ordinary.holds.plainlyHalted h
  unfold advance
  simp only [look h, elapse, look still]

/-- A reader that gets its lines has the same lines before it. -/
theorem remaining_of_load {loaded : Reader} {story : Story} (unloaded : reader.loaded = false)
    (h : reader.load story = .ok loaded) : loaded.remaining story = reader.remaining story := by
  obtain ⟨lines, rfl⟩ := eq_of_load h
  simp [remaining, unloaded, h, Except.map]

/-- What the main script does in a frame of a plain halt: at most it gets its lines, and its rest
goes on. -/
theorem step_of_plainlyHalted (isMain : reader.role.isMain = true) (h : s.PlainlyHalted) :
    (reader.step start s).reader.remaining s.story = reader.remaining s.story ∧
      (reader.step start s).reader.blocks = reader.blocks ∧
      s.Ordinary (reader.step start s).session := by
  unfold step
  by_cases isOver : reader.finished
  · rw [if_pos isOver]
    exact ⟨rfl, rfl, .refl s⟩
  · rw [if_neg isOver]
    by_cases ready : reader.loaded
    · rw [if_pos ready, advance_of_plainlyHalted start isMain h]
      exact ⟨rfl, rfl, s.advanceRest_ordinary⟩
    · rw [if_neg ready]
      rcases hload : reader.load s.story with error | loaded
      · exact ⟨rfl, rfl, .refl s⟩
      · have isMain' : loaded.role.isMain = true := load_role hload ▸ isMain
        have same := remaining_of_load (by simpa using ready) hload
        have blocks : loaded.blocks = reader.blocks := by
          obtain ⟨lines, rfl⟩ := eq_of_load hload
          rfl
        dsimp only
        rw [advance_of_plainlyHalted start isMain' h]
        exact ⟨same, blocks, s.advanceRest_ordinary⟩

end Reader

/-! ## Engines during a plain halt -/

namespace Engine

/-- Every reader is in its place. -/
structure InPlace (engine : Engine) : Prop where
  /-- The main reader reads a main script. -/
  isMain : engine.main.role.isMain = true
  /-- No reader in a slot does. -/
  slots : engine.session.background.All fun reader => reader.role.isMain = false

/-- The second engine stands where the first one does: it has the story and the halt of the first,
and its main script has the same lines and blocks before it. -/
structure Stands (first engine : Engine) : Prop extends InPlace engine where
  /-- The story stays. -/
  story : engine.session.story = first.session.story
  /-- The halt stays. -/
  halt : engine.session.pause.halt = first.session.pause.halt
  /-- The lines that are not read yet stay. -/
  remaining : engine.main.remaining first.session.story = first.main.remaining first.session.story
  /-- The open blocks stay. -/
  blocks : engine.main.blocks = first.main.blocks

/-- Nothing has been spoken either. -/
structure Holds (first engine : Engine) : Prop extends Stands first engine where
  /-- No line is among the new cues. -/
  cues : ∃ new, engine.session.cues = first.session.cues ++ new ∧ ∀ words, .dialogText words ∉ new

variable {first engine : Engine}

/-- An engine whose readers are in place stands where it does. -/
theorem Stands.refl (h : engine.InPlace) : engine.Stands engine := ⟨h, rfl, rfl, rfl, rfl⟩

/-- A plain halt stays one where the engine stands. -/
theorem Stands.plainlyHalted (h : first.Stands engine) (halted : first.session.PlainlyHalted) :
    engine.session.PlainlyHalted := by
  unfold Session.PlainlyHalted
  rw [h.halt]
  exact halted

/-- An engine that stands where one stands stands where the first one does. -/
theorem Stands.trans {second : Engine} (h : first.Stands second) (h' : second.Stands engine) :
    first.Stands engine where
  story := h'.story.trans h.story
  halt := h'.halt.trans h.halt
  isMain := h'.isMain
  slots := h'.slots
  remaining := by rw [← h.remaining, ← h.story, h'.remaining]
  blocks := h'.blocks.trans h.blocks

/-- The session goes on, and the main script stays. -/
theorem Holds.session (h : first.Holds engine) {t : Session} (run : engine.session.Holds t)
    (slots : t.background.All fun reader => reader.role.isMain = false) :
    first.Holds { engine with session := t } where
  story := run.story.trans h.story
  halt := run.halt.trans h.halt
  isMain := h.isMain
  slots := slots
  remaining := h.remaining
  blocks := h.blocks
  cues := by
    have before : first.session.Holds engine.session := ⟨h.story, h.halt, h.cues⟩
    exact (before.trans run).cues

/-- An effect that is carried out. -/
theorem Holds.perform (h : first.Holds engine) (halted : first.session.PlainlyHalted)
    (effect : Effect) (holds : engine.session.Holds effect.session)
    (keeps : effect.session.background = engine.session.background) :
    first.Holds { engine with session := (effect.perform Session.start).1 } := by
  have rules := Session.holds_slotRules.startRules
  have run := rules.perform rules.start ⟨h.plainlyHalted halted, h.slots⟩ ⟨holds, keeps ▸ h.slots⟩
  exact h.session run.1 run.2

/-- During a plain halt every part of a frame leaves the main script where it is, until a scene
begins. -/
theorem holds_tallyRules (halted : first.session.PlainlyHalted) :
    Evaluation.TallyRules fun _ engine tally => tally.scenes = 0 → first.Holds engine where
  timers timers holds noScene := (holds noScene).session (.silent rfl rfl rfl) (holds noScene).slots
  launch := by
    intro engine tally launch holds noScene
    exact (holds noScene).perform halted ⟨engine.session, some launch⟩ (.refl _) rfl
  scene _ _ _ begun := by cases begun
  missing holds _ _ noScene := (holds noScene).session (.silent rfl rfl rfl) (holds noScene).slots
  main := by
    rintro engine tally _ holds rfl noScene
    have held := holds noScene
    obtain ⟨remaining, blocks, ordinary⟩ := Reader.step_of_plainlyHalted Session.start held.isMain
      (held.plainlyHalted halted)
    have slots := ordinary.keeps.background ▸ held.slots
    have gone := held.session ordinary.holds slots
    refine ⟨⟨⟨?_, gone.slots⟩, gone.story, gone.halt, ?_, ?_⟩, gone.cues⟩
    · rw [Reader.step_role]
      exact held.isMain
    · rw [← held.remaining, ← held.story]
      exact remaining
    · exact blocks.trans held.blocks
  slot := by
    rintro engine tally index reader background _ holds hout rfl noScene
    have held := holds noScene
    obtain ⟨other, slots⟩ := held.slots.checkOut? hout
    have taken : engine.session.Holds { engine.session with background } := .silent rfl rfl rfl
    obtain ⟨other', run, slots'⟩ := Session.holds_slotRules.startRules.step reader
      ⟨taken.plainlyHalted (held.plainlyHalted halted), slots⟩ other
    have gone := taken.trans run
    exact held.session ⟨gone.story, gone.halt, gone.cues⟩ (slots'.checkIn index other')
  purge holds noScene := (holds noScene).session (.silent rfl rfl rfl) (holds noScene).slots.purge
  look := by
    intro engine tally holds noScene
    have ordinary := engine.session.heldBy_ordinary
    exact (holds noScene).session ordinary.holds (ordinary.keeps.background ▸ (holds noScene).slots)

/-- A frame in which no scene begins, and in which a click finds text that still appears, leaves the
main script where it is, and nothing is spoken in it. -/
theorem InPlace.tick {signal : Option Signal} {tally : Tally} (h : engine.InPlace)
    (halted : engine.session.PlainlyHalted)
    (click : signal = some .click → engine.session.dialog.textAnimating = true)
    (evaluated : Evaluation.frame signal engine {} (engine.tick signal).1
      (engine.tick signal).2 tally)
    (noScene : tally.scenes = 0) :
    engine.Stands (engine.tick signal).2 ∧
      ∀ words, .dialogText words ∉ (engine.observe signal).1.cues := by
  have new : engine.Holds engine := ⟨.refl h, [], by simp, by simp⟩
  have received : Evaluation.Ensures (fun e count => e = engine ∧ count = {})
      (signal.forM Evaluation.receive) (fun _ e count => count.scenes = 0 → engine.Holds e)
      (fun _ e count => count.scenes = 0 → engine.Holds e) := by
    refine Evaluation.TallyRules.ensures_receive
      (P := fun _ e count => count.scenes = 0 → engine.Holds e) ?_ ?_
    · rintro - _ _ ⟨rfl, -⟩ -
      exact new
    · rintro signal' rfl _ _ ⟨rfl, -⟩ -
      refine new.perform halted _ (Session.effect_holds signal' ?_)
        (signal'.effect_keeps _).background
      exact fun hclick => click (congrArg some hclick)
  obtain ⟨_, last, holds, hcues, cues, hafter⟩ :=
    (holds_tallyRules halted).exists_last received evaluated
  have held := holds noScene
  refine ⟨?_, ?_⟩
  · rw [hafter]
    exact ⟨⟨held.isMain, held.slots⟩, held.story, held.halt, held.remaining, held.blocks⟩
  · obtain ⟨spoken, hspoken, quiet⟩ := held.cues
    have all : (engine.observe signal).1.cues = spoken := by
      show (cuesAfter (engine.tick signal)).drop engine.session.cues.length = spoken
      rw [hcues, hspoken, List.drop_left]
    rw [all]
    exact quiet

/-- A write of the host leaves the main script where it is. -/
theorem Stands.write (h : first.Stands engine) (write : Write) :
    first.Stands (engine.write write) where
  story := (engine.write_ordinary write).stays.story.trans h.story
  halt := (congrArg Core.halt (engine.write_ordinary write).core).trans h.halt
  isMain := by
    rw [engine.write_main write]
    exact h.isMain
  slots := by
    rw [(engine.write_ordinary write).keeps.background]
    exact h.slots
  remaining := by
    rw [engine.write_main write]
    exact h.remaining
  blocks := by
    rw [engine.write_main write]
    exact h.blocks

/-! ## Runs during a plain halt -/

/-- What follows an engine while no click finds all text shown and no scene begins: frames, failed
ones among them, and writes of the host, with the new cues of all frames. -/
inductive Undisturbed (first : Engine) : List Cue → Engine → Prop where
  /-- Nothing has happened. -/
  | refl : Undisturbed first [] first
  /-- After a frame. -/
  | tick {cues : List Cue} {engine : Engine} (run : Undisturbed first cues engine)
    (signal : Option Signal)
    (click : signal = some .click → engine.session.dialog.textAnimating = true)
    {tally : Tally}
    (evaluated : Evaluation.frame signal engine {} (engine.tick signal).1
      (engine.tick signal).2 tally)
    (noScene : tally.scenes = 0) :
    Undisturbed first (cues ++ (engine.observe signal).1.cues) (engine.observe signal).2
  /-- After a write of the host. -/
  | write {cues : List Cue} {engine : Engine} (run : Undisturbed first cues engine)
    (write : Write) :
    Undisturbed first cues (engine.write write)

/-- What one frame leaves, a run leaves. -/
theorem Undisturbed.stands {cues : List Cue} (run : first.Undisturbed cues engine)
    (h : first.InPlace) (halted : first.session.PlainlyHalted) :
    first.Stands engine ∧ ∀ words, .dialogText words ∉ cues := by
  induction run with
  | refl => exact ⟨.refl h, by simp⟩
  | @tick cues engine _ signal click tally evaluated noScene ih =>
    obtain ⟨stands, quiet⟩ := ih
    obtain ⟨next, quiet'⟩ :=
      stands.toInPlace.tick (stands.plainlyHalted halted) click evaluated noScene
    refine ⟨stands.trans next, fun words hmem => ?_⟩
    rcases List.mem_append.1 hmem with hmem | hmem
    · exact quiet words hmem
    · exact quiet' words hmem
  | write _ write ih => exact ⟨ih.1.write write, ih.2⟩

/-- In a reachable engine every reader is in its place. -/
theorem Reachable.inPlace {story : Story} {settings : Settings}
    (reachable : Reachable story settings engine) : engine.InPlace := by
  refine ⟨reachable.isMain, ?_⟩
  intro slot hslot reader hreader
  obtain ⟨held, hheld, hname⟩ := (reachable.settled.slots.filled slot hslot).reader
  rw [hreader] at hheld
  cases hheld
  cases hrole : reader.role with
  | main scene =>
    rw [hrole] at hname
    cases hname
  | background name parameters => rfl

/-- A plain halt holds. From every engine that a story can come to and that is halted without a
budget, and through all frames and writes in which no click finds all text shown and no scene
begins, the main script keeps the lines and the blocks that it had before it, nothing is spoken, and
the halt is still plain. -/
theorem plain_halt_holds {story : Story} {settings : Settings}
    (reachable : Reachable story settings engine) (halted : engine.session.PlainlyHalted)
    {cues : List Cue} {after : Engine} (run : engine.Undisturbed cues after) :
    after.main.remaining story = engine.main.remaining story ∧
      after.main.blocks = engine.main.blocks ∧ (∀ words, .dialogText words ∉ cues) ∧
      after.session.PlainlyHalted := by
  obtain ⟨stands, quiet⟩ := run.stands reachable.inPlace halted
  have runs := reachable.settled.runs
  refine ⟨?_, stands.blocks, quiet, stands.plainlyHalted halted⟩
  rw [← runs]
  exact stands.remaining

/-- A story that halts after a timer is set, for a script that would halt with a budget and rest. -/
def dozing : Story where
  startup := some ⟨"dawn", "street"⟩
  chapters := .ofEntries [("dawn", { scenes := .ofEntries [("street",
    "<text_dialog_define:9,4,5,no animation,no animation,center,,1,1,9,no,,,,,,,,9,2>\n" ++
      "<after:1,bell>\n<halt>\nDing.")] })]
  reusables := .ofEntries [("bell", "<halt_auto:1>\n<rest:1>\nDong.")]

/-- The engine of that story at the beginning. -/
def dozingNew : Engine :=
  .opening dozing {} ⟨"dawn", "street"⟩

/-- A click comes while text appears, in the frame in which the script of the timer is started. The
script asks for a rest, and the main script still has its last line before it. -/
theorem dozing_halt_holds :
    ∃ engine cues after, Reachable dozing {} engine ∧ engine.session.PlainlyHalted ∧
      engine.main.remaining dozing = .ok ["Ding."] ∧ engine.Undisturbed cues after ∧
      cues = [.speedUpText] ∧ after.session.pause.rest.length = 1 ∧
      after.main.remaining dozing = .ok ["Ding."] ∧ after.main.blocks = engine.main.blocks ∧
      (∀ words, .dialogText words ∉ cues) ∧ after.session.PlainlyHalted := by
  have created : Reachable dozing {} dozingNew := .create (by decide +kernel)
  -- One evaluation of both frames for all that is said of them.
  obtain ⟨ok, halted, waits, appears, idle, hcues, rested⟩ :
      (dozingNew.tick (some .textAnimationStarted)).1.isOk = true ∧
      (dozingNew.tick (some .textAnimationStarted)).2.session.PlainlyHalted ∧
      (dozingNew.tick (some .textAnimationStarted)).2.main.remaining dozing = .ok ["Ding."] ∧
      (dozingNew.tick (some .textAnimationStarted)).2.session.dialog.textAnimating = true ∧
      Evaluation.beginsNoScene (some .click) (dozingNew.tick (some .textAnimationStarted)).2 =
        true ∧
      ((dozingNew.tick (some .textAnimationStarted)).2.observe (some .click)).1.cues =
        [.speedUpText] ∧
      ((dozingNew.tick (some .textAnimationStarted)).2.observe
        (some .click)).2.session.pause.rest.length =
        1 := by decide +kernel
  have alive (crash : Crash) :
      (dozingNew.tick (some .textAnimationStarted)).1 ≠ .error (.crash crash) := by
    intro crashes
    rw [crashes] at ok
    cases ok
  have reachable := created.tick (some .textAnimationStarted) alive
  obtain ⟨tally, evaluated, noScene⟩ := Evaluation.exists_frame_of_beginsNoScene idle
  have run := Undisturbed.tick .refl (some .click) (fun _ => appears) evaluated noScene
  rw [List.nil_append] at run
  obtain ⟨remaining, blocks, quiet, still⟩ := plain_halt_holds reachable halted run
  exact ⟨_, _, _, reachable, halted, waits, run, hcues, rested, remaining.trans waits,
    blocks, quiet, still⟩

end Engine

end VisualNovel

import VisualNovel.Proofs.CountedFrames

/-!
# Invariants of frames

What holds of every frame, for invariants of sessions and readers that do not look at the running
scripts. `SlotRules` are the rules of a run for them: of a started script it is enough to know its
first lines and its event, and the readers in all slots keep their invariant by themselves.
`FrameRules` add what a frame does outside of readers: timers, and scenes that begin.

`FrameRules.tick` is about all parts of a frame that follow its signal. A signal is the host's word
and not a step of the story, so it is left to those who use the rules: they speak from the session
on that has just received it (`Session.receive`).
-/

namespace VisualNovel

/-! ## Readers in slots -/

namespace Background

variable {G : Reader → Prop} {background : Background}

/-- Every reader in a slot has the property. -/
def All (G : Reader → Prop) (background : Background) : Prop :=
  ∀ slot ∈ background.slots, ∀ reader, slot.reader = some reader → G reader

/-- A slot that is reserved has no reader. -/
theorem All.reserve (h : background.All G) (name : String) : (background.reserve name).All G := by
  intro slot hslot reader hreader
  rcases List.mem_append.1 hslot with hslot | hslot
  · exact h slot hslot reader hreader
  · rw [List.mem_singleton.1 hslot] at hreader
    cases hreader

/-- A reader that comes back is the only one that is new. -/
theorem All.checkIn (h : background.All G) (index : Nat) {reader : Reader} (hreader : G reader) :
    (background.checkIn index reader).All G := by
  unfold Background.checkIn
  split
  · exact h
  · next name _ =>
    intro slot hslot held hheld
    obtain ⟨i, hi⟩ := List.mem_iff_getElem?.1 hslot
    rw [List.getElem?_modify] at hi
    split at hi
    · obtain ⟨old, hold, rfl⟩ := Option.map_eq_some_iff.1 hi
      unfold Slot.refill at hheld
      split at hheld
      · cases hheld
        exact hreader
      · exact h old (List.mem_of_getElem? hold) held hheld
    · rw [id_map'] at hi
      exact h slot (List.mem_of_getElem? hi) held hheld

/-- A reader that is taken out was in its slot, and the others stay in theirs. -/
theorem All.checkOut? {out : Background} {index : Nat} {reader : Reader} (h : background.All G)
    (hout : background.checkOut? index = some (reader, out)) : G reader ∧ out.All G := by
  unfold Background.checkOut? at hout
  simp only [Option.bind_eq_bind, Option.bind_eq_some_iff, Option.pure_def, Option.some.injEq,
    Prod.mk.injEq] at hout
  obtain ⟨slot, hslot, held, hheld, rfl, rfl⟩ := hout
  refine ⟨h slot (List.mem_of_getElem? hslot) held hheld, ?_⟩
  intro other hother reader hreader
  rcases List.mem_or_eq_of_mem_set hother with hother | rfl
  · exact h other hother reader hreader
  · cases hreader

/-- The end of a frame only takes slots away. -/
theorem All.purge (h : background.All G) : background.purge.All G :=
  fun slot hslot => h slot (List.mem_of_mem_filter hslot)

/-- Without a slot, every reader in one has the property. -/
theorem All.empty : Background.All G {} := by
  intro slot hslot
  cases hslot

end Background

/-! ## Runs -/

/-- What a run has to show for invariants and a relation that do not look at the running scripts. -/
structure SlotRules (I : Session → Prop) (G : Reader → Prop)
    (R : Option Failure → Session → Session → Prop) : Prop extends LineRules I G R where
  /-- The running scripts are of no concern. -/
  slots {s t : Session} {failure : Option Failure} (background : Background) :
    R failure s t → R failure s { t with background }
  /-- A script that is about to be read. -/
  starts {s : Session} {launch : Launch} {script : String} :
    I s → s.startable? launch = some script →
      G (.ofScript launch script) ∧ R none s (s.record (.started launch.name))

section run

variable {I : Session → Prop} {G : Reader → Prop} {R : Option Failure → Session → Session → Prop}

/-- Whatever runs, the readers in all slots keep their invariant. -/
theorem SlotRules.startRules (h : SlotRules I G R) :
    StartRules (fun s => I s ∧ s.background.All G) G
      (fun failure s t => R failure s t ∧ t.background.All G) where
  refl hs := ⟨h.refl hs.1, hs.2⟩
  trans run rest := ⟨h.trans run.1 rest.1, rest.2⟩
  keeps hs run := ⟨h.keeps hs.1 run.1, run.2⟩
  line := by
    intro role lines blocks s raw hs hreader
    obtain ⟨run, hreader'⟩ := h.line hs.1 hreader
    have keeps := role.plan_keeps blocks s raw
    exact ⟨⟨run, keeps.background ▸ hs.2⟩, hreader'⟩
  fails hs hreader hv run := ⟨h.fails hs.1 hreader hv run.1, run.2⟩
  finish := h.finish
  look {s} hs := ⟨h.look hs.1, s.heldBy_ordinary.keeps.background ▸ hs.2⟩
  halt {s} hs := ⟨h.halt hs.1, s.advanceHalt_stays.toKeeps.background ▸ hs.2⟩
  rest {s} hs := ⟨h.rest hs.1, s.advanceRest_ordinary.keeps.background ▸ hs.2⟩
  load hs := h.load hs.1
  unloaded hs hreader hload := ⟨h.unloaded hs.1 hreader hload, hs.2⟩
  begins := by
    intro s launch script hs hscript
    obtain ⟨hreader, run⟩ := h.starts hs.1 hscript
    exact ⟨hreader, h.keeps hs.1 (h.slots _ run), hs.2.reserve launch.name⟩
  ends := by
    intro s launch script reading hs hscript _ _ hreader run
    obtain ⟨-, started⟩ := h.starts hs.1 hscript
    have enlisted : R none s (s.enlist launch) := h.slots _ started
    exact ⟨h.slots _ (h.trans enlisted run.1), run.2.checkIn _ hreader⟩

/-! ## Frames -/

/-- What a frame has to show besides. -/
structure FrameRules (I : Session → Prop) (G : Reader → Prop)
    (R : Option Failure → Session → Session → Prop) : Prop extends SlotRules I G R where
  /-- The timers run. -/
  timers {s : Session} (timers : Timers) : I s → R none s { s with timers }
  /-- A scene that is to begin begins. -/
  scene {s : Session} {scene : SceneRef} :
    I s → s.pendingScene = some scene → s.story.checkScene scene = .ok () →
      G (.ofScene scene) ∧ R none s ({ s with pendingScene := none }.enterScene scene)
  /-- A scene that is to begin is missing. -/
  missing {s : Session} {scene : SceneRef} {error : StoryError} :
    I s → s.pendingScene = some scene → s.story.checkScene scene = .error error →
      R (some (.story error)) s { s with pendingScene := none }

/-- The session that has just received a signal, if there is one. -/
def Session.receive (s : Session) : Option Signal → Session
  | none => s
  | some signal => (signal.effect s).session

namespace Engine

/-- The engine has come from a session by a run, and its readers have their invariant. -/
structure Ran (G : Reader → Prop) (R : Option Failure → Session → Session → Prop) (s : Session)
    (failure : Option Failure) (engine : Engine) : Prop where
  /-- The run. -/
  run : R failure s engine.session
  /-- The readers in all slots. -/
  slots : engine.session.background.All G
  /-- The reader of the main script. -/
  main : G engine.main

end Engine

namespace FrameRules

open Engine

variable (h : FrameRules I G R)

include h

/-- All parts of a frame go on with a run from a session. -/
theorem tallyRules {s : Session} (hs : I s) :
    Evaluation.TallyRules fun failure engine _ => Ran G R s failure engine where
  timers timers ran := ⟨h.trans ran.run (h.timers timers (h.keeps hs ran.run)), ran.slots, ran.main⟩
  launch := by
    intro engine _ launch ran
    have started := h.startRules.start engine.session launch ⟨h.keeps hs ran.run, ran.slots⟩
    exact ⟨h.trans ran.run started.1, started.2, ran.main⟩
  scene := by
    intro engine _ scene ran pending found
    obtain ⟨hreader, run⟩ := h.scene (h.keeps hs ran.run) pending found
    exact ⟨h.trans ran.run run, .empty, hreader⟩
  missing := by
    intro engine _ scene error ran pending missing
    have run := h.missing (h.keeps hs ran.run) pending missing
    exact ⟨h.trans ran.run run, ran.slots, ran.main⟩
  main := by
    rintro engine _ _ ran rfl
    obtain ⟨hreader, read⟩ := h.startRules.step engine.main ⟨h.keeps hs ran.run, ran.slots⟩ ran.main
    exact ⟨h.trans ran.run read.1, read.2, hreader⟩
  slot := by
    rintro engine _ index reader background _ ran hout rfl
    obtain ⟨hreader, hout'⟩ := ran.slots.checkOut? hout
    have taken : R none s { engine.session with background } := h.slots background ran.run
    obtain ⟨hback, read⟩ := h.startRules.step reader ⟨h.keeps hs taken, hout'⟩ hreader
    exact ⟨h.slots _ (h.trans taken read.1), read.2.checkIn index hback, ran.main⟩
  purge ran := ⟨h.slots _ ran.run, ran.slots.purge, ran.main⟩
  look := by
    intro engine _ ran
    have look := h.trans ran.run (h.look (h.keeps hs ran.run))
    exact ⟨look, engine.session.heldBy_ordinary.keeps.background ▸ ran.slots, ran.main⟩

/-- Taking the signal, with the script that it may start. -/
theorem ensures_receive {engine : Engine} {signal : Option Signal}
    (hs : I (engine.session.receive signal)) (slots : engine.session.background.All G)
    (main : G engine.main) :
    Evaluation.Ensures (fun e count => e = engine ∧ count = {}) (signal.forM Evaluation.receive)
      (fun _ e _ => Ran G R (engine.session.receive signal) none e)
      (fun failure e _ => Ran G R (engine.session.receive signal) (some failure) e) := by
  refine Evaluation.TallyRules.ensures_receive
    (P := fun failure e _ => Ran G R (engine.session.receive signal) failure e) ?_ ?_
  · rintro rfl _ _ ⟨rfl, -⟩
    exact ⟨h.refl hs, slots, main⟩
  · rintro signal' rfl engine _ ⟨rfl, -⟩
    have received := (signal'.effect_keeps engine.session).background ▸ slots
    have run := h.startRules.perform h.startRules.start ⟨hs, received⟩ ⟨h.refl hs, received⟩
    exact ⟨run.1, run.2, main⟩

/-- A frame is a run from the session that has received the signal. If it does not fail, it hands
out the cues there are after that run. -/
theorem tick (engine : Engine) (signal : Option Signal) (hs : I (engine.session.receive signal))
    (slots : engine.session.background.All G) (main : G engine.main) :
    (∀ failure after, engine.tick signal = (.error failure, after) →
      Ran G R (engine.session.receive signal) (some failure) after) ∧
    ∀ cues waiting after, engine.tick signal = (.ok (cues, waiting), after) →
      ∃ last, Ran G R (engine.session.receive signal) none last ∧
        last.takeCues = (cues, after) := by
  obtain ⟨tally, evaluated⟩ := (Evaluation.Agrees.frame signal).total engine {}
  rw [← tick_eq] at evaluated
  obtain ⟨ok, failed⟩ := (h.tallyRules hs).ensures_frame (h.ensures_receive hs slots main) engine {}
    (engine.tick signal).2 tally ⟨rfl, rfl⟩
  refine ⟨fun failure after htick => ?_, fun cues waiting after htick => ?_⟩
  · rw [htick] at evaluated failed
    exact failed failure evaluated
  · rw [htick] at evaluated ok
    exact ok (cues, waiting) evaluated

end FrameRules

end run

end VisualNovel

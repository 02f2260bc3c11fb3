import Mathlib.Data.List.Chain
import VisualNovel.Proofs.DialogMoves

/-!
# The protocol of the dialog

What a host can rely on when it draws the dialog. All that it is told and all that it tells in a run
is a list of `Mark`s. An automaton with four states reads such lists (`Standing.next`); it knows
what may follow what. The dialog of a session stands where the automaton stands after the marks of
the run, so the automaton gets through all of them (`Session.Trace.invariant`), and what holds of
every list that it gets through holds of every run.

A run is taken apart into its moments (`Session.Trace`), so that the statements hold within frames
as well as between them, across scenes, and after frames that fail.
-/

namespace VisualNovel

/-! ## Marks -/

/-- What passes between the engine and its host. -/
inductive Mark where
  /-- The engine takes a signal. -/
  | signal (signal : Signal)
  /-- The engine has a cue for the host. -/
  | cue (cue : Cue)

/-- The marks of a moment: its signal, then its cues. -/
def Mark.ofMoment (signal : Option Signal) (cues : List Cue) : List Mark :=
  signal.toList.map .signal ++ cues.map .cue

/-- Whether a mark shows or hides the dialog. -/
def Mark.toggle? : Mark → Option Bool
  | .cue (.showDialog _) => some true
  | .cue (.hideDialog _) => some false
  | _ => none

/-- Whether a cue begins an animation of the dialog. -/
def Cue.beginsAnimation : Cue → Bool
  | .showDialog animated => animated
  | .hideDialog animated => animated
  | _ => false

/-! ## The automaton -/

/-- How the dialog stands for a host. -/
inductive Standing where
  /-- It is hidden. -/
  | hidden
  /-- It is coming in. -/
  | entering
  /-- It is shown. -/
  | shown
  /-- It is going out. -/
  | leaving
  deriving DecidableEq

namespace Standing

/-- How the dialog stands when its animation is over. -/
def settled : Standing → Standing
  | .entering => .shown
  | .leaving => .hidden
  | standing => standing

/-- How the dialog stands after a mark, or none if the mark may not come now. -/
def next (standing : Standing) : Mark → Option Standing
  | .signal .dialogAnimationFinished => some standing.settled
  | .cue (.defineDialog _) => if standing = .hidden then some .hidden else none
  | .cue (.showDialog animated) =>
    if standing = .hidden then some (if animated then .entering else .shown) else none
  | .cue (.hideDialog animated) =>
    if standing = .shown then some (if animated then .leaving else .hidden) else none
  | _ => some standing

/-- Whether the dialog is in an animation. -/
def isMoving (standing : Standing) : Bool :=
  standing = .entering || standing = .leaving

/-- Whether the dialog was last shown, and not hidden. -/
def wasShown (standing : Standing) : Bool :=
  standing = .entering || standing = .shown

/-! ### One mark -/

/-- A cue that does not concern the dialog changes nothing. -/
theorem next_of_quiet (standing : Standing) {cue : Cue} (quiet : cue.concernsDialog = false) :
    standing.next (.cue cue) = some standing := by
  cases cue <;> first | rfl | cases quiet

/-- A signal but for the end of an animation changes nothing. -/
theorem next_of_signal (standing : Standing) {signal : Signal}
    (other : signal ≠ .dialogAnimationFinished) :
    standing.next (.signal signal) = some standing := by
  cases signal <;> first | rfl | exact absurd rfl other

/-- During an animation there is no cue that concerns the dialog. -/
theorem next_of_moving {standing : Standing} {cue : Cue} (moving : standing.isMoving = true)
    (concerns : cue.concernsDialog = true) : standing.next (.cue cue) = none := by
  have busy : standing ≠ .hidden ∧ standing ≠ .shown := by
    cases standing <;> first | decide | cases moving
  unfold Cue.concernsDialog at concerns
  split at concerns
  · exact if_neg busy.1
  · exact if_neg busy.1
  · exact if_neg busy.2
  · cases concerns

/-- A cue that begins an animation puts the dialog into one. -/
theorem isMoving_of_next {standing standing' : Standing} {cue : Cue}
    (begins : cue.beginsAnimation = true) (h : standing.next (.cue cue) = some standing') :
    standing'.isMoving = true := by
  unfold Cue.beginsAnimation at begins
  split at begins
  · simp only [next, begins, Option.ite_none_right_eq_some, Option.some.injEq] at h
    obtain ⟨-, rfl⟩ := h
    rfl
  · simp only [next, begins, Option.ite_none_right_eq_some, Option.some.injEq] at h
    obtain ⟨-, rfl⟩ := h
    rfl
  · cases begins

/-- The dialog is shown and hidden in turn. -/
theorem wasShown_of_toggle {standing standing' : Standing} {mark : Mark} {toggle : Bool}
    (htoggle : mark.toggle? = some toggle) (h : standing.next mark = some standing') :
    standing.wasShown ≠ toggle ∧ standing'.wasShown = toggle := by
  unfold Mark.toggle? at htoggle
  split at htoggle
  · next animated =>
    cases htoggle
    simp only [next, Option.ite_none_right_eq_some, Option.some.injEq] at h
    obtain ⟨rfl, rfl⟩ := h
    cases animated <;> decide
  · next animated =>
    cases htoggle
    simp only [next, Option.ite_none_right_eq_some, Option.some.injEq] at h
    obtain ⟨rfl, rfl⟩ := h
    cases animated <;> decide
  · cases htoggle

/-- A mark that does not show or hide the dialog does not change which of them was last. -/
theorem wasShown_of_not_toggle {standing standing' : Standing} {mark : Mark}
    (htoggle : mark.toggle? = none) (h : standing.next mark = some standing') :
    standing'.wasShown = standing.wasShown := by
  unfold next at h
  split at h
  · cases h
    cases standing <;> rfl
  · simp only [Option.ite_none_right_eq_some, Option.some.injEq] at h
    obtain ⟨rfl, rfl⟩ := h
    rfl
  · cases htoggle
  · cases htoggle
  · cases h
    rfl

/-- In an animation only the report that it is over changes something. -/
theorem eq_of_next_moving {standing standing' : Standing} {mark : Mark}
    (moving : standing.isMoving = true) (h : standing.next mark = some standing')
    (unfinished : mark ≠ .signal .dialogAnimationFinished) : standing' = standing := by
  cases mark with
  | signal signal =>
    have other : signal ≠ .dialogAnimationFinished :=
      fun same => unfinished (congrArg Mark.signal same)
    rw [next_of_signal standing other] at h
    exact (Option.some.inj h).symm
  | cue cue =>
    rcases hcue : cue.concernsDialog with _ | _
    · rw [next_of_quiet standing hcue] at h
      exact (Option.some.inj h).symm
    · rw [next_of_moving moving hcue] at h
      cases h

/-! ### All marks -/

/-- Cues that do not concern the dialog change nothing. -/
theorem foldlM_next_of_quiet (standing : Standing) {cues : List Cue}
    (quiet : ∀ cue ∈ cues, cue.concernsDialog = false) :
    (cues.map Mark.cue).foldlM next standing = some standing := by
  induction cues with
  | nil => rfl
  | cons cue cues ih =>
    rw [List.map_cons, List.foldlM_cons, next_of_quiet standing (quiet cue (by simp))]
    exact ih fun cue hcue => quiet cue (by simp [hcue])

/-- In whatever the automaton gets through, showing and hiding alternate. -/
theorem alternate_of_foldlM {standing last : Standing} {marks : List Mark}
    (h : marks.foldlM next standing = some last) :
    List.IsChain (· ≠ ·) (standing.wasShown :: marks.filterMap Mark.toggle?) := by
  induction marks generalizing standing with
  | nil => exact List.isChain_singleton _
  | cons mark marks ih =>
    rw [List.foldlM_cons] at h
    obtain ⟨standing', hnext, hrest⟩ := Option.bind_eq_some_iff.1 h
    have rest := ih hrest
    rcases htoggle : mark.toggle? with _ | toggle
    · rw [List.filterMap_cons_none htoggle]
      rwa [wasShown_of_not_toggle htoggle hnext] at rest
    · obtain ⟨turn, hlast⟩ := wasShown_of_toggle htoggle hnext
      rw [List.filterMap_cons_some htoggle, List.isChain_cons_cons]
      exact ⟨turn, hlast ▸ rest⟩

/-- During an animation nothing changes until it is reported over. -/
theorem eq_of_foldlM_moving {standing last : Standing} {marks : List Mark}
    (moving : standing.isMoving = true) (h : marks.foldlM next standing = some last)
    (unfinished : .signal .dialogAnimationFinished ∉ marks) : last = standing := by
  induction marks with
  | nil =>
    cases h
    rfl
  | cons mark marks ih =>
    rw [List.foldlM_cons] at h
    obtain ⟨standing', hnext, hrest⟩ := Option.bind_eq_some_iff.1 h
    rw [List.mem_cons, not_or] at unfinished
    rw [eq_of_next_moving moving hnext (Ne.symm unfinished.1)] at hrest
    exact ih hrest unfinished.2

/-- In whatever the automaton gets through, an animation is reported over before the dialog is
defined, shown or hidden again. -/
theorem finished_of_foldlM {first last : Standing} {front between back : List Mark}
    {begins next' : Cue}
    (h : (front ++ .cue begins :: between ++ .cue next' :: back).foldlM next first = some last)
    (animated : begins.beginsAnimation = true) (concerns : next'.concernsDialog = true) :
    .signal .dialogAnimationFinished ∈ between := by
  by_contra unfinished
  rw [List.foldlM_append, List.foldlM_append] at h
  simp only [Option.bind_eq_bind, Option.bind_eq_some_iff, List.foldlM_cons] at h
  obtain ⟨standing₂, ⟨standing₀, -, standing₁, hbegins, hbetween⟩, standing₃, hnext, -⟩ := h
  have moving : standing₁.isMoving = true := isMoving_of_next animated hbegins
  rw [eq_of_foldlM_moving moving hbetween unfinished, next_of_moving moving concerns] at hnext
  cases hnext

end Standing

/-! ## Sound dialogs -/

namespace Dialog

/-- How a dialog stands. -/
def standing (d : Dialog) : Standing :=
  if d.visible then
    match d.animating with
    | none => .shown
    | some .intro => .entering
    | some .outro => .leaving
  else .hidden

/-- What holds of the dialog at every moment. -/
structure Sound (d : Dialog) : Prop where
  /-- It is in an animation only if it is visible. -/
  visible : d.animating.isSome = true → d.visible = true
  /-- It is visible only if it is defined. -/
  isDefined : d.visible = true → d.style.isSome = true
  /-- It comes in with an animation only if its style has one for that. -/
  intro : d.animating = some .intro → ∀ style, d.style = some style → style.intro ≠ .noAnimation
  /-- It goes out with an animation only if its style has one for that. -/
  outro : d.animating = some .outro → ∀ style, d.style = some style → style.outro ≠ .noAnimation
  /-- Its hooks fit its style. -/
  hooks : ∀ style, d.style = some style → d.hooks.Fit style

/-- A dialog that is alike is as sound. -/
theorem Alike.sound {d d' : Dialog} (h : d.Alike d') (sound : d.Sound) : d'.Sound := by
  refine ⟨?_, ?_, ?_, ?_, ?_⟩
  · rw [h.animating, h.visible]
    exact sound.visible
  · rw [h.visible, h.style]
    exact sound.isDefined
  · rw [h.animating, h.style]
    exact sound.intro
  · rw [h.animating, h.style]
    exact sound.outro
  · rw [h.style, h.hooks]
    exact sound.hooks

/-- Dialogs that are alike stand alike. -/
theorem Alike.standing {d d' : Dialog} (h : d.Alike d') : d'.standing = d.standing := by
  simp only [Dialog.standing, h.visible, h.animating]

/-- A hidden dialog is in no animation. -/
theorem Sound.still {d : Dialog} (h : d.Sound) (hidden : d.visible = false) :
    d.animating = none := by
  rcases hphase : d.animating with _ | phase
  · rfl
  · have visible := h.visible (by simp [hphase])
    rw [hidden] at visible
    cases visible

/-- Every move leaves the dialog sound. -/
theorem Moves.sound {signal : Option Signal} {d d' : Dialog} {cues : List Cue}
    (h : d.Moves signal cues d') (sound : d.Sound) : d'.Sound := by
  cases h with
  | stays _ alike _ => exact alike.sound sound
  | isDefined hidden fit =>
    have still := sound.still hidden
    refine ⟨?_, ?_, ?_, ?_, ?_⟩ <;> simp [still, hidden, fit]
  | @appears _ style style_eq hidden still =>
    refine ⟨?_, ?_, ?_, ?_, ?_⟩
    · simp
    · simp [style_eq]
    · intro hphase style' hstyle
      rw [style_eq] at hstyle
      cases hstyle
      simpa using hphase
    · intro hphase
      simp at hphase
    · exact sound.hooks
  | @disappears _ style style_eq shown still =>
    refine ⟨?_, ?_, ?_, ?_, ?_⟩
    · simp [still]
    · simp [style_eq]
    · intro hphase
      simp [still] at hphase
    · intro hphase style' hstyle
      rw [style_eq] at hstyle
      cases hstyle
      simpa [still] using hphase
    · exact sound.hooks
  | finishes =>
    refine ⟨?_, ?_, ?_, ?_, ?_⟩
    · simp
    · intro visible
      dsimp only at visible
      split at visible
      · cases visible
      · exact sound.isDefined visible
    · simp
    · simp
    · exact sound.hooks

/-- The dialog is defined only while it is hidden, and stays so. -/
theorem Moves.hidden_of_defineDialog {signal : Option Signal} {d d' : Dialog} {cues : List Cue}
    {style : DialogStyle} (h : d.Moves signal cues d') (hdefine : .defineDialog style ∈ cues) :
    d.visible = false ∧ d'.visible = false := by
  cases h with
  | stays _ _ quiet => cases quiet _ hdefine
  | isDefined hidden _ => exact ⟨hidden, hidden⟩
  | appears => simp at hdefine
  | disappears => simp at hdefine
  | finishes => cases hdefine

/-- Every move is one that the automaton allows. -/
theorem Moves.foldlM_next {signal : Option Signal} {d d' : Dialog} {cues : List Cue}
    (h : d.Moves signal cues d') :
    (Mark.ofMoment signal cues).foldlM Standing.next d.standing = some d'.standing := by
  cases h with
  | stays other alike quiet =>
    rw [alike.standing, Mark.ofMoment, List.foldlM_append]
    have first : (signal.toList.map Mark.signal).foldlM Standing.next d.standing =
        some d.standing := by
      cases signal with
      | none => rfl
      | some signal =>
        have other' : signal ≠ .dialogAnimationFinished := by simpa using other
        simp [d.standing.next_of_signal other']
    rw [first]
    exact Standing.foldlM_next_of_quiet _ quiet
  | isDefined hidden fit =>
    simp [Mark.ofMoment, Standing.next, standing, hidden]
  | @appears _ style style_eq hidden still =>
    rcases hanimated : style.intro != .noAnimation with _ | _ <;>
      simp [Mark.ofMoment, Standing.next, standing, hidden]
  | @disappears _ style style_eq shown still =>
    rcases hanimated : style.outro != .noAnimation with _ | _ <;>
      simp [Mark.ofMoment, Standing.next, standing, shown, still]
  | finishes =>
    rcases hvisible : d.visible with _ | _
    · simp [Mark.ofMoment, Standing.next, Standing.settled, standing, hvisible]
    · rcases hphase : d.animating with _ | _ | _ <;>
        simp [Mark.ofMoment, Standing.next, Standing.settled, standing, hvisible, hphase]

end Dialog

/-! ## Runs -/

section run

variable {story : Story} {settings : Settings}

/-- The points of all runs of a story, each with the marks of the run until there. Between the
moments of the engine the host takes the cues, and writes. -/
inductive Session.Trace (story : Story) (settings : Settings) : List Mark → Session → Prop where
  /-- At the beginning. -/
  | create {engine : Engine} (created : Engine.create story settings = .ok engine) :
    Trace story settings [] engine.session
  /-- After a moment. -/
  | moment {marks : List Mark} {signal : Option Signal} {s t : Session} {cues : List Cue}
    (trace : Trace story settings marks s) (moment : Moment signal s t)
    (hcues : t.cues = s.cues ++ cues) :
    Trace story settings (marks ++ Mark.ofMoment signal cues) t
  /-- After the cues are handed out. -/
  | handOut {marks : List Mark} {s : Session} (trace : Trace story settings marks s) :
    Trace story settings marks { s with cues := [] }
  /-- After a write of the host. -/
  | write {marks : List Mark} {engine : Engine} (trace : Trace story settings marks engine.session)
    (write : Engine.Write) : Trace story settings marks (engine.write write).session

/-- The engines that a story can come to, with the marks of the run: the signal of every frame, and
the cues that came in it, whether it failed or not. -/
inductive Engine.Recorded (story : Story) (settings : Settings) : List Mark → Engine → Prop where
  /-- At the beginning. -/
  | create {engine : Engine} (created : Engine.create story settings = .ok engine) :
    Recorded story settings [] engine
  /-- After a frame. -/
  | tick {marks : List Mark} {engine : Engine} (recorded : Recorded story settings marks engine)
    (signal : Option Signal) :
    Recorded story settings (marks ++ Mark.ofMoment signal (engine.observe signal).1.cues)
      (engine.observe signal).2
  /-- After a write of the host. -/
  | write {marks : List Mark} {engine : Engine} (recorded : Recorded story settings marks engine)
    (write : Write) : Recorded story settings marks (engine.write write)

/-- At every point of a run the dialog is sound, and stands where the automaton stands after the
marks until there. -/
theorem Session.Trace.invariant {marks : List Mark} {s : Session}
    (h : Trace story settings marks s) :
    s.dialog.Sound ∧ marks.foldlM Standing.next .hidden = some s.dialog.standing := by
  induction h with
  | create created =>
    obtain ⟨scene, -, rfl⟩ := Engine.create_eq_ok created
    refine ⟨⟨?_, ?_, ?_, ?_, ?_⟩, rfl⟩ <;>
      simp [Engine.opening, Session.enterScene, Session.record, Session.fresh]
  | moment _ moment hcues ih =>
    obtain ⟨sound, accepted⟩ := ih
    obtain ⟨cues', hcues', moves⟩ := moment.dialogMoves
    obtain rfl := List.append_cancel_left (hcues.symm.trans hcues')
    refine ⟨moves.sound sound, ?_⟩
    rw [List.foldlM_append, accepted]
    exact moves.foldlM_next
  | handOut _ ih => exact ih
  | @write _ engine _ write ih =>
    have alike := (engine.write_ordinary write).alike
    exact ⟨alike.sound ih.1, alike.standing ▸ ih.2⟩

/-! ### Frames are made of moments -/

/-- The second session is reached from the first by moments without a signal. -/
def Session.Extends (story : Story) (settings : Settings) (_ : Option Failure) (s t : Session) :
    Prop :=
  ∃ cues, t.cues = s.cues ++ cues ∧ ∀ marks, Trace story settings marks s →
    Trace story settings (marks ++ cues.map .cue) t

/-- A moment without a signal. -/
theorem Session.Moment.extends {s t : Session} (h : Moment none s t) :
    Extends story settings none s t := by
  obtain ⟨cues, hcues, -⟩ := h.dialogMoves
  exact ⟨cues, hcues, fun marks trace => trace.moment h hcues⟩

/-- All that a frame does are moments. -/
theorem Session.extends_frameRules (story : Story) (settings : Settings) :
    FrameRules (fun _ => True) (fun _ => True) (Session.Extends story settings) := by
  have refl (s : Session) : Extends story settings none s s :=
    ⟨[], by simp, fun marks trace => by simpa using trace⟩
  have trans {s t u : Session} {failure : Option Failure} (h : Extends story settings none s t)
      (h' : Extends story settings failure t u) : Extends story settings failure s u := by
    obtain ⟨first, hfirst, extend⟩ := h
    obtain ⟨second, hsecond, extend'⟩ := h'
    refine ⟨first ++ second, by rw [hsecond, hfirst, List.append_assoc], fun marks trace => ?_⟩
    rw [List.map_append, ← List.append_assoc]
    exact extend' _ (extend marks trace)
  -- Whatever a frame consists of is one moment.
  exact {
    refl := fun _ => refl _
    trans := trans
    keeps := fun _ _ => trivial
    line := fun _ _ => ⟨(Moment.line _ _ _ _).extends, trivial⟩
    fails := fun _ _ _ run => run
    finish := fun _ => trivial
    look := fun _ => (Moment.look _).extends
    halt := fun _ => (Moment.halt _).extends
    rest := fun _ => (Moment.rest _).extends
    load := fun _ _ _ => trivial
    unloaded := fun _ _ _ => refl _
    slots := fun background run => trans run (Moment.slots _ background).extends
    starts := fun _ _ => ⟨trivial, (Moment.started _ _).extends⟩
    timers := fun timers _ => (Moment.timers _ timers).extends
    scene := fun _ _ _ => ⟨trivial, (Moment.scene _ _).extends⟩
    missing := fun _ _ _ => (Moment.missing _).extends }

/-- A session that has received a signal is a point of the run. -/
theorem Session.Trace.receive {marks : List Mark} {s : Session} (h : Trace story settings marks s)
    (signal : Option Signal) :
    ∃ cues, (s.receive signal).cues = s.cues ++ cues ∧
      Trace story settings (marks ++ Mark.ofMoment signal cues) (s.receive signal) := by
  cases signal with
  | none =>
    have same : s.receive none = s := rfl
    exact ⟨[], by simp [same], by simpa [Mark.ofMoment, same] using h⟩
  | some signal =>
    obtain ⟨cues, hcues, -⟩ := s.effect_dialogMoves signal
    exact ⟨cues, hcues, h.moment (.signal s signal) hcues⟩

/-- A frame that is recorded is made of moments. -/
theorem Engine.Recorded.trace {marks : List Mark} {engine : Engine}
    (h : Recorded story settings marks engine) :
    Session.Trace story settings marks engine.session := by
  induction h with
  | create created => exact .create created
  | @tick marks engine _ signal trace =>
    obtain ⟨cues, hcues, received⟩ := trace.receive signal
    obtain ⟨failed, ok⟩ := (Session.extends_frameRules story settings).tick engine signal trivial
      (fun _ _ _ _ => trivial) trivial
    -- The cues of the frame are those of the signal and those of the moments after it.
    have observed {last : Session}
        (run : Session.Extends story settings none (engine.session.receive signal) last) :
        Session.Trace story settings
          (marks ++ Mark.ofMoment signal (last.cues.drop engine.session.cues.length)) last := by
      obtain ⟨cues', hcues', extend⟩ := run
      have all : last.cues.drop engine.session.cues.length = cues ++ cues' := by
        rw [hcues', hcues, List.append_assoc, List.drop_left]
      rw [all, Mark.ofMoment, List.map_append, ← List.append_assoc, ← List.append_assoc,
        List.append_assoc marks]
      exact extend _ received
    unfold observe
    rcases htick : engine.tick signal with ⟨failure | ⟨cues, waiting⟩, after⟩
    · exact observed (failed _ _ htick).run
    · obtain ⟨last, ran, taken⟩ := ok _ _ _ htick
      cases taken
      exact (observed ran.run).handOut
  | write _ write trace => exact trace.write write

end run

/-! ## The protocol -/

/-- The protocol of the dialog. Every run of a story is made of moments, and at every point of it:
* the dialog is in an animation only if it is visible, is visible only if it is defined, has only
  animations that its style has, and no hook for the beginning of one that its style has not;
* it has been shown and hidden in turn, and shown first;
* after it was shown or hidden with an animation, it was not defined, shown or hidden again before a
  signal that the animation is over;
* it is not defined at a moment at which it is visible. -/
theorem dialog_keeps_to_protocol (story : Story) (settings : Settings) :
    (∀ marks engine, Engine.Recorded story settings marks engine →
      Session.Trace story settings marks engine.session) ∧
    ∀ marks s, Session.Trace story settings marks s →
      s.dialog.Sound ∧
      List.IsChain (· ≠ ·) (false :: marks.filterMap Mark.toggle?) ∧
      (∀ front between back begins next,
        marks = front ++ .cue begins :: between ++ .cue next :: back →
        begins.beginsAnimation = true → next.concernsDialog = true →
        .signal .dialogAnimationFinished ∈ between) ∧
      ∀ signal t cues style, Session.Moment signal s t → t.cues = s.cues ++ cues →
        .defineDialog style ∈ cues → s.dialog.visible = false ∧ t.dialog.visible = false := by
  refine ⟨fun _ _ recorded => recorded.trace, fun marks s trace => ?_⟩
  obtain ⟨sound, accepted⟩ := trace.invariant
  refine ⟨sound, Standing.alternate_of_foldlM accepted, ?_, ?_⟩
  · rintro front between back begins next rfl animated concerns
    exact Standing.finished_of_foldlM accepted animated concerns
  · intro signal t cues style moment hcues hdefine
    obtain ⟨cues', hcues', moves⟩ := moment.dialogMoves
    obtain rfl := List.append_cancel_left (hcues.symm.trans hcues')
    exact moves.hidden_of_defineDialog hdefine

/-- A story whose dialog, once it has come in, is closed and shown again by a script of its own. -/
def greeting : Story where
  startup := some ⟨"dawn", "street"⟩
  chapters := .ofEntries [("dawn", { scenes := .ofEntries [("street",
    "<text_dialog_define:9,4,5,fade in,no animation,center,,1,1,9,no,,again,,,,,,9,2>\n" ++
      "<text_dialog_show>")] })]
  reusables := .ofEntries [("again", "<text_dialog_close>\n<text_dialog_show>")]

/-- The signal that the dialog has come in is followed by two cues of the dialog: it goes at once,
and comes in again. -/
theorem greeting_keeps_to_protocol :
    ∃ marks engine, Engine.Recorded greeting {} marks engine ∧
      marks.filterMap Mark.toggle? = [true, false, true] ∧
      engine.session.dialog.standing = .entering ∧
      engine.session.dialog.Sound ∧
      List.IsChain (· ≠ ·) (false :: marks.filterMap Mark.toggle?) := by
  let new : Engine := .opening greeting {} ⟨"dawn", "street"⟩
  have created : Engine.Recorded greeting {} [] new := .create (by decide +kernel)
  have recorded := (created.tick none).tick (some .dialogAnimationFinished)
  obtain ⟨points, protocol⟩ := dialog_keeps_to_protocol greeting {}
  obtain ⟨sound, alternate, -⟩ := protocol _ _ (points _ _ recorded)
  exact ⟨_, _, recorded, and_assoc.1 ⟨by decide +kernel, sound, alternate⟩⟩

end VisualNovel

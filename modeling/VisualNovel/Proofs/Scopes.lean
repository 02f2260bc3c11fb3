import Mathlib.Data.List.Basic
import VisualNovel.Engine

/-!
# What an operation reads and writes

A tag, a signal and a frame of a pause change the session in many ways, but each of them looks at
little and writes little. None looks at the history, the clock, the cues that wait, the running
scripts or the hold of the host: what is left without them is the bare session (`Session.bare`).
What an operation may write is its `Scope`. One equation says both, and this module proves one for
each operation: what it does to a session is what it does to the bare one, written over the session
within the scope (`Session.amend`).

All that other modules say about what tags and signals leave alone, and about what they do not look
at, comes from these equations. They are gathered in `Session.execute_amend` for tags, whose scopes
are the table `Instruction.scope`, and in `Signal.effect_amend` for signals, with `Signal.scope`. A
look at what holds the main script does see the hold of the host, so it has an equation of its own
(`Session.heldBy_eq`).
-/

namespace VisualNovel

/-! ## Computations that may fail -/

/-- A changed computation fails as it did. -/
theorem map_eq_error {ε α β : Type} {x : Except ε α} {f : α → β} {e : ε} :
    x.map f = .error e ↔ x = .error e := by
  cases x <;> simp [Except.map]

/-- A changed result comes from a result. -/
theorem map_eq_ok {ε α β : Type} {x : Except ε α} {f : α → β} {b : β} :
    x.map f = .ok b ↔ ∃ a, x = .ok a ∧ f a = b := by
  cases x <;> simp [Except.map]

/-- What a computation in the place of a tick gives, it gives by itself. -/
theorem liftSafe_eq_ok {α : Type} {x : Safe α} {a : α} : liftSafe x = .ok a ↔ x = .ok a := by
  cases x <;> simp [liftSafe]

/-- A computation in the place of a tick fails by a crash. -/
theorem liftSafe_eq_error {α : Type} {x : Safe α} {failure : Failure} :
    liftSafe x = .error failure ↔ ∃ crash, x = .error crash ∧ failure = .crash crash := by
  cases x <;> simp [liftSafe, eq_comm]

/-- A check of the story in the place of a tick fails by a mistake of the author. -/
theorem liftStory_eq_error {α : Type} {x : Except StoryError α} {failure : Failure} :
    liftStory x = .error failure ↔ ∃ error, x = .error error ∧ failure = .story error := by
  cases x <;> simp [liftStory, eq_comm]

/-- What a check of the story in the place of a tick gives, it gives by itself. -/
theorem liftStory_eq_ok {α : Type} {x : Except StoryError α} {a : α} :
    liftStory x = .ok a ↔ x = .ok a := by
  cases x <;> simp [liftStory]

/-! ## Scopes -/

/-- What something can write to a session. The fonts, and whether the text is kept once, are in
every scope; the story, the settings and the clock are in none. -/
structure Scope where
  /-- How the dialog looks, what it starts, and whether it is shown or moves. -/
  dialog : Bool := false
  /-- Whether text is appearing. -/
  text : Bool := false
  /-- The halt. -/
  halt : Bool := false
  /-- The rest. -/
  rest : Bool := false
  /-- The hold of the host. -/
  manual : Bool := false
  /-- The timers. -/
  timers : Bool := false
  /-- The stage. -/
  stage : Bool := false
  /-- The animations that are waited for. -/
  waits : Bool := false
  /-- The variables. -/
  store : Bool := false
  /-- The scene to go to in this frame. -/
  pendingScene : Bool := false
  /-- The scene to go to when the screen is covered. -/
  coveredScene : Bool := false
  /-- The running scripts. -/
  background : Bool := false
  /-- The history. -/
  history : Bool := false
  /-- Cues about the dialog. -/
  tells : Bool := false
  deriving DecidableEq

/-- Whether a cue neither speaks nor tells of the dialog. -/
def Cue.isOrdinary : Cue → Bool
  | .dialogText _ => false
  | .defineDialog _ => false
  | .showDialog _ => false
  | .hideDialog _ => false
  | _ => true

namespace Scope

/-- Whether an operation of this scope may give a cue. None of them speaks. -/
def allows (scope : Scope) (cue : Cue) : Bool :=
  if scope.tells then cue.text?.isNone else cue.isOrdinary

/-- What a scope allows is not spoken. -/
theorem text?_of_allows {scope : Scope} {cue : Cue} (h : scope.allows cue = true) :
    cue.text? = none := by
  unfold allows at h
  split at h
  · exact Option.isNone_iff_eq_none.1 h
  · cases cue with
    | dialogText words => cases h
    | _ => rfl

/-- Whether a scope is that of something ordinary: the halt, the scenes to go to and how the dialog
stands are outside, and no cue tells of the dialog. -/
def isOrdinary (scope : Scope) : Bool :=
  !scope.dialog && !scope.halt && !scope.pendingScene && !scope.coveredScene && !scope.tells

/-- Whether a scope has anything that holds the main script for frames or until a click, or that a
halt waits for. -/
def pause (scope : Scope) : Bool :=
  scope.halt || scope.rest || scope.manual || scope.text

end Scope

/-- The two dialogs are alike in style, hooks, visibility and animation. -/
structure Dialog.Alike (d d' : Dialog) : Prop where
  /-- The style stays. -/
  style : d'.style = d.style
  /-- The hooks stay. -/
  hooks : d'.hooks = d.hooks
  /-- It stays visible, or hidden. -/
  visible : d'.visible = d.visible
  /-- The animation goes on. -/
  animating : d'.animating = d.animating

/-- Every dialog is like itself. -/
@[simp] theorem Dialog.Alike.refl (d : Dialog) : d.Alike d := ⟨rfl, rfl, rfl, rfl⟩

/-- The second session differs from the first only within the scope, the cues apart. -/
structure Scope.Holds (scope : Scope) (s t : Session) : Prop where
  /-- The story is never written. -/
  story : t.story = s.story
  /-- The settings are never written. -/
  settings : t.settings = s.settings
  /-- The clock is never written. -/
  clock : t.clock = s.clock
  /-- How the dialog stands. -/
  dialog : scope.dialog = false → s.dialog.Alike t.dialog
  /-- The appearing text. -/
  text : scope.text = false → t.dialog.textAnimating = s.dialog.textAnimating
  /-- The halt. -/
  halt : scope.halt = false → t.pause.halt = s.pause.halt
  /-- The rest. -/
  rest : scope.rest = false → t.pause.rest = s.pause.rest
  /-- The hold of the host. -/
  manual : scope.manual = false → t.pause.manual = s.pause.manual
  /-- The timers. -/
  timers : scope.timers = false → t.timers = s.timers
  /-- The stage. -/
  stage : scope.stage = false → t.stage = s.stage
  /-- The animations that are waited for. -/
  waits : scope.waits = false → t.waits = s.waits
  /-- The variables. -/
  store : scope.store = false → t.store = s.store
  /-- The scene to go to in this frame. -/
  pendingScene : scope.pendingScene = false → t.pendingScene = s.pendingScene
  /-- The scene to go to when the screen is covered. -/
  coveredScene : scope.coveredScene = false → t.coveredScene = s.coveredScene
  /-- The running scripts. -/
  background : scope.background = false → t.background = s.background
  /-- The history. -/
  history : scope.history = false → t.history = s.history

/-- Nothing that holds the main script changes outside of a scope that has nothing of the kind. -/
theorem Scope.Holds.pause {scope : Scope} {s t : Session} (h : scope.Holds s t)
    (untouched : scope.pause = false) :
    t.pause = s.pause ∧ t.dialog.textAnimating = s.dialog.textAnimating := by
  simp only [Scope.pause, Bool.or_eq_false_iff] at untouched
  obtain ⟨⟨⟨halt, rest⟩, manual⟩, text⟩ := untouched
  refine ⟨?_, h.text text⟩
  calc t.pause = ⟨t.pause.halt, t.pause.rest, t.pause.manual⟩ := rfl
    _ = ⟨s.pause.halt, s.pause.rest, s.pause.manual⟩ := by
      rw [h.halt halt, h.rest rest, h.manual manual]

/-! ## Bare sessions and amendments -/

namespace Session

variable (s : Session)

/-- What an operation can look at: the session without history, time and cues, without running
scripts, and not held by the host. -/
def bare : Session :=
  { s with
    background := {}
    history := { limit := 0 }
    clock := 0
    cues := []
    pause := { s.pause with manual := false } }

/-- The session with what another one says, within a scope. The cues of the other one come behind,
as far as the scope allows them. -/
def amend (scope : Scope) (t : Session) : Session :=
  { s with
    dialog := {
      style := if scope.dialog then t.dialog.style else s.dialog.style
      hooks := if scope.dialog then t.dialog.hooks else s.dialog.hooks
      visible := if scope.dialog then t.dialog.visible else s.dialog.visible
      animating := if scope.dialog then t.dialog.animating else s.dialog.animating
      textAnimating := if scope.text then t.dialog.textAnimating else s.dialog.textAnimating
      keepText := t.dialog.keepText
      loadedFonts := t.dialog.loadedFonts }
    pause := {
      halt := if scope.halt then t.pause.halt else s.pause.halt
      rest := if scope.rest then t.pause.rest else s.pause.rest
      manual := if scope.manual then t.pause.manual else s.pause.manual }
    timers := if scope.timers then t.timers else s.timers
    stage := if scope.stage then t.stage else s.stage
    waits := if scope.waits then t.waits else s.waits
    store := if scope.store then t.store else s.store
    pendingScene := if scope.pendingScene then t.pendingScene else s.pendingScene
    coveredScene := if scope.coveredScene then t.coveredScene else s.coveredScene
    cues := s.cues ++ t.cues.filter scope.allows }

/-- An amendment is within its scope. -/
theorem amend_holds (scope : Scope) (t : Session) : scope.Holds s (s.amend scope t) := by
  constructor
  case dialog =>
    intro untouched
    constructor <;> simp [amend, untouched]
  all_goals simp +contextual [amend]

/-- An operation that does nothing. -/
theorem amend_bare {scope : Scope} (free : scope.manual = false) : s.amend scope s.bare = s := by
  simp [amend, bare, free]

/-- A change within the scope that gives no cue. -/
theorem eq_amend_of_silent {s t u : Session} {scope : Scope} (silent : u.cues = [])
    (same : t = { s.amend scope u with cues := s.cues }) : t = s.amend scope u := by
  rw [same]
  simp [amend, silent]

/-- The cues of an amendment come behind those that wait, and the scope allows them. -/
theorem amend_cues (scope : Scope) (t : Session) :
    ∃ new, (s.amend scope t).cues = s.cues ++ new ∧ ∀ cue ∈ new, scope.allows cue = true :=
  ⟨_, rfl, fun _ mem => (List.mem_filter.1 mem).2⟩

end Session

/-- An effect with another session. -/
def Effect.map (f : Session → Session) (effect : Effect) : Effect :=
  { effect with session := f effect.session }

/-- An outcome with another session. -/
def Outcome.map (f : Session → Session) (outcome : Outcome) : Outcome :=
  { outcome with effect := outcome.effect.map f }

/-- A plan with another session. -/
def Plan.map (f : Session → Session) (plan : Plan) : Plan :=
  { plan with effect := plan.effect.map f }

/-- What a line has done, in another session. -/
def Progress.map (f : Session → Session) (progress : Progress) : Progress :=
  { progress with session := f progress.session }

/-- What a reader has done, in another session. -/
def Reading.map (f : Session → Session) (reading : Reading) : Reading :=
  { reading with session := f reading.session }

namespace Session

variable (s : Session)

/-- The bare session has the story. -/
@[simp] theorem bare_story : s.bare.story = s.story := rfl

/-- It has the dialog. -/
@[simp] theorem bare_dialog : s.bare.dialog = s.dialog := rfl

/-- It has the halt. -/
@[simp] theorem bare_halt : s.bare.pause.halt = s.pause.halt := rfl

/-- An effect is amended in its session, and starts the same script. -/
theorem mk_amend {s t u : Session} {scope : Scope} {launch : Option Launch}
    (h : t = s.amend scope u) :
    Effect.mk t launch = (Effect.mk u launch).map (s.amend scope) :=
  congrArg (Effect.mk · launch) h

/-! ## Sound -/

/-- A cue that the scope allows. -/
theorem emit_amend {scope : Scope} {cue : Cue} (free : scope.manual = false)
    (allowed : scope.allows cue = true) : s.emit cue = s.amend scope (s.bare.emit cue) := by
  simp [emit, amend, bare, free, allowed]

/-- A sound is played without a look at the session. -/
theorem play_amend (channel : Channel) (arguments : Option String) :
    s.play channel arguments = s.amend {} (s.bare.play channel arguments) := by
  unfold play
  split
  · rfl
  · exact (s.amend_bare rfl).symm

/-- A volume is set without a look at the session. -/
theorem setVolume_amend (channel : Channel) (arguments : Option String) :
    s.setVolume channel arguments = s.amend {} (s.bare.setVolume channel arguments) := by
  unfold setVolume
  split
  · split
    · rfl
    · exact (s.amend_bare rfl).symm
  · exact (s.amend_bare rfl).symm

/-- The sound of letters takes a look at the dialog. -/
theorem setTextSound_amend (tag : String) (arguments : Option String) :
    s.setTextSound tag arguments = (s.bare.setTextSound tag arguments).map (s.amend {}) := by
  unfold setTextSound
  rw [bare_dialog]
  split
  · split
    · rfl
    · exact congrArg Except.ok (s.amend_bare rfl).symm
  · rfl

/-! ## The dialog and its text -/

/-- Defining the dialog writes how it stands. -/
theorem defineDialog_amend (arguments : Option String) :
    s.defineDialog arguments =
      s.amend { dialog := true, tells := true } (s.bare.defineDialog arguments) := by
  unfold defineDialog
  rw [bare_dialog]
  split
  · exact (s.amend_bare rfl).symm
  · split
    · exact (s.amend_bare rfl).symm
    · rfl

/-- A line is continued without a look at the session. -/
theorem continueText_amend (arguments : Option String) :
    s.continueText arguments = s.amend {} (s.bare.continueText arguments) := by
  unfold continueText
  split
  · rfl
  · split
    · rfl
    · exact (s.amend_bare rfl).symm

/-- A font is loaded by the fonts of the story and those that are loaded. -/
theorem loadFont_amend (arguments : Option String) :
    s.loadFont arguments = s.amend {} (s.bare.loadFont arguments) := by
  unfold loadFont
  rw [bare_dialog, bare_story]
  split
  · exact (s.amend_bare rfl).symm
  · split
    · exact (s.amend_bare rfl).symm
    · rfl

/-- A font is put to use by those that are loaded. -/
theorem setFont_amend (arguments : Option String) :
    s.setFont arguments = s.amend {} (s.bare.setFont arguments) := by
  unfold setFont
  rw [bare_dialog]
  split
  · exact (s.amend_bare rfl).symm
  · split
    · rfl
    · exact (s.amend_bare rfl).symm

/-- A number is told without a look at the session. -/
theorem emitNumber_amend (arguments : Option String) {cue : Int → Cue}
    (ordinary : ∀ n, (cue n).isOrdinary = true) :
    s.emitNumber arguments cue = s.amend {} (s.bare.emitNumber arguments cue) := by
  unfold emitNumber
  split
  · exact s.emit_amend rfl (ordinary _)
  · exact (s.amend_bare rfl).symm

/-- The pause behind a punctuation mark is set without a look at the session. -/
theorem setPunctuationDelay_amend (arguments : Option String) :
    s.setPunctuationDelay arguments = s.amend {} (s.bare.setPunctuationDelay arguments) := by
  unfold setPunctuationDelay
  split
  · split
    · exact (s.amend_bare rfl).symm
    · rfl
  · exact (s.amend_bare rfl).symm

/-- It is said how text appears without a look at the session. -/
theorem setTextIntro_amend (arguments : Option String) :
    s.setTextIntro arguments = s.amend {} (s.bare.setTextIntro arguments) := by
  unfold setTextIntro
  split
  · rfl
  · exact (s.amend_bare rfl).symm

/-- Showing the dialog writes how it stands. -/
theorem showDialog_amend :
    s.showDialog = s.bare.showDialog.map (s.amend { dialog := true, tells := true }) := by
  unfold showDialog
  rw [bare_dialog]
  split
  · exact mk_amend (s.amend_bare rfl).symm
  · split
    · exact mk_amend (s.amend_bare rfl).symm
    · dsimp only
      split <;> rfl

/-- Hiding the dialog writes how it stands, and its sprites. -/
theorem closeDialog_amend :
    s.closeDialog =
      s.bare.closeDialog.map (s.amend { dialog := true, stage := true, tells := true }) := by
  unfold closeDialog
  rw [bare_dialog]
  split
  · exact mk_amend (s.amend_bare rfl).symm
  · split
    · exact mk_amend (s.amend_bare rfl).symm
    · dsimp only
      split <;> rfl

/-- The end of an animation of the dialog writes how it stands, and its sprites. -/
theorem dialogAnimationFinished_amend :
    s.dialogAnimationFinished =
      s.bare.dialogAnimationFinished.map (s.amend { dialog := true, stage := true }) := by
  unfold dialogAnimationFinished
  rw [bare_dialog]
  dsimp only
  split <;> exact mk_amend (eq_amend_of_silent rfl rfl)

/-! ## Pauses -/

/-- A halt is by the dialog and the halt that there is. -/
theorem halt_amend (budget : Option Nat) :
    s.halt budget = (s.bare.halt budget).map (s.amend { halt := true }) := by
  unfold halt
  rw [bare_dialog, bare_halt]
  split
  · split
    · exact mk_amend (s.amend_bare rfl).symm
    · dsimp only
      split
      · rfl
      · exact mk_amend (eq_amend_of_silent rfl rfl)
  · exact mk_amend (s.amend_bare rfl).symm

/-- So is a halt with a budget. -/
theorem haltAuto_amend (arguments : Option String) :
    s.haltAuto arguments = (s.bare.haltAuto arguments).map (s.amend { halt := true }) := by
  unfold haltAuto
  split
  · exact s.halt_amend _
  · exact mk_amend (s.amend_bare rfl).symm

/-- The end of a halt is by the dialog alone. -/
theorem unhalt_amend : s.unhalt = s.bare.unhalt.map (s.amend { text := true, halt := true }) := by
  unfold unhalt
  rw [bare_dialog]
  dsimp only
  split
  · exact mk_amend (eq_amend_of_silent rfl rfl)
  · rfl

/-- A click is by the appearing text and the halt. -/
theorem click_amend : s.click = s.bare.click.map (s.amend { text := true, halt := true }) := by
  unfold click
  rw [bare_dialog, bare_halt]
  split
  · rfl
  · split
    · exact s.unhalt_amend
    · exact mk_amend (s.amend_bare rfl).symm

/-- A frame of a halt is by the halt and the dialog. -/
theorem advanceHalt_amend :
    s.advanceHalt = s.bare.advanceHalt.map (s.amend { text := true, halt := true }) := by
  unfold advanceHalt
  rw [bare_dialog, bare_halt]
  dsimp only
  split
  · exact mk_amend (eq_amend_of_silent rfl rfl)
  · exact unhalt_amend { s with pause := _ }

/-- A rest is lengthened by what it was. -/
theorem rest_amend (arguments : Option String) :
    s.rest arguments = (s.bare.rest arguments).map (s.amend { rest := true }) := by
  unfold rest
  split
  · exact congrArg Except.ok (s.amend_bare rfl).symm
  · next frames _ =>
    rw [show s.bare.pause.rest = s.pause.rest from rfl]
    cases s.pause.rest.extend frames with
    | error crash => rfl
    | ok rest => exact congrArg Except.ok (eq_amend_of_silent rfl rfl)

/-- A frame of a rest. -/
theorem advanceRest_amend : s.advanceRest = s.amend { rest := true } s.bare.advanceRest :=
  eq_amend_of_silent rfl rfl

/-- A wait is put behind those that there are. -/
theorem waitForAnimation_amend (arguments : Option String) :
    s.waitForAnimation arguments =
      s.amend { waits := true } (s.bare.waitForAnimation arguments) := by
  unfold waitForAnimation
  split
  · exact eq_amend_of_silent rfl rfl
  · split
    · split
      · exact eq_amend_of_silent rfl rfl
      · exact (s.amend_bare rfl).symm
    · exact (s.amend_bare rfl).symm

/-! ## Timers, scenes and variables -/

/-- A timer is set by the scripts of the story and the timers that there are. -/
theorem startTimer_amend (arguments : Option String) :
    s.startTimer arguments = s.amend { timers := true } (s.bare.startTimer arguments) := by
  unfold startTimer
  rw [bare_story]
  split
  · exact (s.amend_bare rfl).symm
  · split
    · exact eq_amend_of_silent rfl rfl
    · exact (s.amend_bare rfl).symm

/-- A timer is cancelled by the timers that there are. -/
theorem cancelTimer_amend (arguments : Option String) :
    s.cancelTimer arguments = s.amend { timers := true } (s.bare.cancelTimer arguments) := by
  unfold cancelTimer
  split
  · exact eq_amend_of_silent rfl rfl
  · exact (s.amend_bare rfl).symm

/-- Going to a scene is by the scenes of the story. -/
theorem goToScene_amend (arguments : Option String) :
    s.goToScene arguments =
      (s.bare.goToScene arguments).map (·.map (s.amend { pendingScene := true })) := by
  unfold goToScene
  rw [bare_story]
  split
  · exact congrArg (Except.ok <| Outcome.ofSession ·) (s.amend_bare rfl).symm
  · next chapter scene _ =>
    cases s.story.checkScene ⟨chapter, scene⟩ with
    | error error => rfl
    | ok _ =>
      exact congrArg (Except.ok <| Outcome.mk ⟨·, none⟩ .finish) (eq_amend_of_silent rfl rfl)

/-- So is going to a scene under a cover, which is put on the stage. -/
theorem goToCoveredScene_amend (arguments : Option String) :
    s.goToCoveredScene arguments =
      (s.bare.goToCoveredScene arguments).map
        (·.map (s.amend { stage := true, coveredScene := true })) := by
  unfold goToCoveredScene
  rw [bare_story]
  split
  · exact congrArg (Except.ok <| Outcome.ofSession ·) (s.amend_bare rfl).symm
  · next chapter scene _ => cases s.story.checkScene ⟨chapter, scene⟩ <;> rfl

/-- A script is left without a look at the session. -/
theorem exit_amend (isMain : Bool) : s.exit isMain = (s.bare.exit isMain).map (s.amend {}) := by
  cases isMain with
  | false => exact congrArg (Outcome.mk ⟨·, none⟩ .finish) (s.amend_bare rfl).symm
  | true => rfl

/-- A variable is set among those that there are. -/
theorem setVariable_amend (arguments : Option String) :
    s.setVariable arguments = s.amend { store := true } (s.bare.setVariable arguments) := by
  unfold setVariable
  split
  · exact eq_amend_of_silent rfl rfl
  · exact (s.amend_bare rfl).symm

/-! ## What a host reports -/

/-- The end of an animation of a sprite is by the stage. -/
theorem spriteAnimationStopped_amend (group : Group) (name : String) (animation : Animation) :
    s.spriteAnimationStopped group name animation =
      (s.bare.spriteAnimationStopped group name animation).map (s.amend { stage := true }) := by
  unfold spriteAnimationStopped
  rw [show s.bare.stage = s.stage from rfl]
  dsimp only
  split
  · exact mk_amend (s.amend_bare rfl).symm
  · exact mk_amend (eq_amend_of_silent rfl rfl)

/-- A covered screen is by the scene that waits for it. -/
theorem screenCovered_amend :
    s.screenCovered =
      s.amend { pendingScene := true, coveredScene := true } s.bare.screenCovered := by
  unfold screenCovered
  rw [show s.bare.coveredScene = s.coveredScene from rfl]
  split
  · exact (s.amend_bare rfl).symm
  · exact eq_amend_of_silent rfl rfl

end Session

/-! ## All tags -/

/-- What a tag can write. -/
def Instruction.scope : Instruction → Scope
  | .load _ => { stage := true }
  | .sprite .. => { stage := true }
  | .showBackground => { stage := true }
  | .hideBackground => { stage := true }
  | .defineDialog => { dialog := true, tells := true }
  | .showDialog => { dialog := true, tells := true }
  | .closeDialog => { dialog := true, stage := true, tells := true }
  | .halt => { halt := true }
  | .haltAuto => { halt := true }
  | .rest => { rest := true }
  | .waitForAnimation => { waits := true }
  | .after => { timers := true }
  | .cancelAfter => { timers := true }
  | .cancelAllAfter => { timers := true }
  | .scene => { pendingScene := true }
  | .sceneWithFade => { stage := true, coveredScene := true }
  | .setVariable => { store := true }
  | _ => {}

namespace Session

variable (s : Session)

/-- A tag that only changes the session. -/
theorem ofSession_amend {s t u : Session} {scope : Scope} (h : t = s.amend scope u) :
    (Except.ok (.ofSession t) : Except Failure Outcome) =
      (Except.ok (.ofSession u) : Except Failure Outcome).map (·.map (s.amend scope)) := by
  rw [h]
  rfl

/-- A tag that may start a script. -/
theorem ofEffect_amend {s : Session} {effect bare : Effect} {scope : Scope}
    (h : effect = bare.map (s.amend scope)) :
    (Except.ok (.ofEffect effect) : Except Failure Outcome) =
      (Except.ok (.ofEffect bare) : Except Failure Outcome).map (·.map (s.amend scope)) := by
  rw [h]
  rfl

/-- A tag that changes the stage, and may crash. -/
theorem withStage_amend (stage : Safe Stage) :
    liftSafe (stage.map s.withStage) =
      (liftSafe (stage.map s.bare.withStage)).map (·.map (s.amend { stage := true })) := by
  cases stage with
  | error crash => rfl
  | ok stage => exact ofSession_amend (eq_amend_of_silent rfl rfl)

/-- What a tag does is what it does to the bare session, written over the session within its
scope. -/
theorem execute_amend (isMain : Bool) (instruction : Instruction) (tag : Tag) :
    s.execute isMain instruction tag =
      (s.bare.execute isMain instruction tag).map (·.map (s.amend instruction.scope)) := by
  unfold execute
  -- One case for each tag: whatever it does is its bare operation, amended within its scope.
  cases instruction with
  | load group => exact ofSession_amend (eq_amend_of_silent rfl rfl)
  | sprite group action => exact s.withStage_amend _
  | showBackground => exact s.withStage_amend _
  | hideBackground => exact s.withStage_amend _
  | play channel => exact ofSession_amend (s.play_amend _ _)
  | stop channel => rfl
  | volume channel => exact ofSession_amend (s.setVolume_amend _ _)
  | textSound =>
    dsimp only
    rw [setTextSound_amend]
    cases s.bare.setTextSound tag.name tag.arguments <;> rfl
  | clearTextSound => rfl
  | defineDialog => exact ofSession_amend (s.defineDialog_amend _)
  | showDialog => exact ofEffect_amend s.showDialog_amend
  | closeDialog => exact ofEffect_amend s.closeDialog_amend
  | continueText => exact ofSession_amend (s.continueText_amend _)
  | keepText => exact ofSession_amend (eq_amend_of_silent rfl rfl)
  | loadFont => exact ofSession_amend (s.loadFont_amend _)
  | setFont => exact ofSession_amend (s.setFont_amend _)
  | fontX => exact ofSession_amend (s.emitNumber_amend _ fun _ => rfl)
  | fontY => exact ofSession_amend (s.emitNumber_amend _ fun _ => rfl)
  | textFadeSpeed => exact ofSession_amend (s.emitNumber_amend _ fun _ => rfl)
  | textDelay => exact ofSession_amend (s.emitNumber_amend _ fun _ => rfl)
  | punctuationDelay => exact ofSession_amend (s.setPunctuationDelay_amend _)
  | textIntro => exact ofSession_amend (s.setTextIntro_amend _)
  | halt => exact ofEffect_amend (s.halt_amend _)
  | haltAuto => exact ofEffect_amend (s.haltAuto_amend _)
  | rest =>
    dsimp only
    rw [rest_amend]
    cases s.bare.rest tag.arguments <;> rfl
  | waitForAnimation => exact ofSession_amend (s.waitForAnimation_amend _)
  | call => exact congrArg (Except.ok <| Outcome.ofEffect ⟨·, _⟩) (s.amend_bare rfl).symm
  | after => exact ofSession_amend (s.startTimer_amend _)
  | cancelAfter => exact ofSession_amend (s.cancelTimer_amend _)
  | cancelAllAfter => exact ofSession_amend (eq_amend_of_silent rfl rfl)
  | scene =>
    dsimp only
    rw [goToScene_amend]
    cases s.bare.goToScene tag.arguments <;> rfl
  | sceneWithFade =>
    dsimp only
    rw [goToCoveredScene_amend]
    cases s.bare.goToCoveredScene tag.arguments <;> rfl
  | exit => exact congrArg Except.ok (s.exit_amend isMain)
  | case => exact ofSession_amend (s.amend_bare rfl).symm
  | orCase => exact ofSession_amend (s.amend_bare rfl).symm
  | caseElse => exact ofSession_amend (s.amend_bare rfl).symm
  | caseEnd => exact ofSession_amend (s.amend_bare rfl).symm
  | setVariable => exact ofSession_amend (s.setVariable_amend _)

/-- A tag that is carried out amends the session within its scope. -/
theorem execute_amends {isMain : Bool} {instruction : Instruction} {tag : Tag} {outcome : Outcome}
    (h : s.execute isMain instruction tag = .ok outcome) :
    ∃ t, outcome.effect.session = s.amend instruction.scope t := by
  rw [execute_amend] at h
  obtain ⟨bare, -, rfl⟩ := map_eq_ok.1 h
  exact ⟨_, rfl⟩

/-- A tag that is carried out writes nothing outside of its scope. -/
theorem execute_scope {isMain : Bool} {instruction : Instruction} {tag : Tag} {outcome : Outcome}
    (h : s.execute isMain instruction tag = .ok outcome) :
    instruction.scope.Holds s outcome.effect.session := by
  obtain ⟨t, ht⟩ := s.execute_amends h
  rw [ht]
  exact s.amend_holds _ t

end Session

/-! ## All signals -/

/-- The effect of a signal. -/
def Signal.effect (signal : Signal) (s : Session) : Effect :=
  match signal with
  | .click => s.click
  | .dialogAnimationFinished => s.dialogAnimationFinished
  | .textAnimationStarted => { session := s.setTextAnimating true }
  | .textAnimationFinished => { session := s.setTextAnimating false }
  | .spriteAnimationStopped group name animation => s.spriteAnimationStopped group name animation
  | .screenCovered => { session := s.screenCovered }
  | .coverFinished => { session := s.setCover false }
  | .pause => { session := s.setManual true }
  | .resume => { session := s.setManual false }

/-- What a signal can write. -/
def Signal.scope : Signal → Scope
  | .click => { text := true, halt := true }
  | .dialogAnimationFinished => { dialog := true, stage := true }
  | .textAnimationStarted => { text := true }
  | .textAnimationFinished => { text := true }
  | .spriteAnimationStopped .. => { stage := true }
  | .screenCovered => { pendingScene := true, coveredScene := true }
  | .coverFinished => { stage := true }
  | .pause => { manual := true }
  | .resume => { manual := true }

/-- What a signal does is what it does to the bare session, written over the session within its
scope. -/
theorem Signal.effect_amend (signal : Signal) (s : Session) :
    signal.effect s = (signal.effect s.bare).map (s.amend signal.scope) := by
  cases signal with
  | click => exact s.click_amend
  | dialogAnimationFinished => exact s.dialogAnimationFinished_amend
  | textAnimationStarted => exact Session.mk_amend (Session.eq_amend_of_silent rfl rfl)
  | textAnimationFinished => exact Session.mk_amend (Session.eq_amend_of_silent rfl rfl)
  | spriteAnimationStopped group name animation =>
    exact s.spriteAnimationStopped_amend group name animation
  | screenCovered => exact Session.mk_amend s.screenCovered_amend
  | coverFinished => exact Session.mk_amend (Session.eq_amend_of_silent rfl rfl)
  | pause => exact Session.mk_amend (Session.eq_amend_of_silent rfl rfl)
  | resume => exact Session.mk_amend (Session.eq_amend_of_silent rfl rfl)

/-- A signal writes nothing outside of its scope. -/
theorem Signal.effect_scope (signal : Signal) (s : Session) :
    signal.scope.Holds s (signal.effect s).session := by
  rw [signal.effect_amend]
  exact s.amend_holds _ _

/-! ## Looks -/

namespace Session

variable (s : Session)

/-- What holds the main script, apart from the host. -/
def ownHold : Option Waiting :=
  if s.dialog.animating.isSome then some .dialogAnimation
  else if s.pause.halt.halted then
    some (if s.pause.halt.isAuto then .haltAuto s.pause.halt.remaining else .halt)
  else if s.pause.rest.isResting then some (.rest s.pause.rest.remaining)
  else if (s.waits.holding s.stage).isEmpty then none
  else some .animation

/-- What is still waited for after a look. Where something else holds the main script, animations
are not looked at. -/
def awaited : WaitRules :=
  if s.dialog.animating.isSome || s.pause.halt.halted || s.pause.rest.isResting then s.waits
  else s.waits.holding s.stage

/-- A look finds what holds the main script by itself, and then the hold of the host; it writes
nothing but the waits. -/
theorem heldBy_eq :
    s.heldBy = (s.ownHold.or (if s.pause.manual then some .manual else none),
      { s with waits := s.awaited }) := by
  unfold heldBy ownHold awaited
  by_cases dialog : s.dialog.animating.isSome = true
  · simp [dialog]
  · by_cases halt : s.pause.halt.halted = true
    · by_cases auto : s.pause.halt.isAuto = true
      · simp [dialog, halt, auto]
      · simp [dialog, halt, auto]
    · by_cases rest : s.pause.rest.isResting = true
      · simp [dialog, halt, rest]
      · by_cases waits : (s.waits.holding s.stage).isEmpty = true
        · by_cases manual : s.pause.manual = true
          · simp [dialog, halt, rest, waits, manual]
          · simp [dialog, halt, rest, waits, manual]
        · simp [dialog, halt, rest, waits]

/-- A look writes nothing but the waits. -/
theorem heldBy_scope : Scope.Holds { waits := true } s s.heldBy.2 := by
  rw [heldBy_eq]
  constructor <;> simp

end Session

/-! ## What no tag looks at -/

/-- A change of a session that no tag sees: the bare session stays, amendments come out the same
before and after the change, and so do the names that are drawn. -/
structure Session.Unseen (f : Session → Session) : Prop where
  /-- What an operation can look at stays. -/
  bare (s : Session) : (f s).bare = s.bare
  /-- The change does not touch what an operation writes. -/
  amend (s : Session) {scope : Scope} (free : scope.manual = false) (t : Session) :
    (f s).amend scope t = f (s.amend scope t)
  /-- The change does not touch the names that are drawn. -/
  names (s : Session) (freshNames : List String) :
    { f s with freshNames } = f { s with freshNames }

namespace Session.Unseen

variable {f : Session → Session} (unseen : Unseen f)

include unseen

/-- No tag writes the hold of the host, so every tag does the same after the change. -/
theorem execute (s : Session) (isMain : Bool) (instruction : Instruction) (tag : Tag) :
    (f s).execute isMain instruction tag =
      (s.execute isMain instruction tag).map (·.map f) := by
  have free : instruction.scope.manual = false := by cases instruction <;> rfl
  rw [execute_amend, unseen.bare, s.execute_amend]
  cases s.bare.execute isMain instruction tag with
  | error failure => rfl
  | ok outcome =>
    exact congrArg (fun session => Except.ok (Outcome.mk ⟨session, _⟩ outcome.flow))
      (unseen.amend s free outcome.effect.session)

/-- A frame of a halt does the same after the change. -/
theorem advanceHalt (s : Session) : (f s).advanceHalt = s.advanceHalt.map f := by
  rw [advanceHalt_amend, unseen.bare, s.advanceHalt_amend]
  exact congrArg (Effect.mk · _) (unseen.amend s rfl _)

/-- The same is put into a line. -/
theorem fill (role : Role) (s : Session) (line : String) :
    role.fill (f s) line = role.fill s line := by
  have store : (f s).bare.store = s.bare.store := by rw [unseen.bare]
  have settings : (f s).bare.settings = s.bare.settings := by rw [unseen.bare]
  unfold Role.fill
  rw [show (f s).store = s.store from store, show (f s).settings = s.settings from settings]

/-- A tag asks for the same. -/
theorem obey (role : Role) (blocks : Blocks) (s : Session) (tag : Tag) :
    role.obey blocks (f s) tag = (role.obey blocks s tag).map f := by
  have names : (f s).bare.freshNames = s.bare.freshNames := by rw [unseen.bare]
  unfold Role.obey
  cases Instruction.ofName? tag.name with
  | none => rfl
  | some instruction =>
    rw [show (f s).freshNames = s.freshNames from names]
    dsimp only
    rcases blocks.obey s.freshNames instruction tag.arguments with crash | ⟨blocks', freshNames⟩
    · rfl
    · dsimp only
      rw [unseen.names, unseen.execute]
      cases Session.execute { s with freshNames } role.isMain instruction tag <;> rfl

/-- A line asks for the same, or it is spoken in both sessions. -/
theorem plan (role : Role) (blocks : Blocks) (s : Session) (raw : String) :
    role.plan blocks (f s) raw = (role.plan blocks s raw).map f ∨
      ∃ words, role.plan blocks (f s) raw = .idle ((f s).speak words) blocks .look ∧
        role.plan blocks s raw = .idle (s.speak words) blocks .look := by
  unfold Role.plan
  dsimp only
  rw [unseen.fill]
  split
  · exact .inl rfl
  · cases role.fill s (Line.tidy raw) with
    | error error => exact .inl rfl
    | ok filled =>
      dsimp only
      unfold Role.obeyLine
      cases Line.read filled with
      | blank => exact .inl rfl
      | comment => exact .inl rfl
      | tag found => exact .inl (unseen.obey role blocks s found)
      | spoken words =>
        dsimp only
        split
        · exact .inr ⟨words, rfl, rfl⟩
        · exact .inl rfl

end Session.Unseen

end VisualNovel

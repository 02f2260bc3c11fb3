import VisualNovel.Proofs.Scopes

/-!
# What a line leaves alone

A tag, a signal and a frame change the session in many ways, but none of them changes the story, the
settings or the running scripts: `Session.Keeps`. Running scripts change only where one is started
(`Session.enlist`), where its reader is put back (`Reading.checkIn`), and where a scene begins. What
leaves the scenes to go to as well is `Session.Stays`.

Most tags change even less. An ordinary one leaves the whole core of the session, which says whether
the main script is halted, where it goes and how the dialog stands, and what it tells the host is
neither spoken nor about the dialog: `Session.Ordinary`. All three are read off the scope of what is
done. The tags that are not ordinary are listed in `Session.Deed`, and every tag does one of these
deeds (`Session.execute_deed`), every line as well unless it is spoken (`Role.plan_acts`). Later
modules take a line apart by its deed and open no operation that is ordinary.
-/

namespace VisualNovel

/-! ## Stories and running scripts -/

/-- The second session has the story, the settings and the running scripts of the first. -/
structure Session.Keeps (s t : Session) : Prop where
  /-- The story stays. -/
  story : t.story = s.story
  /-- The settings stay. -/
  settings : t.settings = s.settings
  /-- The running scripts stay. -/
  background : t.background = s.background

/-- The second session has the scenes to go to of the first as well. -/
structure Session.Stays (s t : Session) : Prop extends Session.Keeps s t where
  /-- The scene to go to in this frame stays. -/
  pendingScene : t.pendingScene = s.pendingScene
  /-- The scene to go to when the screen is covered stays. -/
  coveredScene : t.coveredScene = s.coveredScene

/-! ## The core of a session -/

/-- What an ordinary tag leaves alone. -/
structure Core where
  /-- The story. -/
  story : Story
  /-- The settings. -/
  settings : Settings
  /-- The running scripts. -/
  background : Background
  /-- How the dialog looks. -/
  style : Option DialogStyle
  /-- The scripts that the dialog starts. -/
  hooks : DialogHooks
  /-- Whether the dialog is shown. -/
  visible : Bool
  /-- The animation of the dialog. -/
  animating : Option DialogPhase
  /-- The halt. -/
  halt : Halt
  /-- The scene to go to in this frame. -/
  pendingScene : Option SceneRef
  /-- The scene to go to when the screen is covered. -/
  coveredScene : Option SceneRef

/-- The core of a session. -/
def Session.core (s : Session) : Core where
  story := s.story
  settings := s.settings
  background := s.background
  style := s.dialog.style
  hooks := s.dialog.hooks
  visible := s.dialog.visible
  animating := s.dialog.animating
  halt := s.pause.halt
  pendingScene := s.pendingScene
  coveredScene := s.coveredScene

/-- The second session has the core of the first, and at most some more ordinary cues. -/
structure Session.Ordinary (s t : Session) : Prop where
  /-- The core stays. -/
  core : t.core = s.core
  /-- Only ordinary cues are added. -/
  cues : ∃ new, t.cues = s.cues ++ new ∧ ∀ cue ∈ new, cue.isOrdinary = true

namespace Session

variable (s : Session)

/-- Every session keeps what it has. -/
theorem Keeps.refl : s.Keeps s := ⟨rfl, rfl, rfl⟩

/-- What is kept twice is kept. -/
theorem Keeps.trans {s t u : Session} (h : s.Keeps t) (h' : t.Keeps u) : s.Keeps u :=
  ⟨h'.story.trans h.story, h'.settings.trans h.settings, h'.background.trans h.background⟩

/-- The story, the settings, the running scripts and the scenes to go to belong to the core. -/
theorem Ordinary.stays {s t : Session} (h : s.Ordinary t) : s.Stays t where
  story := congrArg Core.story h.core
  settings := congrArg Core.settings h.core
  background := congrArg Core.background h.core
  pendingScene := congrArg Core.pendingScene h.core
  coveredScene := congrArg Core.coveredScene h.core

/-- What is ordinary keeps the story, the settings and the running scripts. -/
theorem Ordinary.keeps {s t : Session} (h : s.Ordinary t) : s.Keeps t :=
  h.stays.toKeeps

/-- A change outside the core that tells the host nothing. -/
theorem Ordinary.of_core {s t : Session} (core : t.core = s.core) (cues : t.cues = s.cues) :
    s.Ordinary t :=
  ⟨core, [], by rw [cues, List.append_nil], by simp⟩

/-- Doing nothing is ordinary. -/
theorem Ordinary.refl : s.Ordinary s := .of_core rfl rfl

/-! ### What is read off a scope -/

/-- An amendment changes no running scripts. -/
theorem amend_keeps (scope : Scope) (t : Session) : s.Keeps (s.amend scope t) := ⟨rfl, rfl, rfl⟩

/-- An amendment changes no scene to go to unless its scope has one. -/
theorem amend_stays {scope : Scope} (pending : scope.pendingScene = false)
    (covered : scope.coveredScene = false) (t : Session) : s.Stays (s.amend scope t) :=
  ⟨s.amend_keeps scope t, (s.amend_holds scope t).pendingScene pending,
    (s.amend_holds scope t).coveredScene covered⟩

/-- An amendment is ordinary if its scope is. -/
theorem amend_ordinary {scope : Scope} (ordinary : scope.isOrdinary = true) (t : Session) :
    s.Ordinary (s.amend scope t) := by
  simp only [Scope.isOrdinary, Bool.and_eq_true, Bool.not_eq_true'] at ordinary
  obtain ⟨⟨⟨⟨dialog, halt⟩, pending⟩, covered⟩, quiet⟩ := ordinary
  refine ⟨?_, ?_⟩
  · simp [core, amend, dialog, halt, pending, covered]
  · obtain ⟨new, cues, allowed⟩ := s.amend_cues scope t
    exact ⟨new, cues, by simpa [Scope.allows, quiet] using allowed⟩

end Session

/-! ## Signals, frames and looks -/

/-- A signal keeps the story, the settings and the running scripts. -/
theorem Signal.effect_keeps (signal : Signal) (s : Session) :
    s.Keeps (signal.effect s).session := by
  rw [signal.effect_amend]
  exact s.amend_keeps _ _

/-- A signal but for a covered screen changes no scene to go to. -/
theorem Signal.effect_stays {signal : Signal} (h : signal ≠ .screenCovered) (s : Session) :
    s.Stays (signal.effect s).session := by
  rw [signal.effect_amend]
  cases signal with
  | screenCovered => exact absurd rfl h
  | _ => exact s.amend_stays rfl rfl _

namespace Session

variable (s : Session)

/-- A frame of a rest is ordinary. -/
theorem advanceRest_ordinary : s.Ordinary s.advanceRest := by
  rw [advanceRest_amend]
  exact s.amend_ordinary rfl _

/-- A frame of a halt changes no scene to go to. -/
theorem advanceHalt_stays : s.Stays s.advanceHalt.session := by
  rw [advanceHalt_amend]
  exact s.amend_stays rfl rfl _

/-- A look is ordinary. -/
theorem heldBy_ordinary : s.Ordinary s.heldBy.2 := by
  rw [heldBy_eq]
  exact .of_core rfl rfl

/-- Speaking changes only the history and the cues. -/
theorem speak_stays (words : String) : s.Stays (s.speak words) := ⟨⟨rfl, rfl, rfl⟩, rfl, rfl⟩

/-! ## Deeds -/

/-- What a tag can do to a session. -/
inductive Deed (s : Session) : Session → Prop where
  /-- Something ordinary. -/
  | ordinary {t : Session} (ordinary : s.Ordinary t) : Deed s t
  /-- The dialog is defined. -/
  | defineDialog (arguments : Option String) : Deed s (s.defineDialog arguments)
  /-- The dialog is shown. -/
  | showDialog : Deed s s.showDialog.session
  /-- The dialog is hidden. -/
  | closeDialog : Deed s s.closeDialog.session
  /-- The main script is halted. -/
  | halt (budget : Option Nat) : Deed s (s.halt budget).session
  /-- A scene that is there is to begin. -/
  | goTo (scene : SceneRef) (found : s.story.checkScene scene = .ok ()) :
    Deed s { s with pendingScene := some scene }
  /-- A scene that is there is to begin under a cover. -/
  | goToCovered (scene : SceneRef) (found : s.story.checkScene scene = .ok ()) {cue : Cue}
    (ordinary : cue.isOrdinary = true) :
    Deed s (({ s with coveredScene := some scene }.emit cue).setCover true)

/-- No deed changes the story, the settings or the running scripts. -/
theorem Deed.keeps {s t : Session} (h : s.Deed t) : s.Keeps t := by
  cases h with
  | ordinary ordinary => exact ordinary.keeps
  | defineDialog arguments =>
    rw [defineDialog_amend]
    exact s.amend_keeps _ _
  | showDialog =>
    rw [showDialog_amend]
    exact s.amend_keeps _ _
  | closeDialog =>
    rw [closeDialog_amend]
    exact s.amend_keeps _ _
  | halt budget =>
    rw [halt_amend]
    exact s.amend_keeps _ _
  | goTo scene _ => exact ⟨rfl, rfl, rfl⟩
  | goToCovered scene _ _ => exact ⟨rfl, rfl, rfl⟩

/-- A halt with a budget that can be read is a halt. -/
theorem haltAuto_deed (arguments : Option String) : s.Deed (s.haltAuto arguments).session := by
  unfold haltAuto
  split
  · exact .halt _
  · exact .ordinary (.refl s)

/-- A scene that is gone to is there. -/
theorem goToScene_deed {arguments : Option String} {outcome : Outcome}
    (h : s.goToScene arguments = .ok outcome) : s.Deed outcome.effect.session := by
  unfold goToScene at h
  split at h
  · cases h
    exact .ordinary (.refl s)
  · next chapter scene _ =>
    rcases hc : s.story.checkScene ⟨chapter, scene⟩ with error | ⟨⟩
    · rw [hc] at h
      cases h
    · rw [hc] at h
      cases h
      exact .goTo _ hc

/-- A scene that is gone to under a cover is there. -/
theorem goToCoveredScene_deed {arguments : Option String} {outcome : Outcome}
    (h : s.goToCoveredScene arguments = .ok outcome) : s.Deed outcome.effect.session := by
  unfold goToCoveredScene at h
  split at h
  · cases h
    exact .ordinary (.refl s)
  · next chapter scene _ =>
    rcases hc : s.story.checkScene ⟨chapter, scene⟩ with error | ⟨⟩
    · rw [hc] at h
      cases h
    · rw [hc] at h
      cases h
      exact .goToCovered _ hc rfl

/-- Every tag does a deed. Whether it is ordinary is read off its scope; six tags are not. -/
theorem execute_deed {isMain : Bool} {instruction : Instruction} {tag : Tag} {outcome : Outcome}
    (h : s.execute isMain instruction tag = .ok outcome) : s.Deed outcome.effect.session := by
  by_cases ordinary : instruction.scope.isOrdinary = true
  · obtain ⟨t, amended⟩ := s.execute_amends h
    rw [amended]
    exact .ordinary (s.amend_ordinary ordinary t)
  · cases instruction with
    | defineDialog => cases h; exact .defineDialog _
    | showDialog => cases h; exact .showDialog
    | closeDialog => cases h; exact .closeDialog
    | halt => cases h; exact .halt none
    | haltAuto => cases h; exact s.haltAuto_deed _
    | scene => exact s.goToScene_deed (liftStory_eq_ok.1 h)
    | sceneWithFade => exact s.goToCoveredScene_deed (liftStory_eq_ok.1 h)
    | _ => exact absurd rfl ordinary

end Session

/-! ## Lines -/

/-- What a line does to a session: it is spoken, which only the main script does, or its tag does a
deed, after a name may have been drawn for a block. -/
inductive Role.Acts (role : Role) (s : Session) : Session → Prop where
  /-- The line is spoken. -/
  | speaks (words : String) (main : role.isMain = true) : Role.Acts role s (s.speak words)
  /-- The tag of the line does a deed. -/
  | obeys (freshNames : List String) {t : Session} (deed : Session.Deed { s with freshNames } t) :
    Role.Acts role s t

namespace Role

variable (role : Role) (blocks : Blocks) (s : Session)

/-- A line that does nothing. -/
theorem Acts.rests : role.Acts s s := .obeys s.freshNames (.ordinary (.refl s))

/-- A tag does a deed, if its name stands for something and nothing crashes. -/
theorem obey_acts (tag : Tag) : role.Acts s (role.obey blocks s tag).effect.session := by
  unfold obey
  split
  · exact .rests role s
  · split
    · exact .rests role s
    · next freshNames _ =>
      dsimp only
      split
      · exact .obeys freshNames (.ordinary (.refl _))
      · next outcome hexecute => exact .obeys freshNames (Session.execute_deed _ hexecute)

/-- A line with everything put in is spoken, or its tag does a deed. -/
theorem obeyLine_acts (line : String) :
    role.Acts s (role.obeyLine blocks s line).effect.session := by
  unfold obeyLine
  split
  · exact .rests role s
  · exact .rests role s
  · split
    · next main => exact .speaks _ main
    · exact .rests role s
  · exact role.obey_acts blocks s _

/-- Whatever a line asks for, until a script is started it has only spoken or done a deed. -/
theorem plan_acts (raw : String) : role.Acts s (role.plan blocks s raw).effect.session := by
  unfold plan
  dsimp only
  split
  · exact .rests role s
  · split
    · exact .rests role s
    · exact role.obeyLine_acts blocks s _

/-- A line keeps the story, the settings and the running scripts. -/
theorem Acts.keeps {role : Role} {s t : Session} (h : role.Acts s t) : s.Keeps t := by
  cases h with
  | speaks words _ => exact (s.speak_stays words).toKeeps
  | obeys freshNames deed =>
    have fresh : s.Keeps { s with freshNames } := ⟨rfl, rfl, rfl⟩
    exact fresh.trans deed.keeps

/-- Whatever a line asks for, the story, the settings and the running scripts stay until a script is
started. -/
theorem plan_keeps (raw : String) : s.Keeps (role.plan blocks s raw).effect.session :=
  (role.plan_acts blocks s raw).keeps

/-- A look keeps the story, the settings and the running scripts. -/
theorem lookUp_keeps : s.Keeps (role.lookUp s).2 := by
  unfold lookUp
  split
  · exact s.heldBy_ordinary.keeps
  · exact .refl s

end Role

end VisualNovel

import VisualNovel.Proofs.Invariants

/-!
# How the dialog moves

Whatever happens to a session, the dialog makes one of five moves, and what the host is told goes
with the move: it stays as it is, is defined, appears, disappears, or an animation of it is over
(`Dialog.Moves`). A `Session.Moment` is one thing that happens to a session; a frame is made of
moments, one after another, and a signal is a moment too. `Session.Moment.moves` says which moves
they make.
-/

namespace VisualNovel

/-! ## Moments -/

/-- One thing that happens to a session, with the signal that brings it about if there is one.
Scripts that are started, and the lines that follow, are further moments. -/
inductive Session.Moment : Option Signal → Session → Session → Prop where
  /-- A line of a script. -/
  | line (role : Role) (blocks : Blocks) (s : Session) (raw : String) :
    Moment none s (role.plan blocks s raw).effect.session
  /-- A look at what holds the session. -/
  | look (s : Session) : Moment none s s.heldBy.2
  /-- A frame of a halt. -/
  | halt (s : Session) : Moment none s s.advanceHalt.session
  /-- A frame of a rest. -/
  | rest (s : Session) : Moment none s s.advanceRest
  /-- A script is started. -/
  | started (s : Session) (name : String) : Moment none s (s.record (.started name))
  /-- A reader is taken out of its slot or put back into it, or slots are freed. -/
  | slots (s : Session) (background : Background) : Moment none s { s with background }
  /-- The timers run. -/
  | timers (s : Session) (timers : Timers) : Moment none s { s with timers }
  /-- A scene begins. -/
  | scene (s : Session) (scene : SceneRef) :
    Moment none s ({ s with pendingScene := none }.enterScene scene)
  /-- A scene that is to begin is missing. -/
  | missing (s : Session) : Moment none s { s with pendingScene := none }
  /-- A signal is taken. -/
  | signal (s : Session) (signal : Signal) : Moment (some signal) s (signal.effect s).session

/-! ## Moves -/

/-- Whether a cue defines, shows or hides the dialog. -/
def Cue.concernsDialog : Cue → Bool
  | .defineDialog _ => true
  | .showDialog _ => true
  | .hideDialog _ => true
  | _ => false

/-- An ordinary cue is not about the dialog. -/
theorem Cue.concernsDialog_of_isOrdinary {cue : Cue} (h : cue.isOrdinary = true) :
    cue.concernsDialog = false := by
  cases cue <;> first | rfl | cases h

/-- An animation that there is none of has no hook for its beginning. -/
structure DialogHooks.Fit (style : DialogStyle) (hooks : DialogHooks) : Prop where
  /-- No hook for the beginning of an intro that there is none of. -/
  intro : style.intro = .noAnimation → hooks.introStarting = none
  /-- No hook for the beginning of an outro that there is none of. -/
  outro : style.outro = .noAnimation → hooks.outroStarting = none

/-- Hooks that are read fit the style that is read with them. -/
theorem DialogStyle.fit_of_ofArguments? {arguments : Option String} {style : DialogStyle}
    {hooks : DialogHooks} (h : ofArguments? arguments = some (style, hooks)) :
    hooks.Fit style := by
  unfold ofArguments? at h
  simp only [Option.bind_eq_bind, Option.bind_eq_some_iff, Option.pure_def, Option.some.injEq,
    Prod.mk.injEq] at h
  obtain ⟨_, -, _, -, intro, -, outro, -, _, -, rfl, rfl⟩ := h
  exact ⟨fun none => if_pos none, fun none => if_pos none⟩

namespace Dialog

/-- What the dialog does at a moment, with the cues of that moment. -/
inductive Moves : Option Signal → Dialog → List Cue → Dialog → Prop where
  /-- It stays. -/
  | stays {signal : Option Signal} {d d' : Dialog} {cues : List Cue}
    (other : signal ≠ some .dialogAnimationFinished) (alike : d.Alike d')
    (quiet : ∀ cue ∈ cues, cue.concernsDialog = false) : Moves signal d cues d'
  /-- It is defined. -/
  | isDefined {d : Dialog} {style : DialogStyle} {hooks : DialogHooks} (hidden : d.visible = false)
    (fit : hooks.Fit style) :
    Moves none d [.defineDialog style] { d with style := some style, hooks }
  /-- It appears. -/
  | appears {d : Dialog} {style : DialogStyle} (style_eq : d.style = some style)
    (hidden : d.visible = false) (still : d.animating = none) :
    Moves none d [.showDialog (style.intro != .noAnimation)]
      { d with
        visible := true
        animating := if style.intro != .noAnimation then some .intro else none }
  /-- It disappears. -/
  | disappears {d : Dialog} {style : DialogStyle} (style_eq : d.style = some style)
    (shown : d.visible = true) (still : d.animating = none) :
    Moves none d [.hideDialog (style.outro != .noAnimation)]
      { d with
        visible := style.outro != .noAnimation
        animating := if style.outro != .noAnimation then some .outro else d.animating }
  /-- Its animation is over. -/
  | finishes (d : Dialog) :
    Moves (some .dialogAnimationFinished) d []
      { d with
        visible := if d.animating = some .outro then false else d.visible
        animating := none }

end Dialog

/-! ## The moves of moments -/

namespace Session

/-- The dialog makes a move, and the cues that go with it are added. -/
def DialogMoves (signal : Option Signal) (s t : Session) : Prop :=
  ∃ cues, t.cues = s.cues ++ cues ∧ s.dialog.Moves signal cues t.dialog

/-- What is ordinary leaves the dialog alone. -/
theorem Ordinary.alike {s t : Session} (h : s.Ordinary t) : s.dialog.Alike t.dialog where
  style := congrArg Core.style h.core
  hooks := congrArg Core.hooks h.core
  visible := congrArg Core.visible h.core
  animating := congrArg Core.animating h.core

/-- What is ordinary for the dialog is no move of it, unless the end of its animation brings it
about. -/
theorem Ordinary.dialogMoves {s t : Session} (h : s.Ordinary t) {signal : Option Signal}
    (other : signal ≠ some .dialogAnimationFinished) : DialogMoves signal s t := by
  obtain ⟨new, hcues, ordinary⟩ := h.cues
  refine ⟨new, hcues, .stays other h.alike fun cue hcue => ?_⟩
  exact Cue.concernsDialog_of_isOrdinary (ordinary cue hcue)

variable (s : Session)

/-- A change that leaves the dialog alone, with at most a cue that does not concern it. -/
theorem DialogMoves.of_alike {s t : Session} {signal : Option Signal}
    (other : signal ≠ some .dialogAnimationFinished) (alike : s.dialog.Alike t.dialog)
    (cues : List Cue) (hcues : t.cues = s.cues ++ cues)
    (quiet : ∀ cue ∈ cues, cue.concernsDialog = false) : DialogMoves signal s t :=
  ⟨cues, hcues, .stays other alike quiet⟩

/-- A change that leaves the dialog alone and tells the host nothing. -/
theorem DialogMoves.silent {s t : Session} {signal : Option Signal}
    (other : signal ≠ some .dialogAnimationFinished) (alike : s.dialog.Alike t.dialog)
    (cues : t.cues = s.cues) : DialogMoves signal s t :=
  .of_alike other alike [] (by rw [cues, List.append_nil]) (by simp)

/-- A spoken line is a move of the dialog. -/
theorem speak_dialogMoves (words : String) : DialogMoves none s (s.speak words) :=
  .of_alike (by simp) ⟨rfl, rfl, rfl, rfl⟩ [.dialogText words] rfl (by simp [Cue.concernsDialog])

/-- So is the tag that defines it. -/
theorem defineDialog_dialogMoves (arguments : Option String) :
    DialogMoves none s (s.defineDialog arguments) := by
  unfold defineDialog
  split
  · exact (Ordinary.refl s).dialogMoves (by simp)
  · next hidden =>
    split
    · exact (Ordinary.refl s).dialogMoves (by simp)
    · next style hooks hread =>
      exact ⟨_, rfl, .isDefined (by simpa using hidden) (DialogStyle.fit_of_ofArguments? hread)⟩

/-- So is the tag that shows it. -/
theorem showDialog_dialogMoves : DialogMoves none s s.showDialog.session := by
  unfold showDialog
  split
  · exact (Ordinary.refl s).dialogMoves (by simp)
  · next style hstyle =>
    split
    · exact (Ordinary.refl s).dialogMoves (by simp)
    · next free =>
      simp only [Bool.or_eq_true, not_or, Bool.not_eq_true, Option.isSome_eq_false_iff,
        Option.isNone_iff_eq_none] at free
      have moves := Dialog.Moves.appears hstyle free.1 free.2
      generalize (style.intro != .noAnimation) = animated at moves ⊢
      cases animated <;> exact ⟨_, rfl, moves⟩

/-- So is the tag that closes it. -/
theorem closeDialog_dialogMoves : DialogMoves none s s.closeDialog.session := by
  unfold closeDialog
  split
  · exact (Ordinary.refl s).dialogMoves (by simp)
  · next style hstyle =>
    split
    · exact (Ordinary.refl s).dialogMoves (by simp)
    · next free =>
      simp only [Bool.or_eq_true, not_or, Bool.not_eq_true, Bool.not_eq_false',
        Option.isSome_eq_false_iff, Option.isNone_iff_eq_none] at free
      have moves := Dialog.Moves.disappears hstyle free.1 free.2
      generalize (style.outro != .noAnimation) = animated at moves ⊢
      cases animated with
      | false => exact ⟨_, rfl, moves⟩
      | true =>
        refine ⟨_, rfl, ?_⟩
        simpa [withHook, emit, free] using moves

/-- So is the end of its animation. -/
theorem dialogAnimationFinished_dialogMoves :
    DialogMoves (some .dialogAnimationFinished) s s.dialogAnimationFinished.session := by
  refine ⟨[], ?_, ?_⟩
  · unfold dialogAnimationFinished
    rcases s.dialog.animating with _ | _ | _ <;> simp [withHook, dialogGone]
  · have moves := Dialog.Moves.finishes s.dialog
    unfold dialogAnimationFinished
    rcases hphase : s.dialog.animating with _ | _ | _ <;> rw [hphase] at moves <;> exact moves

/-- An amendment leaves the dialog alone if its scope does. -/
theorem amend_dialogMoves {scope : Scope} (untouched : scope.dialog = false)
    (quiet : scope.tells = false) {signal : Option Signal}
    (other : signal ≠ some .dialogAnimationFinished) (t : Session) :
    DialogMoves signal s (s.amend scope t) := by
  obtain ⟨new, cues, allowed⟩ := s.amend_cues scope t
  simp only [Scope.allows, quiet, Bool.false_eq_true, if_false] at allowed
  refine .of_alike other ((s.amend_holds scope t).dialog untouched) new cues fun cue mem => ?_
  exact Cue.concernsDialog_of_isOrdinary (allowed cue mem)

/-- A frame of a halt leaves the dialog alone. -/
theorem advanceHalt_dialogMoves : DialogMoves none s s.advanceHalt.session := by
  rw [advanceHalt_amend]
  exact s.amend_dialogMoves rfl rfl (by simp) _

/-- What a tag does to the dialog. -/
theorem Deed.dialogMoves {s t : Session} (h : s.Deed t) : DialogMoves none s t := by
  cases h with
  | ordinary ordinary => exact ordinary.dialogMoves (by simp)
  | defineDialog arguments => exact s.defineDialog_dialogMoves arguments
  | showDialog => exact s.showDialog_dialogMoves
  | closeDialog => exact s.closeDialog_dialogMoves
  | halt budget =>
    rw [halt_amend]
    exact s.amend_dialogMoves rfl rfl (by simp) _
  | goTo scene _ => exact .silent (by simp) ⟨rfl, rfl, rfl, rfl⟩ rfl
  | @goToCovered scene _ cue ordinary =>
    exact .of_alike (by simp) ⟨rfl, rfl, rfl, rfl⟩ [cue] rfl
      (by simpa using Cue.concernsDialog_of_isOrdinary ordinary)

/-- What a line does to the dialog. -/
theorem acts_dialogMoves {role : Role} {s t : Session} (h : role.Acts s t) :
    DialogMoves none s t := by
  cases h with
  | speaks words _ => exact s.speak_dialogMoves words
  | obeys freshNames deed => exact deed.dialogMoves

/-- What a signal does to the dialog. -/
theorem effect_dialogMoves (signal : Signal) :
    DialogMoves (some signal) s (signal.effect s).session := by
  cases signal with
  | dialogAnimationFinished => exact s.dialogAnimationFinished_dialogMoves
  | _ =>
    rw [Signal.effect_amend]
    exact s.amend_dialogMoves rfl rfl (by simp) _

/-- Every moment comes with a move of the dialog. -/
theorem Moment.dialogMoves {signal : Option Signal} {s t : Session} (h : Moment signal s t) :
    DialogMoves signal s t := by
  cases h with
  | line role blocks _ raw => exact acts_dialogMoves (role.plan_acts blocks s raw)
  | look => exact s.heldBy_ordinary.dialogMoves (by simp)
  | halt => exact s.advanceHalt_dialogMoves
  | rest => exact s.advanceRest_ordinary.dialogMoves (by simp)
  | started _ name => exact .silent (by simp) ⟨rfl, rfl, rfl, rfl⟩ rfl
  | slots _ background => exact .silent (by simp) ⟨rfl, rfl, rfl, rfl⟩ rfl
  | timers _ timers => exact .silent (by simp) ⟨rfl, rfl, rfl, rfl⟩ rfl
  | scene _ scene => exact .silent (by simp) ⟨rfl, rfl, rfl, rfl⟩ rfl
  | missing => exact .silent (by simp) ⟨rfl, rfl, rfl, rfl⟩ rfl
  | signal _ signal => exact s.effect_dialogMoves signal

end Session

end VisualNovel

import VisualNovel.Proofs.Chronicle
import VisualNovel.Proofs.Dictionaries
import VisualNovel.Proofs.SpriteEdits

/-!
# What changes on the stage

The stage changes where sprites are loaded and acted on, where the dialog goes and takes its sprites
with it, where a cover passes over the screen, where the host reports the end of an animation, and
where a scene begins. This module says what becomes of two things then: the cover, and the
animations of sprites that are switched on.

An action on sprites changes one group and nothing else. The animations in it stay as they are, but
for the one that the action switches (`SpriteAction.switch?`); where a sprite takes over from
another one, it has the animations of that one.
-/

namespace VisualNovel

/-! ## Animations that are switched on -/

/-- Whether the sprite of a name is there with an animation switched on. -/
def Cast.animates (cast : Cast) (name : String) (animation : Animation) : Bool :=
  (cast.find? name).any (·.isActive animation)

/-- Whether the sprite of a name in a group is there with an animation switched on. -/
def Stage.animates (stage : Stage) (group : Group) (name : String) (animation : Animation) : Bool :=
  (stage.cast group).animates name animation

/-- A switch is seen at its animation, and at no other one. -/
theorem Sprite.isActive_setActive (sprite : Sprite) (active : Bool) (animation other : Animation) :
    (sprite.setActive active animation).isActive other =
      if other = animation then active else sprite.isActive other := by
  cases animation <;> cases other <;> rfl

/-- A script for the end of an animation switches none. -/
theorem Sprite.isActive_setStopScript (sprite : Sprite) (script : Option String)
    (animation other : Animation) :
    (sprite.setStopScript script animation).isActive other = sprite.isActive other := by
  cases animation <;> cases other <;> rfl

namespace Cast

variable (cast : Cast)

/-- A new sprite shows its animations under its name, and no other ones. -/
theorem animates_insert (name : String) (sprite : Sprite) (other : String) (animation : Animation) :
    animates (cast.insert name sprite) other animation =
      if other = name then sprite.isActive animation else cast.animates other animation := by
  unfold animates
  rw [Dict.find?_insert]
  split <;> rfl

/-- Where the sprites change and their animations do not, those that are switched on stay so. -/
theorem animates_map {f : Sprite → Sprite}
    (h : ∀ sprite animation, (f sprite).isActive animation = sprite.isActive animation)
    (name : String) (animation : Animation) :
    animates (cast.map f) name animation = cast.animates name animation := by
  unfold animates
  rw [Dict.find?_map]
  cases cast.find? name with
  | none => rfl
  | some sprite => exact h sprite animation

/-- Hiding all sprites switches no animation. -/
theorem animates_hideAll (name : String) (animation : Animation) :
    (hideAll cast).animates name animation = cast.animates name animation :=
  cast.animates_map (fun _ animation => by cases animation <;> rfl) name animation

/-- Neither does a change of a sprite that leaves its animations. -/
theorem animates_change {f : Sprite → Sprite}
    (h : ∀ sprite animation, (f sprite).isActive animation = sprite.isActive animation)
    (name other : String) (animation : Animation) :
    (change cast name f).animates other animation = cast.animates other animation := by
  unfold change
  split
  · next sprite found =>
    rw [animates_insert, h]
    split
    · next same => rw [same, animates, found]; rfl
    · rfl
  · rfl

end Cast

/-! ## Edits -/

/-- What an action does to an animation by itself: it switches it on, or off, or leaves it. -/
def SpriteAction.switch? (action : SpriteAction) (animation : Animation) : Option Bool :=
  match action with
  | .start switched => if switched = animation then some true else none
  | .stop switched => if switched = animation then some false else none
  | _ => none

/-- The edit switches animations like this, and leaves the others. -/
def Edit.Switches (switch? : Animation → Option Bool) (edit : Edit) : Prop :=
  ∀ sprite changed, edit.change sprite = .ok (some changed) →
    ∀ animation, changed.isActive animation = (switch? animation).getD (sprite.isActive animation)

/-- An action on a sprite switches its own animation and leaves the others. -/
theorem Sprite.Becomes.isActive {sprite changed : Sprite} {action : SpriteAction}
    (h : sprite.Becomes action changed) (animation : Animation) :
    changed.isActive animation = (action.switch? animation).getD (sprite.isActive animation) := by
  cases h with
  | start switched =>
    rw [Sprite.isActive_setActive, SpriteAction.switch?]
    by_cases same : animation = switched
    · simp [same]
    · simp [same, Ne.symm same]
  | stop switched =>
    have off : (sprite.switchOff switched).isActive animation =
        (sprite.setActive false switched).isActive animation := by
      cases switched <;> rfl
    rw [off, Sprite.isActive_setActive, SpriteAction.switch?]
    by_cases same : animation = switched
    · simp [same]
    · simp [same, Ne.symm same]
  | afterStop stopped script => exact sprite.isActive_setStopScript script stopped animation
  | delay delayed frames => cases delayed <;> cases animation <;> rfl
  | _ => cases animation <;> rfl

/-- **Edits.** Every action that is an edit switches its own animation and leaves the others. -/
theorem SpriteAction.switches_of_edit? {action : SpriteAction} {stage : Stage}
    {arguments : Option String} {edit : Edit} (h : action.edit? stage arguments = .ok (some edit)) :
    edit.Switches action.switch? :=
  fun sprite changed hchange => (SpriteAction.becomes_of_edit? h sprite changed hchange).isActive

/-! ## Changes of one group -/

/-- Whether a tag can switch an animation in a group on, or off. A sprite that is shown, but for a
background, can do both, since it may take over from another one. -/
def Instruction.maySwitch (group : Group) (animation : Animation) (active : Bool) :
    Instruction → Bool
  | .sprite other action =>
    other == group &&
      (action == .appear && other != .background || action.switch? animation == some active)
  | _ => false

namespace Stage

variable {stage t : Stage} {group : Group} {instruction : Instruction}

/-- The cast of a group is its cast already. -/
@[simp] theorem setCast_cast (stage : Stage) (group : Group) :
    stage.setCast group (stage.cast group) = stage := by
  cases group <;> rfl

/-- The cover is none of the casts. -/
@[simp] theorem coverActive_setCast (stage : Stage) (group : Group) (cast : Cast) :
    (stage.setCast group cast).coverActive = stage.coverActive := by
  cases group <;> rfl

/-- A new cast for a group shows its animations in that group, and the other groups show theirs. -/
theorem animates_setCast (stage : Stage) (group : Group) (cast : Cast) (other : Group)
    (name : String) (animation : Animation) :
    (stage.setCast group cast).animates other name animation =
      if other = group then cast.animates name animation
      else stage.animates other name animation := by
  cases group <;> cases other <;> rfl

/-- The second stage differs from the first in one group at most, and there only in animations that
the tag can switch, as far as animations go. -/
def Turns (instruction : Instruction) (stage t : Stage) : Prop :=
  ∃ group cast, t = stage.setCast group cast ∧ ∀ name animation,
    cast.animates name animation = stage.animates group name animation ∨
      instruction.maySwitch group animation (cast.animates name animation) = true

/-- A stage that stays does not differ. -/
theorem Turns.refl (stage : Stage) : Turns instruction stage stage :=
  ⟨.background, _, (setCast_cast ..).symm, fun _ _ => .inl rfl⟩

/-- A group in which no animation changes. -/
theorem Turns.of_same {cast : Cast}
    (same : ∀ name animation, cast.animates name animation = stage.animates group name animation) :
    Turns instruction stage (stage.setCast group cast) :=
  ⟨group, cast, rfl, fun name animation => .inl (same name animation)⟩

/-- The cover does not differ. -/
theorem Turns.coverActive (h : Turns instruction stage t) : t.coverActive = stage.coverActive := by
  obtain ⟨group, cast, rfl, -⟩ := h
  exact coverActive_setCast ..

/-- An animation of a sprite stays, or the tag can switch it like this. -/
theorem Turns.animates (h : Turns instruction stage t) (group : Group) (name : String)
    (animation : Animation) :
    t.animates group name animation = stage.animates group name animation ∨
      instruction.maySwitch group animation (t.animates group name animation) = true := by
  obtain ⟨other, cast, rfl, same⟩ := h
  rw [animates_setCast]
  split
  · next here => exact here ▸ same name animation
  · exact .inl rfl

/-! ### Loading and acting -/

/-- A sprite that is loaded has no animation that is switched on, unless it has been there. -/
theorem load_turns (stage : Stage) (assets : Assets) (group : Group) (arguments : Option String) :
    Turns instruction stage (stage.load assets group arguments) := by
  unfold load
  split
  · exact .refl stage
  · split
    · exact .refl stage
    · dsimp only
      split
      · next found =>
        refine .of_same fun name animation => ?_
        rw [Cast.animates_insert]
        split
        · next here => rw [here, animates, Cast.animates, found]; cases animation <;> rfl
        · rfl
      · next absent =>
        refine .of_same fun name animation => ?_
        rw [Cast.add, Cast.animates_insert]
        split
        · next here => rw [here, animates, Cast.animates, absent]; cases animation <;> rfl
        · rfl

/-- Hiding all sprites of a group switches nothing. -/
theorem hideAll_turns (stage : Stage) (group : Group) :
    Turns instruction stage (stage.setCast group (Cast.hideAll (stage.cast group))) :=
  .of_same fun name animation => Cast.animates_hideAll _ name animation

/-- A background is shown in the place of all others, and no animation is switched by it. -/
theorem appear_turns {name : String} (h : stage.appear group name = .ok t) :
    Turns (.sprite group .appear) stage t := by
  unfold appear at h
  split at h
  · cases h
    exact .refl stage
  · split at h
    · cases h
      exact .refl stage
    · obtain ⟨cast, hcast, rfl⟩ := map_eq_ok.1 h
      by_cases background : group = .background
      · unfold showIn at hcast
        rw [if_pos background] at hcast
        cases hcast
        refine .of_same fun other animation => ?_
        rw [Cast.animates_change _ fun _ animation => by cases animation <;> rfl]
        exact Cast.animates_hideAll _ other animation
      · exact ⟨group, cast, rfl, fun _ _ => .inr (by simp [Instruction.maySwitch, background])⟩

/-- An edit changes one sprite of its group. -/
theorem changeVisible_turns {action : SpriteAction} {edit : Edit}
    (switches : edit.Switches action.switch?)
    (h : stage.changeVisible group edit.nickname edit.change = .ok t) :
    Turns (.sprite group action) stage t := by
  unfold changeVisible at h
  split at h
  · cases h
    exact .refl stage
  · next found sprite visible =>
    rcases hchange : edit.change sprite with _ | _ | changed <;> rw [hchange] at h <;> cases h
    · exact .refl stage
    · refine ⟨group, _, rfl, fun name animation => ?_⟩
      rw [Cast.animates_insert]
      split
      · next here =>
        have before : stage.animates group name animation = sprite.isActive animation := by
          rw [here, animates, Cast.animates, Dict.find?_of_findEntry?_eq_some visible]
          rfl
        rw [before, switches sprite changed hchange animation]
        cases hswitch : action.switch? animation with
        | none => exact .inl rfl
        | some active => exact .inr (by simp [Instruction.maySwitch, hswitch])
      · exact .inl rfl

/-- **Actions.** An action changes one group, and in it only what its tag can switch. -/
theorem act_turns {action : SpriteAction} {arguments : Option String}
    (h : stage.act group action arguments = .ok t) : Turns (.sprite group action) stage t := by
  unfold act at h
  split at h
  · split at h
    · exact appear_turns h
    · cases h
      exact .refl stage
  · cases h
    exact hideAll_turns stage group
  · rcases hedit : action.edit? stage arguments with _ | _ | edit <;> rw [hedit] at h
    · cases h
    · cases h
      exact .refl stage
    · exact changeVisible_turns (SpriteAction.switches_of_edit? hedit) h

/-- A background is shown and hidden without a change of animations. -/
theorem Turns.of_background {action : SpriteAction}
    (leaves : ∀ animation, action.switch? animation = none)
    (h : Turns (.sprite .background action) stage t) : Turns instruction stage t := by
  obtain ⟨group, cast, rfl, same⟩ := h
  refine .of_same fun name animation => (same name animation).resolve_right ?_
  simp [Instruction.maySwitch, leaves]

end Stage

/-! ## Tags -/

namespace Session

variable {s : Session} {isMain : Bool} {instruction : Instruction} {tag : Tag} {outcome : Outcome}

/-- Where the dialog is hidden, the stage stays or the sprites of the dialog go. -/
theorem closeDialog_stage (s : Session) :
    s.closeDialog.session.stage = s.stage ∨
      s.closeDialog.session.stage =
        s.stage.setCast .dialogSprite (Cast.hideAll s.stage.dialog) := by
  unfold closeDialog
  split
  · exact .inl rfl
  · split
    · exact .inl rfl
    · dsimp only [withHook]
      split
      · exact .inl rfl
      · exact .inr rfl

/-- Where an animation of the dialog is over, the stage stays or the sprites of the dialog go. -/
theorem dialogAnimationFinished_stage (s : Session) :
    s.dialogAnimationFinished.session.stage = s.stage ∨
      s.dialogAnimationFinished.session.stage =
        s.stage.setCast .dialogSprite (Cast.hideAll s.stage.dialog) := by
  unfold dialogAnimationFinished
  dsimp only
  split
  · exact .inl rfl
  · exact .inl rfl
  · exact .inr rfl

/-- **Tags on the stage.** A tag that is not about a cover changes one group at most, and in it only
what it can switch. -/
theorem execute_turns (h : s.execute isMain instruction tag = .ok outcome)
    (uncovered : instruction ≠ .sceneWithFade) :
    Stage.Turns instruction s.stage outcome.effect.session.stage ∧
      outcome.effect.session.coveredScene = s.coveredScene := by
  by_cases touched : instruction.scope.stage = true
  · cases instruction with
    | load group =>
      cases h
      exact ⟨s.stage.load_turns s.story.assets group tag.arguments, rfl⟩
    | sprite group action =>
      obtain ⟨stage, acted, rfl⟩ := map_eq_ok.1 (liftSafe_eq_ok.1 h)
      exact ⟨Stage.act_turns acted, rfl⟩
    | showBackground =>
      obtain ⟨stage, acted, rfl⟩ := map_eq_ok.1 (liftSafe_eq_ok.1 h)
      exact ⟨(Stage.act_turns acted).of_background fun _ => rfl, rfl⟩
    | hideBackground =>
      obtain ⟨stage, acted, rfl⟩ := map_eq_ok.1 (liftSafe_eq_ok.1 h)
      exact ⟨(Stage.act_turns acted).of_background fun _ => rfl, rfl⟩
    | closeDialog =>
      refine ⟨?_, (s.execute_scope h).coveredScene rfl⟩
      cases h
      show Stage.Turns .closeDialog s.stage s.closeDialog.session.stage
      rcases s.closeDialog_stage with same | gone
      · rw [same]
        exact .refl s.stage
      · rw [gone]
        exact s.stage.hideAll_turns .dialogSprite
    | sceneWithFade => exact absurd rfl uncovered
    | _ => cases touched
  · have scope := s.execute_scope h
    have untouched := Bool.eq_false_iff.2 touched
    have elsewhere : instruction.scope.coveredScene = false := by
      cases instruction with
      | sceneWithFade => exact absurd rfl uncovered
      | _ => rfl
    rw [scope.stage untouched]
    exact ⟨.refl s.stage, scope.coveredScene elsewhere⟩

/-- The tag for a cover lets it pass over the screen and says so, or does nothing. -/
theorem execute_sceneWithFade (h : s.execute isMain .sceneWithFade tag = .ok outcome) :
    outcome.effect.session = s ∨ ∃ scene color fadeIn fadeOut hold,
      outcome.effect.session = ({ s with coveredScene := some scene }.emit
        (.coverScreen color fadeIn fadeOut hold)).setCover true := by
  have h := liftStory_eq_ok.1 h
  unfold goToCoveredScene at h
  split at h
  · cases h
    exact .inl rfl
  · next chapter scene _ =>
    cases hscene : s.story.checkScene ⟨chapter, scene⟩ <;> rw [hscene] at h <;> cases h
    exact .inr ⟨_, _, _, _, _, rfl⟩

end Session

/-! ## Signals -/

/-- A signal that is neither about a sprite nor the end of a cover switches no animation. -/
theorem Signal.effect_turns {instruction : Instruction} {signal : Signal}
    (uncovers : signal ≠ .coverFinished)
    (others : ∀ group name animation, signal ≠ .spriteAnimationStopped group name animation)
    (s : Session) : Stage.Turns instruction s.stage (signal.effect s).session.stage := by
  by_cases touched : signal.scope.stage = true
  · cases signal with
    | dialogAnimationFinished =>
      show Stage.Turns instruction s.stage s.dialogAnimationFinished.session.stage
      rcases s.dialogAnimationFinished_stage with same | gone
      · rw [same]
        exact .refl s.stage
      · rw [gone]
        exact s.stage.hideAll_turns .dialogSprite
    | spriteAnimationStopped group name animation => exact absurd rfl (others group name animation)
    | coverFinished => exact absurd rfl uncovers
    | _ => cases touched
  · rw [(signal.effect_scope s).stage (Bool.eq_false_iff.2 touched)]
    exact .refl s.stage

end VisualNovel

import VisualNovel.Proofs.StageChanges

/-!
# Steps of the stage

All that can happen to the stage between two happenings of a frame is one of eleven steps:
`Stage.Step` lists them, with what is known of the sprites that they touch, and `Happening.steps`
says that there are no others. So an invariant of the stage is proved by one case for each step, and
no operation on sprites has to be opened again.

A step that gives a sprite another nickname is the only one that is tied to the tag that asks for
it: it names the `Request` of the tag.
-/

namespace VisualNovel

/-- A request to load a sprite. -/
structure Request where
  /-- The group. -/
  group : Group
  /-- The name of the asset. -/
  name : String
  /-- The nickname to be given to it. -/
  nickname : String

/-- What a tag asks to load. -/
def Instruction.request? (instruction : Instruction) (tag : Tag) : Option Request :=
  match instruction with
  | .load group =>
    (loadArguments group tag.arguments).map fun (name, nickname) => ⟨group, name, nickname⟩
  | _ => none

/-- What is asked to be loaded when something happens. -/
def Happening.request? : Happening → Option Request
  | .obeyed _ _ instruction tag => instruction.request? tag
  | _ => none

/-- The stages that something can make of a stage, given the request that it is about, if there is
one. -/
inductive Stage.Step (assets : Assets) (request? : Option Request) (stage : Stage) :
    Stage → Prop where
  /-- Nothing changes. -/
  | stay : Step assets request? stage stage
  /-- A sprite that is loaded already gets another nickname. -/
  | relabel {request : Request} {sprite : Sprite} (asked : request? = some request)
    (found : (stage.cast request.group).find? request.name = some sprite) :
    Step assets request? stage (stage.setCast request.group
      ((stage.cast request.group).insert request.name { sprite with nickname := request.nickname }))
  /-- A sprite is loaded. -/
  | load {group : Group} {name nickname : String} {size : Size}
    (asset : assets.find? group name = some size)
    (absent : (stage.cast group).find? name = none) :
    Step assets request? stage (stage.setCast group ((stage.cast group).insert name
      { name, nickname, width := size.width, height := size.height }))
  /-- A visible sprite is changed by an action. -/
  | edit {group : Group} {action : SpriteAction} {name : String} {sprite changed : Sprite}
    (found : (stage.cast group).find? name = some sprite) (visible : sprite.visible = true)
    (becomes : sprite.Becomes action changed) :
    Step assets request? stage (stage.setCast group ((stage.cast group).insert name changed))
  /-- A group is hidden. -/
  | hideAll (group : Group) :
    Step assets request? stage (stage.setCast group (Cast.hideAll (stage.cast group)))
  /-- A background is shown in the place of all others. -/
  | backdrop (name : String) :
    Step assets request? stage (stage.setCast .background
      (Cast.change (Cast.hideAll stage.background) name Sprite.shown))
  /-- A sprite is shown, and no other one has its nickname. -/
  | appear {group : Group} {name : String} {sprite : Sprite} (front : group ≠ .background)
    (found : (stage.cast group).find? name = some sprite)
    (alone : Cast.visible? (stage.cast group) sprite.nickname = none) :
    Step assets request? stage (stage.setCast group ((stage.cast group).insert name sprite.shown))
  /-- A hidden sprite is shown, and takes over from the visible one with its nickname. -/
  | takeOver {group : Group} {name key : String} {sprite previous successor : Sprite}
    (front : group ≠ .background) (found : (stage.cast group).find? name = some sprite)
    (hidden : sprite.visible = false)
    (namesake : Cast.visible? (stage.cast group) sprite.nickname = some (key, previous))
    (succeeds : Stage.takeOver previous { sprite with name } = .ok successor) :
    Step assets request? stage (stage.setCast group
      (Cast.change ((stage.cast group).insert name successor) previous.name Sprite.hidden))
  /-- The host reports the end of an animation. -/
  | report {group : Group} {name : String} {sprite : Sprite} (animation : Animation)
    (found : (stage.cast group).find? name = some sprite) :
    Step assets request? stage
      (stage.setCast group ((stage.cast group).insert name (sprite.setActive false animation)))
  /-- A cover begins to pass over the screen, or is gone. -/
  | cover (coverActive : Bool) : Step assets request? stage { stage with coverActive }
  /-- A scene begins. -/
  | clear : Step assets request? stage stage.clear

namespace Stage

variable {assets : Assets} {request? : Option Request} {stage t : Stage} {group : Group}

/-! ## Loading and acting -/

/-- A tag that loads a sprite makes a step of the stage. -/
theorem load_steps (stage : Stage) (assets : Assets) (group : Group) (tag : Tag) :
    Step assets ((Instruction.load group).request? tag) stage
      (stage.load assets group tag.arguments) := by
  unfold load
  split
  · exact .stay
  · next name nickname read =>
    split
    · exact .stay
    · next asset =>
      dsimp only
      split
      · next found =>
        have asked : (Instruction.load group).request? tag = some ⟨group, name, nickname⟩ := by
          simp [Instruction.request?, read]
        exact .relabel asked found
      · next absent => exact .load asset absent

/-- A sprite that appears makes one. -/
theorem appear_steps {name : String} (h : stage.appear group name = .ok t) :
    Step assets request? stage t := by
  unfold appear at h
  split at h
  · cases h
    exact .stay
  · next sprite found =>
    split at h
    · cases h
      exact .stay
    · next hidden =>
      obtain ⟨cast, hcast, rfl⟩ := map_eq_ok.1 h
      -- A background takes the place of all others; any other sprite takes over from its namesake.
      by_cases background : group = .background
      · unfold showIn at hcast
        rw [if_pos background] at hcast
        cases hcast
        cases background
        exact .backdrop name
      · unfold showIn at hcast
        rw [if_neg background] at hcast
        split at hcast
        · next alone =>
          cases hcast
          exact .appear background found alone
        · next key previous namesake =>
          obtain ⟨successor, succeeds, rfl⟩ := map_eq_ok.1 hcast
          exact .takeOver background found (by simpa using hidden) namesake succeeds

/-- An edit of the sprite with a nickname makes one. -/
theorem changeVisible_steps {action : SpriteAction} {edit : Edit}
    (makes : edit.Makes fun sprite changed => sprite.Becomes action changed)
    (h : stage.changeVisible group edit.nickname edit.change = .ok t) :
    Step assets request? stage t := by
  unfold changeVisible at h
  split at h
  · cases h
    exact .stay
  · next name sprite namesake =>
    rcases hchange : edit.change sprite with _ | _ | changed <;> rw [hchange] at h <;> cases h
    · exact .stay
    · have visible := List.find?_some namesake
      simp only [Bool.and_eq_true] at visible
      exact .edit (Dict.find?_of_findEntry?_eq_some namesake) visible.1
        (makes sprite changed hchange)

/-- Any action makes one. -/
theorem act_steps {action : SpriteAction} {arguments : Option String}
    (h : stage.act group action arguments = .ok t) : Step assets request? stage t := by
  unfold act at h
  split at h
  · split at h
    · exact appear_steps h
    · cases h
      exact .stay
  · cases h
    exact .hideAll group
  · rcases hedit : action.edit? stage arguments with _ | _ | edit <;> rw [hedit] at h
    · cases h
    · cases h
      exact .stay
    · exact changeVisible_steps (SpriteAction.becomes_of_edit? hedit) h

end Stage

/-! ## Tags and signals -/

namespace Session

variable {s : Session}

/-- **Tags.** A tag takes the stage one step on, whatever its arguments. -/
theorem execute_steps {isMain : Bool} {instruction : Instruction} {tag : Tag} {outcome : Outcome}
    (h : s.execute isMain instruction tag = .ok outcome) :
    Stage.Step s.story.assets (instruction.request? tag) s.stage outcome.effect.session.stage := by
  by_cases touched : instruction.scope.stage = true
  · cases instruction with
    | load group =>
      cases h
      exact s.stage.load_steps s.story.assets group tag
    | sprite group action =>
      obtain ⟨stage, acted, rfl⟩ := map_eq_ok.1 (liftSafe_eq_ok.1 h)
      exact Stage.act_steps acted
    | showBackground =>
      obtain ⟨stage, acted, rfl⟩ := map_eq_ok.1 (liftSafe_eq_ok.1 h)
      exact Stage.act_steps acted
    | hideBackground =>
      obtain ⟨stage, acted, rfl⟩ := map_eq_ok.1 (liftSafe_eq_ok.1 h)
      exact Stage.act_steps acted
    | closeDialog =>
      cases h
      show Stage.Step s.story.assets _ s.stage s.closeDialog.session.stage
      rcases s.closeDialog_stage with same | gone
      · rw [same]
        exact .stay
      · rw [gone]
        exact .hideAll .dialogSprite
    | sceneWithFade =>
      rcases execute_sceneWithFade h with same | ⟨scene, color, fadeIn, fadeOut, hold, covered⟩
      · rw [same]
        exact .stay
      · rw [covered]
        exact .cover true
    | _ => cases touched
  · rw [(s.execute_scope h).stage (Bool.eq_false_iff.2 touched)]
    exact .stay

end Session

/-- **Signals.** A signal takes the stage one step on. -/
theorem Signal.effect_steps {assets : Assets} {request? : Option Request} (signal : Signal)
    (s : Session) : Stage.Step assets request? s.stage (signal.effect s).session.stage := by
  by_cases touched : signal.scope.stage = true
  · cases signal with
    | dialogAnimationFinished =>
      show Stage.Step assets request? s.stage s.dialogAnimationFinished.session.stage
      rcases s.dialogAnimationFinished_stage with same | gone
      · rw [same]
        exact .stay
      · rw [gone]
        exact .hideAll .dialogSprite
    | spriteAnimationStopped group name animation =>
      show Stage.Step assets request? s.stage
        (s.spriteAnimationStopped group name animation).session.stage
      unfold Session.spriteAnimationStopped
      dsimp only
      split
      · exact .stay
      · next found => exact .report animation found
    | coverFinished => exact .cover false
    | _ => cases touched
  · rw [(signal.effect_scope s).stage (Bool.eq_false_iff.2 touched)]
    exact .stay

/-- **Happenings.** Whatever happens takes the stage one step on. -/
theorem Happening.steps (happening : Happening) (s : Session) :
    Stage.Step s.story.assets happening.request? s.stage (happening.apply s).stage := by
  by_cases touched : happening.reach.stage = true
  · cases happening with
    | received signal => exact signal.effect_steps s
    | obeyed isMain freshNames instruction tag =>
      unfold apply
      dsimp only
      rcases hexecute : Session.execute { s with freshNames } isMain instruction tag
        with _ | outcome
      · exact .stay
      · have step := Session.execute_steps hexecute
        exact step
    | sceneBegan _ => exact .clear
    | _ => cases touched
  · rw [(happening.scope s).stage (Bool.eq_false_iff.2 touched)]
    exact .stay

end VisualNovel

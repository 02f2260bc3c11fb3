import VisualNovel.Proofs.Effects

/-!
# What an edit makes of a sprite

The actions on a single visible sprite are many, and their arguments come in many forms. What they
can make of the sprite is said here once: `Sprite.Becomes` has one case for each kind of change,
whatever the arguments were, and `SpriteAction.becomes_of_edit?` says that every edit is one of
them. What all edits have in common, for instance that none gives a sprite another name or a speed
beyond a hundred percent, is then read off the cases.
-/

namespace VisualNovel

/-! ## Speeds and stops -/

/-- The speed lies between one and a hundred percent. -/
def Speed.Legal {δ : Type} (speed : Speed δ) : Prop :=
  1 ≤ speed.percent ∧ speed.percent ≤ 100

/-- Only a legal percentage gives a speed. -/
theorem Speed.legal_of_ofPercent {δ : Type} {percent : Nat} {direction : δ} {speed : Speed δ}
    (h : Speed.ofPercent percent direction = .ok speed) : speed.Legal := by
  unfold ofPercent at h
  split at h
  · next bounds =>
    cases h
    simpa [Legal] using bounds
  · cases h

/-- A speed that is read is legal. -/
theorem Speed.legal_of_readSpeed {δ : Type} {directions : Vocabulary δ} {percent : Nat}
    {direction : String} {speed : Speed δ}
    (h : readSpeed directions percent direction = some speed) :
    speed.Legal := by
  unfold readSpeed at h
  simp only [Option.bind_eq_bind, Option.bind_eq_some_iff] at h
  obtain ⟨direction, -, h⟩ := h
  cases hspeed : Speed.ofPercent percent direction with
  | error _ => rw [hspeed] at h; cases h
  | ok read =>
    rw [hspeed] at h
    cases h
    exact Speed.legal_of_ofPercent hspeed

/-- The animations of the sprite are kept as they should be: every side has one stop at most, and
all speeds are legal. -/
structure Sprite.Sound (sprite : Sprite) : Prop where
  /-- One stop for a side. -/
  stops : (sprite.movement.stops.map Prod.fst).Nodup
  /-- The speed of the fade. -/
  fade : ∀ speed, sprite.fade.speed = some speed → speed.Legal
  /-- The speed of the change of scale. -/
  scale : ∀ speed, sprite.scale.speed = some speed → speed.Legal
  /-- The speed of the turn. -/
  turn : ∀ speed, sprite.turn.speed = some speed → speed.Legal

/-- The new stop of a side takes the place of the old one. -/
theorem Movement.nodup_stops_addStop {movement : Movement}
    (h : (movement.stops.map Prod.fst).Nodup) (side : Side) (position : Int) :
    ((movement.addStop side position).stops.map Prod.fst).Nodup := by
  unfold addStop
  rw [List.map_append, List.nodup_append]
  refine ⟨h.sublist (List.filter_sublist.map Prod.fst), List.pairwise_singleton _ _, ?_⟩
  intro kept hkept added hadded
  obtain ⟨stop, hstop, rfl⟩ := List.mem_map.1 hkept
  rw [List.mem_singleton.1 hadded]
  simpa using (List.mem_filter.1 hstop).2

/-! ## The changes -/

/-- What an action can make of the sprite that it is about. -/
inductive Sprite.Becomes (sprite : Sprite) : SpriteAction → Sprite → Prop where
  /-- It is hidden. -/
  | hide : sprite.Becomes .hide sprite.hidden
  /-- It is flipped both ways. -/
  | flipBoth : sprite.Becomes .flipBoth (sprite.flip true true)
  /-- It is flipped from left to right. -/
  | flipHorizontal : sprite.Becomes .flipHorizontal (sprite.flip true false)
  /-- It is flipped from top to bottom. -/
  | flipVertical : sprite.Becomes .flipVertical (sprite.flip false true)
  /-- It is moved on the horizontal axis. -/
  | setPositionX (x : Int) : sprite.Becomes .setPositionX { sprite with x }
  /-- It is moved on the vertical axis. -/
  | setPositionY (y : Int) : sprite.Becomes .setPositionY { sprite with y }
  /-- It is moved on both axes. -/
  | setCenter (x y : Int) : sprite.Becomes .setCenter { sprite with x, y }
  /-- It is aligned with another one. -/
  | centerXWith (x : Int) : sprite.Becomes .centerXWith { sprite with x }
  /-- Its movement gets a stop. -/
  | stopMovementCondition (stop : Side × Int) :
    sprite.Becomes .stopMovementCondition (sprite.withStop stop)
  /-- Its movement gets a velocity. -/
  | move (velocity : Velocity) :
    sprite.Becomes .move
      { sprite with movement := { sprite.movement with velocity := some velocity } }
  /-- An animation is switched on. -/
  | start (animation : Animation) :
    sprite.Becomes (.start animation) (sprite.setActive true animation)
  /-- An animation is switched off. -/
  | stop (animation : Animation) : sprite.Becomes (.stop animation) (sprite.switchOff animation)
  /-- The end of an animation gets a script. -/
  | afterStop (animation : Animation) (script : Option String) :
    sprite.Becomes (.afterStop animation) (sprite.setStopScript script animation)
  /-- An animation gets a delay. -/
  | delay (animation : Animation) (frames : Nat) :
    sprite.Becomes (.delay animation) (sprite.setDelay frames animation)
  /-- A movement gets a delay on either axis. -/
  | moveDelay (delay : Nat × Nat) :
    sprite.Becomes (.delay .move) { sprite with movement := { sprite.movement with delay } }
  /-- The fade gets a goal. -/
  | fadeGoal (goal : Option Number.Single) :
    sprite.Becomes .fadeGoal { sprite with fade := { sprite.fade with goal } }
  /-- The opacity is set. -/
  | fadeCurrent (current : Option Number.Single) :
    sprite.Becomes .fadeCurrent { sprite with fade := { sprite.fade with current } }
  /-- The fade gets a speed. -/
  | fadeSpeed {speed : Speed FadeDirection} (legal : speed.Legal) :
    sprite.Becomes .fadeSpeed (sprite.setFadeSpeed speed)
  /-- The change of scale gets a speed. -/
  | scaleSpeed {speed : Speed ScaleDirection} (legal : speed.Legal) :
    sprite.Becomes .scaleSpeed { sprite with scale := { sprite.scale with speed := some speed } }
  /-- The change of scale gets a goal. -/
  | scaleGoal (goal : Option Number.Single) :
    sprite.Becomes .scaleGoal { sprite with scale := { sprite.scale with goal } }
  /-- The scale is set. -/
  | scaleCurrent (current : Option Number.Single) :
    sprite.Becomes .scaleCurrent { sprite with scale := { sprite.scale with current } }
  /-- The angle is set. -/
  | turnCurrent (current : Option Number.Single) :
    sprite.Becomes .turnCurrent { sprite with turn := { sprite.turn with current } }
  /-- The turn gets a goal, or none. -/
  | turnGoal (goal : Option Number.Single) :
    sprite.Becomes .turnGoal { sprite with turn := { sprite.turn with goal } }
  /-- The turn gets a speed. -/
  | turnSpeed {speed : Speed TurnDirection} (legal : speed.Legal) :
    sprite.Becomes .turnSpeed { sprite with turn := { sprite.turn with speed := some speed } }

namespace Sprite

variable {sprite changed : Sprite} {action : SpriteAction}

/-- The second sprite is the first one under its name and nickname, and of its size. -/
structure Resembles (sprite changed : Sprite) : Prop where
  /-- The name of the asset. -/
  name : changed.name = sprite.name
  /-- The nickname. -/
  nickname : changed.nickname = sprite.nickname
  /-- The width. -/
  width : changed.width = sprite.width
  /-- The height. -/
  height : changed.height = sprite.height

/-- A sprite with an animation switched is still itself. -/
theorem setActive_resembles (sprite : Sprite) (active : Bool) (animation : Animation) :
    sprite.Resembles (sprite.setActive active animation) := by
  cases animation <;> exact ⟨rfl, rfl, rfl, rfl⟩

/-- It is seen if it was. -/
theorem visible_setActive (sprite : Sprite) (active : Bool) (animation : Animation) :
    (sprite.setActive active animation).visible = sprite.visible := by
  cases animation <;> rfl

/-- Its animations are kept as they should be. -/
theorem Sound.setActive (h : sprite.Sound) (active : Bool) (animation : Animation) :
    (sprite.setActive active animation).Sound := by
  obtain ⟨stops, fade, scale, turn⟩ := h
  cases animation <;> exact ⟨stops, fade, scale, turn⟩

/-- No action on a sprite makes another one of it. -/
theorem Becomes.resembles (h : sprite.Becomes action changed) : sprite.Resembles changed := by
  cases h with
  | start animation => exact sprite.setActive_resembles true animation
  | stop animation => cases animation <;> exact ⟨rfl, rfl, rfl, rfl⟩
  | afterStop animation script => cases animation <;> exact ⟨rfl, rfl, rfl, rfl⟩
  | delay animation frames => cases animation <;> exact ⟨rfl, rfl, rfl, rfl⟩
  | _ => exact ⟨rfl, rfl, rfl, rfl⟩

/-- No action on a sprite shows it, and only one hides it. -/
theorem Becomes.visible (h : sprite.Becomes action changed) :
    changed.visible = (sprite.visible && action != .hide) := by
  have kept : sprite.visible = (sprite.visible && true) := (Bool.and_true _).symm
  cases h with
  | hide => exact (Bool.and_false _).symm
  | start animation => cases animation <;> exact kept
  | stop animation => cases animation <;> exact kept
  | afterStop animation script => cases animation <;> exact kept
  | delay animation frames => cases animation <;> exact kept
  | _ => exact kept

/-- Every action on a sprite keeps its animations as they should be. -/
theorem Becomes.sound (h : sprite.Becomes action changed) (sound : sprite.Sound) :
    changed.Sound := by
  obtain ⟨stops, fade, scale, turn⟩ := sound
  cases h with
  | stopMovementCondition stop =>
    exact ⟨Movement.nodup_stops_addStop stops stop.1 stop.2, fade, scale, turn⟩
  | fadeSpeed legal => exact ⟨stops, fun _ set => Option.some.inj set ▸ legal, scale, turn⟩
  | scaleSpeed legal => exact ⟨stops, fade, fun _ set => Option.some.inj set ▸ legal, turn⟩
  | turnSpeed legal => exact ⟨stops, fade, scale, fun _ set => Option.some.inj set ▸ legal⟩
  | start animation => exact Sound.setActive ⟨stops, fade, scale, turn⟩ true animation
  | stop animation => cases animation <;> exact ⟨stops, fade, scale, turn⟩
  | afterStop animation script => cases animation <;> exact ⟨stops, fade, scale, turn⟩
  | delay animation frames => cases animation <;> exact ⟨stops, fade, scale, turn⟩
  | _ => exact ⟨stops, fade, scale, turn⟩

/-! ## Positions -/

/-- A sprite that is centred across changes its place across only. -/
theorem centeredX_eq_ok {x : Int} (h : sprite.centeredX x = .ok changed) :
    ∃ left, changed = { sprite with x := left } := by
  obtain ⟨left, -, rfl⟩ := map_eq_ok.1 h
  exact ⟨left, rfl⟩

/-- A sprite that is centred down changes its place down only. -/
theorem centeredY_eq_ok {y : Int} (h : sprite.centeredY y = .ok changed) :
    ∃ upper, changed = { sprite with y := upper } := by
  obtain ⟨upper, -, rfl⟩ := map_eq_ok.1 h
  exact ⟨upper, rfl⟩

/-- A sprite that is centred at a point changes its place only. -/
theorem centeredAt_eq_ok {x y : Int} (h : sprite.centeredAt x y = .ok changed) :
    ∃ left upper, changed = { sprite with x := left, y := upper } := by
  unfold centeredAt at h
  rcases hx : sprite.centeredX x with _ | moved <;> rw [hx] at h
  · cases h
  · obtain ⟨left, rfl⟩ := centeredX_eq_ok hx
    obtain ⟨upper, rfl⟩ := centeredY_eq_ok (show Sprite.centeredY _ y = .ok changed from h)
    exact ⟨left, upper, rfl⟩

end Sprite

/-! ## Edits by their arguments -/

/-- Whatever the edit makes of a sprite is related to it. -/
def Edit.Makes (R : Sprite → Sprite → Prop) (edit : Edit) : Prop :=
  ∀ sprite changed, edit.change sprite = .ok (some changed) → R sprite changed

namespace Edit.Makes

variable {R : Sprite → Sprite → Prop} {arguments : Option String} {edit : Edit}

/-- What a function makes of a sprite is related to it if it always is. -/
theorem of {nickname : String} {change : Sprite → Sprite} (h : ∀ sprite, R sprite (change sprite)) :
    (Edit.of nickname change).Makes R := by
  rintro sprite _ ⟨⟩
  exact h sprite

/-- The same for a computation that may fail. -/
theorem ofSafe {nickname : String} {change : Sprite → Safe Sprite}
    (h : ∀ sprite changed, change sprite = .ok changed → R sprite changed) :
    (Edit.ofSafe nickname change).Makes R := by
  intro sprite changed hchange
  obtain ⟨_, hsprite, ⟨⟩⟩ := map_eq_ok.1 hchange
  exact h sprite changed hsprite

/-- The same for an edit without a value. -/
theorem of_plainEdit? {change : Sprite → Sprite} (h : ∀ sprite, R sprite (change sprite))
    (hedit : plainEdit? arguments change = some edit) : edit.Makes R := by
  obtain ⟨_, -, rfl⟩ := Option.map_eq_some_iff.1 hedit
  exact .of h

/-- The same for an edit with a value. -/
theorem of_valueEdit? {change : Sprite → Number.Single → Sprite}
    (h : ∀ sprite value, R sprite (change sprite value))
    (hedit : valueEdit? arguments change = some edit) : edit.Makes R := by
  obtain ⟨_, -, rfl⟩ := Option.map_eq_some_iff.1 hedit
  exact .of fun sprite => h sprite _

/-- The same for an edit of a speed, where the speed is legal. -/
theorem of_speedEdit? {δ : Type} {directions : Vocabulary δ} {change : Sprite → Speed δ → Sprite}
    (h : ∀ sprite speed, speed.Legal → R sprite (change sprite speed))
    (hedit : speedEdit? directions arguments change = some edit) : edit.Makes R := by
  unfold speedEdit? at hedit
  simp only [Option.bind_eq_bind, Option.bind_eq_some_iff, Option.pure_def, Option.some.injEq]
    at hedit
  obtain ⟨_, -, speed, hspeed, rfl⟩ := hedit
  exact .of fun sprite => h sprite speed (Speed.legal_of_readSpeed hspeed)

/-- The same for an edit of the place across. -/
theorem of_horizontalEdit? {stage : Stage} (h : ∀ sprite x, R sprite { sprite with x })
    (hedit : horizontalEdit? stage arguments = some edit) : edit.Makes R := by
  unfold horizontalEdit? at hedit
  simp only [Option.bind_eq_bind, Option.bind_eq_some_iff, Option.pure_def, Option.some.injEq]
    at hedit
  obtain ⟨_, -, place, -, rfl⟩ := hedit
  refine .ofSafe fun sprite changed hchange => ?_
  obtain ⟨x, -, rfl⟩ := map_eq_ok.1 (show (place.resolve _ _).map _ = .ok changed from hchange)
  exact h sprite x

/-- The same for an edit of the place down. -/
theorem of_verticalEdit? {stage : Stage} (h : ∀ sprite y, R sprite { sprite with y })
    (hedit : verticalEdit? stage arguments = some edit) : edit.Makes R := by
  unfold verticalEdit? at hedit
  simp only [Option.bind_eq_bind, Option.bind_eq_some_iff, Option.pure_def, Option.some.injEq]
    at hedit
  obtain ⟨_, -, place, -, rfl⟩ := hedit
  refine .ofSafe fun sprite changed hchange => ?_
  obtain ⟨y, -, rfl⟩ := map_eq_ok.1 (show (place.resolve _ _).map _ = .ok changed from hchange)
  exact h sprite y

/-- The same for an edit of a movement. -/
theorem of_moveEdit?
    (h : ∀ sprite velocity,
      R sprite { sprite with movement := { sprite.movement with velocity := some velocity } })
    (hedit : moveEdit? arguments = some edit) : edit.Makes R := by
  unfold moveEdit? at hedit
  simp only [Option.bind_eq_bind, Option.bind_eq_some_iff, Option.pure_def, Option.some.injEq]
    at hedit
  obtain ⟨⟨_, x, _, y, _, _⟩, -, xSign, -, ySign, -, rfl⟩ := hedit
  refine .ofSafe fun sprite changed hchange => ?_
  rcases hx : signedPace x xSign with _ | xPace <;> rw [hx] at hchange
  · cases hchange
  · obtain ⟨yPace, -, rfl⟩ :=
      map_eq_ok.1 (show (signedPace y ySign).map _ = .ok changed from hchange)
    exact h sprite ⟨xPace, yPace⟩

/-- The same for an edit of a delay. That of a movement is kept with it. -/
theorem of_delayEdit? {animation : Animation}
    (h : ∀ sprite frames, R sprite (sprite.setDelay frames animation))
    (hmove : animation = .move → ∀ sprite delay,
      R sprite { sprite with movement := { sprite.movement with delay } })
    (hedit : delayEdit? animation arguments = some edit) : edit.Makes R := by
  cases animation <;> obtain ⟨_, -, rfl⟩ := Option.map_eq_some_iff.1 hedit
  case move => exact .of fun sprite => hmove rfl sprite _
  all_goals exact .of fun sprite => h sprite _

/-- The same for an edit of a stop. -/
theorem of_stopEdit? {stage : Stage} (h : ∀ sprite stop, R sprite (sprite.withStop stop))
    (hedit : stopEdit? stage arguments = some edit) : edit.Makes R := by
  unfold stopEdit? at hedit
  split at hedit
  · simp only [Option.bind_eq_bind, Option.bind_eq_some_iff, Option.pure_def, Option.some.injEq]
      at hedit
    obtain ⟨_, -, _, -, rfl⟩ := hedit
    exact .of fun sprite => h sprite _
  · simp only [Option.bind_eq_bind, Option.bind_eq_some_iff, Option.pure_def, Option.some.injEq]
      at hedit
    obtain ⟨⟨_, place, _⟩, -, rfl⟩ := hedit
    intro sprite changed hchange
    dsimp only at hchange
    -- A place that means no stop for this sprite leaves it as it is.
    rcases hplace : placeStop stage place sprite with _ | stop <;> rw [hplace] at hchange
    · cases hchange
    · obtain ⟨stop, -, rfl⟩ := Option.map_eq_some_iff.1 (Except.ok.inj hchange)
      exact h sprite stop

/-- The same for an alignment. -/
theorem of_alignEdit? {stage : Stage} (h : ∀ sprite x, R sprite { sprite with x })
    (hedit : alignEdit? stage arguments = .ok (some edit)) : edit.Makes R := by
  unfold alignEdit? at hedit
  split at hedit
  · cases hedit
  · split at hedit
    · cases hedit
    · obtain ⟨_, -, ⟨⟩⟩ := map_eq_ok.1 (show (Sprite.center _).map _ = .ok (some edit) from hedit)
      refine .ofSafe fun sprite changed hchange => ?_
      obtain ⟨left, rfl⟩ := Sprite.centeredX_eq_ok hchange
      exact h sprite left

end Edit.Makes

/-- **Edits.** Whatever its arguments, an edit makes of a sprite what its action can make of it. -/
theorem SpriteAction.becomes_of_edit? {action : SpriteAction} {stage : Stage}
    {arguments : Option String} {edit : Edit} (h : action.edit? stage arguments = .ok (some edit)) :
    edit.Makes fun sprite changed => sprite.Becomes action changed := by
  cases action with
  | appear => cases h
  | hideAll => cases h
  | hide => exact .of_plainEdit? (fun _ => .hide) (Except.ok.inj h)
  | flipBoth => exact .of_plainEdit? (fun _ => .flipBoth) (Except.ok.inj h)
  | flipHorizontal => exact .of_plainEdit? (fun _ => .flipHorizontal) (Except.ok.inj h)
  | flipVertical => exact .of_plainEdit? (fun _ => .flipVertical) (Except.ok.inj h)
  | setPositionX => exact .of_horizontalEdit? (fun _ x => .setPositionX x) (Except.ok.inj h)
  | setPositionY => exact .of_verticalEdit? (fun _ y => .setPositionY y) (Except.ok.inj h)
  | setCenter =>
    simp only [edit?, Except.ok.injEq, Option.map_eq_some_iff] at h
    obtain ⟨_, -, rfl⟩ := h
    refine .ofSafe fun sprite changed hchange => ?_
    obtain ⟨left, upper, rfl⟩ := Sprite.centeredAt_eq_ok hchange
    exact .setCenter left upper
  | centerXWith =>
    simp only [edit?] at h
    exact .of_alignEdit? (fun _ x => .centerXWith x) h
  | stopMovementCondition =>
    exact .of_stopEdit? (fun _ stop => .stopMovementCondition stop) (Except.ok.inj h)
  | move => exact .of_moveEdit? (fun _ velocity => .move velocity) (Except.ok.inj h)
  | start animation => exact .of_plainEdit? (fun _ => .start animation) (Except.ok.inj h)
  | stop animation => exact .of_plainEdit? (fun _ => .stop animation) (Except.ok.inj h)
  | afterStop animation =>
    simp only [edit?, Except.ok.injEq, Option.map_eq_some_iff] at h
    obtain ⟨_, -, rfl⟩ := h
    exact .of fun _ => .afterStop animation _
  | delay animation =>
    refine .of_delayEdit? (fun _ frames => .delay animation frames) ?_ (Except.ok.inj h)
    rintro rfl sprite delay
    exact .moveDelay delay
  | fadeGoal => exact .of_valueEdit? (fun _ _ => .fadeGoal _) (Except.ok.inj h)
  | fadeCurrent => exact .of_valueEdit? (fun _ _ => .fadeCurrent _) (Except.ok.inj h)
  | fadeSpeed => exact .of_speedEdit? (fun _ _ legal => .fadeSpeed legal) (Except.ok.inj h)
  | scaleSpeed => exact .of_speedEdit? (fun _ _ legal => .scaleSpeed legal) (Except.ok.inj h)
  | scaleGoal => exact .of_valueEdit? (fun _ _ => .scaleGoal _) (Except.ok.inj h)
  | scaleCurrent => exact .of_valueEdit? (fun _ _ => .scaleCurrent _) (Except.ok.inj h)
  | turnCurrent => exact .of_valueEdit? (fun _ _ => .turnCurrent _) (Except.ok.inj h)
  | turnGoal =>
    have h := Except.ok.inj h
    simp only [Option.bind_eq_bind, Option.bind_eq_some_iff, Option.pure_def, Option.some.injEq]
      at h
    obtain ⟨_, -, _, -, rfl⟩ := h
    exact .of fun _ => .turnGoal _
  | turnSpeed => exact .of_speedEdit? (fun _ _ legal => .turnSpeed legal) (Except.ok.inj h)

end VisualNovel

import VisualNovel.Proofs.StageSteps

/-!
# Who is on the stage

Two invariants of the stage, for as long as the host does not put sprites there by itself.

A stage is `Registered` if every sprite is kept under its own name, has the size of its asset, and
has its animations as they should be, and if one background is visible at most. Every step keeps
this, so it holds at all times (`stage_stays_registered`).

A stage is `Addressed` if a nickname reaches one visible sprite of a group at most. Showing a sprite
keeps this, since the sprite takes over from the one that has its nickname. Loading one does not: a
sprite that is visible already gets the nickname of the tag, and another visible one may have it.
This is the only way in which two visible sprites come to share a nickname
(`nicknames_reach_one_sprite`).
-/

namespace VisualNovel

/-! ## Changing one sprite -/

/-- A change of one sprite is seen under its name only. -/
theorem Cast.find?_change (cast : Cast) (name : String) (f : Sprite → Sprite) (other : String) :
    (change cast name f).find? other =
      if other = name then (cast.find? name).map f else cast.find? other := by
  unfold change
  split
  · next sprite found =>
    rw [Dict.find?_insert, found]
    rfl
  · next absent =>
    split
    · next same => rw [same, absent]; rfl
    · rfl

/-- What holds of all sprites of a cast still does if a change of one keeps it. -/
theorem Cast.all_change {P : String → Sprite → Prop} {cast : Cast} {f : Sprite → Sprite}
    (h : cast.All P) (hf : ∀ name sprite, P name sprite → P name (f sprite)) (name : String) :
    (change cast name f).All P := by
  unfold change
  split
  · next sprite found => exact h.insert (hf name sprite (h name sprite found))
  · exact h

/-- A new cast for a group is the cast of that group, and the other groups keep theirs. -/
theorem Stage.cast_setCast (stage : Stage) (group : Group) (cast : Cast) (other : Group) :
    (stage.setCast group cast).cast other = if other = group then cast else stage.cast other := by
  cases group <;> cases other <;> rfl

/-- The cover is none of the casts. -/
theorem Stage.cast_cover (stage : Stage) (coverActive : Bool) (group : Group) :
    ({ stage with coverActive } : Stage).cast group = stage.cast group := by
  cases group <;> rfl

/-- A property of all groups is kept by a change of one group that has it. -/
theorem Stage.forall_setCast {I : Group → Cast → Prop} {stage : Stage} {group : Group} {cast : Cast}
    (h : ∀ group, I group (stage.cast group)) (new : I group cast) (other : Group) :
    I other ((stage.setCast group cast).cast other) := by
  rw [cast_setCast]
  split
  · next here => exact here ▸ new
  · exact h other

/-- A sprite that takes over has its own name and size, and all else but its place from the
other. -/
theorem Stage.takeOver_eq_ok {previous sprite successor : Sprite}
    (h : Stage.takeOver previous sprite = .ok successor) :
    ∃ x y, successor =
      { previous with
        name := sprite.name, width := sprite.width, height := sprite.height, x, y } := by
  unfold takeOver at h
  rcases hcenter : previous.center with _ | ⟨x, y⟩ <;> rw [hcenter] at h
  · cases h
  · obtain ⟨left, upper, rfl⟩ :=
      Sprite.centeredAt_eq_ok (show Sprite.centeredAt _ x y = .ok successor from h)
    exact ⟨left, upper, rfl⟩

/-! ## Sprites under their names -/

/-- The sprite is what a group may keep under a name. -/
structure Sprite.Belongs (assets : Assets) (group : Group) (name : String) (sprite : Sprite) :
    Prop where
  /-- It has that name. -/
  named : sprite.name = name
  /-- It has the size of its asset. -/
  size : assets.find? group name = some ⟨sprite.width, sprite.height⟩
  /-- Its animations are as they should be. -/
  sound : sprite.Sound

/-- The group keeps its sprites as it should. -/
structure Cast.Registered (assets : Assets) (group : Group) (cast : Cast) : Prop where
  /-- Every sprite is where it belongs. -/
  sprites : cast.All (Sprite.Belongs assets group)
  /-- One background is visible at most. -/
  backdrop : group = .background → cast.AtMostOne Sprite.visible

/-- All groups keep their sprites as they should. -/
def Stage.Registered (assets : Assets) (stage : Stage) : Prop :=
  ∀ group, Cast.Registered assets group (stage.cast group)

section registered

variable {assets : Assets} {group : Group} {name : String} {sprite changed : Sprite} {cast : Cast}

/-- A sprite that resembles one that belongs there belongs there too. -/
theorem Sprite.Belongs.resembling (h : sprite.Belongs assets group name)
    (resembles : sprite.Resembles changed) (sound : changed.Sound) :
    changed.Belongs assets group name where
  named := resembles.name.trans h.named
  size := by rw [resembles.width, resembles.height]; exact h.size
  sound := sound

/-- A sprite that is hidden still belongs there. -/
theorem Sprite.Belongs.hidden (h : sprite.Belongs assets group name) :
    sprite.hidden.Belongs assets group name :=
  ⟨h.named, h.size, h.sound.stops, h.sound.fade, h.sound.scale, h.sound.turn⟩

/-- A sprite that is shown still belongs there. -/
theorem Sprite.Belongs.shown (h : sprite.Belongs assets group name) :
    sprite.shown.Belongs assets group name :=
  ⟨h.named, h.size, h.sound.stops, h.sound.fade, h.sound.scale, h.sound.turn⟩

/-- A sprite with a new nickname still belongs there. -/
theorem Sprite.Belongs.relabelled (h : sprite.Belongs assets group name) (nickname : String) :
    Sprite.Belongs assets group name { sprite with nickname } :=
  ⟨h.named, h.size, h.sound.stops, h.sound.fade, h.sound.scale, h.sound.turn⟩

/-- A sprite that is new has no stops and no speeds. -/
theorem Sprite.Belongs.loaded {size : Size} (asset : assets.find? group name = some size)
    (nickname : String) :
    Sprite.Belongs assets group name
      { name, nickname, width := size.width, height := size.height } := by
  refine ⟨rfl, asset, List.nodup_nil, ?_, ?_, ?_⟩ <;>
    · intro speed set
      cases set

/-- A sprite that takes over keeps what is its own, and the animations that it gets are as they
should be. -/
theorem Sprite.Belongs.successor {previous successor : Sprite}
    (h : sprite.Belongs assets group name) (sound : previous.Sound)
    (succeeds : Stage.takeOver previous { sprite with name } = .ok successor) :
    successor.Belongs assets group name := by
  obtain ⟨x, y, rfl⟩ := Stage.takeOver_eq_ok succeeds
  exact ⟨rfl, h.size, sound.stops, sound.fade, sound.scale, sound.turn⟩

namespace Cast.Registered

/-- A sprite may be put in the place of another that is visible if it is. -/
theorem replace (h : Cast.Registered assets group cast) (found : cast.find? name = some sprite)
    (belongs : changed.Belongs assets group name)
    (fewer : changed.visible = true → sprite.visible = true) :
    Cast.Registered assets group (cast.insert name changed) where
  sprites := h.sprites.insert belongs
  backdrop background := (h.backdrop background).replace found fewer

/-- A group that hides all its sprites keeps them as it should. -/
theorem hideAll (h : Cast.Registered assets group cast) :
    Cast.Registered assets group (Cast.hideAll cast) where
  sprites := h.sprites.map fun _ _ belongs => belongs.hidden
  backdrop background := (h.backdrop background).map fun _ visible => by cases visible

/-- So does a group without sprites. -/
theorem empty (assets : Assets) (group : Group) : Cast.Registered assets group .empty :=
  ⟨.empty, fun _ => .empty⟩

end Cast.Registered

/-- Where all backgrounds are hidden but one that is shown, that one alone is visible. -/
theorem Cast.atMostOne_backdrop (cast : Cast) (name : String) {p : Sprite → Bool}
    (visible : ∀ sprite, p sprite = true → sprite.visible = true) :
    (Cast.change (Cast.hideAll cast) name Sprite.shown).AtMostOne p := by
  refine .of_forall name fun other found hfound hp => ?_
  rw [Cast.find?_change] at hfound
  split at hfound
  · assumption
  · rw [Cast.hideAll, Dict.find?_map] at hfound
    obtain ⟨sprite, -, rfl⟩ := Option.map_eq_some_iff.1 hfound
    cases visible _ hp

/-- **Registers.** Every step keeps all sprites where they belong. -/
theorem Stage.Step.registered {request? : Option Request} {stage t : Stage}
    (h : stage.Step assets request? t) (registered : stage.Registered assets) :
    t.Registered assets := by
  cases h with
  | stay => exact registered
  | @relabel request sprite asked found =>
    have here := registered request.group
    exact forall_setCast registered
      (here.replace found ((here.sprites _ _ found).relabelled request.nickname) id)
  | @load group name nickname size asset absent =>
    refine forall_setCast registered
      ⟨(registered group).sprites.insert (.loaded asset nickname), ?_⟩
    exact fun background =>
      ((registered group).backdrop background).insert fun visible => by cases visible
  | @edit group action name sprite changed found visible becomes =>
    have belongs := (registered group).sprites _ _ found
    exact forall_setCast registered ((registered group).replace found
      (belongs.resembling becomes.resembles (becomes.sound belongs.sound)) fun _ => visible)
  | hideAll group => exact forall_setCast registered (registered group).hideAll
  | backdrop name =>
    refine forall_setCast registered ⟨?_, fun _ => Cast.atMostOne_backdrop _ name fun _ => id⟩
    exact Cast.all_change (registered .background).hideAll.sprites
      (fun _ _ belongs => belongs.shown) name
  | @appear group name sprite front found alone =>
    have belongs := (registered group).sprites _ _ found
    exact forall_setCast registered
      ⟨(registered group).sprites.insert belongs.shown, fun background => absurd background front⟩
  | @takeOver group name key sprite previous successor front found hidden namesake succeeds =>
    have belongs := (registered group).sprites _ _ found
    have before := (registered group).sprites _ _ (Dict.find?_of_findEntry?_eq_some namesake)
    refine forall_setCast registered ⟨?_, fun background => absurd background front⟩
    exact Cast.all_change
      ((registered group).sprites.insert (belongs.successor before.sound succeeds))
      (fun _ _ belongs => belongs.hidden) previous.name
  | @report group name sprite animation found =>
    have belongs := (registered group).sprites _ _ found
    refine forall_setCast registered ((registered group).replace found (belongs.resembling
      (sprite.setActive_resembles false animation) (belongs.sound.setActive false animation)) ?_)
    rw [sprite.visible_setActive]
    exact id
  | cover coverActive => exact fun group => stage.cast_cover coverActive group ▸ registered group
  | clear => exact fun group => by cases group <;> exact .empty assets _

end registered

/-! ## Nicknames -/

/-- Whether a sprite is reached by a nickname. -/
def Sprite.answersTo (nickname : String) (sprite : Sprite) : Bool :=
  sprite.visible && sprite.nickname == nickname

/-- A nickname reaches one sprite of the cast at most. -/
def Cast.Addressed (cast : Cast) : Prop :=
  ∀ nickname, cast.AtMostOne (Sprite.answersTo nickname)

/-- In each group, a nickname reaches one sprite at most. -/
def Stage.Addressed (stage : Stage) : Prop :=
  ∀ group, Cast.Addressed (stage.cast group)

/-- The request gives a visible sprite the nickname of another visible one. -/
def Stage.Confuses (stage : Stage) (request : Request) : Prop :=
  ∃ sprite other namesake, (stage.cast request.group).find? request.name = some sprite ∧
    sprite.visible = true ∧ other ≠ request.name ∧
    (stage.cast request.group).find? other = some namesake ∧
    namesake.answersTo request.nickname = true

/-- Only entries have to be looked at. -/
theorem Stage.confuses_iff (stage : Stage) (request : Request) :
    stage.Confuses request ↔
      (∃ sprite ∈ (stage.cast request.group).find? request.name, sprite.visible = true) ∧
      ∃ entry ∈ (stage.cast request.group).entries,
        entry.1 ≠ request.name ∧ entry.2.answersTo request.nickname = true := by
  constructor
  · rintro ⟨sprite, other, namesake, found, visible, different, hother, answers⟩
    exact ⟨⟨sprite, found, visible⟩, (other, namesake), Dict.mem_entries_iff.2 hother,
      different, answers⟩
  · rintro ⟨⟨sprite, found, visible⟩, ⟨other, namesake⟩, hother, different, answers⟩
    exact ⟨sprite, other, namesake, found, visible, different, Dict.mem_entries_iff.1 hother,
      answers⟩

instance (stage : Stage) (request : Request) : Decidable (stage.Confuses request) :=
  decidable_of_iff _ (stage.confuses_iff request).symm

/-- What happens is a load that gives a visible sprite the nickname of another visible one. -/
def Happening.Confuses (s : Session) (happening : Happening) : Prop :=
  ∃ request ∈ happening.request?, s.stage.Confuses request

instance (s : Session) (happening : Happening) : Decidable (happening.Confuses s) :=
  inferInstanceAs (Decidable (∃ request ∈ happening.request?, s.stage.Confuses request))

section addressed

variable {assets : Assets} {request? : Option Request} {stage t : Stage} {group : Group}

/-- A sprite answers to a nickname if it is seen and has it. -/
@[simp] theorem Sprite.answersTo_iff {nickname : String} {sprite : Sprite} :
    sprite.answersTo nickname = true ↔ sprite.visible = true ∧ sprite.nickname = nickname := by
  simp [answersTo]

/-- A sprite that is hidden answers to no nickname. -/
theorem Sprite.answersTo_hidden (nickname : String) (sprite : Sprite) :
    ¬ sprite.hidden.answersTo nickname = true := by
  simp [hidden]

/-- The sprite that a nickname reaches is there and answers to it. -/
theorem Cast.answersTo_of_visible? {cast : Cast} {nickname name : String} {sprite : Sprite}
    (h : Cast.visible? cast nickname = some (name, sprite)) :
    cast.find? name = some sprite ∧ sprite.answersTo nickname = true := by
  have answers := List.find?_some h
  exact ⟨Dict.find?_of_findEntry?_eq_some h, answers⟩

/-- The sprite that a nickname reaches is one that answers to it, and where there is only one, it is
that one. -/
theorem Stage.Addressed.visible?_eq_some_iff (h : stage.Addressed) {nickname : String}
    {sprite : Sprite} :
    stage.visible? group nickname = some sprite ↔
      ∃ name, (stage.cast group).find? name = some sprite ∧ sprite.answersTo nickname = true := by
  unfold visible?
  constructor
  · intro reached
    obtain ⟨⟨name, sprite⟩, first, rfl⟩ := Option.map_eq_some_iff.1 reached
    exact ⟨name, Cast.answersTo_of_visible? first⟩
  · rintro ⟨name, found, answers⟩
    -- The search does not fail, and what it finds has the name of the sprite.
    rcases hfirst : Cast.visible? (stage.cast group) nickname with _ | ⟨first, sprite'⟩
    · have silent := Dict.eq_false_of_findEntry?_eq_none hfirst found
      exact absurd answers (Bool.eq_false_iff.1 silent)
    · obtain ⟨found', answers'⟩ := Cast.answersTo_of_visible? hfirst
      have same := h group nickname name sprite first sprite' found answers found' answers'
      rw [same, found'] at found
      exact found

/-- A sprite takes over without a second one that has the nickname. -/
theorem Cast.atMostOne_takeOver {cast : Cast} {name key nickname : String}
    {previous successor : Sprite} (h : cast.AtMostOne (Sprite.answersTo nickname))
    (before : cast.find? key = some previous) (named : previous.name = key)
    (different : key ≠ name) (same : successor.answersTo nickname = previous.answersTo nickname) :
    (Cast.change (cast.insert name successor) previous.name Sprite.hidden).AtMostOne
      (Sprite.answersTo nickname) := by
  have hide : (cast.insert key previous.hidden).AtMostOne (Sprite.answersTo nickname) :=
    h.insert fun answers => absurd answers (previous.answersTo_hidden nickname)
  have replace : ((cast.insert key previous.hidden).insert name successor).AtMostOne
      (Sprite.answersTo nickname) := by
    refine hide.insert fun answers other found hfound hanswers => ?_
    rw [same] at answers
    rw [Dict.find?_insert] at hfound
    split at hfound
    · cases hfound
      exact absurd hanswers (previous.answersTo_hidden nickname)
    · next elsewhere =>
      exact absurd (h other found key previous hfound hanswers before answers) elsewhere
  -- Hiding the one and setting the other can be done in either order.
  refine replace.congr fun other => ?_
  rw [named, Cast.find?_change]
  simp only [Dict.find?_insert]
  by_cases isKey : other = key
  · simp [isKey, different, before]
  · simp [isKey]

/-- **Nicknames.** Every step that is no confusing request leaves each nickname to one sprite. -/
theorem Stage.Step.addressed (h : stage.Step assets request? t)
    (registered : stage.Registered assets)
    (clear : ∀ request, request? = some request → ¬ stage.Confuses request)
    (addressed : stage.Addressed) :
    t.Addressed := by
  cases h with
  | stay => exact addressed
  | @relabel request sprite asked found =>
    refine forall_setCast addressed fun nickname => (addressed request.group nickname).insert ?_
    intro answers other namesake hother hanswers
    obtain ⟨visible, rfl⟩ := Sprite.answersTo_iff.1 answers
    -- A second sprite that answers to the new nickname would confuse the request.
    by_contra different
    exact clear request asked ⟨sprite, other, namesake, found, visible, different, hother, hanswers⟩
  | @load group name nickname size asset absent =>
    refine forall_setCast addressed fun other => (addressed group other).insert fun answers => ?_
    simp at answers
  | @edit group action name sprite changed found visible becomes =>
    refine forall_setCast addressed fun nickname => (addressed group nickname).replace found ?_
    simp only [Sprite.answersTo_iff, becomes.resembles.nickname, visible]
    exact fun answers => ⟨trivial, answers.2⟩
  | hideAll group =>
    exact forall_setCast addressed fun nickname =>
      (addressed group nickname).map fun sprite answers =>
      absurd answers (sprite.answersTo_hidden nickname)
  | backdrop name =>
    exact forall_setCast addressed fun nickname =>
      Cast.atMostOne_backdrop _ name fun sprite answers =>
      (Sprite.answersTo_iff.1 answers).1
  | @appear group name sprite front found alone =>
    refine forall_setCast addressed fun nickname => (addressed group nickname).insert ?_
    intro answers other namesake hother hanswers
    obtain ⟨-, rfl⟩ := Sprite.answersTo_iff.1 answers
    exact absurd hanswers (Bool.eq_false_iff.1 (Dict.eq_false_of_findEntry?_eq_none alone hother))
  | @takeOver group name key sprite previous successor front found hidden namesake succeeds =>
    -- The sprite that takes over was hidden, so it is not the one that it takes over from.
    obtain ⟨before, answers⟩ := Cast.answersTo_of_visible? namesake
    have different : key ≠ name := by
      rintro rfl
      rw [found] at before
      cases before
      exact absurd (Sprite.answersTo_iff.1 answers).1 (by simp [hidden])
    obtain ⟨x, y, rfl⟩ := Stage.takeOver_eq_ok succeeds
    exact forall_setCast addressed fun nickname =>
      Cast.atMostOne_takeOver (addressed group nickname) before
      ((registered group).sprites _ _ before).named different rfl
  | @report group name sprite animation found =>
    refine forall_setCast addressed fun nickname => (addressed group nickname).replace found ?_
    simp only [Sprite.answersTo_iff, sprite.visible_setActive,
      (sprite.setActive_resembles false animation).nickname]
    exact id
  | cover coverActive => exact fun group => stage.cast_cover coverActive group ▸ addressed group
  | clear => exact fun group nickname => by cases group <;> exact .empty

/-- A load of a sprite that is there gives it the nickname. -/
theorem Stage.load_of_found {arguments : Option String} {name nickname : String} {size : Size}
    {sprite : Sprite} (read : loadArguments group arguments = some (name, nickname))
    (asset : assets.find? group name = some size)
    (found : (stage.cast group).find? name = some sprite) :
    stage.load assets group arguments =
      stage.setCast group ((stage.cast group).insert name { sprite with nickname }) := by
  simp [load, read, asset, found]

/-- What happens keeps each nickname for one sprite unless it is a confusing load, and then it does
not. -/
theorem Happening.addressed_apply_iff {s : Session} (happening : Happening)
    (registered : s.stage.Registered s.story.assets) (addressed : s.stage.Addressed) :
    (happening.apply s).stage.Addressed ↔ ¬ happening.Confuses s := by
  constructor
  · rintro after ⟨request, asked, sprite, other, namesake, found, visible, different,
      hother, answers⟩
    cases happening with
    | obeyed isMain freshNames instruction tag =>
      cases instruction with
      | load group =>
        obtain ⟨⟨name, nickname⟩, read, rfl⟩ := Option.map_eq_some_iff.1 asked
        have stage : (apply s (.obeyed isMain freshNames (.load group) tag)).stage =
            s.stage.load s.story.assets group tag.arguments := rfl
        rw [stage, Stage.load_of_found read ((registered group).sprites _ _ found).size found]
          at after
        -- Both sprites answer to the nickname now.
        have unique := after group nickname name { sprite with nickname } other namesake
        rw [Stage.cast_setCast, if_pos rfl, Dict.find?_insert, if_pos rfl, Dict.find?_insert,
          if_neg different] at unique
        exact different (unique rfl (by simp [visible]) hother answers).symm
      | _ => cases asked
    | _ => cases asked
  · intro clear
    exact (happening.steps s).addressed registered
      (fun request asked confuses => clear ⟨request, asked, confuses⟩) addressed

end addressed

/-! ## Runs -/

/-- **Registers.** Whatever happens, all sprites stay where they belong. -/
theorem Session.registered_replay {s : Session} (h : s.stage.Registered s.story.assets)
    (log : List Happening) : (s.replay log).stage.Registered s.story.assets := by
  induction log generalizing s with
  | nil => exact h
  | cons happening log ih =>
    rw [← happening.story_apply s]
    exact ih (happening.story_apply s ▸ (happening.steps s).registered h)

/-- No load in the log gives a visible sprite the nickname of another visible one. -/
def Session.Clear (s : Session) (log : List Happening) : Prop :=
  ∀ past happening rest, log = past ++ happening :: rest → ¬ happening.Confuses (s.replay past)

/-- A log without an entry is clear. -/
theorem Session.clear_nil (s : Session) : s.Clear [] := by
  intro past happening rest hlog
  simp at hlog

/-- A log is clear if its first entry confuses nobody and the others are clear behind it. -/
theorem Session.clear_cons {s : Session} {happening : Happening} {log : List Happening} :
    s.Clear (happening :: log) ↔ ¬ happening.Confuses s ∧ (happening.apply s).Clear log := by
  constructor
  · intro clear
    refine ⟨clear [] happening log rfl, fun past next rest hlog => ?_⟩
    exact clear (happening :: past) next rest (by rw [hlog, List.cons_append])
  · rintro ⟨first, later⟩ past next rest hlog
    rcases List.cons_eq_append_iff.1 hlog with ⟨rfl, hnext⟩ | ⟨past, rfl, htail⟩
    · cases hnext
      exact first
    · exact later past next rest htail

/-- One happening after another is looked at. -/
def Session.decideClear (s : Session) : (log : List Happening) → Decidable (s.Clear log)
  | [] => isTrue s.clear_nil
  | happening :: log =>
    have := (happening.apply s).decideClear log
    decidable_of_iff _ clear_cons.symm

instance (s : Session) (log : List Happening) : Decidable (s.Clear log) :=
  s.decideClear log

/-- **Nicknames.** Without a confusing load, each nickname is left to one sprite. -/
theorem Session.addressed_replay {s : Session} {log : List Happening} (clear : s.Clear log)
    (registered : s.stage.Registered s.story.assets) (addressed : s.stage.Addressed) :
    (s.replay log).stage.Addressed := by
  induction log generalizing s with
  | nil => exact addressed
  | cons happening log ih =>
    obtain ⟨first, later⟩ := clear_cons.1 clear
    refine ih later ?_ ((happening.addressed_apply_iff registered addressed).2 first)
    exact happening.story_apply s ▸ (happening.steps s).registered registered

namespace Engine

/-- The write leaves the stage alone. -/
def Write.sparesStage : Write → Bool
  | .stage _ => false
  | _ => true

/-- The engines that a story and settings can come to by frames of a kind, while the host leaves the
stage to the story. -/
inductive Staged (frames : Engine → Option Signal → Prop) (story : Story) (settings : Settings) :
    Engine → Prop where
  /-- At the beginning. -/
  | create {engine : Engine} (created : Engine.create story settings = .ok engine) :
    Staged frames story settings engine
  /-- After a frame of the kind that did not crash, whether it failed or not. -/
  | tick {engine : Engine} (staged : Staged frames story settings engine) (signal : Option Signal)
    (frame : frames engine signal)
    (alive : ∀ crash, (engine.tick signal).1 ≠ .error (.crash crash)) :
    Staged frames story settings (engine.tick signal).2
  /-- After a write of the host that leaves the stage alone. -/
  | write {engine : Engine} (staged : Staged frames story settings engine) (write : Write)
    (spares : write.sparesStage = true) : Staged frames story settings (engine.write write)

namespace Staged

variable {frames : Engine → Option Signal → Prop} {story : Story} {settings : Settings}
  {engine : Engine}

/-- Frames leave the story as it is. -/
theorem story_eq (h : Staged frames story settings engine) : engine.session.story = story := by
  induction h with
  | create created =>
    obtain ⟨scene, -, rfl⟩ := create_eq_ok created
    rfl
  | tick _ signal _ _ ih => rw [← replay_log, Session.story_replay, ih]
  | write _ write _ ih => exact (write_ordinary _ write).keeps.story.trans ih

/-- An invariant of the stage holds of all of these engines if it holds of an empty stage and
outlasts the frames of the kind. -/
theorem stage_invariant {I : Stage → Prop} (start : ∀ stage : Stage, I stage.clear)
    (step : ∀ engine signal, Staged frames story settings engine → I engine.session.stage →
      frames engine signal → I (engine.tick signal).2.session.stage)
    (h : Staged frames story settings engine) : I engine.session.stage := by
  induction h with
  | create created =>
    obtain ⟨scene, -, rfl⟩ := create_eq_ok created
    exact start _
  | tick staged signal frame _ ih => exact step _ signal staged ih frame
  | @write engine _ write spares ih =>
    have same : (engine.write write).session.stage = engine.session.stage := by
      cases write with
      | store name value =>
        show ((engine.setVariable? name value).getD engine).session.stage = engine.session.stage
        unfold setVariable?
        cases engine.session.store.set? name value <;> rfl
      | stage _ => cases spares
      | time _ => rfl
      | freshNames _ => rfl
    rw [same]
    exact ih

/-- All groups keep their sprites as they should. -/
theorem registered (h : Staged frames story settings engine) :
    engine.session.stage.Registered engine.session.story.assets := by
  rw [h.story_eq]
  refine stage_invariant (fun stage group => by cases group <;> exact .empty _ _) ?_ h
  intro engine signal staged registered _
  rw [← staged.story_eq] at registered ⊢
  rw [← replay_log]
  exact Session.registered_replay registered _

end Staged

variable {story : Story} {settings : Settings} {engine : Engine}

/-- **The register of sprites.** As long as the host leaves the stage to the story, each group keeps
its sprites under their names, with the sizes of their assets, one stop for a side at most and legal
speeds, and one background at most is visible. It stays so whatever happens, and hence at every
moment of every frame. Every tag keeps it, whatever its arguments. -/
theorem stage_stays_registered (staged : Staged (fun _ _ => True) story settings engine) :
    engine.session.stage.Registered story.assets ∧
    (∀ log, (engine.session.replay log).stage.Registered story.assets) ∧
    ∀ (s : Session) isMain instruction tag outcome, s.stage.Registered s.story.assets →
      s.execute isMain instruction tag = .ok outcome →
      outcome.effect.session.stage.Registered s.story.assets := by
  have registered := staged.registered
  refine ⟨staged.story_eq ▸ registered, fun log => ?_, ?_⟩
  · rw [← staged.story_eq]
    exact Session.registered_replay registered log
  · intro s isMain instruction tag outcome before executed
    exact (Session.execute_steps executed).registered before

/-- A story in which a character takes the place of another one that has its nickname. -/
def parade : Story where
  startup := some ⟨"dawn", "street"⟩
  chapters := .ofEntries [("dawn", { scenes := .ofEntries [("street",
    "<load_character:ann,a>\n<character_show:ann>\n<character_fade_speed:a,40,fade out>\n" ++
    "<load_character:bob,a>\n<character_show:bob>")] })]
  assets := { character := some (.ofEntries [("ann", ⟨10, 20⟩), ("bob", ⟨13, 25⟩)]) }

/-- The engine of that story at the beginning. -/
def paradeNew : Engine :=
  .opening parade {} ⟨"dawn", "street"⟩

/-- The second of its characters, with the fade and the centre of the first. -/
def paradeBob : Sprite where
  name := "bob"
  nickname := "a"
  width := 13
  height := 25
  x := -1
  y := -2
  visible := true
  fade := { current := some fullOpacity, speed := some ⟨40, .fadeOut⟩ }

/-- In the first frame the second character takes over, and no load is confusing. -/
theorem paradeNew_tick :
    Engine.create parade {} = .ok paradeNew ∧ paradeNew.session.Clear (paradeNew.log none) ∧
    (paradeNew.tick none).1 = .ok ([], .finished) ∧
    ((paradeNew.tick none).2.session.stage.cast .character).find? "bob" = some paradeBob ∧
    (((paradeNew.tick none).2.session.stage.cast .character).find? "ann").map Sprite.visible =
      some false := by
  decide +kernel

/-- After the first frame of `parade`, the second character has the speed that was given to the
first, and the stage is in order. -/
theorem parade_is_registered :
    ∃ engine, Staged (fun _ _ => True) parade {} engine ∧
      (engine.session.stage.cast .character).find? "bob" = some paradeBob ∧
      engine.session.stage.Registered parade.assets := by
  obtain ⟨created, -, first, bob, -⟩ := paradeNew_tick
  have staged : Staged (fun _ _ => True) parade {} (paradeNew.tick none).2 :=
    .tick (.create created) none trivial (by simp [first])
  exact ⟨_, staged, bob, (stage_stays_registered staged).1⟩

/-- **One sprite for a nickname.** As long as the host leaves the stage to the story, and no load
gives a visible sprite the nickname of another visible one, each nickname reaches one visible sprite
of a group at most, so that what it reaches is the sprite that answers to it. And of all that can
happen to a stage on which this is so, such a load alone is what ends it. -/
theorem nicknames_reach_one_sprite
    (staged : Staged (fun engine signal => engine.session.Clear (engine.log signal)) story
      settings engine) :
    engine.session.stage.Addressed ∧
    (∀ group nickname sprite, engine.session.stage.visible? group nickname = some sprite ↔
      ∃ name, (engine.session.stage.cast group).find? name = some sprite ∧
        sprite.answersTo nickname = true) ∧
    ∀ (s : Session) (happening : Happening), s.stage.Registered s.story.assets → s.stage.Addressed →
      ((happening.apply s).stage.Addressed ↔ ¬ happening.Confuses s) := by
  have addressed : engine.session.stage.Addressed := by
    refine Staged.stage_invariant (fun stage group nickname => by
      cases group <;> exact .empty) ?_ staged
    intro engine signal staged addressed clear
    rw [← replay_log]
    exact Session.addressed_replay clear staged.registered addressed
  exact ⟨addressed, fun group nickname sprite => addressed.visible?_eq_some_iff,
    fun s happening => happening.addressed_apply_iff⟩

/-- Both characters of `parade` have one nickname. It reaches the one that was shown last. -/
theorem parade_nickname_reaches_bob :
    ∃ engine,
      Staged (fun engine signal => engine.session.Clear (engine.log signal)) parade {} engine ∧
      engine.session.stage.Addressed ∧
      engine.session.stage.visible? .character "a" = some paradeBob := by
  obtain ⟨created, clear, first, bob, -⟩ := paradeNew_tick
  have staged : Staged (fun engine signal => engine.session.Clear (engine.log signal)) parade {}
      (paradeNew.tick none).2 := .tick (.create created) none clear (by simp [first])
  obtain ⟨addressed, reaches, -⟩ := nicknames_reach_one_sprite staged
  exact ⟨_, staged, addressed, (reaches .character "a" paradeBob).2 ⟨"bob", bob, by decide⟩⟩

/-- A story in which a visible character is loaded once more, under the nickname of another one. -/
def mixup : Story where
  startup := some ⟨"dawn", "street"⟩
  chapters := .ofEntries [("dawn", { scenes := .ofEntries [("street",
    "<load_character:ann,a>\n<load_character:bob,b>\n<character_show:ann>\n" ++
    "<character_show:bob>\n<load_character:bob,a>")] })]
  assets := { character := some (.ofEntries [("ann", ⟨10, 20⟩), ("bob", ⟨12, 24⟩)]) }

/-- The engine of that story at the beginning. -/
def mixupNew : Engine :=
  .opening mixup {} ⟨"dawn", "street"⟩

/-- After the first frame both characters are visible and have one nickname. -/
theorem mixup_characters_share_nickname :
    ∃ engine, Staged (fun _ _ => True) mixup {} engine ∧ ¬ engine.session.stage.Addressed := by
  obtain ⟨created, first, ann, bob⟩ :
      Engine.create mixup {} = .ok mixupNew ∧ (mixupNew.tick none).1 = .ok ([], .finished) ∧
      ((mixupNew.tick none).2.session.stage.cast .character).find? "ann" =
        some { name := "ann", nickname := "a", width := 10, height := 20, visible := true } ∧
      ((mixupNew.tick none).2.session.stage.cast .character).find? "bob" =
        some { name := "bob", nickname := "a", width := 12, height := 24, visible := true } := by
    decide +kernel
  have staged : Staged (fun _ _ => True) mixup {} (mixupNew.tick none).2 :=
    .tick (.create created) none trivial (by simp [first])
  refine ⟨_, staged, fun addressed => ?_⟩
  have same := addressed .character "a" "ann" _ "bob" _ ann (by decide) bob (by decide)
  exact absurd same (by decide)

end Engine

end VisualNovel

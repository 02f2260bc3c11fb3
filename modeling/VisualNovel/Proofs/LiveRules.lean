import Mathlib.Logic.Function.Iterate
import VisualNovel.Proofs.SpriteSwaps
import VisualNovel.Proofs.Strides

/-!
# Rules that are live

A look at what the main script waits for is not only a look: the rules that no longer hold are
dropped. What makes a rule live is said here by itself (`WaitRule.Live`). A look keeps the live
rules in their order and finds something to wait for if there is one, so a second look finds the
same rules and drops nothing. A look may also go through the rules twice, to flag them and then to
drop those without a flag: each rule finds the flag that was meant for it
(`WaitRules.lookByFlags_eq`).

Main statement (`WaitRules.looking_is_exact_and_repeatable`): this is so for all rules and all
stages; it does not matter how often a session is asked what holds it; and the rules that come
together by asking for them, looking and clearing hold the cover at most once, no background, and no
sprite without a nickname. The rules of a session come together in this way, whatever happens to it.
-/

namespace VisualNovel

/-! ## Live rules -/

/-- The animation is in progress: it is switched on, and if it is a fade to some opacity, then it is
not there. -/
def Sprite.Plays (sprite : Sprite) (animation : Animation) : Prop :=
  sprite.isActive animation = true ∧
    (animation = .fade → ∀ current ∈ sprite.fade.current, ∀ goal ∈ sprite.fade.goal,
      current.sameValue goal = false)

/-- What is waited for is in progress. -/
def Awaited.Plays (awaited : Awaited) (sprite : Sprite) : Prop :=
  match awaited with
  | .single animation => sprite.Plays animation
  | .all => ∀ animation, sprite.Plays animation
  | .any => ∃ animation, sprite.Plays animation

/-- The rule is live: the cover is passing, or the sprite that the nickname reaches plays what is
waited for. -/
def WaitRule.Live (stage : Stage) : WaitRule → Prop
  | .cover => stage.coverActive = true
  | .sprite group nickname awaited =>
    ∃ name sprite, Cast.Reaches (stage.cast group) nickname name sprite ∧ awaited.Plays sprite

/-- A fade is in progress while it is switched on and away from its goal. -/
theorem Fade.inProgress_iff {fade : Fade} :
    fade.inProgress = true ↔ fade.active = true ∧
      ∀ current ∈ fade.current, ∀ goal ∈ fade.goal, current.sameValue goal = false := by
  unfold inProgress
  rw [Bool.and_eq_true]
  refine and_congr_right fun _ => ?_
  cases fade.current with
  | none => simp
  | some current =>
    cases fade.goal with
    | none => simp
    | some goal => simp

/-- An animation is in progress if waiting for it alone says so. -/
theorem Sprite.plays_iff {sprite : Sprite} {animation : Animation} :
    sprite.Plays animation ↔ (Awaited.single animation).inProgress sprite = true := by
  have switched (other : animation ≠ .fade) : sprite.Plays animation ↔
      sprite.isActive animation = true :=
    and_iff_left fun same => absurd same other
  cases animation with
  | fade =>
    show _ ↔ sprite.fade.inProgress = true
    rw [Fade.inProgress_iff]
    exact and_congr_right fun _ => ⟨fun away => away rfl, fun away _ => away⟩
  | move => exact switched (by decide)
  | scale => exact switched (by decide)
  | turn => exact switched (by decide)

/-- There are four animations. -/
theorem Animation.forall_iff {P : Animation → Prop} :
    (∀ animation, P animation) ↔ P .fade ∧ P .move ∧ P .scale ∧ P .turn := by
  constructor
  · exact fun all => ⟨all .fade, all .move, all .scale, all .turn⟩
  · rintro ⟨fade, move, scale, turn⟩ animation
    cases animation <;> assumption

/-- One of the animations is one of the four. -/
theorem Animation.exists_iff {P : Animation → Prop} :
    (∃ animation, P animation) ↔ P .fade ∨ P .move ∨ P .scale ∨ P .turn := by
  constructor
  · rintro ⟨animation, holds⟩
    cases animation <;> simp [holds]
  · rintro (holds | holds | holds | holds) <;> exact ⟨_, holds⟩

/-- What is waited for is in progress exactly if it plays. -/
theorem Awaited.inProgress_iff {awaited : Awaited} {sprite : Sprite} :
    awaited.inProgress sprite = true ↔ awaited.Plays sprite := by
  cases awaited with
  | single animation => exact Sprite.plays_iff.symm
  | all =>
    show sprite.isFullyAnimating = true ↔ ∀ animation, sprite.Plays animation
    simp only [Animation.forall_iff, Sprite.plays_iff, inProgress, Sprite.isFullyAnimating,
      Bool.and_eq_true, and_assoc]
  | any =>
    show sprite.isAnimating = true ↔ ∃ animation, sprite.Plays animation
    simp only [Animation.exists_iff, Sprite.plays_iff, inProgress, Sprite.isAnimating,
      Bool.or_eq_true, or_assoc]

/-- A rule holds if it is live. -/
theorem WaitRule.holds_iff {rule : WaitRule} {stage : Stage} :
    rule.holds stage = true ↔ rule.Live stage := by
  cases rule with
  | cover => exact Iff.rfl
  | sprite group nickname awaited =>
    unfold holds Live Stage.visible?
    dsimp only
    constructor
    · intro holds
      rcases found : Cast.visible? (stage.cast group) nickname with _ | ⟨name, sprite⟩
        <;> rw [found] at holds
      · cases holds
      · exact ⟨name, sprite, Cast.visible?_eq_some_iff.1 found, Awaited.inProgress_iff.1 holds⟩
    · rintro ⟨name, sprite, reached, plays⟩
      rw [Cast.visible?_eq_some_iff.2 reached]
      exact Awaited.inProgress_iff.2 plays

instance (stage : Stage) (rule : WaitRule) : Decidable (rule.Live stage) :=
  decidable_of_iff _ WaitRule.holds_iff

/-! ## Looks -/

namespace WaitRules

variable {rules : WaitRules} {stage : Stage}

/-- A look keeps the live rules in their order. -/
theorem holding_eq (rules : WaitRules) (stage : Stage) :
    rules.holding stage = rules.filter fun rule => decide (rule.Live stage) := by
  unfold holding
  refine List.filter_congr fun rule _ => ?_
  rw [← Bool.coe_iff_coe, decide_eq_true_iff]
  exact WaitRule.holds_iff

/-- Some rule holds if one of them is live. -/
theorem isEmpty_holding_iff :
    (!(rules.holding stage).isEmpty) = true ↔ ∃ rule ∈ rules, rule.Live stage := by
  rw [Bool.not_eq_true', List.isEmpty_eq_false_iff_exists_mem]
  simp only [holding, List.mem_filter, WaitRule.holds_iff]

/-! ### A look in two passes -/

/-- The rules whose flags are set. Each rule takes the next flag, and a rule without a flag is
dropped. -/
def retain : WaitRules → List Bool → WaitRules
  | [], _ => []
  | _ :: rules, [] => retain rules []
  | rule :: rules, flag :: flags => if flag then rule :: retain rules flags else retain rules flags

/-- A look in which first all rules are flagged that hold, and then the rules are gone through again
and those without a flag dropped. It finds something to wait for if a flag is set. -/
def lookByFlags (rules : WaitRules) (stage : Stage) : Bool × WaitRules :=
  let flags := rules.map (·.holds stage)
  (flags.any id, rules.retain flags)

/-- Each rule finds its own flag, so that those of a kind are kept. -/
theorem retain_map (p : WaitRule → Bool) (rules : WaitRules) :
    rules.retain (rules.map p) = rules.filter p := by
  induction rules with
  | nil => rfl
  | cons rule rules ih =>
    rw [List.map_cons, retain, ih]
    cases holds : p rule with
    | true => rw [if_pos rfl, List.filter_cons_of_pos holds]
    | false => rw [if_neg Bool.false_ne_true, List.filter_cons_of_neg (by simp [holds])]

/-- Both passes together keep the rules that hold, and find something if there is one. -/
theorem lookByFlags_eq (rules : WaitRules) (stage : Stage) :
    rules.lookByFlags stage = (!(rules.holding stage).isEmpty, rules.holding stage) := by
  have found : (rules.map (·.holds stage)).any id = !(rules.holding stage).isEmpty := by
    rw [List.any_map, Bool.eq_iff_iff, List.any_eq_true, Bool.not_eq_true',
      List.isEmpty_eq_false_iff_exists_mem]
    simp only [holding, List.mem_filter, Function.comp_apply, id_eq]
  have kept : rules.retain (rules.map (·.holds stage)) = rules.holding stage := retain_map _ rules
  exact Prod.ext found kept

end WaitRules

namespace Session

variable (s : Session)

/-- A second look at a session finds the same and changes nothing. -/
theorem heldBy_again : s.heldBy.2.heldBy = s.heldBy := by
  rw [heldBy_eq s.heldBy.2, ownHold_heldBy, awaited_heldBy, heldBy_eq]

/-- By induction on the number of looks. -/
theorem iterate_heldBy (looks : Nat) :
    (fun s : Session => s.heldBy.2)^[looks + 1] s = s.heldBy.2 := by
  induction looks with
  | zero => rfl
  | succ looks ih => rw [Function.iterate_succ_apply', ih, heldBy_again]

/-- The session is held by an animation if nothing comes before it and a rule is live. -/
theorem heldBy_eq_animation_iff :
    s.heldBy.1 = some .animation ↔
      s.dialog.animating = none ∧ s.pause.halt.halted = false ∧ s.pause.rest.isResting = false ∧
        ∃ rule ∈ s.waits, rule.Live s.stage := by
  rw [← WaitRules.isEmpty_holding_iff, ← Option.not_isSome_iff_eq_none]
  unfold heldBy
  dsimp only
  split_ifs <;> simp_all

end Session

/-! ## How rules come together -/

namespace WaitRules

/-- What can be done with rules. -/
inductive Call where
  /-- It is asked to wait for the cover. -/
  | cover
  /-- It is asked to wait for a sprite, in three texts. -/
  | sprite (group nickname awaited : String)
  /-- The rules are looked at. -/
  | look (stage : Stage)
  /-- The rules are dropped. -/
  | clear

/-- The rules afterwards. -/
def Call.apply (rules : WaitRules) : Call → WaitRules
  | cover => rules.addCover
  | sprite group nickname awaited => rules.addSprite group nickname awaited
  | look stage => rules.holding stage
  | clear => []

/-- The rules are as they should be. -/
structure Proper (rules : WaitRules) : Prop where
  /-- One rule at most is about the cover. -/
  cover : rules.count .cover ≤ 1
  /-- All others are about sprites with nicknames that are no backgrounds. -/
  sprite : ∀ group nickname awaited, .sprite group nickname awaited ∈ rules →
    group ≠ .background ∧ nickname ≠ ""

/-- An empty list of rules is as it should be. -/
theorem Proper.nil : Proper [] :=
  ⟨Nat.zero_le 1, fun _ _ _ impossible => nomatch impossible⟩

/-- A rule for a sprite that can be read is for one that is not a background, by a nickname. -/
theorem proper_of_spriteRule? {group nickname awaited : String} {rule : WaitRule}
    (described : spriteRule? group nickname awaited = some rule) :
    ∃ group' awaited', rule = .sprite group' nickname awaited' ∧ group' ≠ .background ∧
      nickname ≠ "" := by
  unfold spriteRule? at described
  split at described
  · cases described
  · next named =>
    have named : nickname ≠ "" := fun empty => named (by rw [empty]; rfl)
    split at described
    · cases described
    · next group' awaited' front _ _ =>
      cases described
      exact ⟨group', awaited', rfl, front, named⟩
    · cases described

variable {rules : WaitRules}

/-- **One call.** Whatever is done with rules that are as they should be, they are so afterwards. -/
theorem Proper.apply (h : rules.Proper) (call : Call) : (call.apply rules).Proper := by
  cases call with
  | cover =>
    show Proper rules.addCover
    unfold addCover
    split
    · exact h
    · next absent =>
      have absent : WaitRule.cover ∉ rules := fun mem => absent (List.contains_iff_mem.2 mem)
      refine ⟨?_, fun group nickname awaited mem => ?_⟩
      · rw [List.count_append, List.count_eq_zero_of_not_mem absent]
        decide
      · refine h.sprite group nickname awaited ?_
        simpa using mem
  | sprite group nickname awaited =>
    show Proper (rules.addSprite group nickname awaited)
    unfold addSprite
    rcases described : spriteRule? group nickname awaited with _ | rule
    · rw [Option.toList_none, List.append_nil]
      exact h
    · obtain ⟨group', awaited', rfl, front, named⟩ := proper_of_spriteRule? described
      refine ⟨?_, fun group nickname awaited mem => ?_⟩
      · rw [List.count_append]
        exact h.cover
      · rcases List.mem_append.1 mem with mem | mem
        · exact h.sprite group nickname awaited mem
        · cases List.mem_singleton.1 mem
          exact ⟨front, named⟩
  | look stage =>
    have kept : (rules.holding stage).Sublist rules := List.filter_sublist
    exact ⟨Nat.le_trans (kept.count_le _) h.cover, fun group nickname awaited mem =>
      h.sprite group nickname awaited (kept.subset mem)⟩
  | clear => exact .nil

/-- **All calls.** By induction on them. -/
theorem Proper.applyAll (h : rules.Proper) (calls : List Call) :
    (calls.foldl Call.apply rules).Proper := by
  induction calls generalizing rules with
  | nil => exact h
  | cons call calls ih => exact ih (h.apply call)

end WaitRules

open WaitRules

/-- The tag that waits for an animation makes some calls. -/
theorem Session.calls_waitForAnimation (s : Session) (arguments : Option String) :
    ∃ calls : List Call, (s.waitForAnimation arguments).waits = calls.foldl Call.apply s.waits := by
  unfold waitForAnimation
  split
  · exact ⟨[.sprite _ _ _], rfl⟩
  · split
    · split
      · exact ⟨[.cover], rfl⟩
      · exact ⟨[], rfl⟩
    · exact ⟨[], rfl⟩

/-- A look at the pauses makes some calls. -/
theorem Session.calls_heldBy (s : Session) :
    ∃ calls : List Call, s.heldBy.2.waits = calls.foldl Call.apply s.waits := by
  rw [heldBy_eq]
  dsimp only
  unfold awaited
  split
  · exact ⟨[], rfl⟩
  · exact ⟨[.look s.stage], rfl⟩

/-- Whatever happens to a session, its rules change by calls. -/
theorem Happening.calls_apply (happening : Happening) (s : Session) :
    ∃ calls : List Call, (happening.apply s).waits = calls.foldl Call.apply s.waits := by
  by_cases touched : happening.reach.waits = true
  · cases happening with
    | obeyed isMain freshNames instruction tag =>
      cases instruction with
      | waitForAnimation => exact Session.calls_waitForAnimation { s with freshNames } tag.arguments
      | _ => cases touched
    | looked => exact s.calls_heldBy
    | sceneBegan scene => exact ⟨[.clear], rfl⟩
    | received signal => cases signal <;> cases touched
    | _ => cases touched
  · exact ⟨[], (happening.scope s).waits (Bool.eq_false_iff.2 touched)⟩

/-- By induction on the log. -/
theorem Session.calls_replay (s : Session) (log : List Happening) :
    ∃ calls : List Call, (s.replay log).waits = calls.foldl Call.apply s.waits := by
  induction log generalizing s with
  | nil => exact ⟨[], rfl⟩
  | cons happening log ih =>
    obtain ⟨first, now⟩ := happening.calls_apply s
    obtain ⟨calls, later⟩ := ih (happening.apply s)
    refine ⟨first ++ calls, ?_⟩
    rw [replay_cons, later, now, List.foldl_append]

/-- **Looking at rules.** For all rules and stages, a look finds something to wait for exactly if
one of the rules is live: the cover is passing, or the first visible sprite that has the nickname
plays the animation, all four of them, or one of them. It keeps the live rules in their order, and a
second look at the same stage keeps them all and finds the same. All this is so if the rules are
first flagged and then gone through again by their flags.

So a session is held by an animation if nothing comes before it and a rule is live, and it may be
asked what holds it again and again: the answer is the same, and from the first time on nothing
changes.

Whatever calls are made, in whatever order, one rule at most is about the cover, and none about a
background or a sprite without a nickname. The rules of a session are such, whatever has happened to
it. -/
theorem WaitRules.looking_is_exact_and_repeatable :
    (∀ (rules : WaitRules) (stage : Stage),
      rules.lookByFlags stage = (!(rules.holding stage).isEmpty, rules.holding stage) ∧
      ((!(rules.holding stage).isEmpty) = true ↔ ∃ rule ∈ rules, rule.Live stage) ∧
      rules.holding stage = rules.filter (fun rule => decide (rule.Live stage)) ∧
      WaitRules.holding (rules.holding stage) stage = rules.holding stage) ∧
    (∀ s : Session,
      (s.heldBy.1 = some .animation ↔
        s.dialog.animating = none ∧ s.pause.halt.halted = false ∧ s.pause.rest.isResting = false ∧
          ∃ rule ∈ s.waits, rule.Live s.stage) ∧
      ∀ looks, ((fun s : Session => s.heldBy.2)^[looks] s).heldBy = s.heldBy) ∧
    (∀ calls : List Call, Proper (calls.foldl Call.apply [])) ∧
    ∀ (story : Story) (settings : Settings) (log : List Happening),
      Proper ((Session.fresh story settings).replay log).waits := by
  refine ⟨fun rules stage => ⟨lookByFlags_eq rules stage, isEmpty_holding_iff,
    holding_eq rules stage,
      holding_holding rules stage⟩,
    fun s => ⟨s.heldBy_eq_animation_iff, fun looks => ?_⟩, fun calls => Proper.nil.applyAll calls,
    fun story settings log => ?_⟩
  · cases looks with
    | zero => rfl
    | succ looks => rw [s.iterate_heldBy, s.heldBy_again]
  · obtain ⟨calls, waits⟩ := (Session.fresh story settings).calls_replay log
    rw [waits]
    exact Proper.nil.applyAll calls

end VisualNovel

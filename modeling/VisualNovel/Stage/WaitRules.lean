import VisualNovel.Stage.Basic

/-!
# Waiting for animations

A script can wait for an animation to end. What it waits for is a list of rules, each about the
cover of the screen or about an animation of a visible sprite. A rule holds while that animation is
in progress; a rule that no longer holds is dropped when the rules are looked at.
-/

namespace VisualNovel

/-- The animations of a sprite that a rule may be about. -/
inductive Awaited where
  /-- One of the four. -/
  | single (animation : Animation)
  /-- All four at once. -/
  | all
  /-- Any of the four. -/
  | any
  deriving DecidableEq, Repr

/-- The keywords for what to wait for. -/
def Awaited.vocabulary : Vocabulary Awaited where
  words := [("fade", .single .fade), ("move", .single .move), ("rotate", .single .turn),
    ("scale", .single .scale), ("all", .all), ("any", .any)]
  complaint := .unknownAnimation

/-- Whether a sprite is animated in this way. -/
def Awaited.inProgress (awaited : Awaited) (sprite : Sprite) : Bool :=
  match awaited with
  | .single .fade => sprite.fade.inProgress
  | .single .move => sprite.movement.active
  | .single .scale => sprite.scale.active
  | .single .turn => sprite.turn.active
  | .all => sprite.isFullyAnimating
  | .any => sprite.isAnimating

/-- What to wait for. -/
inductive WaitRule where
  /-- The cover of the screen. -/
  | cover
  /-- An animation of the visible sprite with a nickname. -/
  | sprite (group : Group) (nickname : String) (awaited : Awaited)
  deriving DecidableEq, Repr

/-- Whether what the rule waits for is in progress. -/
def WaitRule.holds (stage : Stage) : WaitRule → Bool
  | .cover => stage.coverActive
  | .sprite group nickname awaited =>
    match stage.visible? group nickname with
    | some found => awaited.inProgress found
    | none => false

/-- What a script waits for, in the order in which it began to. -/
abbrev WaitRules : Type :=
  List WaitRule

namespace WaitRules

/-- The rules with one about the cover. -/
def addCover (rules : WaitRules) : WaitRules :=
  if rules.contains .cover then rules else rules ++ [.cover]

/-- The rule that three texts describe. It needs a nickname, and there is none about backgrounds. -/
def spriteRule? (group nickname awaited : String) : Option WaitRule :=
  if nickname.isEmpty then none
  else
    match Group.vocabulary.read? group, Awaited.vocabulary.read? awaited with
    | some .background, _ => none
    | some group, some awaited => some (.sprite group nickname awaited)
    | _, _ => none

/-- The rules with one about a sprite, if the texts describe one. -/
def addSprite (rules : WaitRules) (group nickname awaited : String) : WaitRules :=
  rules ++ (spriteRule? group nickname awaited).toList

/-- The rules that hold. -/
def holding (rules : WaitRules) (stage : Stage) : WaitRules :=
  rules.filter (·.holds stage)

end WaitRules

end VisualNovel

import VisualNovel.Proofs.Casting

/-!
# One sprite for another

A nickname reaches the first of the visible sprites that have it, in the order of their names
(`Cast.Reaches`). If a hidden sprite is shown whose nickname reaches another one, then the two
change places: the one that is shown gets everything from the other but its name and its size, and
the other is hidden. It stands where the other stood, since its corner is found from the other's
centre and its own halves, which are cut in the same way in both directions
(`Sprite.center_relieve`).

Main statement (`Session.showing_swaps_two_sprites`): this is all that happens, and as many sprites
are visible as before. It does not happen if one of four sums leaves the range of coordinates, and
then the tag fails.
-/

namespace VisualNovel

open Number

/-! ## Sums that fit -/

namespace Number

/-- A number in range is computed. -/
theorem signed_of_fits {i : Int} (fits : fitsSigned i = true) : signed i = .ok i :=
  if_pos fits

/-- A number out of range is not. -/
theorem signed_of_not_fits {i : Int} (misfit : fitsSigned i = false) :
    signed i = .error .overflow :=
  if_neg (Bool.eq_false_iff.1 misfit)

end Number

/-! ## How many are visible -/

/-- The sprites that are seen are as many as there are in the cast. -/
theorem Cast.length_visible (cast : Cast) : (visible cast).length = cast.count Sprite.visible := by
  rw [visible, Dict.count, Dict.values, ← List.countP_eq_length_filter, List.countP_map]
  rfl

/-! ## Whom a nickname reaches -/

/-- The sprite is the first, in the order of the names, of the visible ones that have a nickname. -/
structure Cast.Reaches (cast : Cast) (nickname name : String) (sprite : Sprite) : Prop where
  /-- It is there, under its name. -/
  kept : cast.find? name = some sprite
  /-- It is visible. -/
  visible : sprite.visible = true
  /-- It has the nickname. -/
  called : sprite.nickname = nickname
  /-- All others come later. -/
  first : ∀ other sprite', cast.find? other = some sprite' → sprite'.visible = true →
    sprite'.nickname = nickname → other ≠ name → name < other

/-- A nickname finds the sprite that it reaches. -/
theorem Cast.visible?_eq_some_iff {cast : Cast} {nickname name : String} {sprite : Sprite} :
    Cast.visible? cast nickname = some (name, sprite) ↔ Cast.Reaches cast nickname name sprite := by
  unfold visible?
  rw [Dict.findEntry?_eq_some_iff]
  simp only [Bool.and_eq_true, beq_iff_eq]
  constructor
  · rintro ⟨kept, ⟨visible, called⟩, first⟩
    exact ⟨kept, visible, called, fun other sprite' found visible' called' =>
      first other sprite' found ⟨visible', called'⟩⟩
  · rintro ⟨kept, visible, called, first⟩
    exact ⟨kept, ⟨visible, called⟩, fun other sprite' found answers =>
      first other sprite' found answers.1 answers.2⟩

/-- A nickname finds nobody if it reaches nobody. -/
theorem Cast.visible?_eq_none_iff {cast : Cast} {nickname : String} :
    Cast.visible? cast nickname = none ↔
      ∀ name sprite, ¬ Cast.Reaches cast nickname name sprite := by
  rw [Option.eq_none_iff_forall_ne_some]
  constructor
  · exact fun none name sprite reached => none (name, sprite) (Cast.visible?_eq_some_iff.2 reached)
  · rintro nobody ⟨name, sprite⟩ found
    exact nobody name sprite (Cast.visible?_eq_some_iff.1 found)

/-! ## Stages that differ in some sprites -/

/-- The second stage differs from the first in the sprites of some names in one group at most. -/
structure Stage.SameBut (group : Group) (names : List String) (stage t : Stage) : Prop where
  /-- The width of the display stays. -/
  displayWidth : t.displayWidth = stage.displayWidth
  /-- The height of the display stays. -/
  displayHeight : t.displayHeight = stage.displayHeight
  /-- The cover stays. -/
  coverActive : t.coverActive = stage.coverActive
  /-- All other sprites of all groups stay, and there are no others. -/
  sprites : ∀ other name, (other = group → name ∉ names) →
    (t.cast other).find? name = (stage.cast other).find? name

/-- With a new cast for a group, the stage differs where that cast does. -/
theorem Stage.sameBut_setCast {stage : Stage} {group : Group} {names : List String} {cast : Cast}
    (same : ∀ name, name ∉ names → cast.find? name = (stage.cast group).find? name) :
    SameBut group names stage (stage.setCast group cast) where
  displayWidth := by cases group <;> rfl
  displayHeight := by cases group <;> rfl
  coverActive := coverActive_setCast stage group cast
  sprites other name elsewhere := by
    rw [cast_setCast]
    split
    · next here => rw [same name (elsewhere here), here]
    · rfl

/-! ## Taking over -/

namespace Sprite

variable {previous sprite successor : Sprite} {name : String}

/-- The sums that are made where a sprite takes over from another one: the centre of the other, and
from it the corner of the sprite. -/
def relaySums (previous sprite : Sprite) : List Int :=
  let x := previous.x + previous.width.tdiv 2
  let y := previous.y + previous.height.tdiv 2
  [x, y, x - sprite.width.tdiv 2, y - sprite.height.tdiv 2]

/-- A sprite of a name and of the size of another, in the place of the first. -/
def relieve (previous sprite : Sprite) (name : String) : Sprite :=
  { previous with
    name
    width := sprite.width
    height := sprite.height
    x := previous.x + previous.width.tdiv 2 - sprite.width.tdiv 2
    y := previous.y + previous.height.tdiv 2 - sprite.height.tdiv 2 }

/-- The successor is the sprite in the place of the one before. -/
structure TakesOver (previous sprite successor : Sprite) : Prop where
  /-- It has its own width. -/
  width : successor.width = sprite.width
  /-- It has its own height. -/
  height : successor.height = sprite.height
  /-- It has its nickname. -/
  nickname : successor.nickname = sprite.nickname
  /-- It is visible. -/
  visible : successor.visible = true
  /-- Its centre is where that of the other was. -/
  center : ∃ point, previous.center = .ok point ∧ successor.center = .ok point
  /-- It is flipped from left to right as the other was. -/
  flippedHorizontally : successor.flippedHorizontally = previous.flippedHorizontally
  /-- It is flipped from top to bottom as the other was. -/
  flippedVertically : successor.flippedVertically = previous.flippedVertically
  /-- It fades like the other. -/
  fade : successor.fade = previous.fade
  /-- It moves like the other. -/
  movement : successor.movement = previous.movement
  /-- Its scale changes like that of the other. -/
  scale : successor.scale = previous.scale
  /-- It turns like the other. -/
  turn : successor.turn = previous.turn

/-- A centre in range is computed. -/
theorem center_of_fits (x : fitsSigned (sprite.x + sprite.width.tdiv 2) = true)
    (y : fitsSigned (sprite.y + sprite.height.tdiv 2) = true) :
    sprite.center = .ok (sprite.x + sprite.width.tdiv 2, sprite.y + sprite.height.tdiv 2) := by
  rw [center, signed_of_fits x, signed_of_fits y]
  rfl

/-- The centre is kept, whatever the halves of the two sizes lose. -/
theorem center_relieve (x : fitsSigned (previous.x + previous.width.tdiv 2) = true)
    (y : fitsSigned (previous.y + previous.height.tdiv 2) = true) (sprite : Sprite)
    (name : String) :
    (previous.relieve sprite name).center = previous.center := by
  rw [center_of_fits x y, center, relieve]
  dsimp only
  rw [Int.sub_add_cancel, Int.sub_add_cancel, signed_of_fits x, signed_of_fits y]
  rfl

/-- A sprite that is seen under the nickname is taken over from, if all sums are in range. -/
theorem takesOver_relieve (fits : ∀ sum ∈ previous.relaySums sprite, fitsSigned sum = true)
    (visible : previous.visible = true) (nickname : previous.nickname = sprite.nickname)
    (name : String) :
    previous.TakesOver sprite (previous.relieve sprite name) := by
  simp only [relaySums, List.forall_mem_cons] at fits
  obtain ⟨x, y, -⟩ := fits
  have center := center_relieve x y sprite name
  exact ⟨rfl, rfl, nickname, visible, ⟨_, center_of_fits x y, center.trans (center_of_fits x y)⟩,
    rfl, rfl, rfl, rfl, rfl, rfl⟩

end Sprite

/-- A sprite takes over if all sums fit, and else one of them is out of range. -/
theorem Stage.takeOver_eq (previous sprite : Sprite) (name : String) :
    Stage.takeOver previous { sprite with name } =
      if (previous.relaySums sprite).all fitsSigned then .ok (previous.relieve sprite name)
      else .error .overflow := by
  unfold takeOver Sprite.center Sprite.centeredAt Sprite.centeredX Sprite.centeredY
  simp only [Sprite.relaySums, List.all_cons, List.all_nil, Bool.and_true]
  cases x : fitsSigned (previous.x + previous.width.tdiv 2) with
  | false => rw [signed_of_not_fits x]; rfl
  | true =>
    rw [signed_of_fits x]
    cases y : fitsSigned (previous.y + previous.height.tdiv 2) with
    | false => rw [signed_of_not_fits y]; rfl
    | true =>
      rw [signed_of_fits y]
      show (signed (previous.x + previous.width.tdiv 2 - sprite.width.tdiv 2) >>= _) >>= _ = _
      cases left : fitsSigned (previous.x + previous.width.tdiv 2 - sprite.width.tdiv 2) with
      | false => rw [signed_of_not_fits left]; rfl
      | true =>
        rw [signed_of_fits left]
        show signed (previous.y + previous.height.tdiv 2 - sprite.height.tdiv 2) >>= _ = _
        cases upper : fitsSigned (previous.y + previous.height.tdiv 2 - sprite.height.tdiv 2) with
        | false => rw [signed_of_not_fits upper]; rfl
        | true => rw [signed_of_fits upper]; rfl

namespace Stage

variable {stage : Stage} {group : Group} {name : String} {sprite previous : Sprite}

/-- The sprite that is shown, in the cast in which the other one is hidden. -/
theorem appear_of_reaches (front : group ≠ .background)
    (loaded : (stage.cast group).find? name = some sprite) (hidden : sprite.visible = false)
    (reached : Cast.Reaches (stage.cast group) sprite.nickname previous.name previous) :
    stage.appear group name =
      if (previous.relaySums sprite).all fitsSigned then
        .ok (stage.setCast group
          (Cast.change ((stage.cast group).insert name (previous.relieve sprite name)) previous.name
            Sprite.hidden))
      else .error .overflow := by
  unfold appear
  rw [loaded]
  simp only [hidden, Bool.false_eq_true, if_false]
  unfold showIn
  rw [if_neg front, Cast.visible?_eq_some_iff.2 reached]
  simp only [takeOver_eq]
  split <;> rfl

end Stage

/-- A sprite that is hidden is not the one that its nickname reaches. -/
theorem Cast.Reaches.ne {cast : Cast} {nickname name other : String} {sprite previous : Sprite}
    (reached : Cast.Reaches cast nickname other previous) (loaded : cast.find? name = some sprite)
    (hidden : sprite.visible = false) : name ≠ other := by
  rintro rfl
  rw [reached.kept] at loaded
  cases loaded
  exact Bool.false_ne_true (hidden.symm.trans reached.visible)

section swap

variable {cast : Cast} {name nickname : String} {sprite previous : Sprite}

/-- The cast after two sprites have changed places: each is what it has become, and all others are
as they were. -/
theorem Cast.find?_swap (reached : Cast.Reaches cast nickname previous.name previous)
    (loaded : cast.find? name = some sprite) (hidden : sprite.visible = false) (successor : Sprite)
    (other : String) :
    (Cast.change (cast.insert name successor) previous.name Sprite.hidden).find? other =
      if other = previous.name then some previous.hidden
      else if other = name then some successor else cast.find? other := by
  rw [Cast.find?_change, Dict.find?_insert, Dict.find?_insert,
    if_neg (reached.ne loaded hidden).symm, reached.kept]
  rfl

/-- One sprite goes and one comes. -/
theorem Cast.length_visible_swap (reached : Cast.Reaches cast nickname previous.name previous)
    (loaded : cast.find? name = some sprite) (hidden : sprite.visible = false) {successor : Sprite}
    (shown : successor.visible = true) :
    (visible (Cast.change (cast.insert name successor) previous.name Sprite.hidden)).length =
      (visible cast).length := by
  have kept : (cast.insert name successor).find? previous.name = some previous := by
    rw [Dict.find?_insert, if_neg (reached.ne loaded hidden).symm, reached.kept]
  have comes := Dict.count_insert Sprite.visible loaded successor
  have goes := Dict.count_insert Sprite.visible kept previous.hidden
  rw [hidden, shown] at comes
  rw [reached.visible, show previous.hidden.visible = false from rfl] at goes
  rw [length_visible, length_visible]
  unfold change
  rw [kept]
  simp only [Bool.toNat_true, Bool.toNat_false] at comes goes ⊢
  omega

end swap

/-! ## Sprites under their names -/

/-- Every sprite of the stage is kept under its name. -/
def Stage.Named (stage : Stage) : Prop :=
  ∀ group, (stage.cast group).All fun name sprite => sprite.name = name

/-- **Names.** Every step leaves all sprites under their names. -/
theorem Stage.Step.named {assets : Assets} {request? : Option Request} {stage t : Stage}
    (h : stage.Step assets request? t) (named : stage.Named) : t.Named := by
  have hide : ∀ (name : String) (sprite : Sprite), sprite.name = name → sprite.hidden.name = name :=
    fun _ _ kept => kept
  have reveal : ∀ (name : String) (sprite : Sprite), sprite.name = name →
      sprite.shown.name = name :=
    fun _ _ kept => kept
  cases h with
  | stay => exact named
  | @relabel request sprite _ found =>
    have kept : sprite.name = request.name := named _ _ _ found
    exact forall_setCast named ((named _).insert kept)
  | load _ _ => exact forall_setCast named ((named _).insert rfl)
  | edit found _ becomes =>
    exact forall_setCast named ((named _).insert (becomes.resembles.name.trans (named _ _ _ found)))
  | hideAll group => exact forall_setCast named ((named group).map hide)
  | backdrop name =>
    exact forall_setCast named (Cast.all_change ((named .background).map hide) reveal name)
  | appear _ found _ =>
    exact forall_setCast named ((named _).insert (reveal _ _ (named _ _ _ found)))
  | @takeOver group name _ sprite previous successor _ _ _ _ succeeds =>
    have own : successor.name = name := by
      obtain ⟨x, y, rfl⟩ := takeOver_eq_ok succeeds
      rfl
    exact forall_setCast named (Cast.all_change ((named _).insert own) hide _)
  | @report group name sprite animation found =>
    exact forall_setCast named
      ((named _).insert ((sprite.setActive_resembles false animation).name.trans
        (named _ _ _ found)))
  | cover coverActive => exact fun group => stage.cast_cover coverActive group ▸ named group
  | clear => exact fun group => by cases group <;> exact .empty

/-! ## The tag -/

/-- A tag that shows a sprite of a group other than the backgrounds is named for the group. -/
theorem Group.ofName?_show {group : Group} (front : group ≠ .background) :
    Instruction.ofName? (group.name ++ "_show") = some (.sprite group .appear) := by
  cases group with
  | background => exact absurd rfl front
  | character => decide +kernel
  | object => decide +kernel
  | dialogSprite => decide +kernel

/-- **Two sprites change places.** A hidden sprite is shown that is not a background, and its
nickname reaches another one. If no sum is out of range, then the sprite is visible under its name,
of its own size and with its nickname, and has all else from the other, the centre included; the
other is hidden and is otherwise as it was; no other sprite of any group and nothing else in the
session changes; and as many sprites of the group are visible as before. If a sum is out of range,
the tag fails for that reason.

The other one has to be kept under its name. This is so as long as all sprites are, and nothing that
happens changes it. -/
theorem Session.showing_swaps_two_sprites (s : Session) (isMain : Bool) {group : Group}
    (front : group ≠ .background) (tag : Tag) {name : String} {sprite previous : Sprite}
    (asked : Shape.name.decode? tag.arguments = some (name, ()))
    (loaded : (s.stage.cast group).find? name = some sprite) (hidden : sprite.visible = false)
    (reached : Cast.Reaches (s.stage.cast group) sprite.nickname previous.name previous) :
    Instruction.ofName? (group.name ++ "_show") = some (.sprite group .appear) ∧
    ((∃ sum ∈ previous.relaySums sprite, fitsSigned sum = false) →
      s.execute isMain (.sprite group .appear) tag = .error (.crash .overflow)) ∧
    ((∀ sum ∈ previous.relaySums sprite, fitsSigned sum = true) →
      ∃ stage successor,
        s.execute isMain (.sprite group .appear) tag = .ok (.ofSession { s with stage }) ∧
        (stage.cast group).find? name = some successor ∧ successor.name = name ∧
        previous.TakesOver sprite successor ∧
        (stage.cast group).find? previous.name = some previous.hidden ∧
        Stage.SameBut group [name, previous.name] s.stage stage ∧
        (Cast.visible (stage.cast group)).length = (Cast.visible (s.stage.cast group)).length) ∧
    (s.stage.Named → ∀ happening : Happening, (happening.apply s).stage.Named) := by
  have acted : s.stage.act group .appear tag.arguments = s.stage.appear group name := by
    rw [Stage.act, asked]
  have executed : s.execute isMain (.sprite group .appear) tag =
      liftSafe ((s.stage.appear group name).map s.withStage) := by
    rw [← acted]
    rfl
  rw [executed, Stage.appear_of_reaches front loaded hidden reached]
  refine ⟨Group.ofName?_show front, ?_, ?_, fun named happening => (happening.steps s).named named⟩
  · rintro ⟨sum, mem, misfit⟩
    have overflows : ¬ (previous.relaySums sprite).all fitsSigned = true := fun all =>
      Bool.false_ne_true (misfit.symm.trans (List.all_eq_true.1 all sum mem))
    rw [if_neg overflows]
    rfl
  · intro fits
    rw [if_pos (List.all_eq_true.2 fits)]
    -- Two sprites change places: one is put where the other was, which is hidden.
    have takesOver := Sprite.takesOver_relieve fits reached.visible reached.called name
    have found := Cast.find?_swap reached loaded hidden (previous.relieve sprite name)
    refine ⟨_, previous.relieve sprite name, rfl, ?_, rfl, takesOver, ?_, ?_, ?_⟩
    · rw [Stage.cast_setCast, if_pos rfl, found, if_neg (reached.ne loaded hidden), if_pos rfl]
    · rw [Stage.cast_setCast, if_pos rfl, found, if_pos rfl]
    · refine Stage.sameBut_setCast fun other elsewhere => ?_
      simp only [List.mem_cons, List.not_mem_nil, or_false, not_or] at elsewhere
      rw [found, if_neg elsewhere.2, if_neg elsewhere.1]
    · rw [Stage.cast_setCast, if_pos rfl]
      exact Cast.length_visible_swap reached loaded hidden takesOver.visible

/-- A character that fades, and is flipped. -/
def swapAnn : Sprite where
  name := "ann"
  nickname := "a"
  width := 101
  height := 200
  x := 30
  y := -7
  visible := true
  flippedVertically := true
  fade := { goal := some fullOpacity, active := true }

/-- A session with two visible characters and a hidden one, which all have one nickname, and an
object of the name of the hidden one. -/
def swapSession : Session :=
  { Session.fresh {} {} with
    stage := {
      displayWidth := 640
      displayHeight := 480
      character := .ofEntries [
        ("ann", swapAnn),
        ("bea", { name := "bea", nickname := "a", width := 10, height := 10, visible := true }),
        ("cat", { name := "cat", nickname := "a", width := 34, height := 75 })]
      object :=
        .ofEntries [("cat", { name := "cat", nickname := "a", width := 4, height := 4 })] } }

/-- The hidden character changes places with the first of the visible ones. Its centre is where that
of the other was, although the width of the one is odd and so is the height of the other. -/
theorem Session.hidden_character_swapped :
    ∃ stage successor,
      swapSession.execute true (.sprite .character .appear) ⟨"character_show", some " cat "⟩ =
        .ok (.ofSession { swapSession with stage }) ∧
      (stage.cast .character).find? "cat" = some successor ∧ successor.center = .ok (80, 93) ∧
      successor.flippedVertically = true ∧
      (stage.cast .character).find? "ann" = some swapAnn.hidden ∧
      (Cast.visible (stage.cast .character)).length = 2 := by
  obtain ⟨asked, loaded, reached, fits, two, center⟩ :
      Shape.name.decode? (some " cat ") = some ("cat", ()) ∧
      (swapSession.stage.cast .character).find? "cat" =
        some { name := "cat", nickname := "a", width := 34, height := 75 } ∧
      Cast.visible? (swapSession.stage.cast .character) "a" = some ("ann", swapAnn) ∧
      (∀ sum ∈ swapAnn.relaySums { name := "cat", nickname := "a", width := 34, height := 75 },
        fitsSigned sum = true) ∧
      (Cast.visible (swapSession.stage.cast .character)).length = 2 ∧
      swapAnn.center = .ok (80, 93) := by
    decide +kernel
  have first : Cast.Reaches (swapSession.stage.cast .character) "a" swapAnn.name swapAnn :=
    Cast.visible?_eq_some_iff.1 reached
  obtain ⟨-, -, swaps, -⟩ := Session.showing_swaps_two_sprites swapSession true (by decide)
    ⟨"character_show", some " cat "⟩ asked loaded rfl first
  obtain ⟨stage, successor, executed, found, -, takesOver, gone, -, same⟩ := swaps fits
  obtain ⟨point, before, after⟩ := takesOver.center
  rw [center] at before
  cases before
  exact ⟨stage, successor, executed, found, after, takesOver.flippedVertically, gone,
    same.trans two⟩

end VisualNovel

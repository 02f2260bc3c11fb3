import Mathlib.Algebra.Group.Int.Defs
import VisualNovel.Proofs.SpriteArguments

/-!
# Coordinates in range

Sprites are placed by their corners, aligned with each other and put in each other's place. Corners
are no good for saying that this does not lead astray: a sprite that takes the place of another one
has a corner that neither of them had, and so has the next one. Centres are handed on as they are.
So the invariant (`Sprite.Moderate`) is about centres, and bounds for the corners follow from it.

Main statement (`Session.coordinates_stay_in_range`): if pictures and displays are moderate in size
and so are all numbers in the tags, then no tag about sprites ever leaves the range of coordinates,
and the corners stay within twice the bound.
-/

namespace VisualNovel

open Number

/-! ## Moderate numbers -/

/-- The size of a picture or of a display, if it is moderate. -/
abbrev Extent (i : Int) : Prop :=
  0 ≤ i ∧ i ≤ 2 ^ 28

/-- A number in a tag, if it is moderate. -/
abbrev Tolerable (i : Int) : Prop :=
  -2 ^ 28 ≤ i ∧ i ≤ 2 ^ 28

/-- Where a centre can be. It lies to the right of the display if the sprite was put there. -/
abbrev Middle (i : Int) : Prop :=
  -2 ^ 28 ≤ i ∧ i ≤ 2 ^ 28 + 2 ^ 27

/-- Where a corner can be. -/
abbrev Corner (i : Int) : Prop :=
  -2 ^ 29 ≤ i ∧ i ≤ 2 ^ 29

/-- A number within the range is computed as it is. -/
theorem Number.signed_of_bounds {i : Int} (lower : -2 ^ 31 ≤ i) (upper : i < 2 ^ 31) :
    signed i = .ok i := by
  refine signed_of_fits ?_
  simp only [fitsSigned, Bool.and_eq_true, decide_eq_true_eq]
  omega

/-- Both halves of an extent, of which the larger one comes last. -/
theorem Extent.halves {i : Int} (extent : Extent i) :
    0 ≤ i.tdiv 2 ∧ i.tdiv 2 ≤ 2 ^ 27 ∧ i.tdiv 2 ≤ i - i.tdiv 2 ∧ i - i.tdiv 2 ≤ 2 ^ 27 := by
  rw [Int.tdiv_eq_ediv_of_nonneg extent.1]
  omega

/-- A moderate picture at a moderate place has its centre where a centre can be. -/
theorem Tolerable.middle {i width : Int} (tolerable : Tolerable i) (extent : Extent width) :
    Middle (i + width.tdiv 2) := by
  have := extent.halves
  omega

/-- A picture with its centre where one can be has its corner where one can be. -/
theorem Middle.corner {i width : Int} (middle : Middle (i + width.tdiv 2)) (extent : Extent width) :
    Corner i := by
  have := extent.halves
  omega

/-! ## Moderate sprites -/

/-- The sprite is moderate in size, and its centre is not far from the display. -/
structure Sprite.Moderate (sprite : Sprite) : Prop where
  /-- Its width. -/
  width : Extent sprite.width
  /-- Its height. -/
  height : Extent sprite.height
  /-- Its centre, on the horizontal axis. -/
  x : Middle (sprite.x + sprite.width.tdiv 2)
  /-- Its centre, on the vertical axis. -/
  y : Middle (sprite.y + sprite.height.tdiv 2)

namespace Sprite

variable {sprite changed previous : Sprite}

/-- The centre of a moderate sprite can be computed. -/
theorem Moderate.center (h : sprite.Moderate) :
    sprite.center = .ok (sprite.x + sprite.width.tdiv 2, sprite.y + sprite.height.tdiv 2) := by
  obtain ⟨-, -, x, y⟩ := h
  rw [Sprite.center, signed_of_bounds (by omega) (by omega), signed_of_bounds (by omega) (by omega)]
  rfl

/-- It depends on the size and the place only. -/
theorem Moderate.of_same (h : sprite.Moderate) (width : changed.width = sprite.width)
    (height : changed.height = sprite.height) (x : changed.x = sprite.x)
    (y : changed.y = sprite.y) :
    changed.Moderate := by
  obtain ⟨hwidth, hheight, hx, hy⟩ := h
  exact ⟨width ▸ hwidth, height ▸ hheight, by rwa [x, width], by rwa [y, height]⟩

/-- A sprite of moderate width can be centred across. -/
theorem centeredX_of_middle (sprite : Sprite) (width : Extent sprite.width) {x : Int}
    (middle : Middle x) :
    sprite.centeredX x = .ok { sprite with x := x - sprite.width.tdiv 2 } := by
  have := width.halves
  rw [centeredX, signed_of_bounds (by omega) (by omega)]
  rfl

/-- A sprite of moderate height can be centred down. -/
theorem centeredY_of_middle (sprite : Sprite) (height : Extent sprite.height) {y : Int}
    (middle : Middle y) :
    sprite.centeredY y = .ok { sprite with y := y - sprite.height.tdiv 2 } := by
  have := height.halves
  rw [centeredY, signed_of_bounds (by omega) (by omega)]
  rfl

/-- A sprite of moderate size may be centred wherever a centre can be, and wherever it was. -/
theorem centeredAt_of_middle (sprite : Sprite) (width : Extent sprite.width)
    (height : Extent sprite.height) {x y : Int} (hx : Middle x) (hy : Middle y) :
    ∃ changed, sprite.centeredAt x y = .ok changed ∧ changed.Moderate := by
  rw [centeredAt, sprite.centeredX_of_middle width hx]
  refine ⟨_, centeredY_of_middle { sprite with x := x - sprite.width.tdiv 2 } height hy,
    width, height, ?_, ?_⟩
  · rwa [Int.sub_add_cancel]
  · rwa [Int.sub_add_cancel]

/-- A moderate sprite stays so when it is centred across. -/
theorem Moderate.centeredX (h : sprite.Moderate) {x : Int} (middle : Middle x) :
    ∃ changed, sprite.centeredX x = .ok changed ∧ changed.Moderate := by
  refine ⟨_, sprite.centeredX_of_middle h.width middle, h.width, h.height, ?_, h.y⟩
  rwa [Int.sub_add_cancel]

/-- A sprite takes over from another one, since the centre stays where it was. -/
theorem Moderate.takeOver (h : previous.Moderate) (sprite : Sprite) (width : Extent sprite.width)
    (height : Extent sprite.height) :
    ∃ successor, Stage.takeOver previous sprite = .ok successor ∧ successor.Moderate := by
  rw [Stage.takeOver, h.center]
  exact centeredAt_of_middle
    { previous with name := sprite.name, width := sprite.width, height := sprite.height }
    width height h.x h.y

end Sprite

/-! ### Places -/

/-- The pixels of a place that is given by them. -/
def Horizontal.pixels? : Horizontal → Option Int
  | .pixels x => some x
  | _ => none

/-- The pixels of a place that is given by them. -/
def Vertical.pixels? : Vertical → Option Int
  | .pixels y => some y
  | _ => none

/-- A sprite at a place has its centre where one can be. -/
theorem Horizontal.resolve_middle {place : Horizontal}
    (tolerable : ∀ x ∈ place.pixels?, Tolerable x) {display width : Int} (room : Extent display)
    (extent : Extent width) :
    ∃ x, place.resolve display width = .ok x ∧ Middle (x + width.tdiv 2) := by
  have := extent.halves
  cases place with
  | start => exact ⟨0, rfl, by omega⟩
  | finish => exact ⟨_, signed_of_bounds (by omega) (by omega), by omega⟩
  | beforeStart => exact ⟨_, signed_of_bounds (by omega) (by omega), by omega⟩
  | afterFinish => exact ⟨display, rfl, by omega⟩
  | pixels x => exact ⟨x, rfl, (tolerable x rfl).middle extent⟩

/-- The same for a vertical place. -/
theorem Vertical.resolve_middle {place : Vertical} (tolerable : ∀ y ∈ place.pixels?, Tolerable y)
    {display height : Int} (room : Extent display) (extent : Extent height) :
    ∃ y, place.resolve display height = .ok y ∧ Middle (y + height.tdiv 2) := by
  have := extent.halves
  cases place with
  | top => exact ⟨0, rfl, by omega⟩
  | bottom => exact ⟨_, signed_of_bounds (by omega) (by omega), by omega⟩
  | aboveTop => exact ⟨_, signed_of_bounds (by omega) (by omega), by omega⟩
  | belowBottom => exact ⟨display, rfl, by omega⟩
  | pixels y => exact ⟨y, rfl, (tolerable y rfl).middle extent⟩

/-- The place where a movement across stops can be computed. -/
theorem Horizontal.stop?_eq_ok (place : Horizontal) (display : Int) {width : Int}
    (extent : Extent width) :
    ∃ stop, place.stop? display width = .ok stop := by
  cases place with
  | beforeStart =>
    rw [stop?, signed_of_bounds (by omega) (by omega)]
    exact ⟨_, rfl⟩
  | _ => exact ⟨_, rfl⟩

/-- So can the one where a movement down stops. -/
theorem Vertical.stop?_eq_ok (place : Vertical) (display : Int) {height : Int}
    (extent : Extent height) :
    ∃ stop, place.stop? display height = .ok stop := by
  cases place with
  | aboveTop =>
    rw [stop?, signed_of_bounds (by omega) (by omega)]
    exact ⟨_, rfl⟩
  | _ => exact ⟨_, rfl⟩

/-- The stop of a moderate sprite can be set. -/
theorem placeStop_eq_ok (stage : Stage) (word : String) {sprite : Sprite} (h : sprite.Moderate) :
    ∃ stop, placeStop stage word sprite = .ok stop := by
  unfold placeStop
  split
  · next place _ => exact place.stop?_eq_ok stage.displayWidth h.width
  · split
    · next place _ => exact place.stop?_eq_ok stage.displayHeight h.height
    · exact ⟨none, rfl⟩

/-- The sign of a direction is minus one or one. -/
theorem signedPace_eq_ok {minus plus word : String} {pixels sign : Int}
    (read : directionSign minus plus word = some sign) (tolerable : Tolerable pixels) :
    ∃ pace, signedPace pixels sign = .ok pace := by
  have unit : sign = -1 ∨ sign = 1 := by
    unfold directionSign at read
    dsimp only at read
    split at read
    · exact .inl (Option.some.inj read).symm
    · split at read
      · exact .inr (Option.some.inj read).symm
      · cases read
  rw [signedPace, signed_of_bounds (by omega) (by omega)]
  refine ⟨_, signed_of_bounds ?_ ?_⟩
  · obtain rfl | rfl := unit <;> omega
  · obtain rfl | rfl := unit <;> omega

/-! ## Edits -/

/-- The action changes the place of the sprite. -/
def SpriteAction.moves : SpriteAction → Bool
  | .setPositionX | .setPositionY | .setCenter | .centerXWith => true
  | _ => false

/-- All other actions leave it where it is. -/
theorem Sprite.Becomes.same_place {sprite changed : Sprite} {action : SpriteAction}
    (h : sprite.Becomes action changed) (still : action.moves = false) :
    changed.x = sprite.x ∧ changed.y = sprite.y := by
  cases h with
  | setPositionX | setPositionY | setCenter | centerXWith => cases still
  | start animation => cases animation <;> exact ⟨rfl, rfl⟩
  | stop animation => cases animation <;> exact ⟨rfl, rfl⟩
  | afterStop animation => cases animation <;> exact ⟨rfl, rfl⟩
  | delay animation => cases animation <;> exact ⟨rfl, rfl⟩
  | _ => exact ⟨rfl, rfl⟩

/-- The edit does not leave the range of coordinates where the sprite is moderate, and it stays
so. -/
def Edit.Keeps (edit : Edit) : Prop :=
  ∀ sprite, sprite.Moderate → ∃ result, edit.change sprite = .ok result ∧ ∀ changed ∈ result,
    changed.Moderate

/-- The edit does not leave the range of coordinates where the sprite is moderate. -/
def Edit.Stays (edit : Edit) : Prop :=
  ∀ sprite, sprite.Moderate → ∃ result, edit.change sprite = .ok result

namespace Edit

variable {edit : Edit} {arguments : Option String}

/-- An edit that computes no coordinate does not leave the range. -/
theorem stays_of (nickname : String) (change : Sprite → Sprite) : (Edit.of nickname change).Stays :=
  fun sprite _ => ⟨some (change sprite), rfl⟩

/-- Neither does an edit without a value. -/
theorem stays_plainEdit? {change : Sprite → Sprite}
    (made : plainEdit? arguments change = some edit) :
    edit.Stays := by
  obtain ⟨_, -, rfl⟩ := Option.map_eq_some_iff.1 made
  exact stays_of _ _

/-- Neither does one with a value. -/
theorem stays_valueEdit? {change : Sprite → Single → Sprite}
    (made : valueEdit? arguments change = some edit) : edit.Stays := by
  obtain ⟨_, -, rfl⟩ := Option.map_eq_some_iff.1 made
  exact stays_of _ _

/-- Neither does one of a speed. -/
theorem stays_speedEdit? {δ : Type} {directions : Vocabulary δ} {change : Sprite → Speed δ → Sprite}
    (made : speedEdit? directions arguments change = some edit) : edit.Stays := by
  unfold speedEdit? at made
  simp only [Option.bind_eq_bind, Option.bind_eq_some_iff, Option.pure_def, Option.some.injEq]
    at made
  obtain ⟨_, -, _, -, rfl⟩ := made
  exact stays_of _ _

/-- Neither does one of a delay. -/
theorem stays_delayEdit? {animation : Animation}
    (made : delayEdit? animation arguments = some edit) :
    edit.Stays := by
  cases animation <;> obtain ⟨_, -, rfl⟩ := Option.map_eq_some_iff.1 made <;> exact stays_of _ _

/-- Neither does one of a stop. -/
theorem stays_stopEdit? {stage : Stage} (made : stopEdit? stage arguments = some edit) :
    edit.Stays := by
  unfold stopEdit? at made
  split at made
  · simp only [Option.bind_eq_bind, Option.bind_eq_some_iff, Option.pure_def, Option.some.injEq]
      at made
    obtain ⟨_, -, _, -, rfl⟩ := made
    exact stays_of _ _
  · simp only [Option.bind_eq_bind, Option.bind_eq_some_iff, Option.pure_def, Option.some.injEq]
      at made
    obtain ⟨⟨_, word, _⟩, -, rfl⟩ := made
    intro sprite moderate
    obtain ⟨stop, found⟩ := placeStop_eq_ok stage word moderate
    dsimp only
    rw [found]
    exact ⟨_, rfl⟩

end Edit

namespace SpriteAction

/-- The coordinates, the places in pixels and the speeds of movements among the arguments of an
action. -/
def coordinates (action : SpriteAction) (arguments : Option String) : List Int :=
  match action with
  | .setPositionX =>
    ((Shape.position.decode? arguments).bind fun (_, place, ()) =>
      (Horizontal.read place).toOption.bind Horizontal.pixels?).toList
  | .setPositionY =>
    ((Shape.position.decode? arguments).bind fun (_, place, ()) =>
      (Vertical.read place).toOption.bind Vertical.pixels?).toList
  | .setCenter => ((Shape.center.decode? arguments).map fun (_, x, y, ()) => [x, y]).getD []
  | .move => ((Shape.move.decode? arguments).map fun (_, x, _, y, _, ()) => [x, y]).getD []
  | _ => []

variable {action : SpriteAction} {stage : Stage} {arguments : Option String} {edit : Edit}

/-- If no place is changed, it is enough to stay in range. -/
theorem keeps_of_stays (made : action.edit? stage arguments = .ok (some edit))
    (still : action.moves = false) (stays : edit.Stays) : edit.Keeps := by
  intro sprite moderate
  obtain ⟨result, changes⟩ := stays sprite moderate
  refine ⟨result, changes, ?_⟩
  rintro changed rfl
  have becomes := becomes_of_edit? made sprite changed changes
  obtain ⟨x, y⟩ := becomes.same_place still
  exact moderate.of_same becomes.resembles.width becomes.resembles.height x y

/-- Neither does one of a movement, if its numbers are moderate. -/
theorem stays_moveEdit? (tolerable : ∀ i ∈ coordinates .move arguments, Tolerable i)
    (made : moveEdit? arguments = some edit) : edit.Stays := by
  unfold moveEdit? at made
  simp only [Option.bind_eq_bind, Option.bind_eq_some_iff, Option.pure_def, Option.some.injEq]
    at made
  obtain ⟨⟨_, x, _, y, _, _⟩, decoded, xSign, hx, ySign, hy, rfl⟩ := made
  rw [coordinates, decoded] at tolerable
  simp only [Option.map_some, Option.getD_some, List.forall_mem_cons] at tolerable
  intro sprite _
  obtain ⟨xPace, xMoves⟩ := signedPace_eq_ok hx tolerable.1
  obtain ⟨yPace, yMoves⟩ := signedPace_eq_ok hy tolerable.2.1
  unfold Edit.ofSafe
  dsimp only
  rw [xMoves, yMoves]
  exact ⟨_, rfl⟩

/-- An action that does not change the place does not leave the range, if its numbers are
moderate. -/
theorem stays_of_edit? (tolerable : ∀ i ∈ action.coordinates arguments, Tolerable i)
    (still : action.moves = false) (made : action.edit? stage arguments = .ok (some edit)) :
    edit.Stays := by
  cases action with
  | appear | hideAll => cases made
  | setPositionX | setPositionY | setCenter | centerXWith => cases still
  | move => exact stays_moveEdit? tolerable (Except.ok.inj made)
  | stopMovementCondition => exact Edit.stays_stopEdit? (Except.ok.inj made)
  | delay animation => exact Edit.stays_delayEdit? (Except.ok.inj made)
  | afterStop animation =>
    obtain ⟨_, -, rfl⟩ := Option.map_eq_some_iff.1 (Except.ok.inj made)
    exact Edit.stays_of _ _
  | turnGoal =>
    obtain ⟨_, -, read⟩ := Option.bind_eq_some_iff.1 (Except.ok.inj made)
    obtain ⟨_, -, ⟨⟩⟩ := Option.bind_eq_some_iff.1 read
    exact Edit.stays_of _ _
  | fadeSpeed | scaleSpeed | turnSpeed => exact Edit.stays_speedEdit? (Except.ok.inj made)
  | fadeGoal | fadeCurrent | scaleGoal | scaleCurrent | turnCurrent =>
    exact Edit.stays_valueEdit? (Except.ok.inj made)
  | hide | flipBoth | flipHorizontal | flipVertical | start | stop =>
    exact Edit.stays_plainEdit? (Except.ok.inj made)

/-- A new place across keeps a sprite moderate, if its numbers are. -/
theorem keeps_horizontalEdit? (room : Extent stage.displayWidth)
    (tolerable : ∀ i ∈ coordinates .setPositionX arguments, Tolerable i)
    (made : horizontalEdit? stage arguments = some edit) : edit.Keeps := by
  unfold horizontalEdit? at made
  simp only [Option.bind_eq_bind, Option.bind_eq_some_iff, Option.pure_def, Option.some.injEq]
    at made
  obtain ⟨⟨_, word, _⟩, decoded, place, read, rfl⟩ := made
  have pixels : ∀ x ∈ place.pixels?, Tolerable x := by
    intro x mem
    refine tolerable x ?_
    rw [coordinates, decoded]
    dsimp only [Option.bind_some] at read ⊢
    rw [read, Option.bind_some, mem]
    exact List.mem_singleton_self x
  intro sprite moderate
  obtain ⟨x, resolved, middle⟩ := Horizontal.resolve_middle pixels room moderate.width
  unfold Edit.ofSafe
  dsimp only
  rw [resolved]
  refine ⟨some { sprite with x }, rfl, ?_⟩
  rintro _ ⟨⟩
  exact ⟨moderate.width, moderate.height, middle, moderate.y⟩

/-- A new place down keeps a sprite moderate, if its numbers are. -/
theorem keeps_verticalEdit? (room : Extent stage.displayHeight)
    (tolerable : ∀ i ∈ coordinates .setPositionY arguments, Tolerable i)
    (made : verticalEdit? stage arguments = some edit) : edit.Keeps := by
  unfold verticalEdit? at made
  simp only [Option.bind_eq_bind, Option.bind_eq_some_iff, Option.pure_def, Option.some.injEq]
    at made
  obtain ⟨⟨_, word, _⟩, decoded, place, read, rfl⟩ := made
  have pixels : ∀ y ∈ place.pixels?, Tolerable y := by
    intro y mem
    refine tolerable y ?_
    rw [coordinates, decoded]
    dsimp only [Option.bind_some] at read ⊢
    rw [read, Option.bind_some, mem]
    exact List.mem_singleton_self y
  intro sprite moderate
  obtain ⟨y, resolved, middle⟩ := Vertical.resolve_middle pixels room moderate.height
  unfold Edit.ofSafe
  dsimp only
  rw [resolved]
  refine ⟨some { sprite with y }, rfl, ?_⟩
  rintro _ ⟨⟩
  exact ⟨moderate.width, moderate.height, moderate.x, middle⟩

/-- A new centre keeps a sprite moderate, if its numbers are. -/
theorem keeps_center (tolerable : ∀ i ∈ coordinates .setCenter arguments, Tolerable i)
    (made : edit? .setCenter stage arguments = .ok (some edit)) : edit.Keeps := by
  simp only [edit?, Except.ok.injEq, Option.map_eq_some_iff] at made
  obtain ⟨⟨_, x, y, _⟩, decoded, rfl⟩ := made
  rw [coordinates, decoded] at tolerable
  simp only [Option.map_some, Option.getD_some, List.forall_mem_cons] at tolerable
  obtain ⟨hx, hy, -⟩ := tolerable
  intro sprite moderate
  obtain ⟨changed, centered, kept⟩ := sprite.centeredAt_of_middle moderate.width moderate.height
    (by omega : Middle x) (by omega : Middle y)
  unfold Edit.ofSafe
  dsimp only
  rw [centered]
  exact ⟨some changed, rfl, fun _ same => Option.some.inj same ▸ kept⟩

end SpriteAction

/-! ## Stages -/

/-- All pictures are moderate in size. -/
def Assets.Moderate (assets : Assets) : Prop :=
  ∀ group name size, assets.find? group name = some size → Extent size.width ∧ Extent size.height

/-- The display and all sprites are moderate. -/
structure Stage.Moderate (stage : Stage) : Prop where
  /-- The width of the display. -/
  displayWidth : Extent stage.displayWidth
  /-- The height of the display. -/
  displayHeight : Extent stage.displayHeight
  /-- The sprites. -/
  sprites : ∀ group, (stage.cast group).All fun _ sprite => sprite.Moderate

namespace Stage.Moderate

variable {stage : Stage} {group : Group}

/-- A moderate stage stays so with a new cast that is moderate. -/
theorem setCast (h : stage.Moderate) {cast : Cast}
    (new : cast.All fun _ sprite => sprite.Moderate) :
    (stage.setCast group cast).Moderate where
  displayWidth := by cases group <;> exact h.displayWidth
  displayHeight := by cases group <;> exact h.displayHeight
  sprites := forall_setCast h.sprites new

/-- A moderate stage stays so with a moderate sprite more. -/
theorem insert (h : stage.Moderate) {sprite : Sprite} (moderate : sprite.Moderate) (name : String) :
    (stage.setCast group ((stage.cast group).insert name sprite)).Moderate :=
  h.setCast ((h.sprites group).insert moderate)

/-- A sprite that is found by its nickname on a moderate stage is moderate. -/
theorem of_visible? (h : stage.Moderate) {nickname name : String} {sprite : Sprite}
    (found : Cast.visible? (stage.cast group) nickname = some (name, sprite)) : sprite.Moderate :=
  h.sprites group name sprite (Cast.visible?_eq_some_iff.1 found).kept

/-- The other sprite hands on its centre, and this is where a centre can be. -/
theorem alignEdit?_keeps (h : stage.Moderate) (arguments : Option String) :
    ∃ edit?, alignEdit? stage arguments = .ok edit? ∧ ∀ edit ∈ edit?, edit.Keeps := by
  have nothing : ∀ edit ∈ (none : Option Edit), edit.Keeps := fun _ impossible => nomatch impossible
  unfold alignEdit?
  split
  · exact ⟨none, rfl, nothing⟩
  · split
    · exact ⟨none, rfl, nothing⟩
    · next found =>
      obtain ⟨group, -, reached⟩ := Option.bind_eq_some_iff.1 found
      obtain ⟨_, visible, rfl⟩ := Option.map_eq_some_iff.1 reached
      have partner := h.of_visible? visible
      rw [partner.center]
      refine ⟨_, rfl, ?_⟩
      rintro _ ⟨⟩ sprite moderate
      obtain ⟨changed, centered, kept⟩ := moderate.centeredX partner.x
      unfold Edit.ofSafe
      dsimp only
      rw [centered]
      exact ⟨some changed, rfl, fun _ same => Option.some.inj same ▸ kept⟩

/-- On a moderate stage it can be computed what an action is to change. -/
theorem edit?_eq_ok (h : stage.Moderate) (action : SpriteAction) (arguments : Option String) :
    ∃ edit?, action.edit? stage arguments = .ok edit? := by
  cases action with
  | centerXWith =>
    obtain ⟨edit?, made, -⟩ := h.alignEdit?_keeps arguments
    exact ⟨edit?, made⟩
  | _ => exact ⟨_, rfl⟩

/-- On a moderate stage an action with moderate numbers keeps its sprite moderate. -/
theorem keeps_of_edit? (h : stage.Moderate) {action : SpriteAction} {arguments : Option String}
    {edit : Edit} (tolerable : ∀ i ∈ action.coordinates arguments, Tolerable i)
    (made : action.edit? stage arguments = .ok (some edit)) : edit.Keeps := by
  cases still : action.moves with
  | false =>
    exact SpriteAction.keeps_of_stays made still (SpriteAction.stays_of_edit? tolerable still made)
  | true =>
    cases action with
    | setPositionX =>
      exact SpriteAction.keeps_horizontalEdit? h.displayWidth tolerable (Except.ok.inj made)
    | setPositionY =>
      exact SpriteAction.keeps_verticalEdit? h.displayHeight tolerable (Except.ok.inj made)
    | setCenter => exact SpriteAction.keeps_center tolerable made
    | centerXWith =>
      obtain ⟨edit?, aligned, keeps⟩ := h.alignEdit?_keeps arguments
      cases aligned.symm.trans made
      exact keeps edit rfl
    | _ => cases still

/-- A moderate stage stays so when the sprite with a nickname is edited. -/
theorem changeVisible (h : stage.Moderate) {edit : Edit} (keeps : edit.Keeps) :
    ∃ t, stage.changeVisible group edit.nickname edit.change = .ok t ∧ t.Moderate := by
  unfold Stage.changeVisible
  split
  · exact ⟨stage, rfl, h⟩
  · next name sprite found =>
    obtain ⟨result, changes, moderate⟩ := keeps sprite (h.of_visible? found)
    rw [changes]
    rcases result with _ | changed
    · exact ⟨stage, rfl, h⟩
    · exact ⟨_, rfl, h.insert (moderate changed rfl) name⟩

/-- A moderate stage stays so when a sprite appears. -/
theorem appear (h : stage.Moderate) (name : String) :
    ∃ t, stage.appear group name = .ok t ∧ t.Moderate := by
  have hide (name : String) (sprite : Sprite) (moderate : sprite.Moderate) :
      sprite.hidden.Moderate :=
    moderate.of_same rfl rfl rfl rfl
  have reveal (name : String) (sprite : Sprite) (moderate : sprite.Moderate) :
      sprite.shown.Moderate :=
    moderate.of_same rfl rfl rfl rfl
  unfold Stage.appear
  split
  · exact ⟨stage, rfl, h⟩
  · next sprite found =>
    have moderate := h.sprites group name sprite found
    split
    · exact ⟨stage, rfl, h⟩
    · unfold showIn
      split
      · exact ⟨_, rfl, h.setCast (Cast.all_change ((h.sprites group).map hide) reveal name)⟩
      · split
        · exact ⟨_, rfl, h.insert (reveal name sprite moderate) name⟩
        · next previous found =>
          obtain ⟨successor, succeeds, kept⟩ :=
            (h.of_visible? found).takeOver { sprite with name } moderate.width moderate.height
          rw [succeeds]
          exact ⟨_, rfl, h.setCast (Cast.all_change ((h.sprites group).insert kept) hide _)⟩

/-- A moderate stage stays so at an action with moderate numbers. -/
theorem act (h : stage.Moderate) {action : SpriteAction} {arguments : Option String}
    (tolerable : ∀ i ∈ action.coordinates arguments, Tolerable i) :
    ∃ t, stage.act group action arguments = .ok t ∧ t.Moderate := by
  unfold Stage.act
  split
  · split
    · exact h.appear _
    · exact ⟨stage, rfl, h⟩
  · exact ⟨_, rfl,
      h.setCast ((h.sprites group).map fun _ _ moderate => moderate.of_same rfl rfl rfl rfl)⟩
  · obtain ⟨edit?, edited⟩ := h.edit?_eq_ok action arguments
    rw [edited]
    rcases edit? with _ | edit
    · exact ⟨stage, rfl, h⟩
    · exact h.changeVisible (h.keeps_of_edit? tolerable edited)

/-- A moderate stage stays so when a picture of moderate size is loaded. -/
theorem load (h : stage.Moderate) {assets : Assets} (sizes : assets.Moderate) (group : Group)
    (arguments : Option String) : (stage.load assets group arguments).Moderate := by
  unfold Stage.load
  split
  · exact h
  · next name nickname _ =>
    split
    · exact h
    · next size asset =>
      obtain ⟨width, height⟩ := sizes group name size asset
      dsimp only
      split
      · next sprite found =>
        refine h.insert ?_ name
        exact (h.sprites group name sprite found).of_same rfl rfl rfl rfl
      · have origin : Tolerable 0 := by decide
        exact h.insert ⟨width, height, origin.middle width, origin.middle height⟩ name

end Stage.Moderate

/-- Everything that is computed from the place and the size of a sprite is in range. -/
structure Sprite.InRange (stage : Stage) (sprite : Sprite) : Prop where
  /-- Its left edge. -/
  x : Corner sprite.x
  /-- Its upper edge. -/
  y : Corner sprite.y
  /-- Its centre. -/
  center : ∃ point, sprite.center = .ok point
  /-- Its right edge. -/
  rightEdge : ∃ right, sprite.rightEdge = .ok right
  /-- Its lower edge. -/
  lowerEdge : ∃ lower, sprite.lowerEdge = .ok lower
  /-- Where it is if its centre is put somewhere. -/
  centeredAt : ∀ x y, Tolerable x → Tolerable y → ∃ moved, sprite.centeredAt x y = .ok moved
  /-- The places where it can be put on the horizontal axis. -/
  across : ∀ place : Horizontal, (∀ x ∈ place.pixels?, Tolerable x) →
    ∃ x, place.resolve stage.displayWidth sprite.width = .ok x ∧ Corner x
  /-- The places where it can be put on the vertical axis. -/
  down : ∀ place : Vertical, (∀ y ∈ place.pixels?, Tolerable y) →
    ∃ y, place.resolve stage.displayHeight sprite.height = .ok y ∧ Corner y
  /-- The stops on the horizontal axis. -/
  acrossStop : ∀ place : Horizontal, ∃ stop, place.stop? stage.displayWidth sprite.width = .ok stop
  /-- The stops on the vertical axis. -/
  downStop : ∀ place : Vertical, ∃ stop, place.stop? stage.displayHeight sprite.height = .ok stop

/-- For a moderate sprite on a moderate stage everything is in range. -/
theorem Stage.Moderate.inRange {stage : Stage} (h : stage.Moderate) {sprite : Sprite}
    (moderate : sprite.Moderate) : sprite.InRange stage := by
  obtain ⟨width, height, x, y⟩ := moderate
  have across := x.corner width
  have down := y.corner height
  refine ⟨across, down, ⟨_, Sprite.Moderate.center ⟨width, height, x, y⟩⟩,
    ⟨_, signed_of_bounds (by omega) (by omega)⟩, ⟨_, signed_of_bounds (by omega) (by omega)⟩,
    ?_, ?_, ?_, fun place => place.stop?_eq_ok _ width, fun place => place.stop?_eq_ok _ height⟩
  · intro x y hx hy
    obtain ⟨moved, centered, -⟩ := sprite.centeredAt_of_middle width height
      (by omega : Middle x) (by omega : Middle y)
    exact ⟨moved, centered⟩
  · intro place pixels
    obtain ⟨x, resolved, middle⟩ := Horizontal.resolve_middle pixels h.displayWidth width
    exact ⟨x, resolved, middle.corner width⟩
  · intro place pixels
    obtain ⟨y, resolved, middle⟩ := Vertical.resolve_middle pixels h.displayHeight height
    exact ⟨y, resolved, middle.corner height⟩

/-! ## Tags about sprites -/

/-- The tag is about sprites. -/
def Instruction.concernsSprites : Instruction → Bool
  | .load _ | .sprite _ _ | .showBackground | .hideBackground => true
  | _ => false

/-- The coordinates, the places in pixels and the speeds of movements among the arguments of a
tag. -/
def Instruction.coordinates (instruction : Instruction) (tag : Tag) : List Int :=
  match instruction with
  | .sprite _ action => action.coordinates tag.arguments
  | _ => []

/-- A tag, and whether it stands in the main script. -/
structure Order where
  /-- Whether it stands in the main script. -/
  isMain : Bool
  /-- What it says. -/
  instruction : Instruction
  /-- The tag. -/
  tag : Tag

namespace Session

/-- The session after tags are obeyed one after the other, if none of them fails. -/
def obeyAll (s : Session) (orders : List Order) : Except Failure Session :=
  orders.foldlM (fun s order => do
    let outcome ← s.execute order.isMain order.instruction order.tag
    return outcome.effect.session) s

variable {s : Session}

/-- **One tag.** A tag about sprites leaves a moderate stage moderate, and does not fail. -/
theorem execute_moderate (moderate : s.stage.Moderate) (sizes : s.story.assets.Moderate)
    {instruction : Instruction} (concerns : instruction.concernsSprites = true) {tag : Tag}
    (tolerable : ∀ i ∈ instruction.coordinates tag, Tolerable i) (isMain : Bool) :
    ∃ stage, s.execute isMain instruction tag = .ok (.ofSession { s with stage }) ∧
      stage.Moderate := by
  have acts {group : Group} {action : SpriteAction}
      (tolerable : ∀ i ∈ action.coordinates tag.arguments, Tolerable i) :
      ∃ stage, liftSafe ((s.stage.act group action tag.arguments).map s.withStage) =
        .ok (.ofSession { s with stage }) ∧ stage.Moderate := by
    obtain ⟨stage, acted, kept⟩ := moderate.act tolerable
    rw [acted]
    exact ⟨stage, rfl, kept⟩
  have none : ∀ i ∈ ([] : List Int), Tolerable i := fun _ impossible => nomatch impossible
  cases instruction with
  | load group => exact ⟨_, rfl, moderate.load sizes group tag.arguments⟩
  | sprite group action => exact acts tolerable
  | showBackground => exact acts none
  | hideBackground => exact acts none
  | _ => cases concerns

/-- By induction on the tags: nothing but the stage changes, so that the sizes are the same. -/
theorem obeyAll_moderate (orders : List Order) (moderate : s.stage.Moderate)
    (sizes : s.story.assets.Moderate)
    (concerns : ∀ order ∈ orders, order.instruction.concernsSprites = true)
    (tolerable : ∀ order ∈ orders, ∀ i ∈ order.instruction.coordinates order.tag, Tolerable i) :
    ∃ stage, s.obeyAll orders = .ok { s with stage } ∧ stage.Moderate := by
  induction orders generalizing s with
  | nil => exact ⟨s.stage, rfl, moderate⟩
  | cons order orders ih =>
    rw [List.forall_mem_cons] at concerns tolerable
    obtain ⟨stage, executed, kept⟩ :=
      execute_moderate moderate sizes concerns.1 tolerable.1 order.isMain
    have later : s.obeyAll (order :: orders) = Session.obeyAll { s with stage } orders := by
      rw [obeyAll, List.foldlM_cons, executed]
      rfl
    rw [later]
    exact ih kept sizes concerns.2 tolerable.2

/-- **Coordinates in range.** Let the display and all pictures of the story be at most `2 ^ 28` wide
and high, and let no sprite be loaded. Then any tags about sprites, of whatever groups, in whatever
order and in whatever scripts, can be obeyed one after the other if the coordinates, places in
pixels and speeds of movements in them are no more than `2 ^ 28` from zero: none of them leaves the
range of coordinates. Nothing changes but the stage. However often sprites were aligned with each
other or shown in each other's place, they are no more than `2 ^ 29` from zero in the end, and all
that is computed of them is in range. -/
theorem coordinates_stay_in_range (s : Session)
    (bare : ∀ group name, (s.stage.cast group).find? name = none)
    (displayWidth : 0 ≤ s.stage.displayWidth ∧ s.stage.displayWidth ≤ 2 ^ 28)
    (displayHeight : 0 ≤ s.stage.displayHeight ∧ s.stage.displayHeight ≤ 2 ^ 28)
    (sizes : ∀ group name size, s.story.assets.find? group name = some size →
      (0 ≤ size.width ∧ size.width ≤ 2 ^ 28) ∧ (0 ≤ size.height ∧ size.height ≤ 2 ^ 28))
    (orders : List Order) (concerns : ∀ order ∈ orders, order.instruction.concernsSprites = true)
    (tolerable : ∀ order ∈ orders, ∀ i ∈ order.instruction.coordinates order.tag,
      -2 ^ 28 ≤ i ∧ i ≤ 2 ^ 28) :
    ∃ stage, s.obeyAll orders = .ok { s with stage } ∧
      ∀ group name sprite, (stage.cast group).find? name = some sprite →
        (-2 ^ 29 ≤ sprite.x ∧ sprite.x ≤ 2 ^ 29) ∧ (-2 ^ 29 ≤ sprite.y ∧ sprite.y ≤ 2 ^ 29) ∧
        sprite.InRange stage := by
  have moderate : s.stage.Moderate := by
    refine ⟨displayWidth, displayHeight, fun group name sprite found => ?_⟩
    rw [bare] at found
    cases found
  obtain ⟨stage, obeyed, kept⟩ := obeyAll_moderate orders moderate sizes concerns tolerable
  refine ⟨stage, obeyed, fun group name sprite found => ?_⟩
  have ranged := kept.inRange (kept.sprites group name sprite found)
  exact ⟨ranged.x, ranged.y, ranged⟩

end Session

/-- Pictures of which one is as large as it may be. -/
def wideSizes : Dict Size :=
  .ofEntries [("dot", ⟨1, 0⟩), ("odd", ⟨268435455, 1⟩), ("wide", ⟨268435456, 268435455⟩)]

/-- A session with these pictures, and with a display that is as large as it may be. -/
def wideSession : Session :=
  Session.fresh { assets := { character := some wideSizes } }
    { displayWidth := 268435456, displayHeight := 268435456 }

/-- The widest one is put behind the end of the display, and the smallest one is aligned with it.
Then one of odd size takes over from the widest one, is aligned with the smallest one, and is sent
off. -/
def wideOrders : List Order :=
  [⟨true, .load .character, ⟨"load_character", some "wide, w"⟩⟩,
    ⟨true, .load .character, ⟨"load_character", some "odd, w"⟩⟩,
    ⟨false, .load .character, ⟨"load_character", some "dot, d"⟩⟩,
    ⟨true, .sprite .character .appear, ⟨"character_show", some "wide"⟩⟩,
    ⟨true, .sprite .character .appear, ⟨"character_show", some "dot"⟩⟩,
    ⟨true, .sprite .character .setPositionX,
      ⟨"character_set_position_x", some "w, after end of display"⟩⟩,
    ⟨true, .sprite .character .setPositionY, ⟨"character_set_position_y", some "w, -268435456"⟩⟩,
    ⟨true, .sprite .character .centerXWith, ⟨"character_center_x_with", some "d, character, w"⟩⟩,
    ⟨true, .sprite .character .appear, ⟨"character_show", some "odd"⟩⟩,
    ⟨false, .sprite .character .centerXWith, ⟨"character_center_x_with", some "w, character, d"⟩⟩,
    ⟨true, .sprite .character .move, ⟨"character_move", some "w, -268435456, left, 268435456, up"⟩⟩]

/-- In the end there is a sprite that begins behind the end of the display, and its centre is
farther away than any coordinate in a tag may be. -/
theorem Session.odd_character_in_range :
    ∃ stage sprite, wideSession.obeyAll wideOrders = .ok { wideSession with stage } ∧
      (stage.cast .character).find? "odd" = some sprite ∧ sprite.x = 268435457 ∧
      sprite.center = .ok (402653184, -134217729) ∧ sprite.InRange stage := by
  have sizes : ∀ entry ∈ wideSizes.entries, Extent entry.2.width ∧ Extent entry.2.height := by
    decide +kernel
  have finish : ((wideSession.obeyAll wideOrders).toOption.bind fun t =>
      (t.stage.cast .character).find? "odd").map (fun sprite => (sprite.x, sprite.center)) =
        some (268435457, .ok (402653184, -134217729)) := by
    decide +kernel
  obtain ⟨stage, obeyed, ranged⟩ := Session.coordinates_stay_in_range wideSession
    (fun group name => by cases group <;> rfl) (by decide) (by decide)
    (fun group name size found => by
      cases group with
      | character => exact sizes (name, size) (Dict.mem_entries_iff.2 found)
      | _ => cases found)
    wideOrders (by decide) (by decide +kernel)
  rw [obeyed] at finish
  obtain ⟨sprite, found, same⟩ := Option.map_eq_some_iff.1 finish
  obtain ⟨x, center⟩ := Prod.mk.inj same
  exact ⟨stage, sprite, obeyed, found, x, center, (ranged _ _ _ found).2.2⟩

end VisualNovel

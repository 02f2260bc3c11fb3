import VisualNovel.Proofs.ArgumentDecoding
import VisualNovel.Proofs.SpriteSwaps

/-!
# Actions on one sprite

All actions on sprites but showing one and hiding a group are about one visible sprite, the one that
the nickname in the first field of their arguments reaches. The other fields have to be numbers,
keywords or texts of certain kinds: `SpriteAction.forms` is the table of these, with two rows for
the one action that can be written in two ways, and `SpriteAction.Reads` says that some arguments
are as the table wants them. The table knows nothing of how arguments are decoded; that both agree
is said once for every action (`SpriteAction.answers`).

Main statement (`Session.sprite_tag_touches_one_sprite`): unless a coordinate leaves its range, the
tag changes the sprite that its nickname reaches and nothing else, and the sprite stays what it is.
If the arguments are not as they should be or the nickname reaches nobody, nothing changes at all.
-/

namespace VisualNovel

open Number

/-! ## What a field has to be -/

/-- What a field has to be. -/
abbrev FieldCheck : Type :=
  String → Bool

namespace FieldCheck

/-- Any text. -/
def anything : FieldCheck := fun _ => true

/-- A signed number. -/
def integer : FieldCheck := fun s => (readSigned s).isSome

/-- An unsigned number. -/
def count : FieldCheck := fun s => (readCount s).isSome

/-- A number with a fraction. -/
def decimal : FieldCheck := fun s => (Format.single.read s).isSome

/-- A percentage from one to a hundred. -/
def percentage : FieldCheck := fun s => (readCount s).any fun n => decide (1 ≤ n ∧ n ≤ 100)

/-- A keyword. -/
def keyword {α : Type} (words : Vocabulary α) : FieldCheck := fun s => (words.read? s).isSome

/-- A keyword or a signed number. -/
def place {α : Type} (words : Vocabulary α) : FieldCheck := fun s =>
  keyword words s || integer (keywordForm s)

/-- One of two words. -/
def direction (minus plus : String) : FieldCheck := fun s =>
  Text.lowercase s == minus || Text.lowercase s == plus

/-- An angle, or the word for no end. -/
def angle : FieldCheck := fun s => Text.sameAsciiCase s "forever" || decimal s

/-- Whether there are as many texts as checks, and all of them pass. -/
def pass : List FieldCheck → List String → Bool
  | [], [] => true
  | check :: checks, text :: texts => check text && pass checks texts
  | _, _ => false

/-- An empty list of checks passes the empty list of texts, and no other. -/
theorem pass_nil {texts : List String} : pass [] texts = true ↔ texts = [] := by
  cases texts <;> simp [pass]

/-- Checks pass texts if the first one passes the first text and the others pass the others. -/
theorem pass_cons {check : FieldCheck} {checks : List FieldCheck} {texts : List String} :
    pass (check :: checks) texts = true ↔
      ∃ text rest, texts = text :: rest ∧ check text = true ∧ pass checks rest = true := by
  cases texts with
  | nil => simp [pass]
  | cons text rest => simp [pass]

end FieldCheck

/-- The fields of some arguments, without the blanks around them. -/
def Text.fields (s : String) : List String :=
  (Text.split ',' s).map Text.trim

namespace SpriteAction

open FieldCheck

/-- What the fields of an action have to be, behind the nickname, in each of the ways to write
it. -/
def forms : SpriteAction → List (List FieldCheck)
  | .appear => []
  | .hideAll => []
  | .hide => [[]]
  | .flipBoth => [[]]
  | .flipHorizontal => [[]]
  | .flipVertical => [[]]
  | .setPositionX => [[place Horizontal.vocabulary]]
  | .setPositionY => [[place Vertical.vocabulary]]
  | .setCenter => [[integer, integer]]
  | .centerXWith => [[keyword Group.vocabulary, anything]]
  | .stopMovementCondition =>
    [[keyword Side.vocabulary, integer],
      [fun s => keyword Horizontal.vocabulary s || keyword Vertical.vocabulary s]]
  | .move => [[integer, direction "left" "right", integer, direction "up" "down"]]
  | .start _ => [[]]
  | .stop _ => [[]]
  | .afterStop _ => [[anything]]
  | .delay .move => [[count, count]]
  | .delay _ => [[count]]
  | .fadeGoal => [[decimal]]
  | .fadeCurrent => [[decimal]]
  | .fadeSpeed => [[percentage, keyword FadeDirection.vocabulary]]
  | .scaleSpeed => [[percentage, keyword ScaleDirection.vocabulary]]
  | .scaleGoal => [[decimal]]
  | .scaleCurrent => [[decimal]]
  | .turnCurrent => [[decimal]]
  | .turnGoal => [[angle]]
  | .turnSpeed => [[percentage, keyword TurnDirection.vocabulary]]

/-- The arguments are a nickname and fields that are as the action wants them. -/
def Reads (action : SpriteAction) (arguments : Option String) (nickname : String) : Prop :=
  ∃ form ∈ action.forms, ∃ text ∈ arguments, ∃ rest,
    Text.fields text = nickname :: rest ∧ pass form rest = true

/-- The action aligns a sprite with another one, and nobody is reached there. -/
def LacksPartner (action : SpriteAction) (stage : Stage) (arguments : Option String) : Prop :=
  action = .centerXWith ∧ ∃ text ∈ arguments, ∃ nickname word other,
    Text.fields text = [nickname, word, other] ∧
    ∀ group, Group.vocabulary.read? word = some group → ∀ name sprite,
      ¬ Cast.Reaches (stage.cast group) other name sprite

end SpriteAction

/-! ## Decoding and the table -/

namespace Shape

/-- A shape without fields holds the empty list of texts, and no other. -/
theorem holds_nil {texts : List String} {values : Values []} :
    Holds [] texts values ↔ texts = [] := by
  cases texts <;> simp [Holds]

/-- Texts are the fields of a shape if the first one says something in the first field and the
others do in the others. -/
theorem holds_cons {field : Field} {fields : Shape} {texts : List String} {value : field.kind.Value}
    {values : fields.Values} :
    Holds (field :: fields) texts (value, values) ↔
      ∃ text rest, texts = text :: rest ∧ field.kind.Means text value ∧
      Holds fields rest values := by
  cases texts with
  | nil => simp [Holds]
  | cons text rest => simp [Holds]

/-- There are as many texts as fields. -/
theorem Holds.length_eq {shape : Shape} {texts : List String} {values : shape.Values}
    (holds : shape.Holds texts values) : texts.length = shape.length := by
  induction shape generalizing texts with
  | nil => rw [holds_nil.1 holds, List.length_nil, List.length_nil]
  | cons field fields ih =>
    obtain ⟨value, values⟩ := values
    obtain ⟨text, rest, rfl, -, later⟩ := holds_cons.1 holds
    rw [List.length_cons, List.length_cons, ih later]

/-- Without free text, the values are what the fields say. -/
theorem decode?_eq_some_iff {shape : Shape} (fixed : shape.isFree = false)
    {arguments : Option String} {values : shape.Values} :
    shape.decode? arguments = some values ↔
      ∃ text ∈ arguments, shape.Holds (Text.fields text) values := by
  cases arguments with
  | none => simp [decode?, decode, Except.toOption]
  | some text =>
    have ok : shape.decode? (some text) = some values ↔ shape.decode (some text) = .ok values := by
      unfold decode?
      cases shape.decode (some text) <;> simp [Except.toOption]
    have texts : shape.fieldTexts (Text.split ',' text) = Text.fields text := by
      rw [fieldTexts, fixed, if_neg Bool.false_ne_true, Text.fields]
    rw [ok, decode_eq_ok_iff, texts]
    constructor
    · rintro ⟨-, holds⟩
      exact ⟨text, rfl, holds⟩
    · rintro ⟨_, ⟨⟩, holds⟩
      refine ⟨?_, holds⟩
      rw [Fits, fixed, if_neg Bool.false_ne_true, ← holds.length_eq, Text.fields, List.length_map]

end Shape

/-! ### Checks and kinds of fields -/

/-- A check passes the texts that say something in a field of a kind, if that is of some sort. -/
def FieldCheck.Agrees (check : FieldCheck) (kind : FieldKind) (Q : kind.Value → Prop) : Prop :=
  ∀ text, check text = true ↔ ∃ value, kind.Means text value ∧ Q value

/-- Checks pass the texts that are the fields of a shape, if their values are of some sort. -/
def Shape.Agrees (shape : Shape) (checks : List FieldCheck) (P : shape.Values → Prop) : Prop :=
  ∀ texts, FieldCheck.pass checks texts = true ↔ ∃ values, shape.Holds texts values ∧ P values

namespace FieldCheck

/-- Every text says something in a field for text. -/
theorem agrees_anything : Agrees anything .text fun _ => True :=
  fun text => ⟨fun _ => ⟨text, rfl, trivial⟩, fun _ => rfl⟩

/-- Text says itself, so it is of the sort that the check passes. -/
theorem agrees_text (check : FieldCheck) : Agrees check .text fun text => check text = true := by
  intro text
  constructor
  · exact fun passes => ⟨text, rfl, passes⟩
  · rintro ⟨_, rfl, passes⟩
    exact passes

/-- The check for a signed number agrees with the field for one. -/
theorem agrees_integer : Agrees integer .integer fun _ => True :=
  fun text => by simp [integer, FieldKind.Means, Option.isSome_iff_exists]

/-- So does the check for an unsigned number. -/
theorem agrees_count : Agrees count .count fun _ => True :=
  fun text => by simp [count, FieldKind.Means, Option.isSome_iff_exists]

/-- So does the check for a number with a fraction. -/
theorem agrees_decimal : Agrees decimal .decimal fun _ => True :=
  fun text => by simp [decimal, FieldKind.Means, Option.isSome_iff_exists]

/-- The check for a percentage passes the unsigned numbers from one to a hundred. -/
theorem agrees_percentage : Agrees percentage .count fun n => 1 ≤ n ∧ n ≤ 100 :=
  fun text => by simp [percentage, FieldKind.Means, Option.any_eq_true]

end FieldCheck

namespace Shape

open FieldCheck

/-- The empty list of checks agrees with the shape without fields. -/
theorem agrees_nil : Shape.Agrees [] [] fun _ => True := by
  intro texts
  rw [pass_nil]
  exact ⟨fun none => ⟨(), holds_nil.2 none, trivial⟩, fun ⟨_, holds, _⟩ => holds_nil.1 holds⟩

/-- Fields and checks may be compared one by one. -/
theorem Agrees.cons (name : String) {kind : FieldKind} {check : FieldCheck}
    {Q : kind.Value → Prop} (here : check.Agrees kind Q) {fields : Shape}
    {checks : List FieldCheck} {P : fields.Values → Prop} (later : fields.Agrees checks P) :
    Shape.Agrees (⟨name, kind⟩ :: fields) (check :: checks) fun values => Q values.1 ∧
      P values.2 := by
  intro texts
  rw [pass_cons]
  constructor
  · rintro ⟨text, rest, rfl, passes, others⟩
    obtain ⟨value, means, sort⟩ := (here text).1 passes
    obtain ⟨values, holds, sorts⟩ := (later rest).1 others
    exact ⟨(value, values), ⟨means, holds⟩, sort, sorts⟩
  · rintro ⟨⟨value, values⟩, holds, sort, sorts⟩
    obtain ⟨text, rest, rfl, means, holds⟩ := holds_cons.1 holds
    exact ⟨text, rest, rfl, (here text).2 ⟨value, means, sort⟩,
      (later rest).2 ⟨values, holds, sorts⟩⟩

end Shape

namespace SpriteAction

open FieldCheck

variable {action : SpriteAction} {arguments : Option String} {nickname : String}

/-- Arguments are in a form if they are decoded to the nickname and values of the right sort. -/
theorem form_iff {form : List FieldCheck} {shape : Shape}
    (fixed : Shape.isFree (.text "alias" :: shape) = false) {P : shape.Values → Prop}
    (agree : shape.Agrees form P) :
    (∃ text ∈ arguments, ∃ rest, Text.fields text = nickname :: rest ∧ pass form rest = true) ↔
      ∃ values, Shape.decode? (.text "alias" :: shape) arguments = some (nickname, values) ∧
      P values := by
  have decoded (values : shape.Values) :
      Shape.decode? (.text "alias" :: shape) arguments = some (nickname, values) ↔
        ∃ text ∈ arguments, ∃ rest, Text.fields text = nickname :: rest ∧
          shape.Holds rest values := by
    rw [Shape.decode?_eq_some_iff fixed]
    constructor
    · rintro ⟨text, mem, holds⟩
      obtain ⟨first, rest, cut, same, later⟩ := Shape.holds_cons.1 holds
      cases same
      exact ⟨text, mem, rest, cut, later⟩
    · rintro ⟨text, mem, rest, cut, later⟩
      exact ⟨text, mem, Shape.holds_cons.2 ⟨nickname, rest, cut, rfl, later⟩⟩
  unfold Shape.Agrees at agree
  simp only [agree, decoded]
  constructor
  · rintro ⟨text, mem, rest, cut, values, holds, sorts⟩
    exact ⟨values, ⟨text, mem, rest, cut, holds⟩, sorts⟩
  · rintro ⟨values, ⟨text, mem, rest, cut, holds⟩, sorts⟩
    exact ⟨text, mem, rest, cut, values, holds, sorts⟩

/-- An action with one form reads its arguments in that form. -/
theorem reads_iff {form : List FieldCheck} (forms : action.forms = [form]) {shape : Shape}
    (fixed : Shape.isFree (.text "alias" :: shape) = false) {P : shape.Values → Prop}
    (agree : shape.Agrees form P) :
    action.Reads arguments nickname ↔
      ∃ values, Shape.decode? (.text "alias" :: shape) arguments = some (nickname, values) ∧
      P values := by
  rw [Reads, forms, ← form_iff fixed agree]
  simp only [List.mem_singleton, exists_eq_left]

/-- The nickname is the first field, whatever the form. -/
theorem Reads.unique {nickname' : String} (reads : action.Reads arguments nickname)
    (reads' : action.Reads arguments nickname') : nickname = nickname' := by
  obtain ⟨_, -, text, mem, _, cut, -⟩ := reads
  obtain ⟨_, -, _, mem', _, cut', -⟩ := reads'
  cases Option.mem_unique mem mem'
  rw [cut] at cut'
  exact (List.cons.inj cut').1

/-- An action with two forms reads its arguments in one of them. -/
theorem reads_iff_or {long short : List FieldCheck} (forms : action.forms = [long, short])
    {longer shorter : Shape} (longFixed : Shape.isFree (.text "alias" :: longer) = false)
    (shortFixed : Shape.isFree (.text "alias" :: shorter) = false) {P : longer.Values → Prop}
    {Q : shorter.Values → Prop} (longAgree : longer.Agrees long P)
    (shortAgree : shorter.Agrees short Q) :
    action.Reads arguments nickname ↔
      (∃ values, Shape.decode? (.text "alias" :: longer) arguments = some (nickname, values) ∧
        P values) ∨
      ∃ values, Shape.decode? (.text "alias" :: shorter) arguments = some (nickname, values) ∧
      Q values := by
  rw [Reads, forms, ← form_iff longFixed longAgree, ← form_iff shortFixed shortAgree]
  simp only [List.mem_cons, List.not_mem_nil, or_false, exists_eq_or_imp, exists_eq_left]

end SpriteAction

/-! ## What an action makes of its arguments -/

/-- The computation has an answer, unless a number is out of range. -/
def Safe.Counts {α : Type} (x : Safe α) : Prop :=
  (∃ a, x = .ok a) ∨ x = .error .overflow

/-- The computation finds something, unless a number is out of range. -/
def Safe.Finds {α : Type} (x : Safe (Option α)) : Prop :=
  (∃ a, x = .ok (some a)) ∨ x = .error .overflow

/-- The edit changes any sprite, unless a coordinate is out of range. -/
def Edit.Acts (edit : Edit) : Prop :=
  ∀ sprite, (edit.change sprite).Finds

namespace Safe.Counts

variable {α β : Type}

/-- What is there already needs no computation. -/
theorem ok (a : α) : Safe.Counts (.ok a) := .inl ⟨a, rfl⟩

/-- A number is computed unless it is out of range. -/
theorem signed (i : Int) : Safe.Counts (Number.signed i) := by
  unfold Number.signed
  split
  · exact .ok i
  · exact .inr rfl

/-- Two computations in a row have an answer if both of them do. -/
theorem bind {x : Safe α} {f : α → Safe β} (first : x.Counts) (next : ∀ a, Safe.Counts (f a)) :
    Safe.Counts (x >>= f) := by
  obtain ⟨a, rfl⟩ | rfl := first
  · exact next a
  · exact .inr rfl

/-- A computation that has an answer finds something. -/
theorem finds {x : Safe α} (counts : x.Counts) (f : α → β) :
    Safe.Finds (do return some (f (← x))) := by
  obtain ⟨a, rfl⟩ | rfl := counts
  · exact .inl ⟨f a, rfl⟩
  · exact .inr rfl

end Safe.Counts

/-- What is found can be changed. -/
theorem Safe.Finds.map {α β : Type} {x : Safe (Option α)} (finds : x.Finds) (f : α → β) :
    Safe.Finds (do return (← x).map f) := by
  obtain ⟨a, rfl⟩ | rfl := finds
  · exact .inl ⟨f a, rfl⟩
  · exact .inr rfl

/-- An edit by a function of the sprite changes any sprite. -/
theorem Edit.acts_of (nickname : String) (change : Sprite → Sprite) :
    (Edit.of nickname change).Acts :=
  fun sprite => .inl ⟨change sprite, rfl⟩

/-- So does one by a computation that has an answer. -/
theorem Edit.acts_ofSafe (nickname : String) {change : Sprite → Safe Sprite}
    (counts : ∀ sprite, (change sprite).Counts) : (Edit.ofSafe nickname change).Acts :=
  fun sprite => (counts sprite).finds id

/-! ### Coordinates -/

section counts

open Safe

/-- The centre of a sprite has an answer. -/
theorem Sprite.counts_center (sprite : Sprite) : sprite.center.Counts :=
  .bind (.signed _) fun _ => .bind (.signed _) fun _ => .ok _

/-- So has a sprite that is centred across. -/
theorem Sprite.counts_centeredX (sprite : Sprite) (x : Int) : (sprite.centeredX x).Counts :=
  .bind (.signed _) fun _ => .ok _

/-- So has a sprite that is centred at a point. -/
theorem Sprite.counts_centeredAt (sprite : Sprite) (x y : Int) : (sprite.centeredAt x y).Counts :=
  .bind (sprite.counts_centeredX x) fun _ => .bind (.signed _) fun _ => .ok _

/-- So has a horizontal place. -/
theorem Horizontal.counts_resolve (place : Horizontal) (display width : Int) :
    (place.resolve display width).Counts := by
  cases place with
  | finish => exact .signed _
  | beforeStart => exact .signed _
  | _ => exact .ok _

/-- So has a vertical place. -/
theorem Vertical.counts_resolve (place : Vertical) (display height : Int) :
    (place.resolve display height).Counts := by
  cases place with
  | bottom => exact .signed _
  | aboveTop => exact .signed _
  | _ => exact .ok _

/-- So has the pace in a direction. -/
theorem counts_signedPace (pixels sign : Int) : (signedPace pixels sign).Counts :=
  .bind (.signed _) fun _ => .signed _

end counts

/-! ### Words -/

section words

open FieldCheck

namespace Vocabulary

variable {α : Type} {words : Vocabulary α} {number : Int → α} {s : String}

/-- A keyword that is read is in the vocabulary. -/
theorem mem_words {a : α} (read : words.read? s = some a) : (keywordForm s, a) ∈ words.words := by
  obtain ⟨before, after, cut, -⟩ := List.lookup_eq_some_iff.1 read
  rw [cut]
  exact List.mem_append_right _ List.mem_cons_self

/-- A keyword is read as a keyword, even where it could be a number. -/
theorem readOrNumber_of_keyword {a : α} (read : words.read? s = some a) :
    words.readOrNumber number s = .ok a := by
  rw [readOrNumber, read]

/-- What is no keyword is read as a number. -/
theorem readOrNumber_of_number (unread : words.read? s = none) {i : Int}
    (read : readSigned (keywordForm s) = some i) :
    words.readOrNumber number s = .ok (number i) := by
  rw [readOrNumber, unread, read]

/-- What is neither is refused. -/
theorem readOrNumber_of_neither (unread : words.read? s = none)
    (unread' : readSigned (keywordForm s) = none) :
    words.readOrNumber number s = .error (.invalid s words.complaint) := by
  rw [readOrNumber, unread, unread']

/-- A place can be read if the check for places passes it. -/
theorem readOrNumber_isSome (words : Vocabulary α) (number : Int → α) (s : String) :
    (words.readOrNumber number s).toOption.isSome = place words s := by
  unfold readOrNumber place keyword integer
  rcases words.read? s with _ | a
  · rcases readSigned (keywordForm s) with _ | i <;> rfl
  · rfl

end Vocabulary

/-- A speed can be read if its percentage is from one to a hundred and its direction is a keyword.
-/
theorem readSpeed_isSome {δ : Type} (directions : Vocabulary δ) (percent : Nat) (word : String) :
    (readSpeed directions percent word).isSome = true ↔
      (1 ≤ percent ∧ percent ≤ 100) ∧ keyword directions word = true := by
  unfold readSpeed keyword Speed.ofPercent
  rcases directions.read? word with _ | direction
  · simp
  · by_cases bounds : 1 ≤ percent ∧ percent ≤ 100
    · simp [bounds, Except.toOption]
    · have refused : ¬ (decide (1 ≤ percent) && decide (percent ≤ 100)) = true := by
        simpa using bounds
      simp only [Option.bind_eq_bind, Option.bind_some, if_neg refused]
      simp [Except.toOption, bounds]

/-- A direction can be read if it is one of the two words. -/
theorem directionSign_isSome (minus plus s : String) :
    (directionSign minus plus s).isSome = direction minus plus s := by
  unfold directionSign direction
  dsimp only
  split
  · next same => simp [same]
  · next differ =>
    split
    · next same => simp [same]
    · next differ' => simp [differ, differ']

/-- The goal of a turn can be read if the check for angles passes it. -/
theorem turnGoal?_isSome (s : String) : (turnGoal? s).isSome = angle s := by
  unfold turnGoal? angle decimal
  split
  · next endless => simp [endless]
  · next ends => simp [ends]

/-- For a horizontal place that is a keyword, a stop is found. -/
theorem Horizontal.finds_stop? {word : String} {place : Horizontal}
    (read : vocabulary.read? word = some place) (display width : Int) :
    (place.stop? display width).Finds := by
  have named : ∀ entry ∈ vocabulary.words, ∀ i, entry.2 ≠ .pixels i := by
    simp [vocabulary]
  cases place with
  | beforeStart => exact (Safe.Counts.signed _).finds _
  | pixels i => exact absurd rfl (named _ (Vocabulary.mem_words read) i)
  | _ => exact .inl ⟨_, rfl⟩

/-- For a vertical place that is a keyword, a stop is found. -/
theorem Vertical.finds_stop? {word : String} {place : Vertical}
    (read : vocabulary.read? word = some place) (display height : Int) :
    (place.stop? display height).Finds := by
  have named : ∀ entry ∈ vocabulary.words, ∀ i, entry.2 ≠ .pixels i := by
    simp [vocabulary]
  cases place with
  | aboveTop => exact (Safe.Counts.signed _).finds _
  | pixels i => exact absurd rfl (named _ (Vocabulary.mem_words read) i)
  | _ => exact .inl ⟨_, rfl⟩

/-- No vertical place is written as a number. -/
theorem Vertical.readSigned_eq_none {word : String} {place : Vertical}
    (read : vocabulary.read? word = some place) : readSigned (keywordForm word) = none := by
  have unread : ∀ entry ∈ vocabulary.words, readSigned entry.1 = none := by decide +kernel
  exact unread (keywordForm word, place) (Vocabulary.mem_words read)

/-- For a word that is a place, a stop of the sprite is found. -/
theorem finds_placeStop (stage : Stage) (sprite : Sprite) {word : String}
    (passes : (keyword Horizontal.vocabulary word || keyword Vertical.vocabulary word) = true) :
    (placeStop stage word sprite).Finds := by
  rcases across : Horizontal.vocabulary.read? word with _ | place
  · rw [keyword, keyword, across, Option.isSome_none, Bool.false_or] at passes
    obtain ⟨place, down⟩ := Option.isSome_iff_exists.1 passes
    have number := Vertical.readSigned_eq_none down
    rw [placeStop, Horizontal.read, Vocabulary.readOrNumber_of_neither across number, Vertical.read,
      Vocabulary.readOrNumber_of_keyword down]
    exact Vertical.finds_stop? down _ _
  · rw [placeStop, Horizontal.read, Vocabulary.readOrNumber_of_keyword across]
    exact Horizontal.finds_stop? across _ _

/-- A number does not say which side is meant, and any other text is no place. -/
theorem placeStop_eq_none (stage : Stage) (sprite : Sprite) {word : String}
    (fails : ¬ (keyword Horizontal.vocabulary word || keyword Vertical.vocabulary word) = true) :
    placeStop stage word sprite = .ok none := by
  rw [Bool.or_eq_true, not_or, keyword, keyword, Option.not_isSome_iff_eq_none,
    Option.not_isSome_iff_eq_none] at fails
  obtain ⟨across, down⟩ := fails
  rcases number : readSigned (keywordForm word) with _ | i
  · rw [placeStop, Horizontal.read, Vocabulary.readOrNumber_of_neither across number, Vertical.read,
      Vocabulary.readOrNumber_of_neither down number]
  · rw [placeStop, Horizontal.read, Vocabulary.readOrNumber_of_number across number]
    rfl

end words

namespace SpriteAction

/-- What an action makes of its arguments, before the sprite is looked for. -/
inductive Answer (action : SpriteAction) (stage : Stage) (arguments : Option String) :
    Safe (Option Edit) → Prop where
  /-- A coordinate of the other sprite is out of range. -/
  | overflow {nickname : String} (reads : action.Reads arguments nickname) :
    Answer action stage arguments (.error .overflow)
  /-- The arguments are not as they should be, and there is no edit. -/
  | unread (unread : ∀ nickname, ¬ action.Reads arguments nickname) :
    Answer action stage arguments (.ok none)
  /-- There is nobody to be aligned with. -/
  | alone (lacks : action.LacksPartner stage arguments) : Answer action stage arguments (.ok none)
  /-- The arguments are not as they should be, and there is an edit that comes to nothing. -/
  | idle {edit : Edit} (unread : ∀ nickname, ¬ action.Reads arguments nickname)
    (idle : ∀ sprite, edit.change sprite = .ok none) : Answer action stage arguments
    (.ok (some edit))
  /-- There is an edit. -/
  | ready {edit : Edit} (reads : action.Reads arguments edit.nickname) (acts : edit.Acts) :
    Answer action stage arguments (.ok (some edit))

variable {action : SpriteAction} {stage : Stage} {arguments : Option String}

open FieldCheck

/-- The arguments are decoded in one form. -/
theorem Answer.of_form {shape : Shape} {P : shape.Values → Prop}
    (reads : ∀ nickname, action.Reads arguments nickname ↔ ∃ values,
      Shape.decode? (.text "alias" :: shape) arguments = some (nickname, values) ∧ P values)
    {result : Safe (Option Edit)}
    (undecoded : Shape.decode? (.text "alias" :: shape) arguments = none → result = .ok none)
    (improper : ∀ nickname values,
      Shape.decode? (.text "alias" :: shape) arguments = some (nickname, values) → ¬ P values →
      (∀ nickname, ¬ action.Reads arguments nickname) → Answer action stage arguments result)
    (proper : ∀ nickname values,
      Shape.decode? (.text "alias" :: shape) arguments = some (nickname, values) → P values →
      action.Reads arguments nickname → Answer action stage arguments result) :
    Answer action stage arguments result := by
  rcases hdecode : Shape.decode? (.text "alias" :: shape) arguments with _ | ⟨nickname, values⟩
  · rw [undecoded hdecode]
    refine .unread fun nickname read => ?_
    obtain ⟨values, hvalues, -⟩ := (reads nickname).1 read
    rw [hdecode] at hvalues
    cases hvalues
  · by_cases sort : P values
    · exact proper nickname values hdecode sort ((reads nickname).2 ⟨values, hdecode, sort⟩)
    · refine improper nickname values hdecode sort fun nickname' read => ?_
      obtain ⟨values', hvalues, sort'⟩ := (reads nickname').1 read
      rw [hdecode] at hvalues
      cases hvalues
      exact sort sort'

/-- An action with one form, whose values are right as soon as they are decoded. -/
theorem Answer.of_map {form : List FieldCheck} (forms : action.forms = [form]) {shape : Shape}
    (fixed : Shape.isFree (.text "alias" :: shape) = false) {P : shape.Values → Prop}
    (agree : shape.Agrees form P) (always : ∀ values, P values)
    {make : Shape.Values (.text "alias" :: shape) → Edit}
    (made : ∀ nickname values, (make (nickname, values)).nickname = nickname ∧
      (make (nickname, values)).Acts) :
    Answer action stage arguments
      (.ok ((Shape.decode? (.text "alias" :: shape) arguments).map make)) := by
  refine .of_form (fun _ => reads_iff forms fixed agree) (fun undecoded => by
    rw [undecoded]; rfl) ?_ ?_
  · exact fun nickname values _ improper _ => absurd (always values) improper
  · intro nickname values decoded _ reads
    obtain ⟨named, acts⟩ := made nickname values
    rw [decoded]
    exact .ready (by rwa [named]) acts

/-- An action with one word behind the nickname, which is to be read. -/
theorem Answer.of_word {β : Type} {check : FieldCheck} (forms : action.forms = [[check]])
    (name : String) {read? : String → Option β} (known : ∀ word, (read? word).isSome = check word)
    (make : String → β → Edit) {result : Option Edit}
    (same : result =
      (Shape.decode? [.text "alias", .text name] arguments).bind fun (nickname, word, ()) =>
      (read? word).bind fun b => some (make nickname b))
    (made : ∀ nickname b, (make nickname b).nickname = nickname ∧ (make nickname b).Acts) :
    Answer action stage arguments (.ok result) := by
  have agree := Shape.Agrees.cons name (agrees_text check) Shape.agrees_nil
  refine .of_form (fun _ => reads_iff forms rfl agree) (fun undecoded => by
    rw [same, undecoded]; rfl) ?_ ?_
  · rintro nickname ⟨word, ⟨⟩⟩ decoded improper nobody
    have unread : read? word = none := by
      rw [← Option.not_isSome_iff_eq_none, known word]
      exact fun passes => improper ⟨passes, trivial⟩
    rw [same, decoded]
    dsimp only [Option.bind_some]
    rw [unread, Option.bind_none]
    exact .unread nobody
  · rintro nickname ⟨word, ⟨⟩⟩ decoded ⟨passes, -⟩ reads
    obtain ⟨b, read⟩ := Option.isSome_iff_exists.1 ((known word).trans passes)
    obtain ⟨named, acts⟩ := made nickname b
    rw [same, decoded]
    dsimp only [Option.bind_some]
    rw [read, Option.bind_some]
    exact .ready (by rwa [named]) acts

/-- An action without fields answers with its edit. -/
theorem answer_plain (forms : action.forms = [[]]) (change : Sprite → Sprite) :
    Answer action stage arguments (.ok (plainEdit? arguments change)) :=
  .of_map forms rfl Shape.agrees_nil (fun _ => trivial) fun nickname _ =>
    ⟨rfl, Edit.acts_of nickname change⟩

/-- So does an action with a number. -/
theorem answer_value (forms : action.forms = [[decimal]]) (change : Sprite → Single → Sprite) :
    Answer action stage arguments (.ok (valueEdit? arguments change)) :=
  .of_map forms rfl (.cons "value" agrees_decimal Shape.agrees_nil) (fun _ => ⟨trivial, trivial⟩)
    fun nickname _ => ⟨rfl, Edit.acts_of nickname _⟩

/-- So does one that sets a delay. -/
theorem answer_delay (animation : Animation) (stage : Stage) (arguments : Option String) :
    Answer (.delay animation) stage arguments (.ok (delayEdit? animation arguments)) := by
  cases animation with
  | move =>
    exact .of_map rfl rfl (.cons "x" agrees_count (.cons "y" agrees_count Shape.agrees_nil))
      (fun _ => ⟨trivial, trivial, trivial⟩) fun nickname _ => ⟨rfl, Edit.acts_of nickname _⟩
  | _ =>
    exact .of_map rfl rfl (.cons "frames" agrees_count Shape.agrees_nil)
      (fun _ => ⟨trivial, trivial⟩) fun nickname _ => ⟨rfl, Edit.acts_of nickname _⟩

/-! ### Speeds and movements -/

/-- So does one that sets a speed. -/
theorem answer_speed {δ : Type} {directions : Vocabulary δ}
    (forms : action.forms = [[percentage, keyword directions]])
    (change : Sprite → Speed δ → Sprite) :
    Answer action stage arguments (.ok (speedEdit? directions arguments change)) := by
  unfold speedEdit?
  have agree := Shape.Agrees.cons "percent" agrees_percentage
    (.cons "direction" (agrees_text (keyword directions)) Shape.agrees_nil)
  refine .of_form (fun _ => reads_iff forms rfl agree) (fun undecoded => by
    rw [undecoded]; rfl) ?_ ?_
  · rintro nickname ⟨percent, word, ⟨⟩⟩ decoded improper nobody
    have unread : readSpeed directions percent word = none := by
      rw [← Option.not_isSome_iff_eq_none, readSpeed_isSome]
      exact fun ⟨bounds, passes⟩ => improper ⟨bounds, passes, trivial⟩
    rw [decoded]
    dsimp only [Option.bind_eq_bind, Option.bind_some]
    rw [unread]
    exact .unread nobody
  · rintro nickname ⟨percent, word, ⟨⟩⟩ decoded ⟨bounds, passes, -⟩ reads
    obtain ⟨speed, read⟩ := Option.isSome_iff_exists.1 ((readSpeed_isSome _ _ _).2 ⟨bounds, passes⟩)
    rw [decoded]
    dsimp only [Option.bind_eq_bind, Option.bind_some]
    rw [read]
    exact .ready reads (Edit.acts_of nickname _)

/-- So does one that sets a movement. -/
theorem answer_move (stage : Stage) (arguments : Option String) :
    Answer .move stage arguments (.ok (moveEdit? arguments)) := by
  unfold moveEdit?
  have agree := Shape.Agrees.cons "x" agrees_integer
    (.cons "x_direction" (agrees_text (direction "left" "right"))
      (.cons "y" agrees_integer (.cons "y_direction" (agrees_text (direction "up" "down"))
        Shape.agrees_nil)))
  refine .of_form (fun _ => reads_iff rfl rfl agree) (fun undecoded => by rw [undecoded]; rfl) ?_ ?_
  · rintro nickname ⟨x, xWord, y, yWord, ⟨⟩⟩ decoded improper nobody
    have xKnown := directionSign_isSome "left" "right" xWord
    have yKnown := directionSign_isSome "up" "down" yWord
    rw [decoded]
    dsimp only [Option.bind_eq_bind, Option.bind_some]
    -- If both words are read, they pass.
    rcases hx : directionSign "left" "right" xWord with _ | xSign
    · exact .unread nobody
    · rcases hy : directionSign "up" "down" yWord with _ | ySign
      · exact .unread nobody
      · rw [hx] at xKnown
        rw [hy] at yKnown
        exact absurd ⟨trivial, xKnown.symm, trivial, yKnown.symm, trivial⟩ improper
  · rintro nickname ⟨x, xWord, y, yWord, ⟨⟩⟩ decoded ⟨-, xPasses, -, yPasses, -⟩ reads
    obtain ⟨xSign, hx⟩ := Option.isSome_iff_exists.1 ((directionSign_isSome _ _ _).trans xPasses)
    obtain ⟨ySign, hy⟩ := Option.isSome_iff_exists.1 ((directionSign_isSome _ _ _).trans yPasses)
    rw [decoded]
    dsimp only [Option.bind_eq_bind, Option.bind_some]
    rw [hx, hy]
    refine .ready reads (Edit.acts_ofSafe nickname fun sprite => ?_)
    exact .bind (counts_signedPace x xSign) fun _ => .bind (counts_signedPace y ySign) fun _ =>
      .ok _

/-! ### Places -/

/-- So does one that sets a horizontal place. -/
theorem answer_horizontal (stage : Stage) (arguments : Option String) :
    Answer .setPositionX stage arguments (.ok (horizontalEdit? stage arguments)) := by
  let make (nickname : String) (place : Horizontal) : Edit := .ofSafe nickname fun sprite => do
    let x ← place.resolve stage.displayWidth sprite.width
    return { sprite with x }
  refine .of_word rfl "position" (Horizontal.vocabulary.readOrNumber_isSome .pixels) make rfl
    fun nickname place => ⟨rfl, Edit.acts_ofSafe nickname fun sprite => ?_⟩
  exact .bind (place.counts_resolve _ _) fun _ => .ok _

/-- So does one that sets a vertical place. -/
theorem answer_vertical (stage : Stage) (arguments : Option String) :
    Answer .setPositionY stage arguments (.ok (verticalEdit? stage arguments)) := by
  let make (nickname : String) (place : Vertical) : Edit := .ofSafe nickname fun sprite => do
    let y ← place.resolve stage.displayHeight sprite.height
    return { sprite with y }
  refine .of_word rfl "position" (Vertical.vocabulary.readOrNumber_isSome .pixels) make rfl
    fun nickname place => ⟨rfl, Edit.acts_ofSafe nickname fun sprite => ?_⟩
  exact .bind (place.counts_resolve _ _) fun _ => .ok _

/-! ### Alignment -/

/-- Arguments are an alignment if they are three fields. -/
theorem decode?_alignment {nickname word other : String} :
    Shape.alignment.decode? arguments = some (nickname, word, other, ()) ↔
      ∃ text ∈ arguments, Text.fields text = [nickname, word, other] := by
  rw [Shape.decode?_eq_some_iff rfl]
  constructor
  · rintro ⟨text, mem, holds⟩
    obtain ⟨_, _, first, rfl, later⟩ := Shape.holds_cons.1 holds
    obtain ⟨_, _, second, rfl, later⟩ := Shape.holds_cons.1 later
    obtain ⟨_, _, third, rfl, later⟩ := Shape.holds_cons.1 later
    exact ⟨text, mem, by rw [first, second, third, Shape.holds_nil.1 later]⟩
  · rintro ⟨text, mem, cut⟩
    refine ⟨text, mem, ?_⟩
    rw [cut]
    exact ⟨rfl, rfl, rfl, trivial⟩

/-- Without the other sprite there is no edit. -/
theorem alignEdit?_of_lacksPartner (lacks : LacksPartner .centerXWith stage arguments) :
    alignEdit? stage arguments = .ok none := by
  obtain ⟨-, text, mem, nickname, word, other, cut, nobody⟩ := lacks
  rw [alignEdit?, decode?_alignment.2 ⟨text, mem, cut⟩]
  dsimp only
  rcases known : Group.vocabulary.read? word with _ | group
  · rfl
  · dsimp only [Option.bind_some]
    rw [Stage.visible?, Cast.visible?_eq_none_iff.2 (nobody group known)]
    rfl

/-- So does one that aligns a sprite with another one. -/
theorem answer_align (stage : Stage) (arguments : Option String) :
    Answer .centerXWith stage arguments (alignEdit? stage arguments) := by
  have agree := Shape.Agrees.cons "other_type" (agrees_text (keyword Group.vocabulary))
    (.cons "other_alias" agrees_anything Shape.agrees_nil)
  unfold alignEdit?
  refine .of_form (fun _ => reads_iff rfl rfl agree) (fun undecoded => by rw [undecoded]) ?_ ?_
  · rintro nickname ⟨word, other, ⟨⟩⟩ decoded improper nobody
    have unread : Group.vocabulary.read? word = none := by
      rw [← Option.not_isSome_iff_eq_none]
      exact fun passes => improper ⟨passes, trivial, trivial⟩
    rw [decoded]
    dsimp only
    rw [unread]
    exact .unread nobody
  · rintro nickname ⟨word, other, ⟨⟩⟩ decoded ⟨passes, -⟩ reads
    obtain ⟨group, known⟩ := Option.isSome_iff_exists.1 passes
    rw [decoded]
    dsimp only
    rw [known]
    dsimp only [Option.bind_some]
    rcases partner : stage.visible? group other with _ | found
    · obtain ⟨text, mem, cut⟩ := decode?_alignment.1 decoded
      refine .alone ⟨rfl, text, mem, nickname, word, other, cut, fun group' known' => ?_⟩
      rw [known] at known'
      cases known'
      exact Cast.visible?_eq_none_iff.1 (Option.map_eq_none_iff.1 partner)
    · dsimp only
      obtain ⟨⟨x, y⟩, center⟩ | center := found.counts_center <;> rw [center]
      · exact .ready reads (Edit.acts_ofSafe nickname fun sprite => sprite.counts_centeredX x)
      · exact .overflow reads

/-! ### Stops -/

/-- So does one that sets a stop. -/
theorem answer_stop (stage : Stage) (arguments : Option String) :
    Answer .stopMovementCondition stage arguments (.ok (stopEdit? stage arguments)) := by
  have atSide := Shape.Agrees.cons "side" (agrees_text (keyword Side.vocabulary))
    (.cons "position" (agrees_text integer) Shape.agrees_nil)
  have atPlace := Shape.Agrees.cons "position" (agrees_text fun s =>
    keyword Horizontal.vocabulary s || keyword Vertical.vocabulary s) Shape.agrees_nil
  have reads (nickname : String) : Reads .stopMovementCondition arguments nickname ↔ _ :=
    reads_iff_or rfl rfl rfl atSide atPlace
  unfold stopEdit?
  -- The two ways to write a stop differ in their number of fields, so that one of them is not read.
  obtain undecoded | undecoded := Shape.decode?_eq_none_or rfl
    (by decide : Shape.stopAtPlace.length < Shape.stopAtSide.length) arguments
  · rw [undecoded]
    refine .of_form (fun nickname => (reads nickname).trans (or_iff_right ?_))
      (fun undecoded => by rw [undecoded]; rfl) ?_ ?_
    · rintro ⟨values, decoded, -⟩
      cases undecoded.symm.trans decoded
    · rintro nickname ⟨word, ⟨⟩⟩ decoded improper nobody
      rw [decoded]
      refine .idle nobody fun sprite => ?_
      dsimp only
      rw [placeStop_eq_none stage sprite fun passes => improper ⟨passes, trivial⟩]
      rfl
    · rintro nickname ⟨word, ⟨⟩⟩ decoded ⟨passes, -⟩ reads
      rw [decoded]
      exact .ready reads fun sprite => (finds_placeStop stage sprite passes).map sprite.withStop
  · refine .of_form (fun nickname => (reads nickname).trans (or_iff_left ?_))
      (fun undecoded' => by rw [undecoded', undecoded]; rfl) ?_ ?_
    · rintro ⟨values, decoded, -⟩
      cases undecoded.symm.trans decoded
    · rintro nickname ⟨word, position, ⟨⟩⟩ decoded improper nobody
      rw [decoded]
      dsimp only [Option.bind_eq_bind]
      rcases known : Side.vocabulary.read? word with _ | side
      · exact .unread nobody
      · rcases counted : readSigned position with _ | i
        · exact .unread nobody
        · have passes : keyword Side.vocabulary word = true := by rw [keyword, known]; rfl
          have number : integer position = true := by rw [integer, counted]; rfl
          exact absurd ⟨passes, number, trivial⟩ improper
    · rintro nickname ⟨word, position, ⟨⟩⟩ decoded ⟨passes, number, -⟩ reads
      obtain ⟨side, known⟩ := Option.isSome_iff_exists.1 passes
      obtain ⟨i, counted⟩ := Option.isSome_iff_exists.1 number
      rw [decoded]
      dsimp only [Option.bind_eq_bind]
      rw [known, counted]
      exact .ready reads (Edit.acts_of nickname _)

/-- What every action makes of its arguments. -/
theorem answers (stage : Stage) (arguments : Option String) (shown : action ≠ .appear)
    (kept : action ≠ .hideAll) : Answer action stage arguments (action.edit? stage arguments) := by
  cases action with
  | appear => exact absurd rfl shown
  | hideAll => exact absurd rfl kept
  | setPositionX => exact answer_horizontal stage arguments
  | setPositionY => exact answer_vertical stage arguments
  | setCenter =>
    exact .of_map rfl rfl (.cons "x" agrees_integer (.cons "y" agrees_integer Shape.agrees_nil))
      (fun _ => ⟨trivial, trivial, trivial⟩)
      fun nickname _ => ⟨rfl, Edit.acts_ofSafe nickname fun sprite => sprite.counts_centeredAt _ _⟩
  | centerXWith => exact answer_align stage arguments
  | stopMovementCondition => exact answer_stop stage arguments
  | move => exact answer_move stage arguments
  | afterStop animation =>
    exact .of_map rfl rfl (.cons "script" agrees_anything Shape.agrees_nil)
      (fun _ => ⟨trivial, trivial⟩) fun nickname _ => ⟨rfl, Edit.acts_of nickname _⟩
  | delay animation => exact answer_delay animation stage arguments
  | fadeSpeed | scaleSpeed | turnSpeed => exact answer_speed rfl _
  | turnGoal =>
    let make (nickname : String) (goal : Option Single) : Edit :=
      .of nickname fun sprite => { sprite with turn := { sprite.turn with goal } }
    exact .of_word rfl "value" turnGoal?_isSome make rfl fun nickname goal =>
      ⟨rfl, Edit.acts_of nickname _⟩
  | fadeGoal | fadeCurrent | scaleGoal | scaleCurrent | turnCurrent => exact answer_value rfl _
  | hide | flipBoth | flipHorizontal | flipVertical | start | stop => exact answer_plain rfl _

end SpriteAction

/-! ## What an action does to the stage -/

namespace Stage

variable {stage : Stage} {group : Group} {nickname : String}
  {change : Sprite → Safe (Option Sprite)}

/-- Where nobody has the nickname, nothing changes. -/
theorem changeVisible_of_nobody
    (nobody : ∀ name sprite, ¬ Cast.Reaches (stage.cast group) nickname name sprite) :
    stage.changeVisible group nickname change = .ok stage := by
  rw [changeVisible, Cast.visible?_eq_none_iff.2 nobody]

/-- A change that finds nothing to do leaves the stage. -/
theorem changeVisible_of_idle (idle : ∀ sprite, change sprite = .ok none) :
    stage.changeVisible group nickname change = .ok stage := by
  unfold changeVisible
  rcases Cast.visible? (stage.cast group) nickname with _ | ⟨name, sprite⟩
  · rfl
  · dsimp only
    rw [idle sprite]
    rfl

/-- The sprite that the nickname reaches is changed, unless a number is out of range. -/
theorem changeVisible_of_reaches {name : String} {sprite : Sprite}
    (reached : Cast.Reaches (stage.cast group) nickname name sprite)
    (finds : (change sprite).Finds) :
    stage.changeVisible group nickname change = .error .overflow ∨
      ∃ changed, change sprite = .ok (some changed) ∧
        stage.changeVisible group nickname change =
          .ok (stage.setCast group ((stage.cast group).insert name changed)) := by
  rw [changeVisible, Cast.visible?_eq_some_iff.2 reached]
  dsimp only
  obtain ⟨changed, found⟩ | found := finds <;> rw [found]
  · exact .inr ⟨changed, rfl, rfl⟩
  · exact .inl rfl

variable {action : SpriteAction} {arguments : Option String}

/-- Actions on one sprite go through their edits. -/
theorem act_eq (shows : action ≠ .appear) (clears : action ≠ .hideAll) :
    stage.act group action arguments = action.edit? stage arguments >>= fun
      | none => .ok stage
      | some edit => stage.changeVisible group edit.nickname edit.change := by
  cases action with
  | appear => exact absurd rfl shows
  | hideAll => exact absurd rfl clears
  | _ => rfl

/-- An action whose arguments cannot be read does nothing. -/
theorem act_of_unread (shows : action ≠ .appear) (clears : action ≠ .hideAll)
    (unread : ∀ nickname, ¬ action.Reads arguments nickname) :
    stage.act group action arguments = .ok stage := by
  rw [act_eq shows clears]
  have answer := SpriteAction.answers stage arguments shows clears
  generalize action.edit? stage arguments = result at answer ⊢
  cases answer with
  | overflow reads => exact absurd reads (unread _)
  | unread _ => rfl
  | alone _ => rfl
  | idle _ idle => exact changeVisible_of_idle idle
  | ready reads _ => exact absurd reads (unread _)

/-- An alignment without a partner does nothing. -/
theorem act_of_lacksPartner (lacks : action.LacksPartner stage arguments) :
    stage.act group action arguments = .ok stage := by
  obtain ⟨rfl, rest⟩ := lacks
  show (alignEdit? stage arguments >>= fun _ => _) = _
  rw [SpriteAction.alignEdit?_of_lacksPartner ⟨rfl, rest⟩]
  rfl

section reads

variable (shows : action ≠ .appear) (clears : action ≠ .hideAll)
  (reads : action.Reads arguments nickname)

include shows clears reads

/-- An action that reaches nobody does nothing, unless a number is out of range. -/
theorem act_of_nobody
    (nobody : ∀ name sprite, ¬ Cast.Reaches (stage.cast group) nickname name sprite) :
    stage.act group action arguments = .error .overflow ∨
      stage.act group action arguments = .ok stage := by
  rw [act_eq shows clears]
  have answer := SpriteAction.answers stage arguments shows clears
  generalize action.edit? stage arguments = result at answer ⊢
  cases answer with
  | overflow _ => exact .inl rfl
  | unread unread => exact absurd reads (unread _)
  | alone _ => exact .inr rfl
  | idle unread _ => exact absurd reads (unread _)
  | ready reads' _ =>
    rw [reads.unique reads'] at nobody
    exact .inr (changeVisible_of_nobody nobody)

/-- An action changes the sprite that its nickname reaches, unless a number is out of range. -/
theorem act_of_reaches (partner : ¬ action.LacksPartner stage arguments) {name : String}
    {sprite : Sprite} (reached : Cast.Reaches (stage.cast group) nickname name sprite) :
    stage.act group action arguments = .error .overflow ∨
      ∃ changed, sprite.Becomes action changed ∧
        stage.act group action arguments =
          .ok (stage.setCast group ((stage.cast group).insert name changed)) := by
  rw [act_eq shows clears]
  have answer := SpriteAction.answers stage arguments shows clears
  generalize edited : action.edit? stage arguments = result at answer ⊢
  cases answer with
  | overflow _ => exact .inl rfl
  | unread unread => exact absurd reads (unread _)
  | alone lacks => exact absurd lacks partner
  | idle unread _ => exact absurd reads (unread _)
  | ready reads' acts =>
    rw [reads.unique reads'] at reached
    obtain overflow | ⟨changed, made, done⟩ := changeVisible_of_reaches reached (acts sprite)
    · exact .inl overflow
    · exact .inr ⟨changed, SpriteAction.becomes_of_edit? edited _ _ made, done⟩

end reads

end Stage

/-! ## The tags -/

/-- **One sprite for one tag.** A tag for anything but showing a sprite or hiding a group names a
sprite by its nickname.

If the arguments are not a nickname and fields of the right kinds, or the sprite to align with is
not visible, then nothing changes. Else, if no coordinate leaves its range, the tag is about the
first visible sprite of the group that has the nickname: if there is none, nothing changes, and if
there is one, then the sprite is edited by the action, is still the same sprite of the same size, is
still visible unless it was to be hidden, and no other sprite of any group and nothing else in the
session changes. -/
theorem Session.sprite_tag_touches_one_sprite (s : Session) (isMain : Bool) (group : Group)
    {action : SpriteAction} (shows : action ≠ .appear) (clears : action ≠ .hideAll) (tag : Tag) :
    ((∀ nickname, ¬ action.Reads tag.arguments nickname) ∨
      action.LacksPartner s.stage tag.arguments →
      s.execute isMain (.sprite group action) tag = .ok (.ofSession s)) ∧
    ∀ nickname, action.Reads tag.arguments nickname → ¬ action.LacksPartner s.stage tag.arguments →
      s.execute isMain (.sprite group action) tag ≠ .error (.crash .overflow) →
      ((∀ name sprite, ¬ Cast.Reaches (s.stage.cast group) nickname name sprite) →
        s.execute isMain (.sprite group action) tag = .ok (.ofSession s)) ∧
      ∀ name sprite, Cast.Reaches (s.stage.cast group) nickname name sprite →
        ∃ stage changed,
          s.execute isMain (.sprite group action) tag = .ok (.ofSession { s with stage }) ∧
          (stage.cast group).find? name = some changed ∧ sprite.Becomes action changed ∧
          sprite.Resembles changed ∧ (action ≠ .hide → changed.visible = sprite.visible) ∧
          Stage.SameBut group [name] s.stage stage := by
  have executed : s.execute isMain (.sprite group action) tag =
      liftSafe ((s.stage.act group action tag.arguments).map s.withStage) := rfl
  rw [executed]
  refine ⟨?_, fun nickname reads partner calm => ⟨fun nobody => ?_, fun name sprite reached => ?_⟩⟩
  · rintro (unread | lacks)
    · rw [Stage.act_of_unread shows clears unread]
      rfl
    · rw [Stage.act_of_lacksPartner lacks]
      rfl
  · obtain overflow | same := Stage.act_of_nobody shows clears reads nobody
    · rw [overflow] at calm
      exact absurd rfl calm
    · rw [same]
      rfl
  · obtain overflow | ⟨changed, becomes, acted⟩ :=
      Stage.act_of_reaches shows clears reads partner reached
    · rw [overflow] at calm
      exact absurd rfl calm
    · rw [acted]
      refine ⟨_, changed, rfl, ?_, becomes, becomes.resembles, fun stays => ?_,
        Stage.sameBut_setCast ?_⟩
      · rw [Stage.cast_setCast, if_pos rfl, Dict.find?_insert, if_pos rfl]
      · rw [becomes.visible, bne_iff_ne.2 stays, Bool.and_true]
      · intro other elsewhere
        rw [Dict.find?_insert, if_neg fun same => elsewhere (List.mem_singleton.2 same)]

/-- A session with two visible characters of one nickname, and an object of a nickname of its
own. -/
def alignSession : Session :=
  { Session.fresh {} {} with
    stage := {
      displayWidth := 640
      displayHeight := 480
      character := .ofEntries [
        ("ann", { name := "ann", nickname := "a", width := 21, height := 40, visible := true }),
        ("bea", { name := "bea", nickname := "a", width := 10, height := 10, visible := true })]
      object := .ofEntries [("orb",
        { name := "orb", nickname := "o", width := 8, height := 8, x := 300, visible := true })] } }

/-- The first of the two characters is aligned with the object; the other one and the object stay.
Nothing happens if a speed is above a hundred percent. -/
theorem Session.character_aligned_with_object :
    (∃ stage changed,
      alignSession.execute true (.sprite .character .centerXWith)
        ⟨"character_center_x_with", some " a , Object ,o"⟩ =
          .ok (.ofSession { alignSession with stage }) ∧
      (stage.cast .character).find? "ann" = some changed ∧ changed.visible = true ∧
      (stage.cast .character).find? "bea" = (alignSession.stage.cast .character).find? "bea" ∧
      (stage.cast .object).find? "orb" = (alignSession.stage.cast .object).find? "orb") ∧
    alignSession.execute true (.sprite .character .fadeSpeed)
      ⟨"character_fade_speed", some "a, 101, fade in"⟩ = .ok (.ofSession alignSession) := by
  constructor
  · obtain ⟨cut, passes, found, other, known, done⟩ :
        Text.fields " a , Object ,o" = ["a", "Object", "o"] ∧
        FieldCheck.pass [.keyword Group.vocabulary, .anything] ["Object", "o"] = true ∧
        Cast.visible? (alignSession.stage.cast .character) "a" =
          some ("ann",
            { name := "ann", nickname := "a", width := 21, height := 40, visible := true }) ∧
        (Cast.visible? (alignSession.stage.cast .object) "o").isSome = true ∧
        Group.vocabulary.read? "Object" = some .object ∧
        (alignSession.execute true (.sprite .character .centerXWith)
          ⟨"character_center_x_with", some " a , Object ,o"⟩).toOption.isSome = true := by
      decide +kernel
    have reads : SpriteAction.Reads .centerXWith (some " a , Object ,o") "a" :=
      ⟨_, List.mem_singleton.2 rfl, _, rfl, _, cut, passes⟩
    have partner :
        ¬ SpriteAction.LacksPartner .centerXWith alignSession.stage (some " a , Object ,o") := by
      rintro ⟨-, _, ⟨⟩, nickname, word, other', cut', nobody⟩
      rw [cut] at cut'
      cases cut'
      rw [Cast.visible?_eq_none_iff.2 (nobody _ known)] at other
      cases other
    obtain ⟨-, touches⟩ := Session.sprite_tag_touches_one_sprite alignSession true .character
      (by decide : SpriteAction.centerXWith ≠ .appear) (by decide)
      ⟨"character_center_x_with", some " a , Object ,o"⟩
    obtain ⟨-, aligned⟩ := touches "a" reads partner fun overflow => by
      rw [overflow] at done; cases done
    obtain ⟨stage, changed, executed, kept, -, -, visible, same⟩ :=
      aligned _ _ (Cast.visible?_eq_some_iff.1 found)
    exact ⟨stage, changed, executed, kept, visible (by decide), same.sprites _ _ (by decide),
      same.sprites _ _ (by decide)⟩
  · obtain ⟨idle, -⟩ := Session.sprite_tag_touches_one_sprite alignSession true .character
      (by decide : SpriteAction.fadeSpeed ≠ .appear) (by decide)
      ⟨"character_fade_speed", some "a, 101, fade in"⟩
    refine idle (.inl ?_)
    rintro nickname ⟨_, form, _, ⟨⟩, rest, cut, passes⟩
    obtain ⟨cut', fails⟩ : Text.fields "a, 101, fade in" = ["a", "101", "fade in"] ∧
        FieldCheck.pass [.percentage, .keyword FadeDirection.vocabulary] ["101", "fade in"] =
          false := by
      decide +kernel
    cases List.mem_singleton.1 form
    rw [cut'] at cut
    cases cut
    exact Bool.false_ne_true (fails.symm.trans passes)

end VisualNovel

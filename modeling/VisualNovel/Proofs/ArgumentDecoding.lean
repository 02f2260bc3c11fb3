import VisualNovel.Proofs.LineGrammar
import VisualNovel.Proofs.ReviewTargets

/-!
# What arguments are decoded to

The arguments of a tag are texts between commas (`Text.Segments`). A shape wants as many of them as
it has fields, or at least as many if its last field is free text, which then takes what is left
with the commas in it (`Shape.Fits`, `Shape.fieldTexts`). The blanks around a field do not count, a
field of text is what it says, and a field for a number has to be one (`Shape.Holds`).

Main statement (`Shape.decoding_is_exact`): decoding succeeds for such arguments and no others, with
these values. If it does not, then it complains of the number of fields, or else of the first field
that is no number (`Shape.Misreads`). Fields that are written with commas and blanks between them
are decoded to themselves. The tags that may be written in two ways (`Instruction.Formats`) are so
in one of them at most.
-/

namespace VisualNovel

open Number

/-! ## Fields -/

namespace FieldKind

/-- What a field says. Text says itself; numbers are what they are read as. -/
def Means : (kind : FieldKind) → String → kind.Value → Prop
  | .text, field, value => value = field
  | .integer, field, value => readSigned field = some value
  | .count, field, value => readCount field = some value
  | .decimal, field, value => Format.single.read field = some value
  | .free, field, value => value = field

/-- The kind of number that has to be in a field, if one has to. -/
def number? : FieldKind → Option NumberKind
  | .text => none
  | .integer => some .integer
  | .count => some .count
  | .decimal => some .decimal
  | .free => none

section

variable {α : Type} {number : NumberKind} {position : Nat} {field : String} {value : Option α}

/-- A field for a number holds what was read of it. -/
theorem numberField_eq_ok_iff {a : α} :
    numberField number position field value = .ok a ↔ value = some a := by
  cases value <;> simp [numberField]

/-- A field for a number fails if nothing was read of it, and says which field that is. -/
theorem numberField_eq_error_iff {error : ArgumentError} :
    numberField number position field value = .error error ↔
      (∀ a, value ≠ some a) ∧ error = .notNumeric position field number := by
  cases value <;> simp [numberField, eq_comm]

end

variable {position : Nat} {field : String}

/-- A field is read as what its text means, and as nothing else. -/
theorem read_eq_ok_iff {kind : FieldKind} {value : kind.Value} :
    kind.read position field = .ok value ↔ kind.Means field value := by
  cases kind with
  | text => exact Except.ok.injEq field value ▸ eq_comm
  | integer => exact numberField_eq_ok_iff
  | count => exact numberField_eq_ok_iff
  | decimal => exact numberField_eq_ok_iff
  | free => exact Except.ok.injEq field value ▸ eq_comm

/-- A field is complained of if it has to be a number and is none. -/
theorem read_eq_error_iff {kind : FieldKind} {error : ArgumentError} :
    kind.read position field = .error error ↔ ∃ number, kind.number? = some number ∧
      (∀ value, ¬ kind.Means field value) ∧ error = .notNumeric position field number := by
  cases kind with
  | text => simp [read, number?]
  | integer => simpa [read, number?, Means] using numberField_eq_error_iff
  | count => simpa [read, number?, Means] using numberField_eq_error_iff
  | decimal => simpa [read, number?, Means] using numberField_eq_error_iff
  | free => simp [read, number?]

end FieldKind

/-! ## Shapes -/

namespace Shape

/-- Whether there are as many texts between commas as a shape wants. -/
def Fits (shape : Shape) (count : Nat) : Prop :=
  if shape.isFree then shape.length ≤ count else count = shape.length

/-- The texts of the fields, of those between commas. The last field takes the rest if it is
free. -/
def fieldTexts (shape : Shape) (pieces : List String) : List String :=
  if shape.isFree then
    (pieces.take (shape.length - 1)).map Text.trim ++
      [Text.trim (",".intercalate (pieces.drop (shape.length - 1)))]
  else pieces.map Text.trim

/-- The values of fields are what their texts say, one by one. -/
def Holds : (shape : Shape) → List String → shape.Values → Prop
  | [], [], _ => True
  | field :: fields, text :: texts, (value, values) =>
    field.kind.Means text value ∧ Holds fields texts values
  | [], _ :: _, _ => False
  | _ :: _, [], _ => False

/-- The first of the fields that should be a number and is not, by the number of fields before
it. -/
def Misreads (shape : Shape) (texts : List String) (index : Nat) (text : String)
    (number : NumberKind) :
    Prop :=
  ∃ front field back earlier later values,
    shape = front ++ field :: back ∧ texts = earlier ++ text :: later ∧ earlier.length = index ∧
    Holds front earlier values ∧
    field.kind.number? = some number ∧ ∀ value, ¬ field.kind.Means text value

/-- Texts that may stand between commas as the fields of a shape: no blanks around them, and no
commas in them, unless the last one takes what is left. -/
structure Writable (shape : Shape) (texts : List String) : Prop where
  /-- There are fields. -/
  nonempty : shape ≠ []
  /-- There is a text for each. -/
  length_eq : texts.length = shape.length
  /-- The texts are trimmed. -/
  tight : ∀ text ∈ texts, Text.Tight text.toList
  /-- There are commas in free text only. -/
  apart : ∀ text ∈ if shape.isFree then texts.dropLast else texts, ',' ∉ text.toList

variable {shape : Shape} {texts : List String} {position : Nat}

/-- It is the last field that may be free. -/
theorem isFree_iff : shape.isFree = true ↔ ∃ front name, shape = front ++ [Field.free name] := by
  rcases List.eq_nil_or_concat' shape with rfl | ⟨front, ⟨name, kind⟩, rfl⟩
  · simp [isFree]
  · have same : isFree (front ++ [⟨name, kind⟩]) = (kind == .free) := by simp [isFree]
    rw [same, beq_iff_eq]
    constructor
    · rintro rfl
      exact ⟨front, name, rfl⟩
    · rintro ⟨front', name', h⟩
      cases (List.append_inj' h rfl).2
      rfl

/-- A shape with a free field has a field. -/
theorem exists_length_of_isFree (free : shape.isFree = true) : ∃ n, shape.length = n + 1 := by
  cases shape with
  | nil => cases free
  | cons field fields => exact ⟨fields.length, rfl⟩

/-! ### Splitting -/

/-- Arguments that fit a shape are cut into its fields. -/
theorem splitFields_of_fits {arguments : String}
    (fits : shape.Fits (Text.split ',' arguments).length) :
    splitFields arguments shape.length shape.isFree =
      .ok (shape.fieldTexts (Text.split ',' arguments)) := by
  rw [splitFields, fieldTexts]
  cases free : shape.isFree with
  | true =>
    obtain ⟨n, hlength⟩ := exists_length_of_isFree free
    have enough : n < (Text.split ',' arguments).length := by
      rw [Fits, if_pos free, hlength] at fits
      exact fits
    simp only [if_true, hlength, Nat.add_sub_cancel]
    rw [if_pos, Text.splitAtMost_eq enough, List.map_append, List.map_singleton]
    rw [List.length_map, Text.length_splitAtMost]
    exact Nat.min_eq_left enough
  | false =>
    rw [Fits, free] at fits
    simp only [Bool.false_eq_true, if_false] at fits ⊢
    rw [if_pos (by rw [List.length_map, fits])]

/-- Arguments that do not fit a shape are refused, with how many there are. -/
theorem splitFields_of_not_fits {arguments : String}
    (misfit : ¬ shape.Fits (Text.split ',' arguments).length) :
    splitFields arguments shape.length shape.isFree =
      .error (.arity shape.length (Text.split ',' arguments).length) := by
  rw [splitFields]
  cases free : shape.isFree with
  | true =>
    obtain ⟨n, hlength⟩ := exists_length_of_isFree free
    rw [Fits, if_pos free, hlength, Nat.not_le] at misfit
    have pieces : (Text.splitAtMost ',' (n + 1) arguments).length =
        (Text.split ',' arguments).length := by
      rw [Text.length_splitAtMost, Nat.min_eq_right misfit.le]
    simp only [if_true, hlength, List.length_map]
    rw [pieces, if_neg misfit.ne]
  | false =>
    rw [Fits, free] at misfit
    simp only [Bool.false_eq_true, if_false, List.length_map] at misfit ⊢
    rw [if_neg misfit]

/-- There is a text for each field, if there are as many as the shape wants. -/
theorem length_fieldTexts {pieces : List String} (fits : shape.Fits pieces.length) :
    (shape.fieldTexts pieces).length = shape.length := by
  rw [Fits] at fits
  rw [fieldTexts]
  cases free : shape.isFree with
  | true =>
    obtain ⟨n, hlength⟩ := exists_length_of_isFree free
    rw [free, if_pos rfl] at fits
    simp only [if_true, List.length_append, List.length_map, List.length_take,
      List.length_singleton]
    omega
  | false =>
    rw [free] at fits
    simpa using fits

/-! ### Reading -/

/-- The first text is read by the first field, and the other texts by the other fields. -/
theorem readFrom_cons (field : Field) (fields : Shape) (text : String) (texts : List String) :
    readFrom position (field :: fields) (text :: texts) =
      (field.kind.read position text).bind fun value =>
        (readFrom (position + 1) fields texts).map fun values => (value, values) := by
  rw [readFrom]
  rcases field.kind.read position text with error | value
  · rfl
  · rcases readFrom (position + 1) fields texts with error | values <;> rfl

/-- Texts are read as what they mean, field by field. -/
theorem readFrom_eq_ok_iff (hlength : texts.length = shape.length) {values : shape.Values} :
    shape.readFrom position texts = .ok values ↔ shape.Holds texts values := by
  induction shape generalizing texts position with
  | nil =>
    obtain rfl := List.length_eq_zero_iff.1 hlength
    exact ⟨fun _ => trivial, fun _ => rfl⟩
  | cons field fields ih =>
    obtain ⟨text, texts, rfl⟩ := List.exists_cons_of_length_eq_add_one hlength
    obtain ⟨value, values⟩ := values
    have here : field.kind.read position text = .ok value ↔ field.kind.Means text value :=
      FieldKind.read_eq_ok_iff
    have rest : readFrom (position + 1) fields texts = .ok values ↔ Holds fields texts values :=
      ih (Nat.succ_injective hlength)
    rw [Holds, ← rest, ← here, readFrom_cons]
    rcases field.kind.read position text with error | first
    · simp [Except.bind]
    · rcases readFrom (position + 1) fields texts with error | others
      · simp [Except.bind, Except.map]
      · simp only [Except.bind, Except.map, Except.ok.injEq, Prod.mk.injEq]

/-- The field that cannot be read is the first one, or it comes later and the first one can be read.
-/
theorem misreads_cons_iff {field : Field} {fields : Shape} {text bad : String} {index : Nat}
    {number : NumberKind} :
    Misreads (field :: fields) (text :: texts) index bad number ↔
      (index = 0 ∧ bad = text ∧ field.kind.number? = some number ∧
        ∀ value, ¬ field.kind.Means text value) ∨
      ∃ before value, index = before + 1 ∧ field.kind.Means text value ∧
        Misreads fields texts before bad number := by
  constructor
  · rintro ⟨front, wrong, back, earlier, later, values, hshape, htexts, rfl, holds, numeric, unread⟩
    cases front with
    | nil =>
      cases earlier with
      | nil =>
        cases hshape
        cases htexts
        exact .inl ⟨rfl, rfl, numeric, unread⟩
      | cons _ _ => exact holds.elim
    | cons _ front =>
      cases earlier with
      | nil => exact holds.elim
      | cons _ earlier =>
        cases hshape
        cases htexts
        obtain ⟨value, values⟩ := values
        exact .inr ⟨_, value, rfl, holds.1, front, wrong, back, earlier, later, values,
          rfl, rfl, rfl, holds.2, numeric, unread⟩
  · rintro (⟨rfl, rfl, numeric, unread⟩ | ⟨before, value, rfl, means, front, wrong, back,
      earlier, later, values, rfl, rfl, rfl, holds, numeric, unread⟩)
    · exact ⟨[], field, fields, [], texts, (), rfl, rfl, rfl, trivial, numeric, unread⟩
    · exact ⟨field :: front, wrong, back, text :: earlier, later, (value, values), rfl, rfl, rfl,
        ⟨means, holds⟩, numeric, unread⟩

/-- Reading stops at the first field that is not the number it should be. -/
theorem readFrom_eq_error_iff (hlength : texts.length = shape.length) {error : ArgumentError} :
    shape.readFrom position texts = .error error ↔
      ∃ index text number, shape.Misreads texts index text number ∧
        error = .notNumeric (position + index) text number := by
  -- By induction on the fields: the first one cannot be read, or it can and a later one cannot.
  induction shape generalizing texts position with
  | nil =>
    refine ⟨fun h => (nomatch h), ?_⟩
    rintro ⟨_, _, _, ⟨front, _, _, _, _, _, hshape, _⟩, _⟩
    cases front <;> cases hshape
  | cons field fields ih =>
    obtain ⟨text, texts, rfl⟩ := List.exists_cons_of_length_eq_add_one hlength
    have rest : readFrom (position + 1) fields texts = .error error ↔ _ :=
      ih (Nat.succ_injective hlength)
    simp only [misreads_cons_iff]
    rw [readFrom_cons]
    rcases hread : field.kind.read position text with wrong | value
    · obtain ⟨number, numeric, unread, rfl⟩ := FieldKind.read_eq_error_iff.1 hread
      simp only [Except.bind, Except.error.injEq]
      constructor
      · rintro rfl
        exact ⟨0, text, number, .inl ⟨rfl, rfl, numeric, unread⟩, rfl⟩
      · rintro ⟨index, bad, other, ⟨rfl, rfl, known, -⟩ | ⟨-, value, -, means, -⟩, rfl⟩
        · rw [numeric] at known
          cases known
          rfl
        · exact absurd means (unread value)
    · have means := FieldKind.read_eq_ok_iff.1 hread
      have later :
          (readFrom (position + 1) fields texts).map (fun values => (value, values)) =
              .error error ↔
            readFrom (position + 1) fields texts = .error error := by
        rcases readFrom (position + 1) fields texts with wrong | values <;> simp [Except.map]
      rw [Except.bind, later, rest]
      constructor
      · rintro ⟨index, bad, number, misreads, rfl⟩
        refine ⟨index + 1, bad, number, .inr ⟨index, value, rfl, means, misreads⟩, ?_⟩
        rw [Nat.add_right_comm, Nat.add_assoc]
      · rintro ⟨index, bad, number, ⟨-, -, -, unread⟩ | ⟨before, -, rfl, -, misreads⟩, rfl⟩
        · exact absurd means (unread value)
        · refine ⟨before, bad, number, misreads, ?_⟩
          rw [Nat.add_right_comm, Nat.add_assoc]

/-! ### Decoding -/

variable {arguments : String}

/-- Arguments that fit a shape are read field by field. -/
theorem decode_of_fits (fits : shape.Fits (Text.split ',' arguments).length) :
    shape.decode (some arguments) =
      shape.readFrom 1 (shape.fieldTexts (Text.split ',' arguments)) := by
  rw [decode, splitFields_of_fits fits]
  rfl

/-- Arguments that do not fit a shape are not read at all. -/
theorem decode_of_not_fits (misfit : ¬ shape.Fits (Text.split ',' arguments).length) :
    shape.decode (some arguments) =
      .error (.arity shape.length (Text.split ',' arguments).length) := by
  rw [decode, splitFields_of_not_fits misfit]
  rfl

/-- Decoding gives the values that the fields have. -/
theorem decode_eq_ok_iff {values : shape.Values} :
    shape.decode (some arguments) = .ok values ↔
      shape.Fits (Text.split ',' arguments).length ∧
        shape.Holds (shape.fieldTexts (Text.split ',' arguments)) values := by
  by_cases fits : shape.Fits (Text.split ',' arguments).length
  · rw [decode_of_fits fits, readFrom_eq_ok_iff (length_fieldTexts fits)]
    exact (and_iff_right fits).symm
  · rw [decode_of_not_fits fits]
    exact ⟨fun h => (nomatch h), fun h => absurd h.1 fits⟩

/-- Otherwise there are not as many fields as there should be, or one is not the number it should
be. -/
theorem decode_eq_error_iff {error : ArgumentError} :
    shape.decode (some arguments) = .error error ↔
      (¬ shape.Fits (Text.split ',' arguments).length ∧
        error = .arity shape.length (Text.split ',' arguments).length) ∨
      shape.Fits (Text.split ',' arguments).length ∧
        ∃ index text number,
          shape.Misreads (shape.fieldTexts (Text.split ',' arguments)) index text number ∧
          error = .notNumeric (index + 1) text number := by
  by_cases fits : shape.Fits (Text.split ',' arguments).length
  · rw [decode_of_fits fits, readFrom_eq_error_iff (length_fieldTexts fits)]
    simp only [fits, not_true_eq_false, false_and, true_and, false_or, Nat.add_comm 1]
  · rw [decode_of_not_fits fits, Except.error.injEq]
    simp only [fits, not_false_eq_true, true_and, false_and, or_false, eq_comm]

/-- Fields that are written one after the other are found again. -/
theorem Writable.splitFields (writable : shape.Writable texts) :
    splitFields (", ".intercalate texts) shape.length shape.isFree = .ok texts := by
  obtain ⟨nonempty, hlength, tight, apart⟩ := writable
  obtain ⟨n, hn⟩ := Nat.exists_eq_add_one_of_ne_zero (List.length_eq_zero_iff.not.2 nonempty)
  rw [VisualNovel.splitFields]
  cases free : shape.isFree with
  | true =>
    rw [free, if_pos rfl] at apart
    simp only [if_true, hn]
    rw [Text.map_trim_splitAtMost (hlength.trans hn) tight apart, if_pos (hlength.trans hn)]
  | false =>
    rw [free, if_neg Bool.false_ne_true] at apart
    have some : texts ≠ [] := List.ne_nil_of_length_eq_add_one (hlength.trans hn)
    simp only [Bool.false_eq_true, if_false]
    rw [Text.map_trim_split some tight apart, if_pos hlength]

/-- What is written for a shape is read as what its texts mean. -/
theorem Writable.decode (writable : shape.Writable texts) {values : shape.Values}
    (holds : shape.Holds texts values) :
    shape.decode (some (", ".intercalate texts)) = .ok values := by
  rw [Shape.decode, writable.splitFields]
  exact (readFrom_eq_ok_iff writable.length_eq).2 holds

/-- Of two shapes, of which the shorter one has no free field, arguments fit one at most. -/
theorem decode?_eq_none_or {long short : Shape} (fixed : short.isFree = false)
    (shorter : short.length < long.length) (arguments : Option String) :
    long.decode? arguments = none ∨ short.decode? arguments = none := by
  cases arguments with
  | none => exact .inl rfl
  | some arguments =>
    by_cases fits : short.Fits (Text.split ',' arguments).length
    · left
      have misfit : ¬ long.Fits (Text.split ',' arguments).length := by
        rw [Fits, fixed, if_neg Bool.false_ne_true] at fits
        rw [Fits, fits]
        split <;> omega
      rw [decode?, decode_of_not_fits misfit]
      rfl
    · right
      rw [decode?, decode_of_not_fits fits]
      rfl

end Shape

/-- The tags that may be written in two ways: the shapes of their arguments, in the order in which
they are tried. -/
inductive Instruction.Formats : Instruction → Shape → Shape → Prop where
  /-- A script is called with parameters or without. -/
  | call : Formats .call Shape.callWith Shape.name
  /-- So is a timer set for one. -/
  | after : Formats .after Shape.afterWith Shape.after
  /-- A block has a name or none. -/
  | case : Formats .case Shape.namedCondition Shape.condition
  /-- The animation of a sprite is waited for, or that of the cover of the screen. -/
  | waitForAnimation : Formats .waitForAnimation Shape.waitForSprite Shape.waitForScreen
  /-- A background has a nickname or none. -/
  | loadBackground : Formats (.load .background) Shape.load Shape.name
  /-- A movement ends where a side has to arrive, or at a place. -/
  | stopMovement (group : Group) :
    Formats (.sprite group .stopMovementCondition) Shape.stopAtSide Shape.stopAtPlace

/-- No arguments have both formats of an instruction. -/
theorem Instruction.Formats.decode?_eq_none_or {instruction : Instruction} {first second : Shape}
    (formats : instruction.Formats first second) (arguments : Option String) :
    first.decode? arguments = none ∨ second.decode? arguments = none := by
  cases formats <;> exact Shape.decode?_eq_none_or rfl (by decide) arguments

/-- Decoding is exact. Arguments are cut at their commas in one way. They are decoded if they have
as many pieces as the shape wants and each field has a value, to these values. Otherwise there are
not as many pieces, or else the first field that has no value is named by its place, counted from
one. Fields that are joined are decoded to themselves, and no arguments fit both shapes of a tag
that has two. -/
theorem Shape.decoding_is_exact :
    (∀ shape : Shape, shape.isFree = true ↔ ∃ front name, shape = front ++ [Field.free name]) ∧
    (∀ (shape : Shape) (arguments : String), ∃ pieces,
      (∀ others, Text.Segments arguments others ↔ others = pieces) ∧
      (∀ values, shape.decode (some arguments) = .ok values ↔
        shape.Fits pieces.length ∧ shape.Holds (shape.fieldTexts pieces) values) ∧
      ∀ error, shape.decode (some arguments) = .error error ↔
        (¬ shape.Fits pieces.length ∧ error = .arity shape.length pieces.length) ∨
        shape.Fits pieces.length ∧ ∃ index text number,
          shape.Misreads (shape.fieldTexts pieces) index text number ∧
          error = .notNumeric (index + 1) text number) ∧
    (∀ (shape : Shape) texts values, shape.Writable texts → shape.Holds texts values →
      shape.decode (some (", ".intercalate texts)) = .ok values) ∧
    ∀ instruction first second, Instruction.Formats instruction first second → ∀ arguments,
      first.decode? arguments = none ∨ second.decode? arguments = none := by
  refine ⟨fun shape => isFree_iff, fun shape arguments => ⟨Text.split ',' arguments,
    fun others => Text.segments_iff, fun values => decode_eq_ok_iff,
    fun error => decode_eq_error_iff⟩, ?_, ?_⟩
  · intro shape texts values writable holds
    exact writable.decode holds
  · intro instruction first second formats arguments
    exact formats.decode?_eq_none_or arguments

/-- A timer with parameters, of which the last field takes the commas; the same arguments as they
are written; those of a movement, of which the fourth field is no number. -/
theorem Shape.timer_and_movement_decoded :
    (∃ pieces, Text.Segments " +30,door , a=1,b:<2> " pieces ∧ afterWith.Fits pieces.length ∧
      afterWith.Holds (afterWith.fieldTexts pieces) (30, "door", "a=1,b:<2>", ())) ∧
    afterWith.decode (some (", ".intercalate ["30", "door", "a=1,b:<2>"])) =
      .ok (30, "door", "a=1,b:<2>", ()) ∧
    (∃ pieces, Text.Segments "hero, 2, right, two, up" pieces ∧
      move.Misreads (move.fieldTexts pieces) 3 "two" .integer) ∧
    (afterWith.decode? (some "30, door") = none ∨ after.decode? (some "30, door") = none) := by
  obtain ⟨-, exact, joined, formats⟩ := Shape.decoding_is_exact
  refine ⟨?_, ?_, ?_, formats .after _ _ .after _⟩
  · obtain ⟨pieces, segments, values, -⟩ := exact afterWith " +30,door , a=1,b:<2> "
    exact ⟨pieces, (segments pieces).2 rfl, (values _).1 (by decide +kernel)⟩
  · have numeric : readCount "30" = some 30 := by decide +kernel
    refine joined afterWith ["30", "door", "a=1,b:<2>"] (30, "door", "a=1,b:<2>", ()) ?_
      ⟨numeric, rfl, rfl, trivial⟩
    exact ⟨by simp, rfl, by decide +kernel, by decide +kernel⟩
  · obtain ⟨pieces, segments, -, errors⟩ := exact move "hero, 2, right, two, up"
    have misfit : move.decode (some "hero, 2, right, two, up") =
        .error (.notNumeric 4 "two" .integer) := by
      decide +kernel
    rcases (errors _).1 misfit with ⟨-, absurd⟩ | ⟨-, index, text, number, misreads, same⟩
    · cases absurd
    · cases same
      exact ⟨pieces, (segments pieces).2 rfl, misreads⟩

end VisualNovel

import VisualNovel.Failure
import VisualNovel.Number.Floating
import VisualNovel.Text.Split

/-!
# Arguments

The arguments of a tag are fields between commas, without the blanks around them. A shape says which
fields a tag wants: their names, for the reader of a script, and their kinds. As many fields must be
there as the shape has, unless its last field is free text: that one takes the rest of the
arguments, commas included.

`Shape.decode` turns the arguments into a value for each field, or says what is wrong: first whether
there are arguments at all, then their number, then the first field that is not the number it should
be.
-/

namespace VisualNovel

open Number

/-! ## Fields -/

/-- The kinds of fields. -/
inductive FieldKind where
  /-- Text without a comma. -/
  | text
  /-- A signed whole number. -/
  | integer
  /-- An unsigned whole number. -/
  | count
  /-- A number with a fraction. -/
  | decimal
  /-- The rest of the arguments. -/
  | free
  deriving DecidableEq, Repr

/-- The values of a kind of field. -/
abbrev FieldKind.Value : FieldKind → Type
  | .text => String
  | .integer => Int
  | .count => Nat
  | .decimal => Single
  | .free => String

/-- A number in a field, or the complaint that the field is none. -/
def numberField {α : Type} (kind : NumberKind) (position : Nat) (field : String)
    (value : Option α) : Except ArgumentError α :=
  match value with
  | some a => .ok a
  | none => .error (.notNumeric position field kind)

/-- The value of a field. -/
def FieldKind.read (kind : FieldKind) (position : Nat) (field : String) :
    Except ArgumentError kind.Value :=
  match kind with
  | .text => .ok field
  | .integer => numberField .integer position field (readSigned field)
  | .count => numberField .count position field (readCount field)
  | .decimal => numberField .decimal position field (Format.single.read field)
  | .free => .ok field

/-- A field of a shape. -/
structure Field where
  /-- The name of the field. -/
  name : String
  /-- The kind of its values. -/
  kind : FieldKind
  deriving DecidableEq, Repr

/-! ## Splitting -/

/-- The fields of some arguments. The last one takes the rest of the arguments if it is `free`. -/
def splitFields (arguments : String) (arity : Nat) ( free : Bool) :
    Except ArgumentError (List String) :=
  let pieces :=
    if free then Text.splitAtMost ',' arity arguments else Text.split ',' arguments
  let fields := pieces.map Text.trim
  if fields.length = arity then .ok fields else .error (.arity arity fields.length)

/-! ## Shapes -/

/-- The fields that a tag wants. -/
abbrev Shape : Type :=
  List Field

namespace Shape

/-- A value for each field. -/
abbrev Values : Shape → Type
  | [] => Unit
  | field :: fields => field.kind.Value × Values fields

/-- Whether the last field is free text. -/
def isFree (shape : Shape) : Bool :=
  (shape.getLast?.map fun field => field.kind == .free).getD false

/-- The values of the fields from a position on. -/
def readFrom (position : Nat) : (shape : Shape) → List String → Except ArgumentError shape.Values
  | [], _ => .ok ()
  | _ :: _, [] => .error .missing
  | field :: fields, text :: texts => do
    let value ← field.kind.read position text
    let values ← readFrom (position + 1) fields texts
    return (value, values)

/-- The values of the fields of some arguments. -/
def decode (shape : Shape) : Option String → Except ArgumentError shape.Values
  | none => .error .missing
  | some arguments => do
    let fields ← splitFields arguments shape.length shape.isFree
    shape.readFrom 1 fields

/-- The values of the fields, if the arguments have the shape. -/
def decode? (shape : Shape) (arguments : Option String) : Option shape.Values :=
  (shape.decode arguments).toOption

end Shape

end VisualNovel

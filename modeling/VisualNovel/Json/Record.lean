import VisualNovel.Json.Basic
import VisualNovel.Dict

/-!
# Records, variants and dictionaries in JSON

How the types of this library stand in JSON.

* A record is an object with a member for each field, or a list of its fields in their order.
  Members that name no field are skipped, a field named twice is refused. A field with a default may
  be missing in either form; a field that may be absent may be missing from an object only.
* A variant is its name, or an object with that one name and the variant's fields; a variant without
  fields may also be written with `null` in their place.
* A dictionary is an object; of two members with one name, the later one counts.
-/

namespace VisualNovel.Json

open Number

/-! ## Plain values -/

/-- The truth value in a value. -/
def bool? : Json → Option Bool
  | .bool b => some b
  | _ => none

/-- The text in a value. -/
def text? : Json → Option String
  | .text s => some s
  | _ => none

/-- The whole number in a value. -/
def int? : Json → Option Int
  | .number (.whole i) => some i
  | _ => none

/-- The signed number of 32 bits in a value. -/
def signed? (j : Json) : Option Int :=
  j.int?.filter fitsSigned

/-- The natural number below `bound` in a value. -/
def natBelow? (bound : Nat) (j : Json) : Option Nat :=
  match j.int? with
  | some (.ofNat n) => if n < bound then some n else none
  | _ => none

/-- The unsigned number of 32 bits in a value. -/
def count? (j : Json) : Option Nat :=
  j.natBelow? 4294967296

/-- The unsigned number of 64 bits in a value. -/
def size? (j : Json) : Option Nat :=
  j.natBelow? 18446744073709551616

/-- The number with a fraction in a value. -/
def single? : Json → Option Single
  | .number value => value.single?
  | _ => none

/-- A value that `null` leaves out. -/
def option? {α : Type} (read : Json → Option α) : Json → Option (Option α)
  | .null => some none
  | j => (read j).map some

/-- The items of a list. -/
def list? {α : Type} (read : Json → Option α) : Json → Option (List α)
  | .array items => items.mapM read
  | _ => none

/-- The two items of a pair. -/
def pair? {α β : Type} (first : Json → Option α) (second : Json → Option β) :
    Json → Option (α × β)
  | .array [a, b] => do
    let a ← first a
    let b ← second b
    return (a, b)
  | _ => none

/-! ## Records -/

/-- The fields of a record as they stand in a value. -/
structure Fields where
  /-- Whether they stand in a list. -/
  listed : Bool
  /-- The fields that are there. -/
  members : List (String × Json)

/-- The fields of a record with the given field names. -/
def fields? (names : List String) : Json → Option Fields
  | .object members =>
    if names.any fun name => 1 < members.countP (·.1 == name) then none
    else some ⟨false, members⟩
  | .array items =>
    if names.length < items.length then none else some ⟨true, names.zip items⟩
  | _ => none

namespace Fields

/-- A field that must be there. -/
def required {α : Type} (fields : Fields) (name : String) (read : Json → Option α) : Option α :=
  (fields.members.lookup name).bind read

/-- A field that may be absent from an object. -/
def optional {α : Type} (fields : Fields) (name : String) (read : Json → Option α) :
    Option (Option α) :=
  match fields.members.lookup name with
  | none => if fields.listed then none else some none
  | some value => option? read value

/-- A field that has a default. -/
def withDefault {α : Type} (fields : Fields) (name : String) (default : α)
    (read : Json → Option α) : Option α :=
  match fields.members.lookup name with
  | none => some default
  | some value => read value

end Fields

/-! ## Variants -/

/-- The name of a variant and the value of its fields, if there is one. -/
def variant? : Json → Option (String × Option Json)
  | .text name => some (name, none)
  | .object [(name, value)] => some (name, some value)
  | _ => none

/-- Whether what stands in the place of a variant's fields is nothing. -/
def isBare : Option Json → Bool
  | none => true
  | some .null => true
  | some _ => false

/-- The value with a name among some values. -/
def named? {α : Type} (all : List α) (name : α → String) (s : String) : Option α :=
  all.find? fun a => name a == s

/-- The variant without fields among some variants. -/
def bare? {α : Type} (all : List α) (name : α → String) (j : Json) : Option α := do
  let (s, payload) ← j.variant?
  if isBare payload then named? all name s else none

/-- A variant with fields. -/
def ofVariant (name : String) (members : List (String × Json)) : Json :=
  .object [(name, .object members)]

/-! ## Dictionaries -/

/-- The dictionary in a value. -/
def dict? {α : Type} (read : Json → Option α) : Json → Option (Dict α)
  | .object members =>
    (members.mapM fun (m : String × Json) => (read m.2).map fun a => (m.1, a)).map Dict.ofEntries
  | _ => none

/-- A dictionary as an object. -/
def ofDict {α : Type} (write : α → Json) (d : Dict α) : Json :=
  .object (d.entries.map fun e => (e.1, write e.2))

end VisualNovel.Json

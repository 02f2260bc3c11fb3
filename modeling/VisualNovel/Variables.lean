import VisualNovel.Dict
import VisualNovel.Failure
import VisualNovel.Script.Placeholder

/-!
# Variables and parameters

Two stores of text that a script reads through placeholders. Variables belong to the whole story and
are set by its scripts; parameters belong to one run of a reusable script and are given by its
caller.

A variable that is not set stays in the line as its placeholder, while a parameter that is not given
is a mistake of the author. The value of a variable may hold placeholders again, so that variables
are put into a line several times, until there is nothing to put in or a number of passes is
reached.
-/

namespace VisualNovel

/-! ## Variables -/

/-- The variables of a story. -/
structure Variables where
  /-- The variables that are set. -/
  values : Dict String := .empty
  deriving DecidableEq, Repr

namespace Variables

/-- The characters that no name of a variable holds. -/
def forbiddenChars : List Char :=
  ['\\', '/', ',', '(', ')', '$', ':', '<', '>', ' ']

/-- Whether a text may be the name of a variable. -/
def isName (s : String) : Bool :=
  !(Text.trimChars s.toList).isEmpty && !s.toList.any forbiddenChars.contains

/-- The variables with one set, if it may have that name. -/
def set? (store : Variables) (name value : String) : Option Variables :=
  if isName name then some { values := store.values.insert name value } else none

/-- The variables with one set; a name that no variable may have changes nothing. -/
def set (store : Variables) (name value : String) : Variables :=
  (store.set? name value).getD store

/-- The value of a variable. -/
def get? (store : Variables) (name : String) : Option String :=
  store.values.find? name

/-- A line with the values of its variables, and whether there was one. -/
def fillOnce (store : Variables) (line : String) : String × Bool :=
  match Placeholder.fill (m := Except Empty) Placeholder.variableSigil
      (fun name => .ok (store.get? name)) line with
  | .ok filled => filled

/-- A line with the values of its variables, put in again and again. -/
def fill (store : Variables) : Nat → String → String
  | 0, line => line
  | passes + 1, line =>
    let (filled, some?) := store.fillOnce line
    if some? then store.fill passes filled else filled

end Variables

/-! ## Parameters -/

/-- The parameters of a run of a reusable script. -/
structure Parameters where
  /-- The parameters that are given. -/
  values : Dict String := .empty
  deriving DecidableEq, Repr

namespace Parameters

/-- The name and the value of one parameter. -/
def readPair (pair : String) : Except ArgumentError (String × String) :=
  match Text.cut '=' pair with
  | none => .error (.invalid pair .parameterForm)
  | some (name, value) =>
    let name := Text.trim name
    if name.isEmpty then .error (.invalid pair .parameterName) else .ok (name, Text.trim value)

/-- The parameters in a text: names and values with an equals sign between them, separated by
commas. Empty pieces are passed over; of two values for a name, the later one counts. -/
def read (s : String) : Except ArgumentError Parameters := do
  let pairs := ((Text.split ',' s).map Text.trim).filter fun pair => !pair.isEmpty
  let entries ← pairs.mapM readPair
  return { values := .ofEntries entries }

/-- The value of a parameter. -/
def get? (parameters : Parameters) (name : String) : Option String :=
  parameters.values.find? name

/-- A line of a script with the values of its parameters. -/
def fill (parameters : Option Parameters) (script line : String) : Except StoryError String := do
  let (filled, _) ← Placeholder.fill Placeholder.parameterSigil
    (fun name =>
      match parameters.bind (·.get? name) with
      | some value => .ok (some value)
      | none => .error (.unboundParameter script name))
    line
  return filled

end Parameters

end VisualNovel

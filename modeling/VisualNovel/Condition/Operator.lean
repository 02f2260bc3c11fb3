import VisualNovel.Keyword
import VisualNovel.Number.Floating
import VisualNovel.Text.Split

/-!
# Conditions

A condition compares two texts. Some operators compare them as texts, letter by letter; others read
them as numbers, and do not hold if one of them is none. A range is two numbers with the word `and`
between them, in any letter case.

The word is looked for in the lower-case form of the range, and the range is then cut at the same
offset in bytes. Where lower case changes the length of the text before the word, that offset may be
no position of the range, and the condition has no answer.
-/

namespace VisualNovel

open Number

/-- The operators of conditions. -/
inductive Operator where
  /-- The same text. -/
  | same
  /-- Not the same text. -/
  | different
  /-- A greater number. -/
  | moreThan
  /-- A number that is not less. -/
  | atLeast
  /-- A lesser number. -/
  | lessThan
  /-- A number that is not greater. -/
  | atMost
  /-- A number in a range, bounds included. -/
  | between
  /-- Not a number in a range. -/
  | notBetween
  /-- A text with the other in it. -/
  | contains
  /-- A text without the other in it. -/
  | lacks
  /-- A text that begins with the other. -/
  | startsWith
  /-- A text that ends with the other. -/
  | endsWith
  /-- No text, whatever the other. -/
  | empty
  /-- Some text, whatever the other. -/
  | nonempty
  deriving DecidableEq, Repr

namespace Operator

/-- The keywords for operators. -/
def vocabulary : Vocabulary Operator where
  words := [("is", .same), ("is not", .different), ("more than", .moreThan),
    ("same or more than", .atLeast), ("less than", .lessThan), ("same or less than", .atMost),
    ("between", .between), ("not between", .notBetween), ("contains", .contains),
    ("does not contain", .lacks), ("starts with", .startsWith), ("ends with", .endsWith),
    ("is empty", .empty), ("is not empty", .nonempty)]
  complaint := .unknownOperator

/-! ## Numbers and ranges -/

/-- The number that a text is, blanks around it apart. -/
def readNumber (s : String) : Option Floating :=
  Format.double.read (Text.trim s)

/-- The word between the bounds of a range, with its blanks. -/
def rangeWord : List Char := " and ".toList

/-- The texts before and after the word of a range; none if the word is not there. -/
def cutRange (s : String) : Safe (Option (String × String)) :=
  match Text.breakOn rangeWord (Text.lowerChars s.toList) with
  | none => .ok none
  | some (before, _) =>
    let offset := Text.byteLength before
    match Text.cutAtByte offset s.toList,
      Text.cutAtByte (offset + Text.byteLength rangeWord) s.toList with
    | some (low, _), some (_, high) => .ok (some (String.ofList low, String.ofList high))
    | _, _ => .error .cut

/-- The bounds of a range. -/
def readRange (s : String) : Safe (Except ArgumentError (Floating × Floating)) := do
  match ← cutRange s with
  | none => return .error (.invalid s .rangeForm)
  | some (low, high) =>
    match readNumber low, readNumber high with
    | some low, some high => return .ok (low, high)
    | _, _ => return .error (.invalid s .rangeBounds)

/-- Whether a text is a number between two bounds. -/
def isBetween (s : String) (low high : Floating) : Bool :=
  match readNumber s with
  | some x => low.atMost x && x.atMost high
  | none => false

/-- Whether two texts are numbers that compare in a given way. -/
def compareNumbers (holds : Floating → Floating → Bool) (a b : String) : Bool :=
  match readNumber a, readNumber b with
  | some x, some y => holds x y
  | _, _ => false

/-! ## Evaluation -/

/-- Whether an operator holds of two texts; an error if the second should be a range and is none. -/
def evaluate (operator : Operator) (a b : String) : Safe (Except ArgumentError Bool) :=
  match operator with
  | .same => .ok (.ok (a == b))
  | .different => .ok (.ok (a != b))
  | .moreThan => .ok (.ok (compareNumbers (fun x y => y.lessThan x) a b))
  | .atLeast => .ok (.ok (compareNumbers (fun x y => y.atMost x) a b))
  | .lessThan => .ok (.ok (compareNumbers (fun x y => x.lessThan y) a b))
  | .atMost => .ok (.ok (compareNumbers (fun x y => x.atMost y) a b))
  | .between => do return (← readRange b).map fun (low, high) => isBetween a low high
  | .notBetween => do return (← readRange b).map fun (low, high) => !isBetween a low high
  | .contains => .ok (.ok (Text.contains a b))
  | .lacks => .ok (.ok (!Text.contains a b))
  | .startsWith => .ok (.ok (Text.startsWith a b))
  | .endsWith => .ok (.ok (Text.endsWith a b))
  | .empty => .ok (.ok a.isEmpty)
  | .nonempty => .ok (.ok !a.isEmpty)

/-- Whether the operator that a text names holds of two texts, or what is wrong with it. -/
def evaluateNamed (a operator b : String) : Safe (Except ArgumentError Bool) :=
  match vocabulary.read operator with
  | .ok operator => operator.evaluate a b
  | .error error => .ok (.error error)

/-- Whether a condition holds. A condition with something wrong in it does not. -/
def holds (a operator b : String) : Safe Bool := do
  match ← evaluateNamed a operator b with
  | .ok result => return result
  | .error _ => return false

end Operator

end VisualNovel

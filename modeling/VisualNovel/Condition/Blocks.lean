/-!
# Blocks of conditions

A script puts lines under a condition by a block: `case` opens it, `or_case` gives it another
chance, `case_else` turns it round, `case_end` closes it. Blocks may stand in blocks.

A reader keeps a frame for each open block, the innermost first. The lines of a block are read while
its frame is `passing`. While it is `skipping`, they are passed over until a tag of the block lets
them in; the frame then has the name by which `or_case` can call it. A block whose `case` gives no
name has one drawn for it, if there is one to draw. A block opened among lines that are passed over
is `inert`: nothing in it lets lines in.
-/

namespace VisualNovel

/-- The state of an open block. -/
inductive Frame where
  /-- Its lines are read. -/
  | passing
  /-- Its lines are passed over, until the block of that name is let in or it is turned round. -/
  | skipping (name : Option String)
  /-- Its lines are passed over to its end. -/
  | inert
  deriving DecidableEq, Repr

/-- The open blocks of a reader, the innermost first. -/
structure Blocks where
  /-- A frame for each open block. -/
  frames : List Frame := []
  deriving DecidableEq, Repr

namespace Blocks

/-- The name that a block gets when it is turned round. -/
def elseName : String := "!else-condition!"

/-- Whether lines are passed over. -/
def isSkipping (blocks : Blocks) : Bool :=
  match blocks.frames with
  | .skipping _ :: _ => true
  | .inert :: _ => true
  | _ => false

/-- The name by which the innermost block can be let in. -/
def skippingName? (blocks : Blocks) : Option String :=
  match blocks.frames with
  | .skipping name :: _ => name
  | _ => none

/-- How many blocks are open. -/
def depth (blocks : Blocks) : Nat :=
  blocks.frames.length

/-- The blocks after one is opened among lines that are passed over. -/
def enterInert (blocks : Blocks) : Blocks :=
  { frames := .inert :: blocks.frames }

/-- The blocks after one is opened with a condition. -/
def enter (blocks : Blocks) (passed : Bool) (name : Option String) : Blocks :=
  { frames := (if passed then .passing else .skipping name) :: blocks.frames }

/-- Whether another condition for the block of a name would be looked at. -/
def awaits (blocks : Blocks) (name : String) : Bool :=
  blocks.skippingName? == some name

/-- The blocks after another condition for the block of a name. -/
def orCase (blocks : Blocks) (name : String) (passed : Bool) : Blocks :=
  if blocks.awaits name && passed then { frames := .passing :: blocks.frames.tail } else blocks

/-- The blocks after the innermost one is turned round. -/
def turnRound (blocks : Blocks) : Blocks :=
  match blocks.frames with
  | .passing :: outer => { frames := .skipping (some elseName) :: outer }
  | .skipping _ :: outer => { frames := .passing :: outer }
  | _ => blocks

/-- The blocks after the innermost one is closed. -/
def leave (blocks : Blocks) : Blocks :=
  { frames := blocks.frames.tail }

end Blocks

end VisualNovel

import VisualNovel.Number.Bounded

/-!
# Pauses of the main script

Three things hold the main script, beside animations: a rest, which lasts a number of frames; a
halt, which lasts until a click or, if it has a budget of frames, until the budget is used up; and
the host.

A rest asked for during a rest makes it longer. A halt asked for during a halt changes nothing.
-/

namespace VisualNovel

open Number

/-! ## Rests -/

/-- A rest. -/
structure Rest where
  /-- How many frames have passed. -/
  elapsed : Nat := 0
  /-- How many frames it lasts; none is no rest. -/
  length : Nat := 0
  deriving DecidableEq, Repr

namespace Rest

/-- Whether the script rests. -/
def isResting (rest : Rest) : Bool :=
  0 < rest.length

/-- Whether some of its frames have passed. -/
def isUnderWay (rest : Rest) : Bool :=
  0 < rest.length && 0 < rest.elapsed && rest.elapsed ≤ rest.length

/-- A rest of some frames, or those frames more of a rest that is under way. -/
def extend (rest : Rest) (frames : Nat) : Safe Rest := do
  if rest.isUnderWay then
    let length ← count (rest.length + frames)
    return { rest with length }
  else return { elapsed := 0, length := frames }

/-- How many frames are left. -/
def remaining (rest : Rest) : Nat :=
  rest.length - rest.elapsed

/-- The rest one frame later, and whether it goes on. -/
def tick (rest : Rest) : Bool × Rest :=
  if rest.length = 0 then (false, rest)
  else if rest.length ≤ rest.elapsed then (false, {})
  else (true, { rest with elapsed := rest.elapsed + 1 })

end Rest

/-! ## Halts -/

/-- A halt. -/
structure Halt where
  /-- Whether the script is halted. -/
  halted : Bool := false
  /-- After how many frames it goes on by itself; none if it waits for a click. -/
  budget : Nat := 0
  /-- How many of those frames have passed. -/
  elapsed : Nat := 0
  deriving DecidableEq, Repr

/-- What a frame does to a halt. -/
inductive HaltTick where
  /-- It goes on. -/
  | holding
  /-- Its budget is used up. -/
  | expired
  deriving DecidableEq, Repr

namespace Halt

/-- Whether the script is halted and goes on by itself. -/
def isAuto (halt : Halt) : Bool :=
  halt.halted && 0 < halt.budget

/-- How many frames are left. -/
def remaining (halt : Halt) : Nat :=
  halt.budget - halt.elapsed

/-- A halt, with a budget or without; none if the script is halted already. -/
def start? (halt : Halt) (budget : Option Nat) : Option Halt :=
  if halt.halted then none else some { halted := true, budget := budget.getD 0, elapsed := 0 }

/-- The halt one frame later. A frame in which text is still appearing does not count. -/
def tick (halt : Halt) (textAnimating : Bool) : HaltTick × Halt :=
  if halt.budget = 0 then (.holding, halt)
  else if halt.budget ≤ halt.elapsed then (.expired, halt)
  else if textAnimating then (.holding, halt)
  else (.holding, { halt with elapsed := halt.elapsed + 1 })

end Halt

/-! ## All pauses -/

/-- What holds the main script. -/
structure Pause where
  /-- A halt. -/
  halt : Halt := {}
  /-- A rest. -/
  rest : Rest := {}
  /-- Whether the host holds it. -/
  manual : Bool := false
  deriving DecidableEq, Repr

end VisualNovel

import VisualNovel.Variables

/-!
# Timers

A timer starts a reusable script after a number of frames. There is at most one timer for a script;
timers that are due in the same frame come in the order in which they were set.
-/

namespace VisualNovel

/-- A script to be started. -/
structure Launch where
  /-- The name of the script. -/
  name : String
  /-- The parameters for its run. -/
  parameters : Option Parameters := none
  deriving DecidableEq, Repr

/-- A timer. -/
structure Timer where
  /-- The script to start. -/
  launch : Launch
  /-- After how many frames. -/
  frames : Nat
  /-- How many frames have passed. -/
  elapsed : Nat := 0
  deriving DecidableEq, Repr

/-- The timer one frame later. -/
def Timer.advance (timer : Timer) : Timer :=
  { timer with elapsed := timer.elapsed + 1 }

/-- Whether the frames of the timer have passed. -/
def Timer.isDue (timer : Timer) : Bool :=
  timer.frames ≤ timer.elapsed

/-- The pending timers, in the order in which they were set. -/
structure Timers where
  /-- The timers. -/
  pending : List Timer := []
  deriving DecidableEq, Repr

namespace Timers

/-- The names of the scripts that are to be started. -/
def names (timers : Timers) : List String :=
  timers.pending.map (·.launch.name)

/-- Whether there is a timer for a script. -/
def contains (timers : Timers) (name : String) : Bool :=
  timers.names.contains name

/-- The timers with one more, if it can be set: neither without a name and frames, nor twice for a
script. -/
def add? (timers : Timers) (launch : Launch) (frames : Nat) : Option Timers :=
  if (launch.name.isEmpty && frames == 0) || timers.contains launch.name then none
  else some { pending := timers.pending ++ [{ launch, frames }] }

/-- The timers with one more, if it can be set. -/
def add (timers : Timers) (launch : Launch) (frames : Nat) : Timers :=
  (timers.add? launch frames).getD timers

/-- The timers without the one for a script. -/
def cancel (timers : Timers) (name : String) : Timers :=
  { pending := timers.pending.filter fun timer => timer.launch.name != name }

/-- The scripts that are due one frame later, and the timers that are left. -/
def tick (timers : Timers) : List Launch × Timers :=
  let advanced := timers.pending.map Timer.advance
  let (due, left) := advanced.partition Timer.isDue
  (due.map Timer.launch, { pending := left })

end Timers

end VisualNovel

import VisualNovel.Proofs.Effects

/-!
# What scripts cannot see

A session has a history, a clock for it, and the cues that the host has not been given yet. Scripts
add to all of this, and look at none of it. `Session.onto` puts another such backlog under a
session: another history and clock, and more cues before those that are there. The bare session is
without a backlog, so no operation sees one (`Session.unseen_onto`), and all that an operation adds
comes on top.

Main statement of this module: a line asks on top of a backlog for what it asks for without, and
leaves the backlog there (`Role.plan_onto`). Speaking a line puts an event into the history; then
only the cues of the backlog stay.
-/

namespace VisualNovel

/-- What scripts add to and do not look at. -/
structure Backlog where
  /-- The history. -/
  history : History
  /-- The time that new events get. -/
  clock : Nat
  /-- Cues that were there before. -/
  cues : List Cue

/-- The backlog with one more event. -/
def Backlog.record (b : Backlog) (event : Event) : Backlog :=
  { b with history := b.history.push ⟨event, b.clock⟩ }

/-- The session on top of a backlog. -/
def Session.onto (s : Session) (b : Backlog) : Session :=
  { s with history := b.history, clock := b.clock, cues := b.cues ++ s.cues }

namespace Session

variable (s : Session) (b : Backlog)

/-! ## Operations -/

/-- What is written over a session comes on top of the backlog. -/
theorem amend_onto (scope : Scope) (t : Session) :
    (s.onto b).amend scope t = (s.amend scope t).onto b := by
  simp [amend, onto]

/-- No tag sees a backlog. -/
theorem unseen_onto : Unseen (·.onto b) where
  bare _ := rfl
  amend s _ _ t := s.amend_onto b _ t
  names _ _ := rfl

/-- Speaking a line puts an event into the history. -/
theorem speak_onto (line : String) :
    (s.onto b).speak line = (s.speak line).onto (b.record (.spoken line)) := by
  simp [speak, record, emit, onto, Backlog.record]

/-- A look finds the same reason. -/
theorem heldBy_onto : (s.onto b).heldBy = (s.heldBy.1, s.heldBy.2.onto b) := by
  rw [heldBy_eq, heldBy_eq]
  rfl

end Session

/-- A signal does the same on top of a backlog. -/
theorem Signal.effect_onto (signal : Signal) (s : Session) (b : Backlog) :
    signal.effect (s.onto b) = (signal.effect s).map (·.onto b) := by
  rw [signal.effect_amend, signal.effect_amend s]
  exact congrArg (Effect.mk · _) (s.amend_onto b signal.scope _)

/-! ## Lines -/

namespace Role

variable (role : Role) (blocks : Blocks) (s : Session) (b : Backlog)

/-- A line asks for the same. If it is spoken, there is an event more behind. -/
theorem plan_onto (raw : String) :
    ∃ b', b'.cues = b.cues ∧
      role.plan blocks (s.onto b) raw = (role.plan blocks s raw).map (·.onto b') := by
  obtain same | ⟨words, spoken, spoken'⟩ := (Session.unseen_onto b).plan role blocks s raw
  · exact ⟨b, rfl, same⟩
  · refine ⟨b.record (.spoken words), rfl, ?_⟩
    rw [spoken, spoken', Session.speak_onto]
    rfl

/-- A look shows the same. -/
theorem lookUp_onto :
    role.lookUp (s.onto b) = ((role.lookUp s).1, (role.lookUp s).2.onto b) := by
  unfold lookUp
  split
  · unfold Session.isHeld
    rw [Session.heldBy_onto]
  · rfl

end Role

end VisualNovel

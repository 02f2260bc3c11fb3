import VisualNovel.Pause

/-!
# How long a rest lasts

A rest that is asked for during a rest makes it longer. So a rest lasts for all the frames that were
asked for, as long as every one after the first was asked for while the rest was under way. It is
under way from its first frame until it ends, and that is in the frame after its last one: a rest of
which no frame is left can still be made longer. Before its first frame it cannot, and what is asked
for then replaces it.

A history of a rest is a list of moves, and `Timely` says of the moves alone that they come while it
is under way. Main statement: `rest_lengths_add_up`.
-/

namespace VisualNovel.Rest

open Number

/-! ## Histories -/

/-- What is done to a rest. -/
inductive Move where
  /-- Some frames are asked for. -/
  | ask (frames : Nat)
  /-- A frame passes. -/
  | tick
  deriving DecidableEq

/-- What the frames tell, and the rest after the moves. -/
def replay (rest : Rest) : List Move → Safe (List Bool × Rest)
  | [] => .ok ([], rest)
  | .ask frames :: moves => do
    let rest ← rest.extend frames
    rest.replay moves
  | .tick :: moves => do
    let (answers, last) ← rest.tick.2.replay moves
    return (rest.tick.1 :: answers, last)

/-- How many frames are asked for. -/
def asked : List Move → Nat
  | [] => 0
  | .ask frames :: moves => frames + asked moves
  | .tick :: moves => asked moves

/-- How many frames pass. -/
def passed (moves : List Move) : Nat :=
  moves.count .tick

/-- At the beginning no frame has passed. -/
@[simp] theorem passed_nil : passed [] = 0 := rfl

/-- Asking for frames lets none pass. -/
@[simp] theorem passed_cons_ask (frames : Nat) (moves : List Move) :
    passed (.ask frames :: moves) = passed moves :=
  List.count_cons_of_ne (by simp)

/-- A frame passes. -/
@[simp] theorem passed_cons_tick (moves : List Move) : passed (.tick :: moves) = passed moves + 1 :=
  List.count_cons_self

attribute [simp] asked

/-- What is asked for in two lists of moves adds up. -/
theorem asked_append (past future : List Move) :
    asked (past ++ future) = asked past + asked future := by
  induction past with
  | nil => simp
  | cons move past ih => cases move <;> simp [ih, Nat.add_assoc]

/-- Of a rest that has been asked for `total` frames and has had `elapsed` of them, some are asked
for only when one has passed, and not when more have passed than were asked for. -/
def Timely (elapsed total : Nat) (moves : List Move) : Prop :=
  ∀ past frames future, moves = past ++ .ask frames :: future →
    0 < frames ∧ 0 < elapsed + passed past ∧ elapsed + passed past ≤ total + asked past

section timely

variable {elapsed total frames : Nat} {moves : List Move}

/-- Without a move nothing comes too early or too late. -/
theorem timely_nil : Timely elapsed total [] := by
  intro past frames future h
  cases past <;> cases h

/-- Frames are asked for in time if one has passed, and not more than were asked for. -/
theorem timely_cons_ask : Timely elapsed total (.ask frames :: moves) ↔
    (0 < frames ∧ 0 < elapsed ∧ elapsed ≤ total) ∧ Timely elapsed (total + frames) moves := by
  refine ⟨fun h => ⟨h [] frames moves rfl, fun past more future hmoves => ?_⟩, ?_⟩
  · have later := h (.ask frames :: past) more future (by rw [hmoves]; rfl)
    simp only [passed_cons_ask, asked] at later
    omega
  · rintro ⟨now, later⟩ past more future hmoves
    cases past with
    | nil =>
      cases hmoves
      exact now
    | cons move past =>
      obtain ⟨rfl, rest⟩ := List.cons.inj hmoves
      have := later past more future rest
      simp only [passed_cons_ask, asked]
      omega

/-- A frame may pass at any time. -/
theorem timely_cons_tick :
    Timely elapsed total (.tick :: moves) ↔ Timely (elapsed + 1) total moves := by
  refine ⟨fun h past more future hmoves => ?_, fun h past more future hmoves => ?_⟩
  · have later := h (.tick :: past) more future (by rw [hmoves]; rfl)
    simp only [passed_cons_tick, asked] at later
    omega
  · cases past with
    | nil => cases hmoves
    | cons move past =>
      obtain ⟨rfl, rest⟩ := List.cons.inj hmoves
      have := h past more future rest
      simp only [passed_cons_tick, asked]
      omega

/-- What is timely was timely before. -/
theorem Timely.of_append {past future : List Move} (h : Timely elapsed total (past ++ future)) :
    Timely elapsed total past := by
  intro early frames late hpast
  exact h early frames (late ++ future) (by rw [hpast, List.append_assoc]; rfl)

end timely

/-! ## The frames of a rest -/

/-- A rest that has been asked for `total` frames, after `elapsed` of them. When more frames have
passed than were asked for, it is over. -/
def lasting (elapsed total : Nat) : Rest :=
  if elapsed ≤ total then { elapsed, length := total } else {}

/-- What the next frames of such a rest tell. -/
def told (elapsed total count : Nat) : List Bool :=
  (List.range count).map fun frame => decide (elapsed + frame < total)

/-- The next frame tells whether there are frames left. -/
theorem told_succ (elapsed total count : Nat) :
    told elapsed total (count + 1) =
      decide (elapsed < total) :: told (elapsed + 1) total count := by
  have next (frame : Nat) : elapsed + 1 + frame = elapsed + (frame + 1) := by omega
  simp only [told, List.range_succ_eq_map, List.map_cons, List.map_map, next, Nat.add_zero]
  rfl

/-- A frame passes. -/
theorem replay_tick {rest : Rest} {goesOn : Bool} {next last : Rest} {moves : List Move}
    {answers : List Bool} (h : rest.tick = (goesOn, next))
    (later : next.replay moves = .ok (answers, last)) :
    rest.replay (.tick :: moves) = .ok (goesOn :: answers, last) := by
  rw [replay, h, later]
  rfl

/-- Once a rest is over, frames pass in vain, and nothing that is asked for comes in time. -/
theorem replay_of_late {elapsed total : Nat} {moves : List Move} (late : total < elapsed)
    (timely : Timely elapsed total moves) :
    replay {} moves = .ok (told elapsed total (passed moves), {}) ∧ asked moves = 0 := by
  induction moves generalizing elapsed with
  | nil => exact ⟨rfl, rfl⟩
  | cons move moves ih =>
    cases move with
    | ask frames =>
      obtain ⟨⟨-, -, inTime⟩, -⟩ := timely_cons_ask.1 timely
      omega
    | tick =>
      obtain ⟨later, nothing⟩ := ih (Nat.lt_succ_of_lt late) (timely_cons_tick.1 timely)
      have inVain : decide (elapsed < total) = false := decide_eq_false (by omega)
      rw [passed_cons_tick, told_succ, inVain]
      exact ⟨replay_tick rfl later, nothing⟩

/-- From within a rest: it counts what passes and adds what is asked for. By induction on the moves;
from the frame that ends the rest on nothing more can be asked for. -/
theorem replay_of_timely {elapsed total : Nat} {moves : List Move} (going : elapsed ≤ total)
    (some : 0 < total) (timely : Timely elapsed total moves)
    (fits : total + asked moves ≤ maxCount) :
    replay { elapsed, length := total } moves =
      .ok (told elapsed (total + asked moves) (passed moves),
        lasting (elapsed + passed moves) (total + asked moves)) := by
  -- By induction on the moves. Asking makes the rest longer, and a frame that passes makes it
  -- older.
  induction moves generalizing elapsed total with
  | nil => simp [replay, lasting, told, going]
  | cons move moves ih =>
    cases move with
    | ask frames =>
      obtain ⟨⟨-, begun, -⟩, later⟩ := timely_cons_ask.1 timely
      rw [asked, ← Nat.add_assoc] at fits ⊢
      have isUnderWay : isUnderWay { elapsed, length := total } = true := by
        simp [isUnderWay, some, begun, going]
      have counted : count (total + frames) = .ok (total + frames) := if_pos (by omega)
      have longer : extend { elapsed, length := total } frames =
          .ok { elapsed, length := total + frames } := by
        simp only [extend, isUnderWay, if_true, counted]
        rfl
      rw [replay, longer, passed_cons_ask]
      exact ih (by omega) (by omega) later fits
    | tick =>
      have later := timely_cons_tick.1 timely
      rw [asked, passed_cons_tick, told_succ]
      rcases Nat.lt_or_ge elapsed total with under | out
      · have goesOn : tick { elapsed, length := total } =
            (decide (elapsed < total + asked moves),
              { elapsed := elapsed + 1, length := total }) := by
          unfold tick
          rw [if_neg (by simp; omega), if_neg (by simp; omega), decide_eq_true (by omega)]
        have rest := replay_tick goesOn (ih under some later fits)
        rwa [Nat.add_right_comm] at rest
      · -- The rest is over, and nothing is asked for in time any more.
        obtain ⟨rest, nothing⟩ := replay_of_late (Nat.lt_succ_of_le out) later
        rw [nothing, Nat.add_zero]
        have ends : tick { elapsed, length := total } = (decide (elapsed < total), {}) := by
          unfold tick
          rw [if_neg (by simp; omega), if_pos out, decide_eq_false (by omega)]
        rw [show lasting (elapsed + (passed moves + 1)) total = {} from if_neg (by omega)]
        exact replay_tick ends rest

/-- The first frames that are asked for begin the rest, and replace those that were asked for before
it began. -/
theorem extend_of_new {rest : Rest} (new : rest.length = 0 ∨ rest.elapsed = 0) (frames : Nat) :
    rest.extend frames = .ok { elapsed := 0, length := frames } := by
  have isUnderWay : rest.isUnderWay = false := by
    rcases new with new | new <;> simp [Rest.isUnderWay, new]
  simp only [extend, isUnderWay]
  rfl

/-- What a rest shows after some frames of those that it was asked for. -/
theorem lasting_shows {elapsed total : Nat} (some : 0 < total) :
    (lasting elapsed total).elapsed ≤ (lasting elapsed total).length ∧
      (elapsed ≤ total → (lasting elapsed total).isResting = true ∧
        (lasting elapsed total).remaining + elapsed = total) ∧
      (total < elapsed → lasting elapsed total = {}) := by
  unfold lasting
  split
  · next going =>
    refine ⟨going, fun _ => ⟨by simpa [isResting] using some, ?_⟩, fun late => by omega⟩
    simp only [remaining]
    omega
  · next out => exact ⟨Nat.le_refl 0, fun going => absurd going out, fun _ => rfl⟩

/-- **The lengths of a rest add up.** To a rest that is not one yet frames are asked for, and then
more, each time while the rest is under way, and all together in range. Then as many frames as were
asked for tell that the rest goes on, and those behind them that it does not. After any of the
moves, the rest has not counted more than its length; until more frames have passed than were asked
for, it goes on and what remains makes up for what has passed; and then it is over. But what is
asked for before the first frame is not added: it stands in place of what was asked for. -/
theorem rest_lengths_add_up {rest : Rest} {frames : Nat} {moves : List Move}
    (idle : rest.isResting = false) (some : 0 < frames) (timely : Timely 0 frames moves)
    (fits : frames + asked moves ≤ maxCount) :
    (∃ last, rest.replay (.ask frames :: moves) =
      .ok ((List.range (passed moves)).map fun frame => decide (frame < frames + asked moves),
        last)) ∧
    (∀ past future, moves = past ++ future →
      ∃ answers now, rest.replay (.ask frames :: past) = .ok (answers, now) ∧
      now.elapsed ≤ now.length ∧
        (passed past ≤ frames + asked past →
          now.isResting = true ∧ now.remaining + passed past = frames + asked past) ∧
        (frames + asked past < passed past → now = {})) ∧
    ∀ instead later,
      rest.replay (.ask frames :: .ask instead :: later) = rest.replay (.ask instead :: later) := by
  have none : rest.length = 0 := by simpa [isResting] using idle
  have begins (moves : List Move) :
      rest.replay (.ask frames :: moves) = replay { elapsed := 0, length := frames } moves := by
    rw [replay, extend_of_new (.inl none)]
    rfl
  refine ⟨?_, fun past future hmoves => ?_, fun instead later => ?_⟩
  · have whole := replay_of_timely (Nat.zero_le _) some timely fits
    simp only [told, Nat.zero_add] at whole
    exact ⟨_, (begins moves).trans whole⟩
  · subst hmoves
    rw [asked_append] at fits
    have part := replay_of_timely (Nat.zero_le _) some timely.of_append (by omega)
    rw [Nat.zero_add] at part
    exact ⟨_, _, (begins past).trans part, lasting_shows (by omega)⟩
  · rw [begins, replay, replay, extend_of_new (.inr rfl), extend_of_new (.inl none)]

/-- A rest of two frames is made longer after its first one, and again when none is left of it. -/
theorem six_frames_in_three_parts :
    Timely 0 2 [.tick, .ask 3, .tick, .tick, .tick, .tick, .ask 1, .tick, .tick] ∧
      ∃ last, replay {} [.ask 2, .tick, .ask 3, .tick, .tick, .tick, .tick, .ask 1, .tick, .tick] =
        .ok ([true, true, true, true, true, true, false], last) := by
  have timely : Timely 0 2 [.tick, .ask 3, .tick, .tick, .tick, .tick, .ask 1, .tick, .tick] := by
    simp [timely_cons_tick, timely_cons_ask, timely_nil]
  exact ⟨timely, (rest_lengths_add_up rfl (by decide) timely (by decide)).1⟩

end VisualNovel.Rest

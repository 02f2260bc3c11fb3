import Mathlib.Data.List.Basic
import Mathlib.Data.List.Induction
import VisualNovel.Timers

/-!
# Deadlines of timers

What is pending and what is due, by history. A history is a list of moves that begins without
timers: a timer is set, the timer for a script is cancelled, all are cleared, or the timers run. A
timer that is to be set is accepted if it has a name or frames and no timer for its script is
pending (`Accepts`). `entries` are the timers that were accepted in a history, each with the moves
since then, and everything else follows from them: they are found in the history
(`mem_entries_iff`), a timer is pending if nothing has taken it away and the timers have run less
often than its deadline says, and it is due in the run that makes up that number
(`deadlines_are_kept`). The counter of a pending timer is then below its deadline, so that counting
never leaves the range of frames.

Due timers can also be taken out one after another by the names of their scripts, as in
`tickByName`. No two pending timers are for one script, so that each name finds the timer it was
taken from.
-/

namespace VisualNovel.Timers

/-! ## Histories -/

/-- What is done to timers. -/
inductive Move where
  /-- One is to be set. -/
  | add (launch : Launch) (frames : UInt32)
  /-- The one for a script is cancelled. -/
  | cancel (name : String)
  /-- All are cancelled. -/
  | clear
  /-- They run. -/
  | tick
  deriving DecidableEq

/-- The timers after a move. -/
def Move.apply (timers : Timers) : Move → Timers
  | add launch frames => timers.add launch frames.toNat
  | cancel name => timers.cancel name
  | clear => {}
  | tick => timers.tick.2

/-- Whether a move does not take away the timer for a script. -/
def Move.spares (name : String) : Move → Bool
  | cancel cancelled => cancelled != name
  | clear => false
  | _ => true

/-- The timers after a history. -/
def after (history : List Move) : Timers :=
  history.foldl Move.apply {}

/-- The last move is made after all the others. -/
theorem after_concat (history : List Move) (move : Move) :
    after (history ++ [move]) = move.apply (after history) := by
  simp [after]

/-- A timer that was set in a history. -/
structure Entry where
  /-- The script to start. -/
  launch : Launch
  /-- After how many frames. -/
  frames : UInt32
  /-- The moves since. -/
  since : List Move

namespace Entry

/-- How often the timers have run since. -/
def age (entry : Entry) : Nat :=
  entry.since.count .tick

/-- How often they have to run. Even a timer without frames waits for them once. -/
def deadline (entry : Entry) : Nat :=
  max entry.frames.toNat 1

/-- Whether nothing has taken it away. -/
def isKept (entry : Entry) : Bool :=
  entry.since.all (·.spares entry.launch.name)

/-- Whether it still waits. -/
def isPending (entry : Entry) : Bool :=
  entry.isKept && decide (entry.age < entry.deadline)

/-- Whether it waits for the next run, and for no other. -/
def isNext (entry : Entry) : Bool :=
  entry.isKept && decide (entry.age + 1 = entry.deadline)

/-- The timer as it stands among the pending ones. -/
def timer (entry : Entry) : Timer where
  launch := entry.launch
  frames := entry.frames.toNat
  elapsed := entry.age

/-- The entry one move later. -/
def later (move : Move) (entry : Entry) : Entry :=
  { entry with since := entry.since ++ [move] }

end Entry

/-- Whether a timer that is to be set is accepted, after those that were: it has a name or frames,
and no timer for its script is pending. -/
def Accepts (entries : List Entry) (launch : Launch) (frames : UInt32) : Prop :=
  (launch.name ≠ "" ∨ frames ≠ 0) ∧
    ∀ entry ∈ entries, entry.isPending = true → entry.launch.name ≠ launch.name

instance (entries : List Entry) (launch : Launch) (frames : UInt32) :
    Decidable (Accepts entries launch frames) :=
  inferInstanceAs (Decidable ((launch.name ≠ "" ∨ frames ≠ 0) ∧
    ∀ entry ∈ entries, entry.isPending = true → entry.launch.name ≠ launch.name))

/-- What a move sets, after the timers that were set before. -/
def Move.sets? (entries : List Entry) : Move → Option Entry
  | add launch frames => if Accepts entries launch frames then some ⟨launch, frames, []⟩ else none
  | _ => none

/-- A further move goes by for all timers that were set before, and may set one itself. -/
def Move.record (entries : List Entry) (move : Move) : List Entry :=
  entries.map (Entry.later move) ++ (move.sets? entries).toList

/-- The timers that were set in a history, in that order. -/
def entries (history : List Move) : List Entry :=
  history.foldl Move.record []

/-- The entries of a longer history. -/
theorem entries_concat (history : List Move) (move : Move) :
    entries (history ++ [move]) =
      (entries history).map (Entry.later move) ++ (move.sets? (entries history)).toList := by
  simp [entries, Move.record]

/-- What a move sets is the timer that it asks for, if that is accepted. -/
theorem Move.sets?_eq_some_iff {entries : List Entry} {move : Move} {entry : Entry} :
    move.sets? entries = some entry ↔
      move = .add entry.launch entry.frames ∧ entry.since = [] ∧
        Accepts entries entry.launch entry.frames := by
  obtain ⟨launch, frames, since⟩ := entry
  cases move with
  | add launch' frames' =>
    by_cases accepted : Accepts entries launch' frames'
    · simp only [sets?, if_pos accepted, Option.some.injEq, Entry.mk.injEq,
        Move.add.injEq]
      constructor
      · rintro ⟨rfl, rfl, rfl⟩
        exact ⟨⟨rfl, rfl⟩, rfl, accepted⟩
      · rintro ⟨⟨rfl, rfl⟩, rfl, -⟩
        exact ⟨rfl, rfl, rfl⟩
    · simp only [sets?, if_neg accepted, reduceCtorEq, false_iff, Move.add.injEq]
      rintro ⟨⟨rfl, rfl⟩, -, accepted'⟩
      exact accepted accepted'
  | _ => simp [sets?]

/-- An entry one move later is an entry with one more move behind it. -/
theorem Entry.mem_map_later {entries : List Entry} {move : Move} {entry : Entry} :
    entry ∈ entries.map (later move) ↔
      ∃ since, entry.since = since ++ [move] ∧ ⟨entry.launch, entry.frames, since⟩ ∈ entries := by
  obtain ⟨launch, frames, since⟩ := entry
  constructor
  · intro mem
    obtain ⟨before, hbefore, same⟩ := List.mem_map.1 mem
    cases same
    exact ⟨before.since, rfl, hbefore⟩
  · rintro ⟨before, rfl, hbefore⟩
    exact List.mem_map.2 ⟨_, hbefore, rfl⟩

/-- The timers that were set are those that a move of the history asked for and that were accepted
then, with the moves behind it. By induction on the history. -/
theorem mem_entries_iff {history : List Move} {entry : Entry} :
    entry ∈ entries history ↔
      ∃ past, history = past ++ .add entry.launch entry.frames :: entry.since ∧
        Accepts (entries past) entry.launch entry.frames := by
  induction history using List.reverseRecOn generalizing entry with
  | nil => simp [entries]
  | append_singleton history move ih =>
    rw [entries_concat, List.mem_append, Option.mem_toList, Entry.mem_map_later,
      Move.sets?_eq_some_iff]
    constructor
    · rintro (⟨since, hsince, mem⟩ | ⟨rfl, none, accepted⟩)
      · obtain ⟨past, rfl, accepted⟩ := ih.1 mem
        exact ⟨past, by simp [hsince], accepted⟩
      · exact ⟨history, by rw [none], accepted⟩
    · rintro ⟨past, whole, accepted⟩
      rcases List.eq_nil_or_concat entry.since with none | ⟨since, last, hsince⟩
      · rw [none] at whole
        obtain ⟨rfl, same⟩ := List.append_inj' whole rfl
        exact .inr ⟨(List.cons.inj same).1, none, accepted⟩
      · rw [hsince, List.concat_eq_append, ← List.cons_append, ← List.append_assoc] at whole
        obtain ⟨rfl, same⟩ := List.append_inj' whole rfl
        obtain rfl := (List.cons.inj same).1
        exact .inl ⟨since, by rw [hsince, List.concat_eq_append], ih.2 ⟨past, rfl, accepted⟩⟩

/-- The timers come in the order in which they were set. By induction on the history. -/
theorem pairwise_entries (history : List Move) :
    (entries history).Pairwise fun first second => second.since.length < first.since.length := by
  induction history using List.reverseRecOn with
  | nil => exact .nil
  | append_singleton history move ih =>
    rw [entries_concat, List.pairwise_append]
    refine ⟨?_, ?_, ?_⟩
    · rw [List.pairwise_map]
      refine ih.imp fun {first second} earlier => ?_
      simpa [Entry.later] using earlier
    · cases move.sets? (entries history) <;> simp
    · intro first mem second mem'
      obtain ⟨since, hsince, -⟩ := Entry.mem_map_later.1 mem
      obtain ⟨-, none, -⟩ := Move.sets?_eq_some_iff.1 (Option.mem_toList.1 mem')
      rw [hsince, none]
      simp

/-! ## Different names -/

/-- No move gives a script two timers. -/
theorem nodup_names_apply {timers : Timers} (h : timers.names.Nodup) (move : Move) :
    (move.apply timers).names.Nodup := by
  cases move with
  | add launch frames =>
    show (timers.add launch frames.toNat).names.Nodup
    unfold add add?
    split
    · exact h
    · next free =>
      have new : launch.name ∉ timers.names := by
        intro mem
        simp [Timers.contains, mem] at free
      show (List.map _ (timers.pending ++ [_])).Nodup
      rw [List.map_append, List.nodup_append]
      refine ⟨h, by simp, ?_⟩
      rintro name mem _ mem' rfl
      rw [List.mem_singleton.1 mem'] at mem
      exact new mem
  | cancel name => exact h.sublist (List.filter_sublist.map _)
  | clear => exact List.nodup_nil
  | tick =>
    have advanced : ((timers.pending.map Timer.advance).map (·.launch.name)).Nodup := by
      rw [List.map_map]
      exact h
    show (List.map _ timers.tick.2.pending).Nodup
    unfold tick
    simp only [List.partition_eq_filter_filter]
    exact advanced.sublist (List.filter_sublist.map _)

/-- By induction on the history. -/
theorem nodup_names_after (history : List Move) : (after history).names.Nodup := by
  induction history using List.reverseRecOn with
  | nil => exact List.nodup_nil
  | append_singleton history move ih =>
    rw [after_concat]
    exact nodup_names_apply ih move

/-! ## What is pending and what is due -/

namespace Entry

variable (entry : Entry)

/-- No move changes what a timer starts. -/
@[simp] theorem launch_later (move : Move) : (entry.later move).launch = entry.launch := rfl

/-- No move changes the deadline of a timer. -/
@[simp] theorem deadline_later (move : Move) : (entry.later move).deadline = entry.deadline := rfl

/-- A timer is kept through a move that spares it. -/
theorem isKept_later (move : Move) :
    (entry.later move).isKept = (entry.isKept && move.spares entry.launch.name) := by
  simp [isKept, later]

/-- A run of the timers makes a timer one run older, and nothing else does. -/
theorem age_later (move : Move) :
    (entry.later move).age = entry.age + if move = .tick then 1 else 0 := by
  by_cases h : move = .tick <;> simp [age, later, h]

/-- A move that neither takes the timer away nor lets it run. -/
theorem isPending_later {move : Move} (spares : move.spares entry.launch.name = true)
    (still : move ≠ .tick) : (entry.later move).isPending = entry.isPending := by
  simp [isPending, isKept_later, age_later, spares, still]

/-- What is no run leaves a timer as it stands. -/
theorem timer_later {move : Move} (still : move ≠ .tick) :
    (entry.later move).timer = entry.timer := by
  unfold timer
  rw [age_later, if_neg still]
  rfl

/-- A run advances a timer. -/
theorem timer_later_tick : (entry.later .tick).timer = entry.timer.advance := by
  unfold timer
  rw [age_later, if_pos rfl]
  rfl

/-- A timer that waits is due one run later exactly if that run is its deadline. -/
theorem isDue_advance (h : entry.isPending = true) :
    entry.timer.advance.isDue = decide (entry.age + 1 = entry.deadline) := by
  have waits : entry.age < max entry.frames.toNat 1 :=
    of_decide_eq_true (Bool.and_eq_true_iff.1 h).2
  show decide (entry.frames.toNat ≤ entry.age + 1) =
    decide (entry.age + 1 = max entry.frames.toNat 1)
  rw [decide_eq_decide]
  omega

/-- The timers that wait for the next run are those that wait and are due then. -/
theorem isNext_eq : entry.isNext = (entry.timer.advance.isDue && entry.isPending) := by
  cases h : entry.isPending with
  | true =>
    rw [isDue_advance entry h, isNext, (Bool.and_eq_true_iff.1 h).1, Bool.true_and, Bool.and_true]
  | false =>
    rw [Bool.and_false, ← Bool.not_eq_true]
    intro next
    obtain ⟨kept, last⟩ := Bool.and_eq_true_iff.1 next
    have waits : entry.age < entry.deadline := by
      have last := of_decide_eq_true last
      omega
    simp [isPending, kept, waits] at h

/-- The timers that go on waiting are those that wait and are not due then. -/
theorem isPending_later_tick :
    (entry.later .tick).isPending = (!entry.timer.advance.isDue && entry.isPending) := by
  have split : (entry.later .tick).isPending =
      (entry.isKept && decide (entry.age + 1 < entry.deadline)) := by
    simp [isPending, isKept_later, age_later, Move.spares]
  rw [split]
  cases h : entry.isPending with
  | true =>
    obtain ⟨kept, waits⟩ := Bool.and_eq_true_iff.1 h
    have waits := of_decide_eq_true waits
    rw [isDue_advance entry h, kept, Bool.true_and, Bool.and_true, ← decide_not, decide_eq_decide]
    omega
  | false =>
    rw [Bool.and_false, ← Bool.not_eq_true]
    intro goesOn
    obtain ⟨kept, waits⟩ := Bool.and_eq_true_iff.1 goesOn
    have waits : entry.age < entry.deadline := by
      have waits := of_decide_eq_true waits
      omega
    simp [isPending, kept, waits] at h

end Entry

/-- The timers that the entries say are pending. -/
def Shown (entries : List Entry) (timers : Timers) : Prop :=
  timers.pending = (entries.filter Entry.isPending).map Entry.timer

namespace Shown

variable {timers : Timers} {entries : List Entry} (h : Shown entries timers)

include h

/-- A move that changes no timer and no entry. -/
theorem keep {move : Move} (spares : ∀ entry ∈ entries, move.spares entry.launch.name = true)
    (still : move ≠ .tick) : Shown (entries.map (Entry.later move)) timers := by
  have same : (entries.map (Entry.later move)).filter Entry.isPending =
      (entries.filter Entry.isPending).map (Entry.later move) := by
    rw [List.filter_map]
    congr 1
    exact List.filter_congr fun entry mem => entry.isPending_later (spares entry mem) still
  unfold Shown
  rw [same, List.map_map, h]
  exact List.map_congr_left fun entry _ => (entry.timer_later still).symm

/-- The names that are pending. -/
theorem mem_names {name : String} :
    name ∈ timers.names ↔
      ∃ entry ∈ entries, entry.isPending = true ∧ entry.launch.name = name := by
  rw [names, h, List.map_map]
  simp only [List.mem_map, List.mem_filter, Function.comp_apply, and_assoc]
  rfl

/-- The timers with one more are those with the accepted one behind them, and there are none
otherwise. -/
theorem add?_eq (launch : Launch) (frames : UInt32) :
    timers.add? launch frames.toNat =
      if Accepts entries launch frames then
        some { pending := timers.pending ++ [{ launch, frames := frames.toNat }] }
      else none := by
  have refused :
      ((launch.name.isEmpty && frames.toNat == 0) || timers.contains launch.name) = true ↔
        ¬ Accepts entries launch frames := by
    have zero : frames.toNat = 0 ↔ frames = 0 := UInt32.toNat_inj (b := 0)
    rw [Bool.or_eq_true, Bool.and_eq_true, String.isEmpty_iff, beq_iff_eq, zero, Timers.contains,
      List.contains_iff_mem, h.mem_names, Accepts, Decidable.not_and_iff_not_or_not, not_or]
    simp
  unfold add?
  by_cases accepted : Accepts entries launch frames
  · rw [if_pos accepted, if_neg fun free => refused.1 free accepted]
  · rw [if_neg accepted, if_pos (refused.2 accepted)]

/-- A timer that is to be set. -/
theorem add (launch : Launch) (frames : UInt32) :
    Shown (entries.map (Entry.later (.add launch frames)) ++
      ((Move.add launch frames).sets? entries).toList) (timers.add launch frames.toNat) := by
  have old : Shown (entries.map (Entry.later (.add launch frames))) timers :=
    h.keep (fun _ _ => rfl) nofun
  unfold Timers.add
  rw [h.add?_eq]
  by_cases accepted : Accepts entries launch frames
  · have waits : Entry.isPending ⟨launch, frames, []⟩ = true :=
      decide_eq_true (show 0 < max frames.toNat 1 by omega)
    unfold Shown at old ⊢
    rw [Move.sets?, if_pos accepted, if_pos accepted, Option.getD_some, Option.toList_some,
      List.filter_append, List.filter_cons_of_pos waits, List.map_append, ← old]
    rfl
  · rw [Move.sets?, if_neg accepted, if_neg accepted, Option.toList_none, List.append_nil]
    exact old

/-- The timer that is cancelled is shown no longer. -/
theorem cancel (name : String) :
    Shown (entries.map (Entry.later (.cancel name))) (timers.cancel name) := by
  have kept (entry : Entry) : (entry.later (.cancel name)).isPending =
      (entry.timer.launch.name != name && entry.isPending) := by
    simp only [Entry.isPending, Entry.isKept_later, Entry.age_later, Move.spares, Entry.timer]
    rw [bne_comm]
    cases entry.isKept <;> simp
  show List.filter _ timers.pending = _
  rw [h, List.filter_map, List.filter_filter, List.filter_map, List.map_map]
  have same : entries.filter (Entry.isPending ∘ Entry.later (.cancel name)) =
      entries.filter fun entry => entry.timer.launch.name != name && entry.isPending :=
    List.filter_congr fun entry _ => kept entry
  rw [same]
  have still : Move.cancel name ≠ .tick := nofun
  exact List.map_congr_left fun entry _ => (entry.timer_later still).symm

omit h in
/-- After all timers are cleared none is shown. -/
theorem clear : Shown (entries.map (Entry.later .clear)) {} := by
  have gone (entry : Entry) : (entry.later .clear).isPending = false := by
    simp [Entry.isPending, Entry.isKept_later, Move.spares]
  simp [Shown, List.filter_map, Function.comp_def, gone]

/-- A run of the timers shows those that are not due. -/
theorem tick : Shown (entries.map (Entry.later .tick)) timers.tick.2 := by
  have left : timers.tick.2.pending =
      (timers.pending.map Timer.advance).filter fun timer => !timer.isDue := by
    simp [Timers.tick, List.partition_eq_filter_filter, Function.comp_def]
  unfold Shown
  rw [left, h, List.map_map, List.filter_map, List.filter_filter, List.filter_map, List.map_map]
  have same : entries.filter (Entry.isPending ∘ Entry.later .tick) =
      entries.filter fun entry => !entry.timer.advance.isDue && entry.isPending :=
    List.filter_congr fun entry _ => entry.isPending_later_tick
  rw [same]
  exact List.map_congr_left fun entry _ => entry.timer_later_tick.symm

/-- What is due in the next run, in the order in which it was set. -/
theorem due : timers.tick.1 = (entries.filter Entry.isNext).map Entry.launch := by
  have due : timers.tick.1 =
      ((timers.pending.map Timer.advance).filter Timer.isDue).map Timer.launch := by
    simp [Timers.tick, List.partition_eq_filter_filter]
  rw [due, h, List.map_map, List.filter_map, List.filter_filter, List.map_map]
  have same : entries.filter Entry.isNext =
      entries.filter fun entry => entry.timer.advance.isDue && entry.isPending :=
    List.filter_congr fun entry _ => entry.isNext_eq
  rw [same]
  rfl

end Shown

/-- What is pending is what the entries show. By induction on the history. -/
theorem shown_after (history : List Move) : Shown (entries history) (after history) := by
  induction history using List.reverseRecOn with
  | nil => rfl
  | append_singleton history move ih =>
    rw [after_concat, entries_concat]
    cases move with
    | add launch frames => exact ih.add launch frames
    | cancel name =>
      rw [show (Move.cancel name).sets? (entries history) = none from rfl, Option.toList_none,
        List.append_nil]
      exact ih.cancel name
    | clear =>
      rw [show Move.clear.sets? (entries history) = none from rfl, Option.toList_none,
        List.append_nil]
      exact Shown.clear
    | tick =>
      rw [show Move.tick.sets? (entries history) = none from rfl, Option.toList_none,
        List.append_nil]
      exact ih.tick

/-! ## Taking timers out by name -/

/-- The first timer for each of the names is taken out, one name after another. -/
def takeOut : List String → List Timer → List Launch × List Timer
  | [], timers => ([], timers)
  | name :: names, timers =>
    match timers.find? (·.launch.name == name) with
    | none => takeOut names timers
    | some timer =>
      let (taken, left) := takeOut names (timers.eraseP (·.launch.name == name))
      (timer.launch :: taken, left)

/-- A run in which first the names of all that is due are noted, and then the timers taken out. -/
def tickByName (timers : Timers) : List Launch × Timers :=
  let advanced := timers.pending.map Timer.advance
  let (due, left) := takeOut ((advanced.filter Timer.isDue).map (·.launch.name)) advanced
  (due, { pending := left })

/-- A timer that no name is for stays. -/
theorem takeOut_cons {timer : Timer} {names : List String} (other : timer.launch.name ∉ names)
    (timers : List Timer) :
    takeOut names (timer :: timers) =
      ((takeOut names timers).1, timer :: (takeOut names timers).2) := by
  induction names generalizing timers with
  | nil => rfl
  | cons name names ih =>
    simp only [List.mem_cons, not_or] at other
    have skips : (timer.launch.name == name) = false := beq_eq_false_iff_ne.2 other.1
    unfold takeOut
    rw [List.find?_cons_of_neg (by simp [skips]), List.eraseP_cons_of_neg (by simp [skips])]
    cases timers.find? (·.launch.name == name) with
    | none => exact ih other.2 timers
    | some found =>
      dsimp only
      rw [ih other.2]

/-- Among timers for different scripts, those of a kind are found by their names. -/
theorem takeOut_filter (isDue : Timer → Bool) {timers : List Timer}
    (different : (timers.map (·.launch.name)).Nodup) :
    takeOut ((timers.filter isDue).map (·.launch.name)) timers =
      ((timers.filter isDue).map Timer.launch, timers.filter fun timer => !isDue timer) := by
  induction timers with
  | nil => rfl
  | cons timer timers ih =>
    rw [List.map_cons, List.nodup_cons] at different
    have rest := ih different.2
    cases h : isDue timer with
    | true =>
      rw [List.filter_cons_of_pos h, List.filter_cons_of_neg (by simp [h]), List.map_cons, takeOut,
        List.find?_cons_of_pos (by simp), List.eraseP_cons_of_pos (by simp)]
      dsimp only
      rw [rest]
      rfl
    | false =>
      have other : timer.launch.name ∉ (timers.filter isDue).map (·.launch.name) :=
        fun mem => different.1 ((List.filter_sublist.map _).subset mem)
      rw [List.filter_cons_of_neg (by simp [h]), List.filter_cons_of_pos (by simp [h]),
        takeOut_cons other, rest]

/-- Taking out by name what is due is a run of the timers, since no two have the same name. -/
theorem tickByName_eq {timers : Timers} (different : timers.names.Nodup) :
    timers.tickByName = timers.tick := by
  have advanced : ((timers.pending.map Timer.advance).map (·.launch.name)).Nodup := by
    rw [List.map_map]
    exact different
  unfold tickByName tick
  simp only [takeOut_filter Timer.isDue advanced, List.partition_eq_filter_filter]
  rfl

/-- Timers keep their deadlines. After every history, a timer is accepted if it has a name or frames
and none is pending for its script, and the timers that were set are those that were accepted when
they were asked for, in that order. No script has two timers; the pending ones are those that were
set, that nothing has taken away and for which the timers have run less often than their deadline
says, in the order in which they were set; and the next run returns just those, in that order and
with their parameters, for which it is the run of their deadline, even if they are taken out by
name. No counter leaves the range of frames in it. -/
theorem deadlines_are_kept (history : List Move) :
    (∀ launch frames, ((after history).add? launch frames.toNat).isSome = true ↔
        Accepts (entries history) launch frames) ∧
      (∀ entry, entry ∈ entries history ↔
        ∃ past, history = past ++ .add entry.launch entry.frames :: entry.since ∧
          Accepts (entries past) entry.launch entry.frames) ∧
      ((entries history).Pairwise fun first second => second.since.length < first.since.length) ∧
      (after history).names.Nodup ∧
      (after history).pending = ((entries history).filter Entry.isPending).map Entry.timer ∧
      (after history).tick.1 = ((entries history).filter Entry.isNext).map Entry.launch ∧
      (after history).tickByName = (after history).tick ∧
      ∀ timer ∈ (after history).pending, timer.advance.elapsed ≤ Number.maxCount := by
  have shown := shown_after history
  have different := nodup_names_after history
  refine ⟨fun launch frames => ?_, fun entry => mem_entries_iff, pairwise_entries history,
    different, shown, shown.due, tickByName_eq different, fun timer mem => ?_⟩
  · rw [shown.add?_eq]
    by_cases accepted : Accepts (entries history) launch frames
    · simp [accepted]
    · simp [accepted]
  · rw [shown] at mem
    obtain ⟨entry, hentry, rfl⟩ := List.mem_map.1 mem
    have waits : entry.age < max entry.frames.toNat 1 :=
      of_decide_eq_true (Bool.and_eq_true_iff.1 (List.mem_filter.1 hentry).2).2
    have range := entry.frames.toNat_lt
    show entry.age + 1 ≤ 4294967295
    omega

/-- A history in which a bell is set for the third run. A second bell is refused, and so is a timer
without a name and frames. -/
def twoBells : List Move :=
  [.add ⟨"bell", none⟩ 3, .add ⟨"bell", none⟩ 1, .add ⟨"", none⟩ 0, .tick, .tick]

/-- The bell is set when it is asked for, and only once; it rings in the third run. -/
theorem bell_rings_in_third_run :
    (⟨⟨"bell", none⟩, 3, twoBells.drop 1⟩ : Entry) ∈ entries twoBells ∧
      ((after twoBells).add? ⟨"bell", none⟩ 1).isSome = false ∧
      (after twoBells).tick.1 = [⟨"bell", none⟩] := by
  obtain ⟨accepted, entered, -, -, -, due, -⟩ := deadlines_are_kept twoBells
  refine ⟨(entered _).2 ⟨[], rfl, by decide⟩, ?_, ?_⟩
  · exact Bool.eq_false_iff.2 fun twice => absurd ((accepted ⟨"bell", none⟩ 1).1 twice) (by decide)
  · rw [due]
    decide

-- A timer may be set again once it was due; the order is that of the settings that count.
example :
    (after [.add ⟨"bell", none⟩ 0, .add ⟨"echo", none⟩ 2, .tick, .add ⟨"bell", none⟩ 1]).tick.1 =
      [⟨"echo", none⟩, ⟨"bell", none⟩] := by decide

end VisualNovel.Timers

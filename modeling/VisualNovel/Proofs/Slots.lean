import VisualNovel.Proofs.Reachable

/-!
# Slots of running scripts

A reader is taken out of its slot while it is at work, and starts other readers meanwhile, which get
slots of their own; any of them may fail. Between frames every slot has its reader back, and a frame
that succeeds leaves no slot at all.

The argument is about what one run adds. `Session.Grown` says that the slots there were before a run
are untouched, in place and content, and that the slots behind them have their readers; after a run
that did not fail, the added scripts are noted as over. It is a `Lasting` relation, so it holds of
every start and every frame of a reader, whatever is nested in it. In particular the place of a slot
is not stale when its reader comes back.
-/

namespace VisualNovel

/-! ## Slots -/

/-- A slot of a reusable script of the story, with the reader of that script in it. -/
structure Slot.Filled (story : Story) (slot : Slot) : Prop where
  /-- The slot has a name. -/
  named : slot.name ≠ ""
  /-- It is the name of a reusable script. -/
  known : story.reusables.contains slot.name = true
  /-- The reader of that script is in the slot. -/
  reader : ∃ reader, slot.reader = some reader ∧ reader.role.name? = some slot.name

/-- Every slot is filled, and no two have the same name. -/
structure Background.Settled (story : Story) (background : Background) : Prop where
  /-- Every slot is filled. -/
  filled : ∀ slot ∈ background.slots, slot.Filled story
  /-- The names are different. -/
  nodup : background.names.Nodup

/-- Every running script is noted as over. -/
def Background.AllEnded (background : Background) : Prop :=
  ∀ slot ∈ background.slots, slot.name ∈ background.ended

/-- Changing the element at a place changes that element. -/
theorem modify_length_append {α : Type} (front : List α) (a : α) (rest : List α) (f : α → α) :
    (front ++ a :: rest).modify front.length f = front ++ f a :: rest := by
  induction front with
  | nil => rfl
  | cons b front ih => simpa using ih

/-- An empty slot takes the reader of its script back. -/
theorem Slot.refill_empty (name : String) (reader : Reader) :
    Slot.refill ⟨name, none⟩ name reader = ⟨name, some reader⟩ := by
  simp [Slot.refill]

/-- A slot keeps its name, whoever comes back. -/
theorem Slot.refill_name (slot : Slot) (name : String) (reader : Reader) :
    (slot.refill name reader).name = slot.name := by
  unfold Slot.refill
  split <;> rfl

namespace Background

/-- A reader that comes back changes no name. -/
theorem checkIn_names (background : Background) (index : Nat) (reader : Reader) :
    (background.checkIn index reader).names = background.names := by
  unfold checkIn
  split
  · rfl
  · next name _ =>
    show (background.slots.modify index (·.refill name reader)).map (·.name) =
      background.slots.map (·.name)
    induction background.slots generalizing index with
    | nil => simp
    | cons slot slots ih =>
      cases index with
      | zero => simp [Slot.refill_name]
      | succ index => simpa using ih index

/-- A reader comes back into its empty slot, and nothing else changes. -/
theorem checkIn_slots {background : Background} {front rest : List Slot} {name : String}
    {reader : Reader} (hslots : background.slots = front ++ ⟨name, none⟩ :: rest)
    (hname : reader.role.name? = some name) :
    (background.checkIn front.length reader).slots = front ++ ⟨name, some reader⟩ :: rest := by
  simp only [checkIn, hname, hslots, modify_length_append, Slot.refill_empty]

/-- What was noted as over stays so. -/
theorem subset_checkIn_ended (background : Background) (index : Nat) (reader : Reader) :
    background.ended ⊆ (background.checkIn index reader).ended := by
  unfold checkIn
  split
  · exact List.Subset.refl _
  · dsimp only
    split
    · exact List.subset_append_left _ _
    · exact List.Subset.refl _

/-- A script that is over when its reader comes back is noted as over. -/
theorem mem_checkIn_ended {background : Background} {index : Nat} {name : String} {reader : Reader}
    (hname : reader.role.name? = some name) (hfinished : reader.finished = true) :
    name ∈ (background.checkIn index reader).ended := by
  simp only [checkIn, hname, hfinished, Bool.true_and]
  by_cases hmem : name ∈ background.ended
  · simp [hmem]
  · simp [hmem]

/-- The slot that a reader is taken out of is there, and is the only one that changes. -/
theorem checkOut?_eq_some {background out : Background} {index : Nat} {reader : Reader}
    (h : background.checkOut? index = some (reader, out)) :
    ∃ front name rest, front.length = index ∧
      background.slots = front ++ ⟨name, some reader⟩ :: rest ∧
      out = { background with slots := front ++ ⟨name, none⟩ :: rest } := by
  unfold checkOut? at h
  simp only [Option.bind_eq_bind, Option.bind_eq_some_iff, Option.pure_def, Option.some.injEq,
    Prod.mk.injEq] at h
  obtain ⟨⟨name, _⟩, hslot, _, rfl, rfl, rfl⟩ := h
  obtain ⟨hlt, hget⟩ := List.getElem?_eq_some_iff.1 hslot
  obtain ⟨front, rest, hsplit, hlength, hset⟩ :
      ∃ front rest, background.slots = front ++ background.slots[index] :: rest ∧
        front.length = index ∧
        background.slots.set index ⟨name, none⟩ = front ++ ⟨name, none⟩ :: rest :=
    List.exists_of_set hlt
  rw [hget] at hsplit
  exact ⟨front, name, rest, hlength, hsplit, by rw [hset]⟩

/-- When every script is over, the end of a frame empties the slots. -/
theorem AllEnded.purge {background : Background} (h : background.AllEnded) :
    background.purge = {} := by
  have none_left : background.slots.filter (fun slot => !background.ended.contains slot.name) =
      [] := by
    rw [List.filter_eq_nil_iff]
    intro slot hslot
    simpa using h slot hslot
  simp only [Background.purge, none_left]

end Background

/-! ## What a run adds -/

/-- A run only adds slots, behind those that are there. They have their readers, and after a run
without a failure their scripts are noted as over. -/
structure Session.Grown (failure : Option Failure) (s t : Session) : Prop where
  /-- The story stays. -/
  story : t.story = s.story
  /-- What was noted as over stays so. -/
  ended : s.background.ended ⊆ t.background.ended
  /-- Different names stay different. -/
  nodup : s.background.names.Nodup → t.background.names.Nodup
  /-- The slots that are added. -/
  added : ∃ added, t.background.slots = s.background.slots ++ added ∧
    (∀ slot ∈ added, slot.Filled s.story) ∧
    (failure = none → ∀ slot ∈ added, slot.name ∈ t.background.ended)

namespace Session

/-- A change that keeps the running scripts adds none. -/
theorem Keeps.grown {s t : Session} (h : s.Keeps t) (failure : Option Failure) :
    Grown failure s t where
  story := h.story
  ended := by rw [h.background]; exact List.Subset.refl _
  nodup := by rw [h.background]; exact id
  added := ⟨[], by rw [h.background, List.append_nil], by simp, by simp⟩

/-- A script that can be started has a name, which is that of a reusable script, and does not
run. -/
theorem startable?_eq_some {s : Session} {launch : Launch} {script : String}
    (h : s.startable? launch = some script) :
    launch.name ≠ "" ∧ launch.name ∉ s.background.names ∧
      s.story.reusables.find? launch.name = some script := by
  unfold startable? at h
  split at h
  · cases h
  · next hfree =>
    simp only [Bool.or_eq_true, not_or, Bool.not_eq_true] at hfree
    refine ⟨?_, ?_, h⟩
    · intro hname
      simp [hname] at hfree
    · simpa [Background.contains] using hfree.2

namespace Grown

/-- Slots that are added twice in a row are added. -/
theorem trans {s t u : Session} {failure : Option Failure} (h : Grown none s t)
    (h' : Grown failure t u) : Grown failure s u := by
  obtain ⟨first, hfirst, filled, isOver⟩ := h.added
  obtain ⟨second, hsecond, filled', isOver'⟩ := h'.added
  refine ⟨h'.story.trans h.story, List.Subset.trans h.ended h'.ended, h'.nodup ∘ h.nodup,
    first ++ second, ?_, ?_, ?_⟩
  · rw [hsecond, hfirst, List.append_assoc]
  · intro slot hslot
    rcases List.mem_append.1 hslot with hslot | hslot
    · exact filled slot hslot
    · exact h.story ▸ filled' slot hslot
  · intro ok slot hslot
    rcases List.mem_append.1 hslot with hslot | hslot
    · exact h'.ended (isOver rfl slot hslot)
    · exact isOver' ok slot hslot

/-- What is added without a failure is added. -/
theorem weaken {s t : Session} (failure : Option Failure) (h : Grown none s t) :
    Grown failure s t := by
  obtain ⟨added, hadded, filled, isOver⟩ := h.added
  exact ⟨h.story, h.ended, h.nodup, added, hadded, filled, fun _ => isOver rfl⟩

/-- After a run that began with one slot empty, the reader comes back into that slot: the run has
left it in its place, whatever it has added behind. -/
theorem checkIn {s : Session} {front rest : List Slot} {name : String} {reading : Reading}
    (hslots : s.background.slots = front ++ ⟨name, none⟩ :: rest)
    (hname : reading.reader.role.name? = some name)
    (hfinished : reading.failure = none → reading.reader.finished = true)
    (h : Grown reading.failure s reading.session) :
    ∃ added, (reading.checkIn front.length).1.background.slots =
        front ++ ⟨name, some reading.reader⟩ :: (rest ++ added) ∧
      (∀ slot ∈ added, slot.Filled s.story) ∧
      (reading.failure = none →
        name ∈ (reading.checkIn front.length).1.background.ended ∧
          ∀ slot ∈ added, slot.name ∈ (reading.checkIn front.length).1.background.ended) := by
  obtain ⟨added, hadded, filled, isOver⟩ := h.added
  rw [hslots, List.append_assoc, List.cons_append] at hadded
  have kept := reading.session.background.subset_checkIn_ended front.length reading.reader
  refine ⟨added, Background.checkIn_slots hadded hname, filled, fun ok => ⟨?_, ?_⟩⟩
  · exact Background.mem_checkIn_ended hname (hfinished ok)
  · exact fun slot hslot => kept (isOver ok slot hslot)

/-- A script that is started gets a slot behind the others, and its reader comes back into it. -/
theorem started {s : Session} {launch : Launch} {script : String} {reading : Reading}
    (startable : s.startable? launch = some script)
    (role : reading.reader.role = .background launch.name launch.parameters)
    (finished : reading.failure = none → reading.reader.finished = true)
    (run : Grown reading.failure (s.enlist launch) reading.session) :
    Grown reading.failure s (reading.checkIn s.background.size).1 := by
  obtain ⟨hname, hnew, hscript⟩ := startable?_eq_some startable
  have hrole : reading.reader.role.name? = some launch.name := by rw [role]; rfl
  have hslots : (s.enlist launch).background.slots =
    s.background.slots ++ ⟨launch.name, none⟩ :: [] := rfl
  obtain ⟨added, hadded, filled, isOver⟩ := run.checkIn hslots hrole finished
  refine ⟨run.story, ?_, ?_, ⟨launch.name, some reading.reader⟩ :: added, hadded, ?_, ?_⟩
  · exact List.Subset.trans run.ended (reading.session.background.subset_checkIn_ended _ _)
  · -- The name is new, since a script that has its slot is not startable.
    intro hnodup
    have hnames : (s.enlist launch).background.names = s.background.names ++ [launch.name] := by
      simp [Background.names, hslots]
    rw [Reading.checkIn, Background.checkIn_names]
    apply run.nodup
    rw [hnames, List.nodup_append]
    refine ⟨hnodup, by simp, ?_⟩
    rintro name hmem _ hnew' rfl
    rw [List.mem_singleton.1 hnew'] at hmem
    exact hnew hmem
  · intro slot hslot
    rcases List.mem_cons.1 hslot with rfl | hslot
    · exact ⟨hname, by simp [Dict.contains, hscript], reading.reader, rfl, hrole⟩
    · exact filled slot hslot
  · intro ok slot hslot
    rcases List.mem_cons.1 hslot with rfl | hslot
    · exact (isOver ok).1
    · exact (isOver ok).2 slot hslot

/-- Growing is what every step of a run does, so every run does it. -/
theorem lasting : Lasting Grown where
  refl s := (Keeps.refl s).grown none
  weaken := weaken
  trans := trans
  plan role blocks s raw := (role.plan_keeps blocks s raw).grown none
  look role s := (role.lookUp_keeps s).grown none
  halt s := s.advanceHalt_stays.toKeeps.grown none
  rest s := s.advanceRest_ordinary.keeps.grown none
  started := started

end Grown

end Session

/-! ## Frames -/

namespace Engine

/-- The engine of a story whose slots are settled. -/
structure Settled (story : Story) (engine : Engine) : Prop where
  /-- The engine runs the story. -/
  runs : engine.session.story = story
  /-- Its slots are settled. -/
  slots : engine.session.background.Settled story

variable {story : Story}

/-- Growth keeps slots settled. -/
theorem Settled.grown {engine : Engine} (h : engine.Settled story) {failure : Option Failure}
    {session : Session} (grown : Session.Grown failure engine.session session) (main : Reader) :
    Settled story ⟨main, session⟩ := by
  obtain ⟨added, hadded, filled, -⟩ := grown.added
  refine ⟨grown.story.trans h.runs, ⟨?_, grown.nodup h.slots.nodup⟩⟩
  intro slot hslot
  rw [hadded] at hslot
  rcases List.mem_append.1 hslot with hslot | hslot
  · exact h.slots.filled slot hslot
  · exact h.runs ▸ filled slot hslot

/-- Without a failure, growth also keeps it that all scripts are over. -/
theorem allEnded_of_grown {s t : Session} (h : s.background.AllEnded)
    (grown : Session.Grown none s t) : t.background.AllEnded := by
  obtain ⟨added, hadded, -, isOver⟩ := grown.added
  intro slot hslot
  rw [hadded] at hslot
  rcases List.mem_append.1 hslot with hslot | hslot
  · exact grown.ended (h slot hslot)
  · exact isOver rfl slot hslot

/-- A scene begins without slots. -/
theorem settled_enterScene (engine : Engine) (h : engine.session.story = story) (scene : SceneRef) :
    (engine.enterScene scene).Settled story :=
  ⟨h, by simp [enterScene, Session.enterScene, Session.record], by
    simp [enterScene, Session.enterScene, Session.record, Background.names]⟩

/-! ### The turn of one slot -/

/-- A filled slot can be emptied, so a slot that cannot is not there. -/
theorem checkOut?_eq_none {background : Background} {index : Nat}
    (h : background.Settled story) (hout : background.checkOut? index = none) :
    background.slots[index]? = none := by
  rcases hslot : background.slots[index]? with _ | slot
  · rfl
  · obtain ⟨reader, hreader, -⟩ := (h.filled slot (List.mem_of_getElem? hslot)).reader
    simp [Background.checkOut?, hslot, hreader] at hout

/-- The reader in a slot carries the name of the slot, so it is not that of the main script. -/
theorem Settled.isMain_of_checkOut? {engine : Engine} {index : Nat} {reader : Reader}
    {background : Background} (h : engine.Settled story)
    (hout : engine.session.background.checkOut? index = some (reader, background)) :
    reader.role.isMain = false := by
  obtain ⟨front, name, rest, -, hslots, -⟩ := Background.checkOut?_eq_some hout
  obtain ⟨_, ⟨⟩, hcarried⟩ := (h.slots.filled ⟨name, some reader⟩ (by simp [hslots])).reader
  cases hmain : reader.role with
  | main => rw [hmain] at hcarried; cases hcarried
  | background => rfl

/-- The turn of one slot keeps the slots settled. Without a failure, every slot is over afterwards
except those that were there before, in the same place, and whose turn it was not. -/
theorem Settled.turn {engine : Engine} {index : Nat} {reader : Reader} {background : Background}
    (h : engine.Settled story)
    (hout : engine.session.background.checkOut? index = some (reader, background)) :
    let reading := reader.step Session.start { engine.session with background }
    let after := (reading.checkIn index).1
    Settled story ⟨engine.main, after⟩ ∧
      engine.session.background.ended ⊆ after.background.ended ∧
      (reading.failure = none → ∀ i name, after.background.names[i]? = some name →
        name ∈ after.background.ended ∨
          i ≠ index ∧ engine.session.background.names[i]? = some name) := by
  intro reading after
  have isMain := h.isMain_of_checkOut? hout
  obtain ⟨front, name, rest, rfl, hslots, rfl⟩ := Background.checkOut?_eq_some hout
  -- The reader carries the name of its slot, before and after its step.
  obtain ⟨_, ⟨⟩, hcarried⟩ := (h.slots.filled ⟨name, some reader⟩ (by simp [hslots])).reader
  have hrole : reading.reader.role.name? = some name := by
    rw [← hcarried]
    exact congrArg Role.name? (reader.step_role _ _)
  have grown : Session.Grown reading.failure _ reading.session :=
    reader.step_lasting Session.Grown.lasting _
  obtain ⟨added, hadded, filled, isOver⟩ :=
    grown.checkIn rfl hrole (reader.step_finished _ _ isMain)
  have kept := reading.session.background.subset_checkIn_ended front.length reading.reader
  refine ⟨⟨grown.story.trans h.runs, ⟨?_, ?_⟩⟩, List.Subset.trans grown.ended kept, ?_⟩
  · intro slot hslot
    rw [hadded] at hslot
    simp only [List.mem_append, List.mem_cons] at hslot
    rcases hslot with hfront | rfl | hrest | hnew
    · exact h.slots.filled slot (by simp [hslots, hfront])
    · have held := h.slots.filled ⟨name, some reader⟩ (by simp [hslots])
      exact ⟨held.named, held.known, reading.reader, rfl, hrole⟩
    · exact h.slots.filled slot (by simp [hslots, hrest])
    · exact h.runs ▸ filled slot hnew
  · have hnames : after.background.names = reading.session.background.names :=
      reading.session.background.checkIn_names front.length reading.reader
    rw [hnames]
    apply grown.nodup
    simpa [Background.names, hslots] using h.slots.nodup
  · intro ok i script hscript
    have hnames : after.background.names =
        engine.session.background.names ++ added.map (·.name) := by
      show (reading.checkIn front.length).1.background.slots.map (·.name) = _
      simp [Background.names, hadded, hslots]
    rw [hnames] at hscript
    rcases Nat.lt_or_ge i engine.session.background.names.length with hlt | hge
    · rw [List.getElem?_append_left hlt] at hscript
      by_cases hi : i = front.length
      · left
        have hscript' : some name = some script := by
          simpa [Background.names, hslots, hi] using hscript
        cases hscript'
        exact (isOver ok).1
      · exact .inr ⟨hi, hscript⟩
    · left
      rw [List.getElem?_append_right hge] at hscript
      obtain ⟨slot, hslot, rfl⟩ := List.mem_map.1 (List.mem_of_getElem? hscript)
      exact (isOver ok).2 slot hslot

/-! ### The parts of a frame -/

namespace Part

/-- A part that keeps slots settled, whether it fails or not. -/
abbrev Settles {α : Type} (story : Story) (part : Part α) : Prop :=
  Ensures (Settled story) part (fun _ => Settled story) (fun _ => Settled story)

/-- A change of the session that keeps the slots keeps them settled. -/
theorem settles_change {f : Session → Session} (h : ∀ s : Session, s.Keeps (f s)) :
    Settles story (change f) :=
  .of_outcome (outcome_change f)
    (fun engine _ settled _ => settled.grown ((h engine.session).grown none) engine.main)
    (fun _ _ _ failed => by cases failed)

/-- So does an effect with the script that it starts. -/
theorem settles_perform {f : Session → Effect} (h : ∀ s : Session, s.Keeps (f s).session) :
    Settles story (perform f) := by
  have grown (s : Session) := Session.Grown.lasting.perform
    (Session.start_lasting Session.Grown.lasting) ((h s).grown none)
  exact .of_outcome (outcome_perform f)
    (fun engine _ settled _ => settled.grown (grown engine.session) engine.main)
    (fun engine _ settled _ => settled.grown (grown engine.session) engine.main)

/-- A signal keeps the slots settled. -/
theorem settles_receive (signal : Signal) : Settles story (receive signal) :=
  receive_eq signal ▸ settles_perform signal.effect_keeps

/-- So does the start of a script. -/
theorem settles_launch (l : Launch) : Settles story (launch l) :=
  settles_perform Session.Keeps.refl

/-- So does the turn of the main script. -/
theorem settles_readMain : Settles story readMain := by
  have grown (engine : Engine) := engine.main.step_lasting Session.Grown.lasting engine.session
  exact .of_outcome outcome_readMain
    (fun engine _ settled _ => settled.grown (grown engine) _)
    (fun engine _ settled _ => settled.grown (grown engine) _)

/-- So do the timers. -/
theorem settles_runTimers : Settles story runTimers := by
  refine .bind .get fun seen => ?_
  have keeps (s : Session) : s.Keeps { s with timers := seen.session.timers.tick.2 } :=
    ⟨rfl, rfl, rfl⟩
  refine .bind ((settles_change keeps).imp (fun _ h => h.2) (fun _ _ h => h) fun _ _ h => h) ?_
  exact fun _ => .forM (fun _ => Settled story) (fun l _ => settles_launch l) _

/-- So does the beginning of a scene. -/
theorem settles_beginScene : Settles story beginScene :=
  .beginScene (fun _ settled _ => settled)
    (fun _ _ _ settled _ _ => ⟨settled.runs, settled.slots⟩)
    (fun engine scene settled _ _ => settled_enterScene engine.unpend settled.runs scene)

/-- So does the turn of a new scene. -/
theorem settles_readNewScene : Settles story readNewScene := by
  refine .bind settles_beginScene fun began => ?_
  cases began with
  | false => exact .pure fun _ h => h
  | true => exact settles_readMain

/-- So does the turn of a background script. -/
theorem settles_readBackground (index : Nat) : Settles story (readBackground index) := by
  refine .readBackground (fun _ settled _ => settled) (fun _ settled _ => settled) ?_
  rintro engine reader background reading settled - hout rfl
  exact ⟨fun _ => (settled.turn hout).1, fun _ _ => (settled.turn hout).1⟩

/-! ### Reading the slots one after another -/

/-- While the slots are read, those that are not left are over, unless a scene is to begin. -/
structure ReadSoFar (story : Story) (left : List Nat) (engine : Engine) : Prop where
  /-- The slots are settled. -/
  settled : engine.Settled story
  /-- A slot whose turn is past, or that was added meanwhile, is over. -/
  isOver : engine.session.pendingScene.isSome ∨
    ∀ index name, engine.session.background.names[index]? = some name → index ∉ left →
      name ∈ engine.session.background.ended

/-- Reading the script in a slot keeps the slots settled, and without a failure that slot is
over. -/
theorem readSoFar_readBackground (index : Nat) (left : List Nat) :
    Ensures (ReadSoFar story (index :: left)) (readBackground index)
      (fun _ => ReadSoFar story left) (fun _ => Settled story) := by
  refine .readBackground ?_ ?_ ?_
  · exact fun engine so pending => ⟨so.settled, .inl pending⟩
  · intro engine so hout
    refine ⟨so.settled, so.isOver.imp_right fun isOver i name hname hleft => ?_⟩
    have gone := checkOut?_eq_none so.settled.slots hout
    by_cases hi : i = index
    · simp [Background.names, hi, gone] at hname
    · exact isOver i name hname (by simp [hi, hleft])
  · rintro engine reader background reading so pending hout rfl
    have isOver := so.isOver.resolve_left pending
    obtain ⟨settled, kept, ended⟩ := so.settled.turn hout
    refine ⟨fun ok => ⟨settled, .inr fun i name hname hleft => ?_⟩, fun _ _ => settled⟩
    rcases ended ok i name hname with hmem | ⟨hi, hname⟩
    · exact hmem
    · exact kept (isOver i name hname (by simp [hi, hleft]))

/-- The slots are read one after another, each in its turn. -/
theorem readSoFar_forM (left : List Nat) :
    Ensures (ReadSoFar story left) (left.forM readBackground)
      (fun _ => ReadSoFar story []) (fun _ => Settled story) :=
  .forM (ReadSoFar story) readSoFar_readBackground left

/-- Once every slot has been read, a scene is to begin or every script is over. -/
theorem ReadSoFar.allEnded {engine : Engine} (h : ReadSoFar story [] engine)
    (pending : engine.session.pendingScene = none) : engine.session.background.AllEnded := by
  have isOver := h.isOver.resolve_left (by simp [pending])
  intro slot hslot
  obtain ⟨index, hindex⟩ := List.mem_iff_getElem?.1 hslot
  exact isOver index slot.name (by simp [Background.names, hindex]) (by simp)

/-- A new scene has no slots, and its first step leaves its scripts over. -/
theorem allEnded_readNewScene :
    Ensures (ReadSoFar story []) readNewScene
      (fun _ engine => engine.Settled story ∧ engine.session.background.AllEnded)
      (fun _ => Settled story) := by
  refine .bind (Q := fun _ engine => engine.Settled story ∧
    engine.session.background.AllEnded) ?_ ?_
  · refine .beginScene (fun _ h none => ⟨h.settled, h.allEnded none⟩)
      (fun _ _ _ h _ _ => ⟨h.settled.runs, h.settled.slots⟩) fun engine scene h _ _ => ⟨?_, ?_⟩
    · exact settled_enterScene engine.unpend h.settled.runs scene
    · simp [enterScene, Session.enterScene, Session.record, Background.AllEnded]
  · rintro (_ | _)
    · exact .pure fun _ h => h
    · have grown (engine : Engine) := engine.main.step_lasting Session.Grown.lasting engine.session
      refine .of_outcome outcome_readMain (fun engine _ h ok => ⟨h.1.grown (grown engine) _, ?_⟩)
        (fun engine _ h _ => h.1.grown (grown engine) _)
      have grown := grown engine
      rw [resultOf_eq_ok.1 ok] at grown
      exact allEnded_of_grown h.2 grown

end Part

/-- A frame without a failure ends without slots, and one with a failure with settled ones. -/
theorem ensures_frame (signal : Option Signal) :
    Part.Ensures (Settled story) (frame signal)
      (fun _ engine => engine.session.story = story ∧ engine.session.background = {})
      (fun _ => Settled story) := by
  open Engine.Part in
  refine .bind (.optionForM settles_receive signal) fun _ => .bind settles_beginScene fun _ => ?_
  refine .bind settles_runTimers fun _ => .bind settles_beginScene fun _ => ?_
  refine .bind settles_readMain fun _ => .bind settles_readNewScene fun _ =>
    .bind .get fun seen => ?_
  -- At the beginning of the loop every place is left, and at its end none is.
  refine .bind ((readSoFar_forM (List.range seen.session.background.size)).imp ?_
    (fun _ _ h => h) fun _ _ h => h) fun _ => .bind allEnded_readNewScene fun _ => ?_
  · rintro engine ⟨rfl, settled⟩
    refine ⟨settled, .inr fun index name hname hleft => ?_⟩
    obtain ⟨hlt, -⟩ := List.getElem?_eq_some_iff.1 hname
    simp only [Background.names, List.length_map] at hlt
    exact absurd (List.mem_range.2 hlt) hleft
  refine .bind (Q := fun _ engine => engine.session.story = story ∧ engine.session.background = {})
    (.of_outcome (outcome_change _) (fun _ _ h _ => ⟨h.1.runs, h.2.purge⟩)
      fun _ _ _ h => by cases h)
    fun _ => ?_
  refine .bind (.modifyGet fun engine h => ?_) fun _ => .bind (.modifyGet fun _ h => h) fun _ =>
    .pure fun _ h => h
  have keeps := engine.waiting_keeps
  exact ⟨keeps.story.trans h.1, keeps.background.trans h.2⟩

/-- The slots of a reachable engine are settled. -/
theorem Reachable.settled {settings : Settings} {engine : Engine}
    (h : Reachable story settings engine) : engine.Settled story := by
  induction h with
  | create created =>
    obtain ⟨scene, -, rfl⟩ := create_eq_ok created
    exact settled_enterScene ⟨.ofScene scene, .fresh story settings⟩ rfl scene
  | @tick engine _ signal _ settled =>
    obtain ⟨ok, failed⟩ := ensures_frame signal engine settled
    rw [tick_eq]
    rcases hout : (frame signal).outcome engine with ⟨failure | result, after⟩
    · exact failed failure after hout
    · obtain ⟨runs, empty⟩ := ok result after hout
      exact ⟨runs, by simp [empty], by simp [empty, Background.names]⟩
  | write _ write settled => exact settled.grown ((write_ordinary _ write).keeps.grown none) _

/-- Between frames every slot has the reader of its script, the scripts are reusable scripts of the
story and no two slots have the same. A frame without a failure ends without slots and with nothing
noted as over, whatever failed in the frames before. -/
theorem slots_settled_between_frames {settings : Settings} {engine : Engine}
    (h : Reachable story settings engine) :
    engine.session.background.Settled story ∧
      ∀ signal result after, engine.tick signal = (.ok result, after) →
        after.session.background.slots = [] ∧ after.session.background.ended = [] := by
  refine ⟨h.settled.slots, fun signal result after htick => ?_⟩
  obtain ⟨ok, -⟩ := ensures_frame signal engine h.settled
  obtain ⟨-, empty⟩ := ok result after htick
  rw [empty]
  exact ⟨rfl, rfl⟩

/-- A story whose scene starts a script, which starts another one, which goes to a scene that is not
there. -/
def failingInside : Story where
  startup := some ⟨"dawn", "street"⟩
  chapters := .ofEntries [("dawn", { scenes := .ofEntries [("street", "<call:outer>")] })]
  reusables := .ofEntries [("outer", "<call:inner>"), ("inner", "<scene:dusk,harbour>")]

/-- The frame fails inside two starts. Both slots have their readers back, and the next frame, which
does not fail, frees them. -/
theorem slots_settled_after_failingInside :
    ∃ engine, Reachable failingInside {} engine ∧
      engine.session.background.names = ["outer", "inner"] ∧
      engine.session.background.Settled failingInside ∧
      (engine.tick none).1 = .ok ([], .finished) ∧
      (engine.tick none).2.session.background.slots = [] ∧
      (engine.tick none).2.session.background.ended = [] := by
  let new : Engine := .opening failingInside {} ⟨"dawn", "street"⟩
  have fails : (new.tick none).1 = .error (.story (.unknownChapter "dusk")) := by decide +kernel
  have alive : ∀ crash, (new.tick none).1 ≠ .error (.crash crash) := by simp [fails]
  have reachable : Reachable failingInside {} (new.tick none).2 :=
    .tick (.create (by decide +kernel)) none alive
  have goesOn : ((new.tick none).2.tick none).1 = .ok ([], .finished) := by decide +kernel
  obtain ⟨settled, freed⟩ := slots_settled_between_frames reachable
  exact ⟨_, reachable, by decide +kernel, settled, goesOn, freed none _ _ (Prod.ext goesOn rfl)⟩

end Engine

end VisualNovel

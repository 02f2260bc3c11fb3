import VisualNovel.Proofs.Invariants
import VisualNovel.Proofs.LinesMet

/-!
# The shape of open blocks

A reader looks at its innermost block only to see whether lines are passed over. That is enough
because of the shape that its open blocks have: from the outermost on, blocks whose lines are read,
and then either nothing more or one block that is skipped and, inside of it, blocks that are inert.
So the lines are passed over just when some open block is not read, and another condition that lets
lines in does so for the one skipped block, around which all blocks are read.

The operations on blocks do not give them this shape by themselves: a block that is opened as inert
among lines that are read would break it. What keeps it is that a tag opens a block as inert only
where lines are passed over, and with a condition only where they are read (`Blocks.Shaped.obey`).
The rest of the module carries the shape from one tag to the lines of a script (`Role.shaped_plan`),
to all lines that a frame comes to, in whatever reader, and to the readers that it leaves behind.
-/

namespace VisualNovel

/-! ## Shapes -/

namespace Blocks

/-- The open blocks, the outermost first, are blocks that are read, and then either nothing more or
one that is skipped and inert ones. -/
def Shaped (blocks : Blocks) : Prop :=
  ∃ read inner, blocks.frames.reverse = List.replicate read .passing ++ inner ∧
    (inner = [] ∨ ∃ name ignored, inner = .skipping name :: List.replicate ignored .inert)

/-- All open blocks are read. -/
def AllRead (frames : List Frame) : Prop :=
  ∀ frame ∈ frames, frame = .passing

variable {blocks : Blocks} {outer : List Frame} {name : Option String}

/-- Blocks that are all read are a number of blocks that are read. -/
theorem allRead_iff : AllRead outer ↔ ∃ read, outer = List.replicate read .passing := by
  refine ⟨fun h => ⟨_, List.eq_replicate_of_mem h⟩, ?_⟩
  rintro ⟨read, rfl⟩ frame mem
  exact (List.mem_replicate.1 mem).2

/-- The shape from the innermost block on. -/
theorem shaped_iff : blocks.Shaped ↔ AllRead blocks.frames ∨
    ∃ ignored name outer, blocks.frames = List.replicate ignored .inert ++ .skipping name :: outer ∧
      AllRead outer := by
  refine ⟨?_, ?_⟩
  · rintro ⟨read, inner, shape, rfl | ⟨name, ignored, rfl⟩⟩
    · rw [List.append_nil, List.reverse_eq_iff, List.reverse_replicate] at shape
      exact .inl (allRead_iff.2 ⟨read, shape⟩)
    · rw [List.reverse_eq_iff] at shape
      refine .inr ⟨ignored, name, List.replicate read .passing, ?_, allRead_iff.2 ⟨read, rfl⟩⟩
      simpa using shape
  · rintro (read | ⟨ignored, name, outer, shape, read⟩)
    · obtain ⟨read, shape⟩ := allRead_iff.1 read
      exact ⟨read, [], by simp [shape], .inl rfl⟩
    · obtain ⟨count, rfl⟩ := allRead_iff.1 read
      exact ⟨count, _, by simp [shape], .inr ⟨name, ignored, rfl⟩⟩

/-- Without a block everything is in shape. -/
theorem shaped_empty : Shaped {} :=
  shaped_iff.2 (.inl nofun)

/-- Within a block that is read, all the outer ones are read. -/
theorem shaped_passing : Shaped ⟨.passing :: outer⟩ ↔ AllRead outer := by
  refine ⟨fun h => ?_, fun h => shaped_iff.2 (.inl (List.forall_mem_cons.2 ⟨rfl, h⟩))⟩
  rcases shaped_iff.1 h with read | ⟨_ | ignored, name, rest, shape, -⟩
  · exact (List.forall_mem_cons.1 read).2
  · cases shape
  · cases shape

/-- Within a block that waits for its alternative, all the outer ones are read. -/
theorem shaped_skipping : Shaped ⟨.skipping name :: outer⟩ ↔ AllRead outer := by
  refine ⟨fun h => ?_, fun h => shaped_iff.2 (.inr ⟨0, name, outer, rfl, h⟩)⟩
  rcases shaped_iff.1 h with read | ⟨_ | ignored, name, rest, shape, read⟩
  · cases (List.forall_mem_cons.1 read).1
  · cases shape
    exact read
  · cases shape

/-- An inert block stands where lines are passed over. -/
theorem shaped_inert : Shaped ⟨.inert :: outer⟩ ↔ Shaped ⟨outer⟩ ∧ isSkipping ⟨outer⟩ = true := by
  refine ⟨fun h => ?_, ?_⟩
  · rcases shaped_iff.1 h with read | ⟨_ | ignored, name, rest, shape, read⟩
    · cases (List.forall_mem_cons.1 read).1
    · cases shape
    · obtain ⟨-, rfl⟩ := List.cons.inj shape
      exact ⟨shaped_iff.2 (.inr ⟨ignored, name, rest, rfl, read⟩), by cases ignored <;> rfl⟩
  · rintro ⟨shaped, skipping⟩
    rcases shaped_iff.1 shaped with read | ⟨ignored, name, rest, shape, read⟩
    · cases outer with
      | nil => cases skipping
      | cons frame outer =>
        obtain rfl := (List.forall_mem_cons.1 read).1
        cases skipping
    · exact shaped_iff.2 (.inr ⟨ignored + 1, name, rest, congrArg (.inert :: ·) shape, read⟩)

/-- Lines are passed over just when some open block is not read. -/
theorem Shaped.isSkipping_iff (h : blocks.Shaped) :
    blocks.isSkipping = true ↔ ∃ frame ∈ blocks.frames, frame ≠ .passing := by
  obtain ⟨_ | ⟨_ | name | _, outer⟩⟩ := blocks
  · simp [isSkipping]
  · have read := shaped_passing.1 h
    simp only [isSkipping, Bool.false_eq_true, false_iff, List.mem_cons, exists_eq_or_imp, ne_eq,
      not_true_eq_false, false_or]
    rintro ⟨frame, mem, other⟩
    exact other (read frame mem)
  · exact ⟨fun _ => ⟨_, List.mem_cons_self, by simp⟩, fun _ => rfl⟩
  · exact ⟨fun _ => ⟨_, List.mem_cons_self, by simp⟩, fun _ => rfl⟩

/-- Where lines are read, all open blocks are. -/
theorem Shaped.allRead (h : blocks.Shaped) (reading : blocks.isSkipping = false) :
    AllRead blocks.frames := by
  intro frame mem
  by_contra other
  rw [h.isSkipping_iff.2 ⟨frame, mem, other⟩] at reading
  cases reading

/-! ## What the tags of blocks keep -/

/-- The end of a block keeps the shape. -/
theorem Shaped.leave (h : blocks.Shaped) : blocks.leave.Shaped := by
  obtain ⟨_ | ⟨_ | name | _, outer⟩⟩ := blocks
  · exact h
  · exact shaped_iff.2 (.inl (shaped_passing.1 h))
  · exact shaped_iff.2 (.inl (shaped_skipping.1 h))
  · exact (shaped_inert.1 h).1

/-- The default of a block keeps the shape. -/
theorem Shaped.turnRound (h : blocks.Shaped) : blocks.turnRound.Shaped := by
  obtain ⟨_ | ⟨_ | name | _, outer⟩⟩ := blocks
  · exact h
  · exact shaped_skipping.2 (shaped_passing.1 h)
  · exact shaped_passing.2 (shaped_skipping.1 h)
  · exact h

variable {fresh fresh' : List String} {arguments : Option String} {after : Blocks}

/-- A block is opened as inert only where lines are passed over, and with a condition only where
they are read. -/
theorem Shaped.openCase (h : blocks.Shaped)
    (opens : blocks.openCase fresh arguments = .ok (after, fresh')) : after.Shaped := by
  unfold Blocks.openCase at opens
  by_cases skipping : blocks.isSkipping = true
  · rw [if_pos skipping] at opens
    cases opens
    exact shaped_inert.2 ⟨h, skipping⟩
  · rw [if_neg skipping] at opens
    have read := h.allRead (by simpa using skipping)
    rcases hjudge : judge fresh arguments with crash | ⟨passed, name, left⟩
    · rw [hjudge] at opens
      cases opens
    · rw [hjudge] at opens
      cases opens
      cases passed with
      | true => exact shaped_passing.2 read
      | false => exact shaped_skipping.2 read

/-- Another condition changes nothing, or lets in the lines of the innermost block, which was
skipped. -/
theorem eq_or_of_tryOrCase (tries : blocks.tryOrCase arguments = .ok after) :
    after = blocks ∨ ∃ name outer, blocks.frames = .skipping (some name) :: outer ∧
      after.frames = .passing :: outer := by
  unfold tryOrCase at tries
  rcases hshape : Shape.orCondition.decode? arguments with _ | ⟨name, a, operator, b, ⟨⟩⟩
  · rw [hshape] at tries
    cases tries
    exact .inl rfl
  · rw [hshape] at tries
    dsimp only at tries
    -- Only the block that waits for an alternative of this name can be opened by it.
    by_cases awaits : blocks.awaits name = true
    · rw [if_pos awaits] at tries
      rcases hholds : Operator.holds a operator b with crash | passed
      · rw [hholds] at tries
        cases tries
      · rw [hholds] at tries
        cases tries
        cases passed with
        | false => exact .inl (by simp [orCase])
        | true =>
          obtain ⟨_ | ⟨_ | found | _, outer⟩⟩ := blocks
          · cases awaits
          · cases awaits
          · obtain rfl : found = some name := by simpa [Blocks.awaits, skippingName?] using awaits
            exact .inr ⟨name, outer, rfl, by simp [orCase, awaits]⟩
          · cases awaits
    · rw [if_neg awaits] at tries
      cases tries
      exact .inl rfl

/-- An alternative that can be read keeps the shape. -/
theorem Shaped.tryOrCase (h : blocks.Shaped) (tries : blocks.tryOrCase arguments = .ok after) :
    after.Shaped := by
  rcases eq_or_of_tryOrCase tries with rfl | ⟨name, outer, shape, hafter⟩
  · exact h
  · obtain ⟨frames⟩ := blocks
    obtain ⟨frames'⟩ := after
    cases shape
    cases hafter
    exact shaped_passing.2 (shaped_skipping.1 h)

/-- Every instruction keeps the shape. -/
theorem Shaped.obey {instruction : Instruction} (h : blocks.Shaped)
    (obeys : blocks.obey fresh instruction arguments = .ok (after, fresh')) : after.Shaped := by
  cases instruction with
  | case => exact h.openCase obeys
  | orCase =>
    obtain ⟨tried, hafter, hpair⟩ := map_eq_ok.1 obeys
    cases hpair
    exact h.tryOrCase hafter
  | caseElse =>
    cases obeys
    exact h.turnRound
  | caseEnd =>
    cases obeys
    exact h.leave
  | _ =>
    cases obeys
    exact h

end Blocks

/-! ## Lines -/

section lines

variable {role : Role} {blocks : Blocks} {s : Session}

/-- A tag keeps the shape. -/
theorem Role.shaped_obey (h : blocks.Shaped) (tag : Tag) :
    (role.obey blocks s tag).blocks.Shaped := by
  unfold Role.obey
  rcases Instruction.ofName? tag.name with _ | instruction
  · exact h
  · dsimp only
    rcases hobey : blocks.obey s.freshNames instruction tag.arguments with crash | ⟨after, fresh⟩
    · exact h
    · dsimp only
      rcases Session.execute { s with freshNames := fresh } role.isMain instruction tag
        with _ | outcome
      · exact h.obey hobey
      · exact h.obey hobey

/-- A line keeps the shape of the blocks, whoever reads it and whatever comes of it. -/
theorem Role.shaped_plan (h : blocks.Shaped) (raw : String) :
    (role.plan blocks s raw).blocks.Shaped := by
  unfold Role.plan
  dsimp only
  split
  · exact h
  · rcases role.fill s (Line.tidy raw) with error | filled
    · exact h
    · dsimp only
      unfold Role.obeyLine
      rcases Line.read filled with _ | _ | found | words
      · exact h
      · exact h
      · exact Role.shaped_obey h found
      · dsimp only
        split <;> exact h

end lines

/-- A script begins without blocks. -/
theorem Effect.Opens.shaped {effect : Effect} {a : Activation} (opens : effect.Opens a) :
    a.blocks.Shaped := by
  cases opens with
  | started _ => exact Blocks.shaped_empty

/-- What is read after a line has the shape, if the line was read with it. -/
theorem Activation.Goes.shaped {a b : Activation} (goes : a.Goes b) (h : a.blocks.Shaped) :
    b.blocks.Shaped := by
  cases goes with
  | into opens => exact opens.shaped
  | onward _ _ => exact Role.shaped_plan h _
  | looks _ _ _ => exact Role.shaped_plan h _

/-- So has everything that is read in the course of it. -/
theorem Activation.shaped_of_goes {a b : Activation}
    (course : Relation.ReflTransGen Activation.Goes a b) (h : a.blocks.Shaped) :
    b.blocks.Shaped := by
  induction course with
  | refl => exact h
  | tail _ goes ih => exact goes.shaped ih

/-! ## Readers -/

namespace Reader

variable {reader : Reader} {s : Session} {a : Activation}

/-- A reader that goes on line by line keeps the shape. -/
theorem Unrolls.shaped (unrolls : reader.Unrolls s a) (h : reader.blocks.Shaped) :
    a.blocks.Shaped := by
  cases unrolls with
  | reads _ => exact h
  | haltEnds _ opens => exact opens.shaped
  | released _ _ _ => exact h

/-- The lines that a reader is about to read are its own, with its blocks, or those of a new
script. -/
theorem Opens.shaped (opens : reader.Opens s a) (h : reader.blocks.Shaped) : a.blocks.Shaped := by
  cases opens with
  | advances _ _ unrolls => exact unrolls.shaped h
  | loads _ _ load unrolls =>
    obtain ⟨lines, rfl⟩ := eq_of_load load
    exact unrolls.shaped h

end Reader

/-- Whatever a frame does, the readers that it leaves have the shape. -/
theorem Blocks.shaped_frameRules :
    FrameRules (fun _ => True) (fun reader => reader.blocks.Shaped) (fun _ _ _ => True) where
  refl _ := trivial
  trans _ _ := trivial
  keeps _ _ := trivial
  line _ h := ⟨trivial, Role.shaped_plan h _⟩
  fails _ _ _ _ := trivial
  finish h := h
  look _ := trivial
  halt _ := trivial
  rest _ := trivial
  load _ h hload := by
    obtain ⟨lines, rfl⟩ := Reader.eq_of_load hload
    exact h
  unloaded _ _ _ := trivial
  slots _ _ := trivial
  starts _ _ := ⟨shaped_empty, trivial⟩
  timers _ _ := trivial
  scene _ _ _ := ⟨shaped_empty, trivial⟩
  missing _ _ _ := trivial

/-! ## Frames -/

namespace Engine

/-- All readers have the shape. -/
structure AllShaped (engine : Engine) : Prop where
  /-- The reader of the main script. -/
  main : engine.main.blocks.Shaped
  /-- The readers in the slots. -/
  slots : engine.session.background.All fun reader => reader.blocks.Shaped

namespace Survey

variable {α β : Type}

/-- Where all readers have the shape, the part opens only lines with the shape, and leaves readers
with it. -/
def KeepsShape (x : Survey α) : Prop :=
  ∀ engine : Engine, engine.AllShaped → (∀ a, x.opens engine a → a.blocks.Shaped) ∧
    ∀ result after, x.part.outcome engine = (.ok result, after) → after.AllShaped

namespace KeepsShape

/-- A part that does nothing keeps the shape. -/
theorem pure (a : α) : KeepsShape (Pure.pure a) := by
  intro engine shaped
  refine ⟨fun _ => False.elim, ?_⟩
  rintro _ _ ⟨⟩
  exact shaped

/-- One part after another. -/
theorem bind {x : Survey α} {next : α → Survey β} (first : x.KeepsShape)
    (later : ∀ a, (next a).KeepsShape) : (x >>= next).KeepsShape := by
  intro engine shaped
  obtain ⟨opened, left⟩ := first engine shaped
  refine ⟨?_, fun result after hout => ?_⟩
  · rintro b (here | ⟨a, engine', hout, there⟩)
    · exact opened b here
    · exact (later a engine' (left a engine' hout)).1 b there
  · rw [toAccount_bind, Account.part_bind, Part.outcome_bind] at hout
    rcases hx : x.part.outcome engine with ⟨failure | a, engine'⟩
    · rw [hx] at hout
      cases hout
    · rw [hx] at hout
      exact (later a engine' (left a engine' hx)).2 result after hout

/-- Parts that keep the shape keep it one after the other. -/
theorem forM {body : β → Survey Unit} (each : ∀ b, (body b).KeepsShape) (list : List β) :
    (list.forM body).KeepsShape := by
  induction list with
  | nil => exact pure ()
  | cons b list ih => exact bind (each b) fun _ => ih

/-- A part that opens no lines and changes neither the main reader nor, at most by giving some up,
the slots. -/
theorem still {account : Account α}
    {silent : ∀ engine, ∀ happening ∈ account.log engine, happening.ofLine = false}
    (keeps : ∀ engine result after, account.part.outcome engine = (.ok result, after) →
      engine.AllShaped → after.AllShaped) : KeepsShape (Survey.still account silent) :=
  fun engine shaped =>
    ⟨fun _ => False.elim, fun result after hout => keeps engine result after hout shaped⟩

/-- An effect that is carried out. -/
theorem perform {engine after : Engine} {effect : Session → Effect} {result : Unit}
    (shaped : engine.AllShaped)
    (slots : (effect engine.session).session.background = engine.session.background)
    (hout : (Part.perform effect).outcome engine = (.ok result, after)) : after.AllShaped := by
  rw [Part.outcome_perform] at hout
  obtain ⟨-, rfl⟩ := Prod.mk.inj hout
  have rules := Blocks.shaped_frameRules.startRules
  have run := rules.perform (s := engine.session) rules.start ⟨trivial, shaped.slots⟩
    ⟨trivial, slots ▸ shaped.slots⟩
  exact ⟨shaped.main, run.2⟩

/-- A signal keeps the shape. -/
theorem receive (signal : Signal) : KeepsShape (Survey.receive signal) := by
  intro engine shaped
  refine ⟨fun a opens => Effect.Opens.shaped opens, fun result after hout => ?_⟩
  have hout : (Part.receive signal).outcome engine = (.ok result, after) := hout
  rw [Part.receive_eq] at hout
  exact perform shaped (signal.effect_keeps engine.session).background hout

/-- The start of a script keeps the shape. -/
theorem launch (launch : Launch) : KeepsShape (Survey.launch launch) := by
  intro engine shaped
  refine ⟨fun a opens => Effect.Opens.shaped opens, fun result after hout => ?_⟩
  have hout : (Part.perform fun session => { session, launch := some launch }).outcome engine =
    (.ok result, after) := hout
  exact perform shaped rfl hout

/-- The beginning of a scene keeps the shape. -/
theorem beginScene : KeepsShape Survey.beginScene := by
  refine still fun engine result after hout shaped => ?_
  have hout : Part.beginScene.outcome engine = (.ok result, after) := hout
  rw [Part.outcome_beginScene] at hout
  rcases hscene : engine.session.pendingScene with _ | scene
  · rw [hscene] at hout
    cases hout
    exact shaped
  · rw [hscene] at hout
    dsimp only at hout
    rcases hcheck : engine.session.story.checkScene scene with error | ⟨⟩
    · rw [hcheck] at hout
      cases hout
    · rw [hcheck] at hout
      cases hout
      exact ⟨Blocks.shaped_empty, .empty⟩

/-- The timers keep the shape. -/
theorem runTimers : KeepsShape Survey.runTimers := by
  intro engine shaped
  have ran : (engine.after .timersRan).AllShaped := ⟨shaped.main, shaped.slots⟩
  obtain ⟨opened, left⟩ := forM launch engine.session.timers.tick.1 (engine.after .timersRan) ran
  refine ⟨opened, fun result after hout => left result after ?_⟩
  rw [toAccount_forM, Account.part_forM]
  exact hout

/-- The turn of the main script keeps the shape. -/
theorem readMain : KeepsShape Survey.readMain := by
  intro engine shaped
  refine ⟨fun a opens => Reader.Opens.shaped opens shaped.main, fun result after hout => ?_⟩
  have hout : Part.readMain.outcome engine = (.ok result, after) := hout
  rw [Part.outcome_readMain] at hout
  obtain ⟨-, rfl⟩ := Prod.mk.inj hout
  obtain ⟨main, -, slots⟩ := Blocks.shaped_frameRules.startRules.step engine.main
    (s := engine.session) ⟨trivial, shaped.slots⟩ shaped.main
  exact ⟨main, slots⟩

/-- The turn of a new scene keeps the shape. -/
theorem readNewScene : KeepsShape Survey.readNewScene := by
  refine bind beginScene fun began => ?_
  cases began with
  | false => exact pure ()
  | true => exact readMain

/-- The turn of a background script keeps the shape. -/
theorem readBackground (index : Nat) : KeepsShape (Survey.readBackground index) := by
  intro engine shaped
  refine ⟨?_, fun result after hout => ?_⟩
  · rintro a ⟨-, reader, background, hout, opens⟩
    exact opens.shaped (shaped.slots.checkOut? hout).1
  · have hout : (Part.readBackground index).outcome engine = (.ok result, after) := hout
    rw [Part.outcome_readBackground] at hout
    split at hout
    · cases hout
      exact shaped
    · rcases taken : engine.session.background.checkOut? index with _ | ⟨reader, background⟩
      · rw [taken] at hout
        cases hout
        exact shaped
      · rw [taken] at hout
        obtain ⟨-, rfl⟩ := Prod.mk.inj hout
        obtain ⟨own, others⟩ := shaped.slots.checkOut? taken
        obtain ⟨back, -, slots⟩ := Blocks.shaped_frameRules.startRules.step reader
          (s := { engine.session with background }) ⟨trivial, others⟩ own
        exact ⟨shaped.main, slots.checkIn index back⟩

/-- Through all parts of a frame. -/
theorem frame (signal : Option Signal) : KeepsShape (Survey.frame signal) := by
  have received : KeepsShape (signal.forM Survey.receive) := by
    cases signal with
    | none => exact pure ()
    | some signal => exact receive signal
  refine bind received fun _ => bind beginScene fun _ => bind runTimers fun _ =>
    bind beginScene fun _ => ?_
  refine bind readMain fun _ => bind readNewScene fun _ => bind (still ?_) fun seen => ?_
  · rintro engine _ _ ⟨⟩ shaped
    exact shaped
  refine bind (forM readBackground _) fun _ => bind readNewScene fun _ =>
    bind (still ?_) fun _ => ?_
  · rintro engine _ _ ⟨⟩ shaped
    exact ⟨shaped.main, shaped.slots.purge⟩
  refine bind (still ?_) fun waiting => bind (still ?_) fun cues => pure _
  · rintro engine _ after hout shaped
    obtain rfl : after = { engine with session := engine.session.heldBy.2 } :=
      (congrArg Prod.snd hout).symm.trans engine.waiting_engine
    exact ⟨shaped.main, engine.session.heldBy_ordinary.keeps.background ▸ shaped.slots⟩
  · rintro engine _ _ ⟨⟩ shaped
    exact ⟨shaped.main, shaped.slots⟩

end KeepsShape

end Survey

/-- In all engines that a story can come to, all readers have the shape. -/
theorem Reachable.allShaped {story : Story} {settings : Settings} {engine : Engine}
    (reachable : Reachable story settings engine) : engine.AllShaped := by
  induction reachable with
  | create created =>
    obtain ⟨scene, -, rfl⟩ := create_eq_ok created
    exact ⟨Blocks.shaped_empty, .empty⟩
  | @tick engine _ signal _ ih =>
    obtain ⟨failed, ok⟩ := Blocks.shaped_frameRules.tick engine signal trivial ih.slots ih.main
    rcases htick : engine.tick signal with ⟨failure | ⟨cues, waiting⟩, after⟩
    · have ran := failed failure after htick
      exact ⟨ran.main, ran.slots⟩
    · obtain ⟨last, ran, taken⟩ := ok cues waiting after htick
      cases taken
      exact ⟨ran.main, ran.slots⟩
  | @write engine _ write ih =>
    refine ⟨engine.write_main write ▸ ih.main, ?_⟩
    rw [(engine.write_ordinary write).keeps.background]
    exact ih.slots

/-- Blocks in which a reader of the engine stands, now or in the course of a frame. -/
inductive StandsIn (engine : Engine) : Blocks → Prop where
  /-- The reader of the main script. -/
  | main : StandsIn engine engine.main.blocks
  /-- A reader in a slot. -/
  | slot {slot : Slot} {reader : Reader} (mem : slot ∈ engine.session.background.slots)
    (filled : slot.reader = some reader) : StandsIn engine reader.blocks
  /-- Whoever reads lines that a frame comes to. -/
  | meets {signal : Option Signal} {a : Activation} (meets : engine.Meets signal a) :
    StandsIn engine a.blocks
  /-- The same after the first of these lines. -/
  | behind {signal : Option Signal} {role : Role} {raw : String} {lines : List String}
    {blocks : Blocks}
    {s : Session} (meets : engine.Meets signal ⟨role, raw :: lines, blocks, s⟩) :
    StandsIn engine (role.plan blocks s raw).blocks

/-- If all blocks of an engine are in shape, so are the ones that a reader of it stands in. -/
theorem AllShaped.standsIn {engine : Engine} (h : engine.AllShaped) {blocks : Blocks}
    (stands : engine.StandsIn blocks) : blocks.Shaped := by
  have meets {signal : Option Signal} {b : Activation} (meets : engine.Meets signal b) :
      b.blocks.Shaped := by
    obtain ⟨a, opens, course⟩ := meets
    exact Activation.shaped_of_goes course ((Survey.KeepsShape.frame signal engine h).1 a opens)
  cases stands with
  | main => exact h.main
  | slot mem filled => exact h.slots _ mem _ filled
  | meets met => exact meets met
  | behind met => exact Role.shaped_plan (meets met) _

/-- **Open blocks keep their shape.** In every engine that a story can come to, whatever its scripts
are, and for every reader, between frames and at every line of a frame: the open blocks are, from
the outermost on, blocks that are read, and then either nothing more or one that is skipped and
inert ones. So lines are passed over exactly if some open block is not read; and another condition
changes nothing, unless it lets in the lines of the innermost block, which was skipped, and all
blocks around which are read. -/
theorem open_blocks_keep_shape {story : Story} {settings : Settings} {engine : Engine}
    {blocks : Blocks} (reachable : Reachable story settings engine)
    (stands : engine.StandsIn blocks) :
    blocks.Shaped ∧ (blocks.isSkipping = true ↔ ∃ frame ∈ blocks.frames, frame ≠ .passing) ∧
      ∀ fresh fresh' arguments after, blocks.obey fresh .orCase arguments = .ok (after, fresh') →
        after = blocks ∨ ∃ name outer, blocks.frames = .skipping (some name) :: outer ∧
          (∀ frame ∈ outer, frame = .passing) ∧ after.frames = .passing :: outer := by
  have shaped := reachable.allShaped.standsIn stands
  refine ⟨shaped, shaped.isSkipping_iff, fun fresh fresh' arguments after obeys => ?_⟩
  obtain ⟨tried, tries, hpair⟩ := map_eq_ok.1 obeys
  cases hpair
  rcases Blocks.eq_or_of_tryOrCase tries with same | ⟨name, outer, hframes, hafter⟩
  · exact .inl same
  · obtain ⟨frames⟩ := blocks
    cases hframes
    exact .inr ⟨name, outer, rfl, Blocks.shaped_skipping.1 shaped, hafter⟩

/-- A story whose script calls another one, with a surplus end of a block and three blocks in each
other. -/
def knotty : Story where
  startup := some ⟨"dawn", "street"⟩
  chapters := .ofEntries [("dawn", { scenes := .ofEntries [("street", "<call:knot>")] })]
  reusables :=
    .ofEntries [("knot", "<case_end>\n<case:1,is,1,out>\n<case:1,is,2,in>\n<case:1>\n<case:(@x)>")]

/-- The engine of that story at the beginning. -/
def knottyNew : Engine :=
  .opening knotty {} ⟨"dawn", "street"⟩

/-- The last line of the called script fails, so that its reader stays in the innermost block. -/
theorem knot_has_shape :
    ∃ engine blocks, Reachable knotty {} engine ∧ engine.StandsIn blocks ∧
      blocks.frames = [.inert, .skipping (some "in"), .passing] ∧ blocks.Shaped ∧
      (blocks.isSkipping = true ↔ ∃ frame ∈ blocks.frames, frame ≠ .passing) := by
  obtain ⟨created, failed, hslots⟩ :
      Engine.create knotty {} = .ok knottyNew ∧
      (knottyNew.tick none).1 = .error (.story (.unboundParameter "knot" "x")) ∧
      (knottyNew.tick none).2.session.background.slots.map
          (fun slot => slot.reader.map Reader.blocks) =
        [some ⟨[.inert, .skipping (some "in"), .passing]⟩] := by
    decide +kernel
  have reachable : Reachable knotty {} (knottyNew.tick none).2 :=
    .tick (.create created) none (by simp [failed])
  generalize (knottyNew.tick none).2 = engine at reachable hslots
  obtain ⟨slot, mem, hblocks⟩ := List.mem_map.1 (hslots ▸ List.mem_singleton_self _)
  obtain ⟨reader, filled, hreader⟩ := Option.map_eq_some_iff.1 hblocks
  have stands : engine.StandsIn reader.blocks := .slot mem filled
  obtain ⟨shaped, skipping, -⟩ := open_blocks_keep_shape reachable stands
  exact ⟨engine, reader.blocks, reachable, stands, by rw [hreader], shaped, skipping⟩

end Engine

end VisualNovel

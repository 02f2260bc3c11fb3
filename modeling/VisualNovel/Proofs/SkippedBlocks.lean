import VisualNovel.Proofs.CaseBlocks
import VisualNovel.Proofs.FailingTags

/-!
# Blocks among skipped lines

A block that stands among lines that are passed over is there to be discarded as a whole. Its plain
lines are: nothing is put into them, and nothing is read in them. Its tags are not quite. They are
counted, so that the end of the block is found, and for that they are filled first.

So a reader comes to the end of the block with the session and the blocks that it had, whatever the
block holds (`Role.Discards`), unless a parameter without a value stands in one of its tags. There
the script fails, in blocks that are all inert (`Role.Stumbles`). The two outcomes are followed from
a line to a tree of lines, and then to a frame of a reader.
-/

namespace VisualNovel

/-! ## Two outcomes -/

/-- Lines that a reader discards, with its blocks before and after them. Each line leaves the
session as it is, and the reader goes on. -/
inductive Role.Discards (role : Role) (start : Starter) (s : Session) :
    Blocks → List String → Blocks → Prop where
  /-- No lines. -/
  | nil (blocks : Blocks) : Discards role start s blocks [] blocks
  /-- A line that is discarded, and the lines behind it. -/
  | cons {blocks next last : Blocks} {raw : String} {lines : List String} {verdict : Verdict}
      (line : (role.plan blocks s raw).carryOut start = ⟨s, next, verdict⟩)
      (goesOn : verdict = .onward ∨ verdict = .look)
      (rest : Discards role start s next lines last) :
      Discards role start s blocks (raw :: lines) last

/-- A tag of a block that a reader comes to behind lines that it discards, and that it cannot fill.
It then stands in blocks that were opened among those lines. -/
structure Role.Stumbles (role : Role) (start : Starter) (s : Session) (blocks : Blocks)
    (front : List String) (raw : String) (within : Blocks) (error : StoryError) : Prop where
  /-- The lines before the tag are discarded. -/
  discards : role.Discards start s blocks front within
  /-- The blocks that are open at the tag are inert. -/
  inert : ∃ depth, within.frames = List.replicate depth .inert ++ blocks.frames
  /-- It is the tag of a block. -/
  tag : Line.isBlockTag (Line.tidy raw) = true
  /-- It cannot be filled. -/
  unfilled : role.fill s (Line.tidy raw) = .error error

/-- What a reader does with lines that are passed over: it discards them if their tags can be
filled, and otherwise stumbles over one. -/
def Role.Skips (role : Role) (start : Starter) (s : Session) (blocks : Blocks) (lines : List String)
    (last : Blocks) : Prop :=
  lines.all (role.passesOver s) = true ∧ role.Discards start s blocks lines last ∨
    ∃ front raw back within error, lines = front ++ raw :: back ∧
      role.Stumbles start s blocks front raw within error

section skipped

variable {role : Role} {start : Starter} {s : Session} {blocks next last : Blocks}

namespace Role.Discards

/-- One line that changes nothing but the blocks is discarded. -/
theorem singleton {raw : String} {verdict : Verdict}
    (line : (role.plan blocks s raw).carryOut start = ⟨s, next, verdict⟩)
    (goesOn : verdict = .onward ∨ verdict = .look) : role.Discards start s blocks [raw] next :=
  .cons line goesOn (.nil next)

/-- Lines are discarded one part after the other. -/
theorem append {front back : List String} (first : role.Discards start s blocks front next)
    (second : role.Discards start s next back last) :
    role.Discards start s blocks (front ++ back) last := by
  induction first with
  | nil => exact second
  | cons line goesOn _ ih => exact .cons line goesOn (ih second)

/-- A reader that nothing holds goes on behind lines that it discards. -/
theorem readLines {lines : List String} (discards : role.Discards start s blocks lines last)
    (quiet : role.goOn? s = some s) (more : List String) :
    role.readLines start (lines ++ more) blocks s = role.readLines start more last s := by
  induction discards with
  | nil => rfl
  | cons line goesOn _ ih =>
    rw [List.cons_append, Role.readLines, line]
    obtain rfl | rfl := goesOn
    · exact ih
    · dsimp only
      rw [Role.goOn?_eq_some.1 quiet]
      exact ih

/-- So does a frame of a reader that begins with them. -/
theorem step {lines : List String} (discards : role.Discards start s blocks lines last)
    {t : Session} (begins : role.begin? start t = some s) (more : List String) :
    Reader.step { role, lines := lines ++ more, blocks } start t =
      role.readLines start more last s := by
  rw [Reader.step_of_begin? rfl rfl begins]
  exact discards.readLines (Role.goOn?_of_begin? begins) more

end Role.Discards

namespace Role.Stumbles

variable {front : List String} {raw : String} {within : Blocks} {error : StoryError}

/-- A tag that cannot be filled is reached behind lines that are discarded and only open blocks. -/
theorem behind {before : List String} (discards : role.Discards start s blocks before next)
    (opened : ∃ depth, next.frames = List.replicate depth .inert ++ blocks.frames)
    (stumbles : role.Stumbles start s next front raw within error) :
    role.Stumbles start s blocks (before ++ front) raw within error := by
  obtain ⟨depth, opened⟩ := opened
  obtain ⟨further, inert⟩ := stumbles.inert
  refine ⟨discards.append stumbles.discards, ⟨further + depth, ?_⟩, stumbles.tag, stumbles.unfilled⟩
  rw [inert, opened, ← List.append_assoc, List.replicate_append_replicate]

/-- The tag fails the script, and changes nothing. -/
theorem carryOut (stumbles : role.Stumbles start s blocks front raw within error) :
    (role.plan within s raw).carryOut start = ⟨s, within, .fail (.story error)⟩ := by
  unfold Role.plan
  simp [stumbles.tag, stumbles.unfilled, Plan.idle, Plan.carryOut, Effect.perform]

/-- A line that a reader stumbles over is not passed over. -/
theorem not_passesOver (stumbles : role.Stumbles start s blocks front raw within error) :
    role.passesOver s raw = false := by
  simp [Role.passesOver, stumbles.tag, stumbles.unfilled, Except.isOk, Except.toBool]

/-- A reader that nothing holds stops there. -/
theorem readLines (stumbles : role.Stumbles start s blocks front raw within error)
    (quiet : role.goOn? s = some s) (back : List String) :
    role.readLines start (front ++ raw :: back) blocks s =
      { reader := { role, lines := back, blocks := within }
        session := s
        failure := some (.story error) } := by
  rw [stumbles.discards.readLines quiet, Role.readLines, stumbles.carryOut]

/-- So does one that is free to begin. -/
theorem step (stumbles : role.Stumbles start s blocks front raw within error) {t : Session}
    (begins : role.begin? start t = some s) (back : List String) :
    Reader.step { role, lines := front ++ raw :: back, blocks } start t =
      { reader := { role, lines := back, blocks := within }
        session := s
        failure := some (.story error) } := by
  rw [Reader.step_of_begin? rfl rfl begins]
  exact stumbles.readLines (Role.goOn?_of_begin? begins) back

end Role.Stumbles

/-- Lines are skipped one part after the other, where the first part only opens blocks. -/
theorem Role.Skips.append {front back : List String}
    (first : role.Skips start s blocks front next)
    (opened : ∃ depth, next.frames = List.replicate depth .inert ++ blocks.frames)
    (second : role.Skips start s next back last) :
    role.Skips start s blocks (front ++ back) last := by
  obtain ⟨filled, discards⟩ | ⟨before, raw, after, within, error, rfl, stumbles⟩ := first
  · obtain ⟨filled', discards'⟩ | ⟨before, raw, after, within, error, rfl, stumbles⟩ := second
    · left
      rw [List.all_append, filled, filled']
      exact ⟨rfl, discards.append discards'⟩
    · right
      exact ⟨front ++ before, raw, after, within, error, (List.append_assoc ..).symm,
        stumbles.behind discards opened⟩
  · right
    refine ⟨before, raw, after ++ back, within, error, ?_, stumbles⟩
    rw [List.append_assoc, List.cons_append]

/-! ## Lines -/

/-- A plain line is discarded. -/
theorem PlainLine.skips (line : PlainLine) (skipping : blocks.isSkipping = true) :
    role.Skips start s blocks [line.raw] blocks := by
  left
  constructor
  · simp [Role.passesOver, line.plain]
  · apply Role.Discards.singleton _ (.inl rfl)
    unfold Role.plan
    simp [skipping, line.plain, Plan.idle, Plan.carryOut, Effect.perform]

/-- The tag of a block is filled, and then changes the blocks only. -/
theorem TagLine.skips {name : String} (line : TagLine name) (instruction : Instruction)
    (block : name ∈ Tag.blockNames) (named : Instruction.ofName? name = some instruction)
    (executed : ∀ (s : Session) (tag : Tag),
      s.execute role.isMain instruction tag = .ok (.ofSession s))
    (obeyed : ∀ arguments,
      blocks.obey s.freshNames instruction arguments = .ok (next, s.freshNames)) :
    role.Skips start s blocks [line.raw] next := by
  obtain ⟨_, wrote⟩ := line.wrote
  have other : name ≠ "line" := by
    rintro rfl
    exact absurd block (by decide)
  cases fills : role.fill s (Line.tidy line.raw) with
  | error error =>
    right
    refine ⟨[], line.raw, [], blocks, error, rfl, .nil blocks, ⟨0, rfl⟩, ?_, fills⟩
    exact line.isBlockTag block
  | ok filled =>
    left
    constructor
    · simp [Role.passesOver, fills, Except.isOk, Except.toBool]
    · apply Role.Discards.singleton _ (.inr rfl)
      -- what is put in leaves the tag, so that it is read again as a tag of the same name
      obtain ⟨arguments, -, read⟩ := (wrote.fill fills).read_line other
      unfold Role.plan
      simp [line.isBlockTag block, fills, Role.obeyLine, read, Role.obey, named, obeyed, executed,
        Outcome.ofSession, Flow.verdict, Plan.carryOut, Effect.perform]

/-! ## Trees -/

mutual

/-- An item among skipped lines, which leaves the blocks as they were. -/
theorem Item.skips :
    ∀ (item : Item) (blocks : Blocks), blocks.isSkipping = true →
      role.Skips start s blocks item.flatten blocks
  | .plain line, blocks, skipping => line.skips skipping
  | .block opening body closing, blocks, skipping => by
    have opens : role.Skips start s blocks [opening.raw] blocks.enterInert :=
      opening.skips .case (by decide) (by decide) (fun _ _ => rfl) fun _ => if_pos skipping
    have inside : role.Skips start s blocks.enterInert body.flatten blocks.enterInert :=
      Body.skips body blocks.frames
    have closes : role.Skips start s blocks.enterInert [closing.raw] blocks :=
      closing.skips .caseEnd (by decide) (by decide) (fun _ _ => rfl) fun _ => rfl
    exact opens.append ⟨1, rfl⟩ (inside.append ⟨0, rfl⟩ closes)

/-- What stands in an inert block. No tag in it lets lines in. -/
theorem Body.skips :
    ∀ (body : Body) (outer : List Frame),
      role.Skips start s ⟨.inert :: outer⟩ body.flatten ⟨.inert :: outer⟩
  | .nil, outer => .inl ⟨rfl, .nil _⟩
  | .item item rest, outer =>
    (Item.skips item ⟨.inert :: outer⟩ rfl).append ⟨0, rfl⟩ (Body.skips rest outer)
  | .orCase line rest, outer => by
    have stays : role.Skips start s ⟨.inert :: outer⟩ [line.raw] ⟨.inert :: outer⟩ :=
      line.skips .orCase (by decide) (by decide) (fun _ _ => rfl) fun arguments => by
        rw [Blocks.obey, Blocks.tryOrCase_inert]
        rfl
    exact stays.append ⟨0, rfl⟩ (Body.skips rest outer)
  | .caseElse line rest, outer => by
    have stays : role.Skips start s ⟨.inert :: outer⟩ [line.raw] ⟨.inert :: outer⟩ :=
      line.skips .caseElse (by decide) (by decide) (fun _ _ => rfl) fun _ => rfl
    exact stays.append ⟨0, rfl⟩ (Body.skips rest outer)

end

/-! ## The whole block -/

/-- Whatever stands in a block among skipped lines, the block is discarded, by a line-by-line
account for any session and by a frame of a reader that nothing holds. The exception is a parameter
without a value in one of its tags: there a reusable script fails, with the session as it was, in
inert blocks. -/
theorem skipped_block_is_discarded_unless_unfilled (role : Role) (start : Starter) (s : Session)
    (blocks : Blocks) (opening : TagLine "case") (body : Body) (closing : TagLine "case_end")
    (skipping : blocks.isSkipping = true) :
    let lines := (Item.block opening body closing).flatten
    (role.isMain = true → lines.all (role.passesOver s) = true) ∧
      (lines.all (role.passesOver s) = true →
        role.Discards start s blocks lines blocks ∧
          ∀ t more, role.begin? start t = some s →
            Reader.step { role, lines := lines ++ more, blocks } start t =
              role.readLines start more blocks s) ∧
      (lines.all (role.passesOver s) = false →
        ∃ front raw back within depth name parameters parameter, lines = front ++ raw :: back ∧
          role.Discards start s blocks front within ∧
          within.frames = List.replicate depth .inert ++ blocks.frames ∧
          role = .background name parameters ∧ parameters.bind (·.get? parameter) = none ∧
          (role.plan within s raw).carryOut start =
            ⟨s, within, .fail (.story (.unboundParameter name parameter))⟩ ∧
          ∀ t more, role.begin? start t = some s →
            Reader.step { role, lines := lines ++ more, blocks } start t =
              { reader := { role, lines := back ++ more, blocks := within }
                session := s
                failure := some (.story (.unboundParameter name parameter)) }) := by
  intro lines
  have skips : role.Skips start s blocks lines blocks := Item.skips _ blocks skipping
  refine ⟨fun main => ?_, fun filled => ?_, fun unfilled => ?_⟩
  · obtain ⟨filled, -⟩ | ⟨front, raw, back, within, error, -, stumbles⟩ := skips
    · exact filled
    · obtain ⟨name, parameters, -, rfl, -⟩ := Role.exists_of_fill_eq_error stumbles.unfilled
      cases main
  · obtain ⟨-, discards⟩ | ⟨front, raw, back, within, error, split, stumbles⟩ := skips
    · exact ⟨discards, fun t more begins => discards.step begins more⟩
    · rw [split] at filled
      simp [stumbles.not_passesOver] at filled
  · obtain ⟨filled, -⟩ | ⟨front, raw, back, within, error, split, stumbles⟩ := skips
    · rw [filled] at unfilled
      cases unfilled
    · obtain ⟨depth, inert⟩ := stumbles.inert
      obtain ⟨name, parameters, parameter, hrole, unbound, rfl⟩ :=
        Role.exists_of_fill_eq_error stumbles.unfilled
      refine ⟨front, raw, back, within, depth, name, parameters, parameter, split,
        stumbles.discards, inert, hrole, unbound, stumbles.carryOut, fun t more begins => ?_⟩
      rw [split, List.append_assoc, List.cons_append]
      exact stumbles.step begins (back ++ more)

end skipped

/-- What stands in a block that has little in order: a parameter without a value, a name without a
meaning, a second condition that is incomplete, and a block without a condition. -/
def noisyBody : Body :=
  .item (.plain ⟨"  <play_sound: (@tone)>", by decide +kernel⟩)
    (.item (.plain ⟨"  <fly: away>", by decide +kernel⟩)
      (.orCase ⟨"  <or_case: ($mood)>", by decide +kernel⟩
        (.item (.block ⟨"  <case>", by decide +kernel⟩ .nil ⟨"  <case_end>", by decide +kernel⟩)
          (.caseElse ⟨"  <case_else>", by decide +kernel⟩ .nil))))

/-- A reusable script without parameters discards the block, whose condition has no operator. -/
theorem noisy_block_is_discarded :
    let role : Role := .background "bell" none
    let blocks : Blocks := ⟨[.skipping none]⟩
    let lines := "<case: 1, frowns>" :: (noisyBody.flatten ++ ["<case_end>"])
    blocks.isSkipping = true ∧ lines.all (role.passesOver (.fresh {} {})) = true ∧
      Reader.step { role, lines := lines ++ ["<case_else>"], blocks } Session.start (.fresh {} {}) =
        role.readLines Session.start ["<case_else>"] blocks (.fresh {} {}) := by
  intro role blocks lines
  have filled : lines.all (role.passesOver (.fresh {} {})) = true := by decide +kernel
  obtain ⟨-, discarded, -⟩ :=
    skipped_block_is_discarded_unless_unfilled role Session.start (.fresh {} {}) blocks
      ⟨"<case: 1, frowns>", by decide +kernel⟩ noisyBody ⟨"<case_end>", by decide +kernel⟩ rfl
  exact ⟨rfl, filled, (discarded filled).2 _ _ rfl⟩

/-- A story whose script skips a block, in which the tag of another block lacks a parameter. -/
def muffled : Story where
  startup := some ⟨"dawn", "street"⟩
  chapters := .ofEntries [("dawn", { scenes := .ofEntries [("street", "<call:bell>")] })]
  reusables := .ofEntries [("bell",
    "<case:1,is,2>\n<case:(@tone),is,low>\n<case_end>\n<case_end>\n<play_sound:ding>")]

/-- The block that is skipped fails its script, and with it the frame. -/
theorem muffled_block_fails :
    let lines := ["<case:(@tone),is,low>", "<case_end>"]
    let engine : Engine :=
      .opening muffled {} ⟨"dawn", "street"⟩
    (∃ opening closing, (Item.block opening .nil closing).flatten = lines) ∧
      ((Role.background "bell" none).readLines Session.start lines ⟨[.skipping none]⟩
        (.fresh muffled {})).failure = some (.story (.unboundParameter "bell" "tone")) ∧
      Engine.create muffled {} = .ok engine ∧
      (engine.tick none).1 = .error (.story (.unboundParameter "bell" "tone")) := by
  refine ⟨⟨⟨_, ?_⟩, ⟨_, ?_⟩, rfl⟩, ?_⟩
  all_goals decide +kernel

end VisualNovel

import VisualNovel.Proofs.CaseTrees
import VisualNovel.Proofs.TagText

/-!
# Reading blocks flat

The lines of a tree are read one by one, with a stack of frames; this is the same as running the
tree. The proof goes from lines to trees:

* a plain line does in a reader what it does on its own, and nothing where lines are passed over;
* a tag of a block changes the innermost frame as the tree changes the state of its block. It is
  known as a tag before anything is put in, and stays one then (`Tag.Wrote.fill`);
* where lines are passed over, an item changes nothing (`Item.through_of_skipping`);
* an item that is run is run flat (`Item.through_flatten`).

The last two are inductions over trees. What carries them through is that a look at what holds the
script is repeated in vain: the tags of an ignored block look too, but a look has been made when the
block around them was opened, and a second one changes nothing (`Role.goOn?_goOn?`).
-/

namespace VisualNovel

section flat

variable {role : Role} {start : Starter}

/-- A reader that gets through some lines goes on with the lines behind them. -/
theorem Role.readLines_of_through {lines : List String} {blocks blocks' : Blocks} {s t : Session}
    (h : role.through start lines blocks s = some (blocks', t)) (more : List String) :
    role.readLines start (lines ++ more) blocks s = role.readLines start more blocks' t := by
  -- By induction on the lines: one that is passed lets the reader go on with the others.
  induction lines generalizing blocks s with
  | nil =>
    cases h
    rfl
  | cons raw lines ih =>
    rw [Role.through, Option.bind_eq_bind, Option.bind_eq_some_iff] at h
    obtain ⟨⟨blocks₁, s₁⟩, hpass, hrest⟩ := h
    rw [List.cons_append, Role.readLines]
    unfold Role.pass? at hpass
    dsimp only at hpass
    split at hpass
    · cases hpass
    · cases hverdict : ((role.plan blocks s raw).carryOut start).verdict with
      | onward =>
        simp only [hverdict] at hpass ⊢
        cases hpass
        exact ih hrest
      | look =>
        simp only [hverdict] at hpass ⊢
        unfold Role.goOn? at hpass
        rcases hlook : role.lookUp ((role.plan blocks s raw).carryOut start).session
          with ⟨_ | _, looked⟩
        · rw [hlook] at hpass
          cases hpass
          exact ih hrest
        · rw [hlook] at hpass
          cases hpass
      | finish =>
        simp only [hverdict] at hpass
        cases hpass
      | fail failure =>
        simp only [hverdict] at hpass
        cases hpass

/-- Lines are read one part after the other. -/
theorem Role.through_append (front back : List String) (blocks : Blocks) (s : Session) :
    role.through start (front ++ back) blocks s =
      (role.through start front blocks s).bind fun (blocks, s) =>
        role.through start back blocks s := by
  induction front generalizing blocks s with
  | nil => rfl
  | cons raw front ih =>
    simp only [List.cons_append, Role.through, Option.bind_eq_bind, Option.bind_assoc]
    congr 1
    funext ⟨blocks, s⟩
    exact ih blocks s

/-- A session that nothing holds has nothing to wait for, and a second look finds it as it is. -/
theorem Session.heldBy_heldBy {s t : Session} (h : s.heldBy = (none, t)) :
    t.heldBy = (none, t) := by
  unfold Session.heldBy at h
  dsimp only at h
  split_ifs at h with hdialog hhalt hauto hrest hwaits hmanual <;> cases h
  have hempty : s.waits.holding s.stage = [] := by simpa using hwaits
  have hnothing : WaitRules.holding [] s.stage = [] := rfl
  simp [Session.heldBy, hdialog, hhalt, hrest, hmanual, hempty, hnothing]

/-- A script goes on exactly if a look does not show it held. -/
theorem Role.goOn?_eq_some {s t : Session} :
    role.goOn? s = some t ↔ role.lookUp s = (false, t) := by
  unfold Role.goOn?
  rcases role.lookUp s with ⟨_ | _, looked⟩ <;> simp

/-- A look that lets the script go on leaves nothing for the next look. -/
theorem Role.goOn?_goOn? {s t : Session} (h : role.goOn? s = some t) : role.goOn? t = some t := by
  cases role with
  | background name parameters =>
    cases h
    rfl
  | main scene =>
    have hlook : s.isHeld = (false, t) := Role.goOn?_eq_some.1 h
    have held : s.heldBy = (none, t) := by
      unfold Session.isHeld at hlook
      rcases hheld : s.heldBy with ⟨_ | reason, looked⟩
      · rw [hheld] at hlook
        cases hlook
        rfl
      · rw [hheld] at hlook
        cases hlook
    rw [Role.goOn?_eq_some]
    show t.isHeld = (false, t)
    rw [Session.isHeld, Session.heldBy_heldBy held]
    rfl

/-! ### Plain lines -/

/-- Only the tags of blocks stand for instructions that change blocks. -/
theorem Instruction.mem_blockNames {name : String} {instruction : Instruction}
    (h : Instruction.ofName? name = some instruction)
    (hblock : instruction ∈ [.case, .orCase, .caseElse, .caseEnd]) : name ∈ Tag.blockNames := by
  unfold Instruction.ofName? at h
  split at h
  · next found hfound =>
    cases h
    obtain ⟨front, back, hnames, -⟩ := List.lookup_eq_some_iff.1 hfound
    have hmem : (name, instruction) ∈ Instruction.names := by simp [hnames]
    have table : ∀ entry ∈ Instruction.names,
        entry.2 ∈ [.case, .orCase, .caseElse, .caseEnd] → entry.1 ∈ Tag.blockNames := by decide
    exact table _ hmem hblock
  · obtain ⟨group, -, haction⟩ := List.exists_of_findSome?_eq_some h
    unfold Instruction.actionOf? at haction
    simp only [Option.bind_eq_bind, Option.bind_eq_some_iff] at haction
    obtain ⟨_, -, action, -, hinstruction⟩ := haction
    cases hinstruction
    simp at hblock

/-- All others leave them. -/
theorem Blocks.obey_of_not_block {name : String} {instruction : Instruction}
    (hname : name ∉ Tag.blockNames) (h : Instruction.ofName? name = some instruction)
    (blocks : Blocks) (fresh : List String) (arguments : Option String) :
    blocks.obey fresh instruction arguments = .ok (blocks, fresh) := by
  have hother := mt (Instruction.mem_blockNames h) hname
  unfold Blocks.obey
  split
  · simp at hother
  · simp at hother
  · simp at hother
  · simp at hother
  · rfl

/-- What is a tag for the reader is read as one. -/
theorem Line.read?_of_read {line : String} {tag : Tag} (h : Line.read line = .tag tag) :
    Tag.read? line = some tag := by
  unfold Line.read at h
  split_ifs at h
  split at h
  · cases h
    assumption
  · cases h

/-- A line that is no tag of a block does the same in all blocks, and leaves them. -/
theorem Role.obeyLine_of_not_block {line : String} (h : Line.isBlockTag line = false)
    (blocks : Blocks) (s : Session) :
    role.obeyLine blocks s line = { role.obeyLine {} s line with blocks } := by
  unfold Role.obeyLine
  rcases hread : Line.read line with _ | _ | found | words
  · rfl
  · rfl
  · have hname : found.name ∉ Tag.blockNames := by
      simpa [Line.isBlockTag, Line.read?_of_read hread, Tag.isBlock] using h
    dsimp only
    unfold Role.obey
    rcases hof : Instruction.ofName? found.name with _ | instruction
    · rfl
    · simp only [Blocks.obey_of_not_block hname hof]
      cases Session.execute _ role.isMain instruction found <;> rfl
  · dsimp only
    split <;> rfl

/-- The blocks of a plan are handed on. -/
theorem Plan.carryOut_blocks (plan : Plan) (blocks : Blocks) :
    { plan with blocks }.carryOut start = { plan.carryOut start with blocks } := by
  unfold Plan.carryOut
  dsimp only
  rcases plan.effect.perform start with ⟨_, _ | _⟩ <;> rfl

/-- A plain line that is read does what it does on its own. -/
theorem Role.pass?_plain (line : PlainLine) {blocks : Blocks} (h : blocks.isSkipping = false)
    (s : Session) :
    role.pass? start blocks s line.raw = (line.run role start s).map (blocks, ·) := by
  unfold Role.pass? PlainLine.run Role.plan
  simp only [h, line.plain, Bool.not_false, Bool.true_and, Bool.false_and,
    Bool.false_eq_true, if_false]
  rcases role.fill s (Line.tidy line.raw) with error | filled
  · rfl
  · by_cases hblock : Line.isBlockTag filled = true
    · simp [Except.toOption, hblock]
    · rw [Bool.not_eq_true] at hblock
      simp only [Except.toOption, Option.any_some, hblock, Bool.false_eq_true, if_false,
        Role.obeyLine_of_not_block hblock blocks s, Plan.carryOut_blocks]
      cases ((role.obeyLine {} s filled).carryOut start).verdict <;> rfl

/-- A plain line that is passed over does nothing. -/
theorem Role.pass?_plain_of_skipping (line : PlainLine) {blocks : Blocks}
    (h : blocks.isSkipping = true) (s : Session) :
    role.pass? start blocks s line.raw = some (blocks, s) := by
  unfold Role.pass? Role.plan
  simp [h, line.plain, Plan.idle, Plan.carryOut, Effect.perform]

/-! ### Tags -/

/-- The line of a tag is the written form of one. -/
theorem TagLine.wrote {name : String} (line : TagLine name) :
    ∃ withArguments, Tag.Wrote name withArguments (Line.tidy line.raw) := by
  obtain ⟨tag, hread, rfl⟩ := Option.map_eq_some_iff.1 line.tag
  exact ⟨_, Tag.wrote_of_read? hread⟩

/-- The line of a tag of a block is never passed over unseen. -/
theorem TagLine.isBlockTag {name : String} (line : TagLine name) (hblock : name ∈ Tag.blockNames) :
    Line.isBlockTag (Line.tidy line.raw) = true := by
  obtain ⟨tag, hread, rfl⟩ := Option.map_eq_some_iff.1 line.tag
  simpa [Line.isBlockTag, hread, Tag.isBlock] using hblock

/-- A tag has its arguments exactly if everything can be put in. -/
theorem TagLine.isSome_arguments? {name : String} (line : TagLine name) (s : Session) :
    (line.arguments? role s).isSome = (role.fill s (Line.tidy line.raw)).isOk := by
  obtain ⟨_, hwrote⟩ := line.wrote
  unfold TagLine.arguments?
  rcases hfill : role.fill s (Line.tidy line.raw) with _ | filled
  · rfl
  · obtain ⟨_, -, hread⟩ := (hwrote.fill hfill).read?
    simp [hread, Except.isOk, Except.toBool]

/-- A tag of a block acts on the blocks, and on the session only by a name that is drawn. -/
theorem Role.pass?_tag {name : String} (line : TagLine name) (instruction : Instruction)
    (hblock : name ∈ Tag.blockNames) (hname : Instruction.ofName? name = some instruction)
    (hexecute : ∀ (s : Session) (tag : Tag),
      s.execute role.isMain instruction tag = .ok (.ofSession s))
    (blocks : Blocks) (s : Session) :
    role.pass? start blocks s line.raw = do
      let arguments ← line.arguments? role s
      let (blocks, freshNames) ← (blocks.obey s.freshNames instruction arguments).toOption
      let s ← role.goOn? { s with freshNames }
      return (blocks, s) := by
  obtain ⟨_, hwrote⟩ := line.wrote
  have hline : name ≠ "line" := by
    rintro rfl
    exact absurd hblock (by decide)
  unfold Role.pass? TagLine.arguments? Role.plan
  simp only [line.isBlockTag hblock, Bool.not_true, Bool.and_false, Bool.false_and,
    Bool.false_eq_true, if_false]
  rcases hfill : role.fill s (Line.tidy line.raw) with error | filled
  · rfl
  · -- What is put in leaves the tag, so that it is read again as a tag of the same name.
    obtain ⟨arguments, -, hread⟩ := (hwrote.fill hfill).read_line hline
    simp only [Line.read?_of_read hread, Role.obeyLine, hread, Role.obey, hname, Option.map_some,
      Option.bind_eq_bind, Option.bind_some]
    rcases blocks.obey s.freshNames instruction arguments with crash | ⟨blocks', freshNames⟩
    · rfl
    · simp only [hexecute, Outcome.ofSession, Flow.verdict, Plan.carryOut, Effect.perform,
        Except.toOption, Option.bind_some]
      cases role.goOn? { s with freshNames } <;> rfl

/-- A tag that opens a block. -/
theorem Role.pass?_case (line : TagLine "case") (blocks : Blocks) (s : Session) :
    role.pass? start blocks s line.raw = do
      let arguments ← line.arguments? role s
      let (blocks, freshNames) ← (blocks.openCase s.freshNames arguments).toOption
      let s ← role.goOn? { s with freshNames }
      return (blocks, s) :=
  Role.pass?_tag line .case (by decide) (by decide) (fun _ _ => rfl) blocks s

/-- A tag with another condition. -/
theorem Role.pass?_orCase (line : TagLine "or_case") (blocks : Blocks) (s : Session) :
    role.pass? start blocks s line.raw = do
      let arguments ← line.arguments? role s
      let blocks ← (blocks.tryOrCase arguments).toOption
      let s ← role.goOn? s
      return (blocks, s) := by
  rw [Role.pass?_tag line .orCase (by decide) (by decide) (fun _ _ => rfl) blocks s]
  congr 1
  funext arguments
  simp only [Blocks.obey]
  cases blocks.tryOrCase arguments <;> rfl

/-- A tag that turns a block round. -/
theorem Role.pass?_caseElse (line : TagLine "case_else") (blocks : Blocks) (s : Session) :
    role.pass? start blocks s line.raw = do
      let _ ← line.arguments? role s
      let s ← role.goOn? s
      return (blocks.turnRound, s) :=
  Role.pass?_tag line .caseElse (by decide) (by decide) (fun _ _ => rfl) blocks s

/-- A tag that closes a block. -/
theorem Role.pass?_caseEnd (line : TagLine "case_end") (blocks : Blocks) (s : Session) :
    role.pass? start blocks s line.raw = do
      let _ ← line.arguments? role s
      let s ← role.goOn? s
      return (blocks.leave, s) :=
  Role.pass?_tag line .caseEnd (by decide) (by decide) (fun _ _ => rfl) blocks s

/-! ### Ignored items -/

/-- The result of lines that are passed over: the blocks and the session as they were, unless a tag
among the lines cannot be filled. -/
def Role.ignore? (role : Role) (lines : List String) (blocks : Blocks) (session : Session) :
    Option (Blocks × Session) :=
  if lines.all (role.passesOver session) then some (blocks, session) else none

/-- Ignoring a line is going on with the next one, unless it cannot be filled. -/
theorem Role.ignore?_cons (raw : String) (lines : List String) (blocks : Blocks) (s : Session) :
    role.ignore? (raw :: lines) blocks s =
      if role.passesOver s raw then role.ignore? lines blocks s else none := by
  unfold Role.ignore?
  rw [List.all_cons]
  cases role.passesOver s raw <;> rfl

/-- Lines are ignored one part after the other. -/
theorem Role.ignore?_append (front back : List String) (blocks : Blocks) (s : Session) :
    role.ignore? (front ++ back) blocks s =
      (role.ignore? front blocks s).bind fun (blocks, s) => role.ignore? back blocks s := by
  unfold Role.ignore?
  rw [List.all_append]
  cases front.all (role.passesOver s) <;> rfl

/-- The tag of a block is passed over exactly if it has its arguments. -/
theorem TagLine.passesOver_eq {name : String} (line : TagLine name) (hblock : name ∈ Tag.blockNames)
    (s : Session) : role.passesOver s line.raw = (line.arguments? role s).isSome := by
  rw [Role.passesOver, line.isBlockTag hblock, line.isSome_arguments?]
  rfl

/-- No condition lets lines into an inert block. -/
theorem Blocks.tryOrCase_inert (outer : List Frame) (arguments : Option String) :
    Blocks.tryOrCase ⟨.inert :: outer⟩ arguments = .ok ⟨.inert :: outer⟩ := by
  unfold Blocks.tryOrCase
  split <;> rfl

section quiet

variable {s : Session} (quiet : role.goOn? s = some s)

include quiet

/-- A block in a passage that is skipped is not read, and its condition does not matter. -/
theorem Role.pass?_case_of_skipping (line : TagLine "case") {blocks : Blocks}
    (h : blocks.isSkipping = true) :
    role.pass? start blocks s line.raw =
      if role.passesOver s line.raw then some (blocks.enterInert, s) else none := by
  rw [Role.pass?_case, line.passesOver_eq (by decide)]
  cases line.arguments? role s with
  | none => rfl
  | some arguments =>
    simp [Blocks.openCase, h, Except.toOption, quiet]

/-- An alternative of a block that is not read changes nothing. -/
theorem Role.pass?_orCase_of_inert (line : TagLine "or_case") (outer : List Frame) :
    role.pass? start ⟨.inert :: outer⟩ s line.raw =
      if role.passesOver s line.raw then some (⟨.inert :: outer⟩, s) else none := by
  rw [Role.pass?_orCase, line.passesOver_eq (by decide)]
  cases line.arguments? role s with
  | none => rfl
  | some arguments =>
    simp [Blocks.tryOrCase_inert, Except.toOption, quiet]

/-- The default of a block turns it round. -/
theorem Role.pass?_caseElse_of_quiet (line : TagLine "case_else") (blocks : Blocks) :
    role.pass? start blocks s line.raw =
      if role.passesOver s line.raw then some (blocks.turnRound, s) else none := by
  rw [Role.pass?_caseElse, line.passesOver_eq (by decide)]
  cases line.arguments? role s with
  | none => rfl
  | some arguments => simp [quiet]

/-- The end of a block leaves it. -/
theorem Role.pass?_caseEnd_of_quiet (line : TagLine "case_end") (blocks : Blocks) :
    role.pass? start blocks s line.raw =
      if role.passesOver s line.raw then some (blocks.leave, s) else none := by
  rw [Role.pass?_caseEnd, line.passesOver_eq (by decide)]
  cases line.arguments? role s with
  | none => rfl
  | some arguments => simp [quiet]

mutual

/-- Where lines are passed over, an item does nothing, and a block is closed as it was opened. -/
theorem Item.through_of_skipping :
    ∀ (item : Item) (blocks : Blocks), blocks.isSkipping = true →
      role.through start item.flatten blocks s = role.ignore? item.flatten blocks s
  | .plain line, blocks, h => by
    have hline : role.passesOver s line.raw = true := by simp [Role.passesOver, line.plain]
    simp [Item.flatten, Role.through, Role.pass?_plain_of_skipping line h, Role.ignore?, hline]
  | .block opening body closing, blocks, h => by
    have ih := Body.through_of_inert body blocks.frames
    simp only [Item.flatten, Role.through, Role.ignore?_cons,
      Role.pass?_case_of_skipping quiet opening h]
    by_cases hopening : role.passesOver s opening.raw = true
    · rw [if_pos hopening, if_pos hopening]
      show role.through start (body.flatten ++ [closing.raw]) ⟨.inert :: blocks.frames⟩ s = _
      rw [Role.through_append, ih, Role.ignore?_append]
      unfold Role.ignore?
      by_cases hbody : body.flatten.all (role.passesOver s) = true
      · simp only [hbody, if_true, Option.bind_some, Role.through,
          Role.pass?_caseEnd_of_quiet quiet]
        cases hclosing : role.passesOver s closing.raw <;> simp [hclosing, Blocks.leave]
      · simp [hbody]
    · rw [if_neg hopening, if_neg hopening]
      rfl

/-- In a block that is inert, nothing lets lines in. -/
theorem Body.through_of_inert :
    ∀ (body : Body) (outer : List Frame),
      role.through start body.flatten ⟨.inert :: outer⟩ s =
        role.ignore? body.flatten ⟨.inert :: outer⟩ s
  | .nil, outer => rfl
  | .item item rest, outer => by
    have hitem := Item.through_of_skipping item ⟨.inert :: outer⟩ rfl
    have ih := Body.through_of_inert rest outer
    rw [Body.flatten, Role.through_append, hitem, Role.ignore?_append]
    by_cases hfront : item.flatten.all (role.passesOver s) = true
    · have ignored : role.ignore? item.flatten ⟨.inert :: outer⟩ s = some (⟨.inert :: outer⟩, s) :=
        if_pos hfront
      rw [ignored]
      exact ih
    · have stuck : role.ignore? item.flatten ⟨.inert :: outer⟩ s = none := if_neg hfront
      rw [stuck]
      rfl
  | .orCase line rest, outer => by
    have ih := Body.through_of_inert rest outer
    rw [Body.flatten, Role.through, Role.pass?_orCase_of_inert quiet line outer, Role.ignore?_cons]
    split
    · exact ih
    · rfl
  | .caseElse line rest, outer => by
    have ih := Body.through_of_inert rest outer
    rw [Body.flatten, Role.through, Role.pass?_caseElse_of_quiet quiet line, Role.ignore?_cons]
    split
    · exact ih
    · rfl

end

end quiet

/-! ### Items that are run -/

/-- The frame of a block in a state. -/
def Mode.frame : Mode → Frame
  | .passing => .passing
  | .skipping name => .skipping name

/-- Another condition changes the innermost frame as it changes the state of the block. -/
theorem Blocks.tryOrCase_frame (mode : Mode) (outer : List Frame) (arguments : Option String) :
    Blocks.tryOrCase ⟨mode.frame :: outer⟩ arguments =
      (mode.orCase arguments).map fun mode => ⟨mode.frame :: outer⟩ := by
  unfold Blocks.tryOrCase Mode.orCase
  rcases Shape.orCondition.decode? arguments with _ | ⟨wanted, a, operator, b, ⟨⟩⟩
  · cases mode <;> rfl
  · cases mode with
    | passing => rfl
    | skipping name =>
      by_cases hname : name = some wanted
      · subst hname
        have hawaits : Blocks.awaits ⟨(Mode.skipping (some wanted)).frame :: outer⟩ wanted =
            true := by
          simp [Blocks.awaits, Blocks.skippingName?, Mode.frame]
        simp only [hawaits, if_true, Blocks.orCase, Bool.true_and]
        rcases Operator.holds a operator b with _ | _ | _ <;> rfl
      · have hawaits : Blocks.awaits ⟨(Mode.skipping name).frame :: outer⟩ wanted = false := by
          simpa [Blocks.awaits, Blocks.skippingName?, Mode.frame] using hname
        simp only [hawaits, hname, Bool.false_eq_true, if_false]
        rfl

/-- A turn changes the innermost frame as it changes the state of the block. -/
theorem Blocks.turnRound_frame (mode : Mode) (outer : List Frame) :
    Blocks.turnRound ⟨mode.frame :: outer⟩ = ⟨mode.caseElse.frame :: outer⟩ := by
  cases mode <;> rfl

/-- A block that is opened among lines that are read gets the frame of its state. -/
theorem Role.pass?_case_of_reading (line : TagLine "case") {blocks : Blocks}
    (h : blocks.isSkipping = false) (s : Session) :
    role.pass? start blocks s line.raw =
      (line.open? role s).map fun (mode, s) => (⟨mode.frame :: blocks.frames⟩, s) := by
  rw [Role.pass?_case]
  unfold TagLine.open?
  cases line.arguments? role s with
  | none => rfl
  | some arguments =>
    simp only [Option.bind_eq_bind, Option.bind_some, Blocks.openCase, h,
      Bool.false_eq_true, if_false]
    rcases Blocks.judge s.freshNames arguments with crash | ⟨passed, name, freshNames⟩
    · rfl
    · simp only [bind, Except.bind, pure, Except.pure, Except.toOption, Option.bind_some]
      cases role.goOn? { s with freshNames } with
      | none => rfl
      | some t => cases passed <;> rfl

/-- A block is opened with a look, which leaves nothing for the next one. -/
theorem TagLine.goOn?_of_open? {line : TagLine "case"} {mode : Mode} {s t : Session}
    (h : line.open? role s = some (mode, t)) : role.goOn? t = some t := by
  unfold TagLine.open? at h
  simp only [Option.bind_eq_bind, Option.bind_eq_some_iff] at h
  obtain ⟨_, -, _, -, looked, hlook, hresult⟩ := h
  cases hresult
  exact Role.goOn?_goOn? hlook

mutual

/-- An item that is run. -/
theorem Item.through_flatten :
    ∀ (item : Item) (blocks : Blocks), blocks.isSkipping = false → ∀ s : Session,
      role.through start item.flatten blocks s = (item.run role start s).map (blocks, ·)
  | .plain line, blocks, h, s => by
    simp only [Item.flatten, Role.through, Role.pass?_plain line h, Item.run]
    cases line.run role start s <;> rfl
  | .block opening body closing, blocks, h, s => by
    simp only [Item.flatten, Role.through, Role.pass?_case_of_reading opening h, Item.run]
    rcases hopen : opening.open? role s with _ | ⟨mode, t⟩
    · rfl
    · have ih := Body.through_flatten body mode blocks.frames t
        (.inr (TagLine.goOn?_of_open? hopen))
      show role.through start (body.flatten ++ [closing.raw]) ⟨mode.frame :: blocks.frames⟩ t = _
      rw [Role.through_append, ih]
      simp only [Option.bind_eq_bind, Option.bind_some]
      rcases body.run role start mode t with _ | ⟨mode', u⟩
      · rfl
      · simp only [Option.map_some, Option.bind_some, Role.through, Role.pass?_caseEnd]
        cases closing.arguments? role u with
        | none => rfl
        | some _ =>
          simp only [Option.bind_eq_bind, Option.bind_some]
          cases role.goOn? u <;> rfl

/-- The body of a block. A look in a state that skips must leave the session as it is, since the
tags of ignored blocks look too. -/
theorem Body.through_flatten :
    ∀ (body : Body) (mode : Mode) (outer : List Frame) (s : Session),
      mode = .passing ∨ role.goOn? s = some s →
      role.through start body.flatten ⟨mode.frame :: outer⟩ s =
        (body.run role start mode s).map fun (mode, s) => (⟨mode.frame :: outer⟩, s)
  | .nil, mode, outer, s, _ => rfl
  | .item item rest, .passing, outer, s, _ => by
    have hitem := Item.through_flatten item ⟨.passing :: outer⟩ rfl s
    simp only [Body.flatten, Role.through_append, Mode.frame, hitem, Body.run]
    cases item.run role start s with
    | none => rfl
    | some t => exact Body.through_flatten rest .passing outer t (.inl rfl)
  -- The items of a passage that is skipped are not carried out, whatever they are.
  | .item item rest, .skipping name, outer, s, quiet => by
    have hquiet : role.goOn? s = some s := quiet.resolve_left (by simp)
    have hitem : role.through start item.flatten ⟨.skipping name :: outer⟩ s = _ :=
      Item.through_of_skipping hquiet item ⟨.skipping name :: outer⟩ rfl
    have ih := Body.through_flatten rest (.skipping name) outer s quiet
    simp only [Body.flatten, Role.through_append, Mode.frame, hitem, Body.run, Role.ignore?]
    split
    · exact ih
    · rfl
  | .orCase line rest, mode, outer, s, _ => by
    simp only [Body.flatten, Role.through, Role.pass?_orCase, Blocks.tryOrCase_frame, Body.run]
    cases line.arguments? role s with
    | none => rfl
    | some arguments =>
      simp only [Option.bind_eq_bind, Option.bind_some]
      rcases mode.orCase arguments with _ | mode'
      · rfl
      · simp only [Except.map, Except.toOption, Option.bind_some]
        rcases hlook : role.goOn? s with _ | t
        · rfl
        · exact Body.through_flatten rest mode' outer t (.inr (Role.goOn?_goOn? hlook))
  | .caseElse line rest, mode, outer, s, _ => by
    simp only [Body.flatten, Role.through, Role.pass?_caseElse, Blocks.turnRound_frame, Body.run]
    cases line.arguments? role s with
    | none => rfl
    | some arguments =>
      simp only [Option.bind_eq_bind, Option.bind_some]
      rcases hlook : role.goOn? s with _ | t
      · rfl
      · exact Body.through_flatten rest mode.caseElse outer t (.inr (Role.goOn?_goOn? hlook))

end

/-! ## Sequences of items -/

/-- Items that are run one after another. -/
theorem Item.through_runAll (items : List Item) {blocks : Blocks} (h : blocks.isSkipping = false)
    (s : Session) :
    role.through start (items.flatMap Item.flatten) blocks s =
      (Item.runAll role start items s).map (blocks, ·) := by
  induction items generalizing s with
  | nil => rfl
  | cons item items ih =>
    simp only [List.flatMap_cons, Role.through_append, Item.through_flatten item blocks h,
      Item.runAll]
    cases item.run role start s with
    | none => rfl
    | some t => exact ih t

/-- Items that are ignored one after another. -/
theorem Item.through_ignore? (items : List Item) {blocks : Blocks} (h : blocks.isSkipping = true)
    {s : Session} (quiet : role.goOn? s = some s) :
    role.through start (items.flatMap Item.flatten) blocks s =
      role.ignore? (items.flatMap Item.flatten) blocks s := by
  induction items with
  | nil => rfl
  | cons item items ih =>
    rw [List.flatMap_cons, Role.through_append, Item.through_of_skipping quiet item blocks h,
      Role.ignore?_append]
    unfold Role.ignore? at ih ⊢
    by_cases hitem : item.flatten.all (role.passesOver s) = true
    · simpa only [hitem, if_true, Option.bind_some] using ih
    · simp [hitem]

/-- Reading the lines of items flat is running the items, and leaves the blocks as they were. -/
theorem Item.through_runIn (items : List Item) (blocks : Blocks) {s : Session}
    (quiet : role.goOn? s = some s) :
    role.through start (items.flatMap Item.flatten) blocks s =
      (Item.runIn role start blocks items s).map (blocks, ·) := by
  unfold Item.runIn
  cases h : blocks.isSkipping with
  | false => exact Item.through_runAll items h s
  | true =>
    rw [Item.through_ignore? items h quiet, Role.ignore?]
    simp only [if_true]
    split <;> rfl

/-- The reading of a frame begins after a look. -/
theorem Role.goOn?_of_begin? {s t : Session} (h : role.begin? start s = some t) :
    role.goOn? t = some t := by
  unfold Role.begin? at h
  rcases hlook : role.lookUp s with ⟨_ | _, looked⟩
  · rw [hlook] at h
    cases h
    exact Role.goOn?_goOn? (Role.goOn?_eq_some.2 hlook)
  · rw [hlook] at h
    rcases helapse : looked.elapse start with ⟨elapsed, _ | failure⟩
    · simp only [helapse] at h
      exact Role.goOn?_goOn? h
    · simp only [helapse] at h
      cases h

/-- A reader that is not held in a frame goes on with its lines. -/
theorem Reader.step_of_begin? {reader : Reader} (hfinished : reader.finished = false)
    (hloaded : reader.loaded = true) {s t : Session}
    (h : reader.role.begin? start s = some t) :
    reader.step start s = reader.proceed start t := by
  unfold Reader.step Reader.advance
  simp only [hfinished, hloaded, Bool.false_eq_true, if_false, if_true]
  unfold Role.begin? at h
  rcases hlook : reader.role.lookUp s with ⟨_ | _, looked⟩
  · rw [hlook] at h
    cases h
    rfl
  · rw [hlook] at h
    rcases helapse : looked.elapse start with ⟨elapsed, _ | failure⟩
    · simp only [helapse] at h ⊢
      rw [Role.goOn?_eq_some.1 h]
    · simp only [helapse] at h
      cases h

/-- Reading the lines of items flat refines running the items. For all items, in all open blocks:
the reader gets through their lines exactly if the items can be run to their end, with the same
session, and its blocks are then as they were. A frame of a reader in front of the items therefore
goes on behind them with that session, and is over if there is nothing behind them. -/
theorem flat_reading_refines_items (role : Role) (start : Starter) (items : List Item)
    (blocks : Blocks) {s t : Session} (hbegin : role.begin? start s = some t) :
    role.through start (items.flatMap Item.flatten) blocks t =
        (Item.runIn role start blocks items t).map (blocks, ·) ∧
      ∀ u, Item.runIn role start blocks items t = some u →
        Reader.step { role, lines := items.flatMap Item.flatten, blocks } start s =
            { reader := { role, lines := [], blocks, finished := true }, session := u } ∧
          ∀ more,
            Reader.step { role, lines := items.flatMap Item.flatten ++ more, blocks } start s =
              role.readLines start more blocks u := by
  have agrees : role.through start (items.flatMap Item.flatten) blocks t =
      (Item.runIn role start blocks items t).map (blocks, ·) :=
    Item.through_runIn items blocks (Role.goOn?_of_begin? hbegin)
  refine ⟨agrees, fun u hrun => ?_⟩
  rw [hrun] at agrees
  have behind (more : List String) :
      Reader.step { role, lines := items.flatMap Item.flatten ++ more, blocks } start s =
        role.readLines start more blocks u := by
    rw [Reader.step_of_begin? rfl rfl hbegin]
    exact Role.readLines_of_through agrees more
  refine ⟨?_, behind⟩
  rw [← List.append_nil (items.flatMap Item.flatten)]
  exact behind []

end flat

/-- A score decides what is said. The block is let in by its second condition only, behind a line
and a block that are ignored. -/
def scoring : List Item :=
  [.plain ⟨"<variable_set: score, 2>", by decide +kernel⟩,
    .block ⟨"<case: ($score), more than, 3, high>", by decide +kernel⟩
      (.item (.plain ⟨"You win.", by decide +kernel⟩)
        (.item (.block ⟨"<case: 1, is, 1>", by decide +kernel⟩
            (.caseElse ⟨"<case_else>", by decide +kernel⟩ .nil) ⟨"<case_end>", by decide +kernel⟩)
          (.orCase ⟨"<or_case: high, ($score), is, 2>", by decide +kernel⟩
            (.item (.plain ⟨"Close.", by decide +kernel⟩)
              (.caseElse ⟨"<case_else>", by decide +kernel⟩
                (.item (.plain ⟨"You lose.", by decide +kernel⟩) .nil))))))
      ⟨"<case_end>", by decide +kernel⟩]

/-- The main script says one line of the three, and its blocks are those that it began with. -/
theorem scoring_read_flat :
    let role : Role := .main ⟨"dawn", "street"⟩
    let blocks : Blocks := ⟨[.passing]⟩
    ∃ session, Item.runIn role Session.start blocks scoring (.fresh {} {}) = some session ∧
      session.cues = [.dialogText "Close."] ∧
      Reader.step { role, lines := scoring.flatMap Item.flatten, blocks } Session.start
        (.fresh {} {}) =
        { reader := { role, lines := [], blocks, finished := true }, session } := by
  intro role blocks
  have hbegin : role.begin? Session.start (.fresh {} {}) = some (.fresh {} {}) := by decide +kernel
  have hcues : (Item.runIn role Session.start blocks scoring (.fresh {} {})).map (·.cues) =
      some [.dialogText "Close."] := by decide +kernel
  obtain ⟨session, hrun, hsaid⟩ := Option.map_eq_some_iff.1 hcues
  obtain ⟨-, refines⟩ := flat_reading_refines_items role Session.start scoring blocks hbegin
  exact ⟨session, hrun, hsaid, (refines session hrun).1⟩

end VisualNovel

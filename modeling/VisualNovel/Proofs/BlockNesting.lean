import VisualNovel.Proofs.CaseBlocks
import VisualNovel.Proofs.PlainLines
import VisualNovel.Proofs.Running

/-!
# How deep blocks are nested

A review counts the open blocks of a script line by line, without reading a single condition. A
reader keeps a frame for each open block, by several ways: with a condition that holds, that does
not, that cannot be read, or among lines that are passed over. The two have the same number of open
blocks after the same lines, whatever the conditions come to. So what a review says about the
balance of blocks holds of every run.

The comparison is made for one line (`Role.filter_instruction?`): the tag of a block is known as one
before anything is put in, and a line that is none has nothing put in. A reader that has taken some
lines is described by `Reader.Took`, in which the session is another one for every line, since other
scripts change it meanwhile.
-/

namespace VisualNovel

/-! ## What an instruction does to the depth -/

namespace Instruction

/-- How many blocks are open after an instruction. -/
def depthAfter (instruction : Instruction) (depth : Nat) : Nat :=
  match instruction with
  | .case => depth + 1
  | .caseEnd => depth - 1
  | _ => depth

/-- Whether the instruction belongs to a block. -/
def isBlock (instruction : Instruction) : Bool :=
  instruction ∈ [.case, .orCase, .caseElse, .caseEnd]

/-- Whether the instruction is for a block that is open. -/
def needsBlock (instruction : Instruction) : Bool :=
  instruction ∈ [.orCase, .caseElse, .caseEnd]

/-- An instruction that needs an open block is an instruction of a block. -/
theorem isBlock_of_needsBlock {instruction : Instruction} (h : instruction.needsBlock = true) :
    instruction.isBlock = true :=
  decide_eq_true (List.mem_cons_of_mem _ (of_decide_eq_true h))

/-- Only the instructions of blocks change the depth. -/
theorem depthAfter_filter (found : Option Instruction) (depth : Nat) :
    ((found.filter isBlock).map (·.depthAfter depth)).getD depth =
      (found.map (·.depthAfter depth)).getD depth := by
  cases found with
  | none => rfl
  | some instruction => cases instruction <;> rfl

end Instruction

namespace Blocks

variable {blocks blocks' : Blocks} {fresh fresh' : List String} {arguments : Option String}

/-- An alternative opens and closes no block. -/
theorem depth_orCase (blocks : Blocks) (name : String) (passed : Bool) :
    (blocks.orCase name passed).depth = blocks.depth := by
  unfold orCase
  split
  · next h =>
    obtain ⟨awaits, -⟩ := Bool.and_eq_true_iff.1 h
    obtain ⟨frames⟩ := blocks
    cases frames with
    | nil => cases awaits
    | cons frame frames => rfl
  · rfl

/-- The default opens and closes no block. -/
theorem depth_turnRound (blocks : Blocks) : blocks.turnRound.depth = blocks.depth := by
  obtain ⟨frames⟩ := blocks
  rcases frames with _ | ⟨_ | _ | _, frames⟩ <;> rfl

/-- A block is opened on every way. -/
theorem depth_of_openCase (h : blocks.openCase fresh arguments = .ok (blocks', fresh')) :
    blocks'.depth = blocks.depth + 1 := by
  unfold openCase at h
  split at h
  · cases h
    rfl
  · rcases hjudge : judge fresh arguments with crash | ⟨passed, name, left⟩
    · rw [hjudge] at h
      cases h
    · rw [hjudge] at h
      cases h
      rfl

/-- An alternative that can be read opens and closes no block. -/
theorem depth_of_tryOrCase (h : blocks.tryOrCase arguments = .ok blocks') :
    blocks'.depth = blocks.depth := by
  unfold tryOrCase at h
  split at h
  · cases h
    rfl
  · next name a operator b _ =>
    split at h
    · rcases hholds : Operator.holds a operator b with crash | passed
      · rw [hholds] at h
        cases h
      · rw [hholds] at h
        cases h
        exact blocks.depth_orCase name passed
    · cases h
      rfl

/-- What an instruction does to the depth, however its condition comes out. -/
theorem depth_of_obey {instruction : Instruction}
    (h : blocks.obey fresh instruction arguments = .ok (blocks', fresh')) :
    blocks'.depth = instruction.depthAfter blocks.depth := by
  unfold obey at h
  split at h
  · exact depth_of_openCase h
  · obtain ⟨after, hafter, hpair⟩ := map_eq_ok.1 h
    cases hpair
    exact depth_of_tryOrCase hafter
  · cases h
    exact blocks.depth_turnRound
  · cases h
    exact List.length_tail
  · next hcase _ _ hend =>
    cases h
    cases instruction <;> first | rfl | exact absurd rfl hcase | exact absurd rfl hend

end Blocks

/-! ## The instruction at a line -/

/-- The instruction that a reader carries out at a line, after everything is put in. -/
def Role.instruction? (role : Role) (blocks : Blocks) (session : Session) (raw : String) :
    Option Instruction :=
  if blocks.isSkipping && !Line.isBlockTag (Line.tidy raw) then none
  else
    match role.fill session (Line.tidy raw) with
    | .error _ => none
    | .ok filled => Review.instruction? filled

section plan

variable {role : Role} {blocks : Blocks} {s : Session}

/-- A tag that is carried out changes the depth as its instruction does. -/
theorem Role.depth_obey {tag : Tag} (ok : (role.obey blocks s tag).verdict.failure? = none) :
    (role.obey blocks s tag).blocks.depth =
      ((Instruction.ofName? tag.name).map (·.depthAfter blocks.depth)).getD blocks.depth := by
  unfold Role.obey at ok ⊢
  rcases hname : Instruction.ofName? tag.name with _ | instruction
  · rfl
  · simp only [hname] at ok ⊢
    rcases hobey : blocks.obey s.freshNames instruction tag.arguments with crash | ⟨blocks', fresh⟩
    · simp only [hobey] at ok
      cases ok
    · simp only [hobey] at ok ⊢
      rcases hexecute : Session.execute { s with freshNames := fresh } role.isMain instruction tag
        with failure | outcome
      · simp only [hexecute] at ok
        cases ok
      · exact Blocks.depth_of_obey hobey

/-- A line that is carried out changes the depth as its instruction does. -/
theorem Role.depth_obeyLine {line : String}
    (ok : (role.obeyLine blocks s line).verdict.failure? = none) :
    (role.obeyLine blocks s line).blocks.depth =
      ((Review.instruction? line).map (·.depthAfter blocks.depth)).getD blocks.depth := by
  unfold Role.obeyLine at ok ⊢
  unfold Review.instruction? Review.tag?
  rcases hread : Line.read line with _ | _ | found | words
  · rfl
  · rfl
  · rw [hread] at ok
    exact Role.depth_obey ok
  · dsimp only
    split <;> rfl

/-- The instruction at a line says how the depth changes. -/
theorem Role.depth_plan {raw : String} (ok : (role.plan blocks s raw).verdict.failure? = none) :
    (role.plan blocks s raw).blocks.depth =
      ((role.instruction? blocks s raw).map (·.depthAfter blocks.depth)).getD blocks.depth := by
  unfold Role.plan at ok ⊢
  unfold Role.instruction?
  dsimp only at ok ⊢
  by_cases skip : (blocks.isSkipping && !Line.isBlockTag (Line.tidy raw)) = true
  · simp only [skip, if_true]
    rfl
  · simp only [skip] at ok ⊢
    rcases hfill : role.fill s (Line.tidy raw) with error | filled
    · simp only [hfill] at ok
      cases ok
    · simp only [hfill] at ok ⊢
      exact Role.depth_obeyLine ok

end plan

/-! ## What can be seen before a run -/

/-- What is a tag for a review is one for the reader. -/
theorem Review.read_of_tag? {line : String} {found : Tag} (h : Review.tag? line = some found) :
    Line.read line = .tag found := by
  unfold Review.tag? at h
  split at h
  · cases h
    assumption
  · cases h

/-- A line that is no tag of a block has no instruction of one. -/
theorem Review.filter_instruction?_of_not_isBlockTag {line : String}
    (h : Line.isBlockTag line = false) :
    (Review.instruction? line).filter Instruction.isBlock = none := by
  rw [Option.filter_eq_none_iff]
  intro instruction hinstruction hblock
  obtain ⟨found, hfound, hname⟩ := Option.bind_eq_some_iff.1 hinstruction
  have hread := Review.read_of_tag? hfound
  have name_mem := Instruction.mem_blockNames hname (of_decide_eq_true hblock)
  simp [Line.isBlockTag, Line.read?_of_read hread, Tag.isBlock, name_mem] at h

/-- The tag of a block has one instruction, whatever is put into the line. -/
theorem Review.instruction?_of_isBlockTag {line : String} (h : Line.isBlockTag line = true)
    {role : Role} {s : Session} {filled : String} (hfill : role.fill s line = .ok filled) :
    Review.instruction? filled = Review.instruction? line := by
  unfold Line.isBlockTag at h
  split at h
  · next found hread =>
    have hname : found.name ≠ "line" := by
      intro hline
      simp [Tag.isBlock, Tag.blockNames, hline] at h
    have wrote := Tag.wrote_of_read? hread
    obtain ⟨arguments, -, hline⟩ := wrote.read_line hname
    obtain ⟨arguments', -, hfilled⟩ := (wrote.fill hfill).read_line hname
    simp only [Review.instruction?, Review.tag?, hline, hfilled, Option.bind_some]
  · cases h

/-- At a line that has no placeholders unless it is the tag of a block, a reader carries out the
instruction of a block that stands there before the run, and no other one. -/
theorem Role.filter_instruction? {role : Role} {blocks : Blocks} {s : Session} {raw : String}
    (plain : Line.isBlockTag (Line.tidy raw) = false → Line.hasPlaceholder (Line.tidy raw) = false)
    (fills : Line.isBlockTag (Line.tidy raw) = true →
      ∃ filled, role.fill s (Line.tidy raw) = .ok filled) :
    (role.instruction? blocks s raw).filter Instruction.isBlock =
      (Review.instruction? (Line.tidy raw)).filter Instruction.isBlock := by
  unfold Role.instruction?
  rcases hblock : Line.isBlockTag (Line.tidy raw) with _ | _
  · rw [Review.filter_instruction?_of_not_isBlockTag hblock]
    split
    · rfl
    · rw [role.fill_of_not_hasPlaceholder s (plain hblock)]
      exact Review.filter_instruction?_of_not_isBlockTag hblock
  · obtain ⟨filled, hfill⟩ := fills hblock
    simp only [Bool.not_true, Bool.and_false, Bool.false_eq_true, if_false, hfill]
    rw [Review.instruction?_of_isBlockTag hblock hfill]

/-- An instruction for an open block that a reader carries out stands at the line before the run. -/
theorem Role.instruction?_of_needsBlock {role : Role} {blocks : Blocks} {s : Session} {raw : String}
    (plain : Line.isBlockTag (Line.tidy raw) = false → Line.hasPlaceholder (Line.tidy raw) = false)
    {instruction : Instruction} (h : role.instruction? blocks s raw = some instruction)
    (needs : instruction.needsBlock = true) :
    Review.instruction? (Line.tidy raw) = some instruction := by
  have fills : ∃ filled, role.fill s (Line.tidy raw) = .ok filled := by
    unfold Role.instruction? at h
    split at h
    · cases h
    · split at h
      · cases h
      · next filled hfill => exact ⟨filled, hfill⟩
  have agree : (role.instruction? blocks s raw).filter Instruction.isBlock = _ :=
    Role.filter_instruction? plain fun _ => fills
  rw [h, Option.filter_some, if_pos (Instruction.isBlock_of_needsBlock needs)] at agree
  exact (Option.filter_eq_some_iff.1 agree.symm).1

/-! ## What a review counts -/

namespace Review

/-- The open blocks after some lines. -/
def openAfterLines (opened : List Nat) (number : Nat) (lines : List String) : List Nat :=
  (lines.zipIdx number).foldl
  (fun opened (raw, number) => openAfterLine opened number (Line.tidy raw))
    opened

/-- Without a line, the blocks that are open stay so. -/
theorem openAfterLines_nil (opened : List Nat) (number : Nat) :
    openAfterLines opened number [] = opened :=
  rfl

/-- The blocks that are open after some lines are those that the other lines leave after the first.
-/
theorem openAfterLines_cons (opened : List Nat) (number : Nat) (raw : String)
    (lines : List String) :
    openAfterLines opened number (raw :: lines) =
      openAfterLines (openAfterLine opened number (Line.tidy raw)) (number + 1) lines := by
  unfold openAfterLines
  rw [List.zipIdx_cons, List.foldl_cons]

/-- The blocks that are open after two lists of lines are those that the second leaves after the
first. -/
theorem openAfterLines_append (opened : List Nat) (number : Nat) (front back : List String) :
    openAfterLines opened number (front ++ back) =
      openAfterLines (openAfterLines opened number front) (number + front.length) back := by
  unfold openAfterLines
  rw [List.zipIdx_append, List.foldl_append]

/-- A review comes to the lines behind others with the blocks that those have left open. -/
theorem linesRemarks_append (story : Story) (kind : ScriptKind) (script : String)
    (opened : List Nat) (number : Nat) (front back : List String) :
    ∃ remarks, linesRemarks story kind script opened number (front ++ back) =
      remarks ++ linesRemarks story kind script (openAfterLines opened number front)
        (number + front.length) back := by
  induction front generalizing opened number with
  | nil => exact ⟨[], rfl⟩
  | cons raw front ih =>
    obtain ⟨remarks, hremarks⟩ := ih (openAfterLine opened number (Line.tidy raw)) (number + 1)
    have hnumber : number + (raw :: front).length = number + 1 + front.length := by
      rw [List.length_cons]
      omega
    refine ⟨lineRemarks story kind script opened number (Line.tidy raw) ++ remarks, ?_⟩
    rw [hnumber, List.append_assoc, openAfterLines_cons, ← hremarks]
    rfl

/-- So does the review of a script. -/
theorem ofScript_eq_append (story : Story) (kind : ScriptKind) (script text : String) (k : Nat) :
    ∃ remarks, ofScript story kind script text =
      remarks ++ linesRemarks story kind script (openAfterLines [] 1 ((Text.lines text).take k))
        (1 + ((Text.lines text).take k).length) ((Text.lines text).drop k) := by
  obtain ⟨remarks, hremarks⟩ :=
    linesRemarks_append story kind script [] 1 ((Text.lines text).take k)
    ((Text.lines text).drop k)
  rw [List.take_append_drop] at hremarks
  exact ⟨remarks, hremarks⟩

/-- The review has as many blocks open as the depth says. -/
theorem length_openAfter (opened : List Nat) (number : Nat) (instruction : Instruction) :
    (openAfter opened number instruction).length = instruction.depthAfter opened.length := by
  cases instruction <;> first | rfl | exact List.length_append | exact List.length_dropLast

/-- After a line, the review has as many blocks open as the depth says. -/
theorem length_openAfterLine (opened : List Nat) (number : Nat) (line : String) :
    (openAfterLine opened number line).length =
      ((instruction? line).map (·.depthAfter opened.length)).getD opened.length := by
  unfold openAfterLine
  cases instruction? line with
  | none => rfl
  | some instruction => exact length_openAfter opened number instruction

end Review

/-- One line leaves as many blocks open in a reader as in a review. -/
theorem Role.depth_plan_eq_length {role : Role} {blocks : Blocks} {s : Session} {raw : String}
    (plain : Line.isBlockTag (Line.tidy raw) = false → Line.hasPlaceholder (Line.tidy raw) = false)
    (ok : (role.plan blocks s raw).verdict.failure? = none) {opened : List Nat}
    (hdepth : blocks.depth = opened.length) (number : Nat) :
    (role.plan blocks s raw).blocks.depth =
      (Review.openAfterLine opened number (Line.tidy raw)).length := by
  have fills (hblock : Line.isBlockTag (Line.tidy raw) = true) :
      ∃ filled, role.fill s (Line.tidy raw) = .ok filled := by
    rcases hfill : role.fill s (Line.tidy raw) with error | filled
    · simp [Role.plan, hblock, hfill, Plan.idle, Verdict.failure?] at ok
    · exact ⟨filled, rfl⟩
  rw [Role.depth_plan ok, Review.length_openAfterLine, ← Instruction.depthAfter_filter,
    Role.filter_instruction? plain fills, Instruction.depthAfter_filter, hdepth]

/-! ## Readers that have taken lines -/

/-- A line that has not failed was not to fail. -/
theorem Plan.failure?_of_carryOut {plan : Plan} {start : Starter}
    (ok : (plan.carryOut start).verdict.failure? = none) : plan.verdict.failure? = none := by
  unfold Plan.carryOut at ok
  rcases hperform : plan.effect.perform start with ⟨t, _ | failure⟩
  · rwa [hperform] at ok
  · rw [hperform] at ok
    cases ok

namespace Reader

/-- A reader has taken some lines, and neither left its script nor failed. At each line the session
is any session. -/
inductive Took (start : Starter) : Nat → Reader → Reader → Prop where
  /-- No line. -/
  | none (reader : Reader) : Took start 0 reader reader
  /-- One line more. -/
  | line {k : Nat} {first : Reader} {role : Role} {raw : String} {lines : List String}
    {blocks : Blocks} (s : Session)
    (took : Took start k first { role, lines := raw :: lines, blocks })
    (goesOn : ((role.plan blocks s raw).carryOut start).verdict ∈ [.onward, .look]) :
    Took start (k + 1) first
      { role, lines, blocks := ((role.plan blocks s raw).carryOut start).blocks }

/-- How a frame ends for a reader that has taken its last line in it. -/
inductive Ends (start : Starter) (last : Reader) : Reading → Prop where
  /-- The script is held. -/
  | held (s : Session) : Ends start last { reader := last, session := s }
  /-- There are no more lines. -/
  | isOver (s : Session) (empty : last.lines = []) :
    Ends start last { reader := { last with finished := true }, session := s }
  /-- The next line leaves the script. -/
  | leaves {raw : String} {lines : List String} {progress : Progress} (s : Session)
    (next : last.lines = raw :: lines)
    (hprogress : (last.role.plan last.blocks s raw).carryOut start = progress)
    (finish : progress.verdict = .finish) :
    Ends start last
      { reader := { role := last.role, lines := [], blocks := progress.blocks, finished := true }
        session := progress.session }
  /-- Something fails. -/
  | fails {reading : Reading} (failed : reading.failure.isSome = true) : Ends start last reading

variable {start : Starter}

/-- A line that does not end the reading has not failed. -/
theorem failure?_of_goesOn {verdict : Verdict} (h : verdict ∈ [.onward, .look]) :
    verdict.failure? = none := by
  simp only [List.mem_cons, List.not_mem_nil, or_false] at h
  rcases h with rfl | rfl <;> rfl

/-- Steps add up. -/
theorem Took.trans {k j : Nat} {first second third : Reader} (h : Took start k first second)
    (h' : Took start j second third) : Took start (k + j) first third := by
  induction h' with
  | none => exact h
  | line s _ goesOn ih => exact .line s (ih h) goesOn

/-- The lines that are read in a frame are taken one after another. -/
theorem took_readLines (role : Role) (lines : List String) (blocks : Blocks) (s : Session) :
    ∃ j last, Took start j { role, lines, blocks } last ∧
      last.Ends start (role.readLines start lines blocks s) := by
  induction lines generalizing blocks s with
  | nil => exact ⟨0, _, .none _, .isOver s rfl⟩
  | cons raw lines ih =>
    have first (goesOn : ((role.plan blocks s raw).carryOut start).verdict ∈ [.onward, .look]) :=
      Took.line s (.none { role, lines := raw :: lines, blocks }) goesOn
    unfold Role.readLines
    dsimp only
    rcases hverdict : ((role.plan blocks s raw).carryOut start).verdict with _ | _ | _ | failure
    · obtain ⟨j, last, took, ends⟩ := ih _ _
      exact ⟨_, last, (first (by simp [hverdict])).trans took, ends⟩
    · dsimp only
      split
      · exact ⟨_, _, first (by simp [hverdict]), .held _⟩
      · obtain ⟨j, last, took, ends⟩ := ih _ _
        exact ⟨_, last, (first (by simp [hverdict])).trans took, ends⟩
    · exact ⟨0, _, .none _, .leaves s rfl rfl hverdict⟩
    · exact ⟨0, _, .none _, .fails rfl⟩

/-- What a reader does in a frame is to take lines. -/
theorem took_step (role : Role) (lines : List String) (blocks : Blocks) (s : Session) :
    ∃ j last, Took start j { role, lines, blocks } last ∧
      last.Ends start (step { role, lines, blocks } start s) := by
  show ∃ j last, Took start j { role, lines, blocks } last ∧
    last.Ends start (advance { role, lines, blocks } start s)
  unfold advance
  split
  · exact took_readLines role lines blocks _
  · split
    · exact ⟨0, _, .none _, .fails rfl⟩
    · split
      · exact ⟨0, _, .none _, .held _⟩
      · exact took_readLines role lines blocks _

/-- After the same lines, a reader and a review have the same number of open blocks. -/
theorem Took.nesting {k : Nat} {role : Role} {lines : List String} {reader : Reader}
    (plain : ∀ raw ∈ lines, Line.isBlockTag (Line.tidy raw) = false →
      Line.hasPlaceholder (Line.tidy raw) = false)
    (h : Took start k { role, lines } reader) :
    ∃ blocks, reader = { role, lines := lines.drop k, blocks } ∧
      blocks.depth = (Review.openAfterLines [] 1 (lines.take k)).length := by
  generalize hfirst : ({ role, lines } : Reader) = first at h
  induction h with
  | none => exact ⟨{}, by simp [← hfirst], by simp [Review.openAfterLines_nil, Blocks.depth]⟩
  | @line k _ role' raw rest blocks s _ goesOn ih =>
    obtain ⟨blocks', hreader, hdepth⟩ := ih hfirst
    obtain ⟨rfl, hrest, rfl⟩ : role' = role ∧ raw :: rest = lines.drop k ∧ blocks = blocks' := by
      simpa using hreader
    have hraw : lines[k]? = some raw := by
      have head : (lines.drop k)[0]? = some raw := by rw [← hrest]; rfl
      rwa [List.getElem?_drop, Nat.add_zero] at head
    have htake : lines.take (k + 1) = lines.take k ++ [raw] := by
      rw [List.take_add_one, hraw]
      rfl
    have hdrop : lines.drop (k + 1) = rest := by
      rw [← List.tail_drop, ← hrest]
      rfl
    refine ⟨_, by rw [hdrop], ?_⟩
    rw [htake, Review.openAfterLines_append, Review.openAfterLines_cons, Review.openAfterLines_nil,
      Plan.blocks_carryOut]
    have ok := Plan.failure?_of_carryOut (failure?_of_goesOn goesOn)
    exact Role.depth_plan_eq_length (plain raw (List.mem_of_getElem? hraw)) ok hdepth _

end Reader

/-! ## Balance -/

/-- Whether a finding says that blocks are not balanced. -/
def Finding.concernsBalance : Finding → Bool
  | .strayEnd => true
  | .strayBranch _ => true
  | .unclosedCase => true
  | _ => false

namespace Review

/-- The remarks find the blocks balanced. -/
def Balanced (remarks : List Remark) : Prop :=
  ∀ remark ∈ remarks, remark.finding.concernsBalance = false

instance (remarks : List Remark) : Decidable (Balanced remarks) :=
  inferInstanceAs (Decidable (∀ remark ∈ remarks, remark.finding.concernsBalance = false))

variable {story : Story} {kind : ScriptKind} {script : String} {opened : List Nat} {number : Nat}

/-- Where blocks are balanced, an instruction for an open block finds one. -/
theorem Balanced.ne_nil {raw : String} {lines : List String} {instruction : Instruction}
    (balanced : Balanced (linesRemarks story kind script opened number (raw :: lines)))
    (h : instruction? (Line.tidy raw) = some instruction) (needs : instruction.needsBlock = true) :
    opened ≠ [] := by
  rintro rfl
  obtain ⟨found, hfound, hname⟩ := Option.bind_eq_some_iff.1 h
  obtain ⟨finding, hfinding, concerns⟩ :
      ∃ finding ∈ blockFindings [] found.name instruction, finding.concernsBalance = true := by
    have hmem : instruction ∈ [.orCase, .caseElse, .caseEnd] := of_decide_eq_true needs
    simp only [List.mem_cons, List.not_mem_nil, or_false] at hmem
    rcases hmem with rfl | rfl | rfl
    · exact ⟨.strayBranch found.name, List.mem_singleton_self _, rfl⟩
    · exact ⟨.strayBranch found.name, List.mem_singleton_self _, rfl⟩
    · exact ⟨.strayEnd, List.mem_singleton_self _, rfl⟩
  have remarked : { finding, script, line := some number } ∈
      linesRemarks story kind script [] number (raw :: lines) := by
    simp [linesRemarks, lineRemarks, hfound, hname, hfinding]
  rw [balanced _ remarked] at concerns
  cases concerns

/-- Where blocks are balanced, none is open at the end. -/
theorem Balanced.eq_nil (balanced : Balanced (linesRemarks story kind script opened number [])) :
    opened = [] := by
  cases opened with
  | nil => rfl
  | cons line opened =>
    have unclosed := balanced { finding := .unclosedCase, script, line := some line }
      (by simp [linesRemarks])
    cases unclosed

/-- If nothing is wrong with blocks in two lists of remarks, nothing is in the second. -/
theorem Balanced.append {front back : List Remark} (h : Balanced (front ++ back)) : Balanced back :=
  fun remark hremark => h remark (List.mem_append_right _ hremark)

end Review

/-- A reader and a review agree on how deep blocks are nested. Take a text whose lines have no
placeholders, but for the tags of blocks.
* After the same number of lines, a reader of the text has as many open blocks as the review of the
  text, whatever the conditions come to; and every frame of the reader goes on by such lines, until
  it is held, is over, leaves the script or fails.
* The review of the text is in fact at that number of open blocks when it comes to the next line.
* If the review finds the blocks balanced, the reader never turns, tries again or closes a block
  where none is open, and there is none open when it has taken all lines. -/
theorem nesting_agrees_with_review {text : String}
    (plain : ∀ raw ∈ Text.lines text, Line.isBlockTag (Line.tidy raw) = false →
      Line.hasPlaceholder (Line.tidy raw) = false) (role : Role) (start : Starter) :
    (∀ k reader, Reader.Took start k { role, lines := Text.lines text } reader →
      reader.blocks.depth = (Review.openAfterLines [] 1 ((Text.lines text).take k)).length ∧
      ∀ s, ∃ j last, Reader.Took start (k + j) { role, lines := Text.lines text } last ∧
        last.Ends start (reader.step start s)) ∧
    ∀ story kind script,
      (∀ k, ∃ remarks, Review.ofScript story kind script text =
        remarks ++ Review.linesRemarks story kind script
          (Review.openAfterLines [] 1 ((Text.lines text).take k))
          (1 + ((Text.lines text).take k).length) ((Text.lines text).drop k)) ∧
      (Review.Balanced (Review.ofScript story kind script text) →
        ∀ k reader, Reader.Took start k { role, lines := Text.lines text } reader →
          (∀ s raw lines instruction, reader.lines = raw :: lines →
            role.instruction? reader.blocks s raw = some instruction →
            instruction.needsBlock = true → 0 < reader.blocks.depth) ∧
          (reader.lines = [] → reader.blocks.depth = 0)) := by
  refine ⟨?_, fun story kind script => ⟨Review.ofScript_eq_append story kind script text, ?_⟩⟩
  · intro k reader took
    obtain ⟨blocks, rfl, hdepth⟩ := took.nesting plain
    refine ⟨hdepth, fun s => ?_⟩
    obtain ⟨j, last, took', ends⟩ := Reader.took_step role ((Text.lines text).drop k) blocks s
    exact ⟨j, last, took.trans took', ends⟩
  · intro balanced k reader took
    obtain ⟨blocks, rfl, hdepth⟩ := took.nesting plain
    obtain ⟨remarks, hremarks⟩ := Review.ofScript_eq_append story kind script text k
    have rest := Review.Balanced.append (hremarks ▸ balanced)
    dsimp only
    rw [hdepth]
    refine ⟨?_, ?_⟩
    · intro s raw lines instruction hlines hinstruction needs
      have hraw : raw ∈ Text.lines text := List.mem_of_mem_drop (hlines ▸ List.mem_cons_self)
      have written := Role.instruction?_of_needsBlock (plain raw hraw) hinstruction needs
      rw [hlines] at rest
      exact List.length_pos_iff.2 (rest.ne_nil written needs)
    · intro hempty
      rw [hempty] at rest
      rw [rest.eq_nil]
      rfl

/-- A script that asks for a variable in the tag of a block, and has another block in the branch
that it may pass over. -/
def moodScript : String :=
  "<case: ($mood), is, glad>\n<rest: 2>\n<case_else>\n<case: 1, is, 1>\nHm.\n<case_end>\n<case_end>"

/-- Where the variable is not set, the second block is opened after the first one is turned round.
The review, which reads no condition, has both of them open there too. -/
theorem moodScript_nesting_agrees :
    ∃ reader, Reader.Took Session.start 4
        { role := .main ⟨"dawn", "street"⟩, lines := Text.lines moodScript } reader ∧
      Review.openAfterLines [] 1 ((Text.lines moodScript).take 4) = [1, 4] ∧
      reader.blocks.depth = (Review.openAfterLines [] 1 ((Text.lines moodScript).take 4)).length ∧
      Review.Balanced (Review.ofScript {} .scene "street" moodScript) := by
  have hlines : Text.lines moodScript =
      ["<case: ($mood), is, glad>", "<rest: 2>", "<case_else>", "<case: 1, is, 1>", "Hm.",
        "<case_end>", "<case_end>"] := by decide +kernel
  have plain : ∀ raw ∈ Text.lines moodScript, Line.isBlockTag (Line.tidy raw) = false →
      Line.hasPlaceholder (Line.tidy raw) = false := by decide +kernel
  obtain ⟨agree, -⟩ := nesting_agrees_with_review plain (.main ⟨"dawn", "street"⟩) Session.start
  let s : Session := .fresh {} {}
  obtain ⟨reader, took⟩ : ∃ reader, Reader.Took Session.start 4
      { role := .main ⟨"dawn", "street"⟩, lines := Text.lines moodScript } reader := by
    rw [hlines]
    exact ⟨_, .line s (.line s (.line s (.line s (.none _) (by decide +kernel)) (by decide +kernel))
      (by decide +kernel)) (by decide +kernel)⟩
  exact ⟨reader, took, by decide +kernel, (agree 4 reader took).1, by decide +kernel⟩

end VisualNovel

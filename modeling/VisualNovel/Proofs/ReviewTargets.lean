import VisualNovel.Proofs.BlockNesting
import VisualNovel.Proofs.PlainLines

/-!
# What a review says of missing scripts

Two tags name a reusable script to start, at once or later, and each may be written in two ways,
with parameters for the script or without. A review takes the name from the line, and a run looks
the name up when it comes to the tag. Both read the two ways in the same order, of which at most one
fits (`Shape.decode?_eq_none_of_shorter`), so they are after the same name.

They still do not agree on all names. A run takes every name as it is. A review passes over the word
for none, in capitals or not, as it stands for no script in other tags: of a script of that name it
does not say that it is missing. For all other names, a review finds an error in the line if and
only if the script is not there, that is, if a run does nothing at the tag
(`missing_scripts_are_reported`).
-/

namespace VisualNovel

namespace Shape

/-- Arguments have as many fields as a shape that they fit. -/
theorem length_of_decode? {shape : Shape} {arguments : String}
    (h : (shape.decode? (some arguments)).isSome = true) :
    (if shape.isFree then Text.splitAtMost ',' shape.length arguments
      else Text.split ',' arguments).length = shape.length := by
  by_contra differ
  have misfit : ∃ error, splitFields arguments shape.length shape.isFree = .error error :=
    ⟨_, if_neg (by rwa [List.length_map])⟩
  obtain ⟨error, misfit⟩ := misfit
  rw [decode?, decode, misfit] at h
  cases h

/-- Arguments that fit a shape fit none with more fields, of which the last one takes the rest. -/
theorem decode?_eq_none_of_shorter {short long : Shape} {arguments : Option String}
    (takesRest : long.isFree = true) (fixed : short.isFree = false)
    (longer : short.length < long.length) (h : (short.decode? arguments).isSome = true) :
    long.decode? arguments = none := by
  cases arguments with
  | none => rfl
  | some arguments =>
    rw [← Option.not_isSome_iff_eq_none]
    intro fits
    have fewer := length_of_decode? h
    have more := length_of_decode? fits
    obtain ⟨n, hn⟩ := Nat.exists_eq_add_of_lt longer
    -- Both numbers of fields come from the number of commas.
    rw [fixed, if_neg Bool.false_ne_true, Text.split, List.length_map, Text.length_splitChars]
      at fewer
    rw [takesRest, if_pos rfl, Text.splitAtMost, List.length_map, hn, Text.length_splitAtMostChars]
      at more
    omega

/-- A call is written in one of its two forms. -/
theorem decode?_callWith_eq_none {arguments : Option String} {values : Shape.name.Values}
    (h : Shape.name.decode? arguments = some values) : Shape.callWith.decode? arguments = none :=
  decode?_eq_none_of_shorter rfl rfl (by decide) (Option.isSome_of_eq_some h)

/-- So is a timer. -/
theorem decode?_afterWith_eq_none {arguments : Option String} {values : Shape.after.Values}
    (h : Shape.after.decode? arguments = some values) : Shape.afterWith.decode? arguments = none :=
  decode?_eq_none_of_shorter rfl rfl (by decide) (Option.isSome_of_eq_some h)

end Shape

/-! ## The script that a tag names -/

/-- The script that a tag names that starts scripts, in one of its two forms. -/
inductive Instruction.Names : Instruction → Option String → String → Prop where
  /-- A script is called with parameters. -/
  | callWith {arguments : Option String} {name parameters : String}
    (decoded : Shape.callWith.decode? arguments = some (name, parameters, ())) :
    Names .call arguments name
  /-- A script is called without parameters. -/
  | call {arguments : Option String} {name : String}
    (decoded : Shape.name.decode? arguments = some (name, ())) : Names .call arguments name
  /-- A timer is set for a script with parameters. -/
  | afterWith {arguments : Option String} {frames : Nat} {name parameters : String}
    (decoded : Shape.afterWith.decode? arguments = some (frames, name, parameters, ())) :
    Names .after arguments name
  /-- A timer is set for a script without parameters. -/
  | after {arguments : Option String} {frames : Nat} {name : String}
    (decoded : Shape.after.decode? arguments = some (frames, name, ())) :
    Names .after arguments name

namespace Instruction.Names

variable {instruction : Instruction} {arguments : Option String} {name : String}

/-- A review sees the name. -/
theorem scriptFields_eq (h : instruction.Names arguments name) :
    Review.scriptFields instruction arguments = [name] := by
  cases h with
  | callWith decoded => simp only [Review.scriptFields, decoded]
  | call decoded =>
    have other := Shape.decode?_callWith_eq_none decoded
    simp only [Review.scriptFields, other, decoded, Option.map_some, Option.toList_some]
  | afterWith decoded => simp only [Review.scriptFields, decoded]
  | after decoded =>
    have other := Shape.decode?_afterWith_eq_none decoded
    simp only [Review.scriptFields, other, decoded, Option.map_some, Option.toList_some]

/-- A run sees the name, if the script is to be started at once. -/
theorem name_of_ofCall? (h : Names .call arguments name) {launch : Launch}
    (hlaunch : Launch.ofCall? arguments = some launch) : launch.name = name := by
  cases h with
  | callWith decoded =>
    simp only [Launch.ofCall?, decoded, Option.map_eq_some_iff] at hlaunch
    obtain ⟨parameters, -, rfl⟩ := hlaunch
    rfl
  | call decoded =>
    have other := Shape.decode?_callWith_eq_none decoded
    simp only [Launch.ofCall?, other, decoded, Option.map_some, Option.some.injEq] at hlaunch
    rw [← hlaunch]

/-- A run sees the name, if a timer is to be set for the script. -/
theorem name_of_ofAfter? (h : Names .after arguments name) {launch : Launch} {frames : Nat}
    (hlaunch : Launch.ofAfter? arguments = some (launch, frames)) : launch.name = name := by
  cases h with
  | afterWith decoded =>
    simp only [Launch.ofAfter?, decoded, Option.map_eq_some_iff, Prod.mk.injEq] at hlaunch
    obtain ⟨parameters, -, rfl, -⟩ := hlaunch
    rfl
  | after decoded =>
    have other := Shape.decode?_afterWith_eq_none decoded
    simp only [Launch.ofAfter?, other, decoded, Option.map_some, Option.some.injEq, Prod.mk.injEq]
      at hlaunch
    rw [← hlaunch.1]

/-- A tag that names a script names no scene. -/
theorem sceneTarget?_eq_none (h : instruction.Names arguments name) :
    Review.sceneTarget? instruction arguments = none := by
  cases h <;> rfl

/-- What a review finds wrong with the name. -/
theorem targetFindings_eq (h : instruction.Names arguments name) (story : Story)
    (known : Review.hasPlaceholder arguments = false) (named : name ≠ "") :
    Review.targetFindings story instruction arguments =
      if story.reusables.contains name || Text.sameAsciiCase name "none" then []
      else [.missingScript name] := by
  have nonempty : name.isEmpty = false := by simpa using named
  unfold Review.targetFindings Review.scriptTargets
  rw [known, if_neg Bool.false_ne_true, h.scriptFields_eq, h.sceneTarget?_eq_none]
  cases hthere : story.reusables.contains name <;> cases hnone : Text.sameAsciiCase name "none" <;>
    simp [nonempty, hthere, hnone]

end Instruction.Names

/-! ## The errors of a script -/

namespace Review

variable {story : Story} {kind : ScriptKind} {script : String} {remark : Remark}

/-- What is wrong with the targets of a line. -/
def lineFindings (story : Story) (line : String) : List Finding :=
  match tag? line with
  | none => []
  | some found =>
    match Instruction.ofName? found.name with
    | none => []
    | some instruction => targetFindings story instruction found.arguments

/-- What is wrong with a target is an error. -/
theorem level_of_mem_targetFindings {instruction : Instruction} {arguments : Option String}
    {finding : Finding} (h : finding ∈ targetFindings story instruction arguments) :
    finding.level = .error := by
  unfold targetFindings at h
  split at h
  · cases h
  · rcases List.mem_append.1 h with h | h
    · obtain ⟨name, -, rfl⟩ := List.mem_map.1 h
      rfl
    · split at h
      · cases List.mem_singleton.1 h
        rfl
      · cases h

/-- What is wrong with blocks is no error. -/
theorem level_of_mem_blockFindings {opened : List Nat} {name : String} {instruction : Instruction}
    {finding : Finding} (h : finding ∈ blockFindings opened name instruction) :
    finding.level = .warning := by
  unfold blockFindings at h
  split at h
  · cases List.mem_singleton.1 (List.mem_ite_nil_right.1 h).2
    rfl
  · cases List.mem_singleton.1 (List.mem_ite_nil_right.1 h).2
    rfl
  · cases List.mem_singleton.1 (List.mem_ite_nil_right.1 h).2
    rfl
  · cases h

/-- The errors of a line are about its targets, whatever blocks are open. -/
theorem mem_lineRemarks_iff (error : remark.level = .error) {opened : List Nat} {number : Nat}
    {line : String} :
    remark ∈ lineRemarks story kind script opened number line ↔
      ∃ finding ∈ lineFindings story line,
        remark = { finding, script, line := some number, detail := some line } := by
  unfold lineRemarks lineFindings
  dsimp only
  rw [List.mem_append]
  constructor
  · -- All remarks but those of the findings are warnings.
    rintro (h | h)
    · split at h
      · cases List.mem_singleton.1 h
        cases error
      · cases h
    · rcases htag : tag? line with _ | found
      · rw [htag] at h
        cases h
      · rw [htag] at h
        dsimp only at h ⊢
        rcases hname : Instruction.ofName? found.name with _ | instruction
        · rw [hname] at h
          cases List.mem_singleton.1 h
          cases error
        · rw [hname] at h
          rcases List.mem_append.1 h with h | h
          · obtain ⟨finding, hfinding, rfl⟩ := List.mem_map.1 h
            cases (level_of_mem_blockFindings hfinding).symm.trans error
          · obtain ⟨finding, hfinding, rfl⟩ := List.mem_map.1 h
            exact ⟨finding, hfinding, rfl⟩
  · rintro ⟨finding, hfinding, rfl⟩
    right
    rcases htag : tag? line with _ | found
    · rw [htag] at hfinding
      cases hfinding
    · rw [htag] at hfinding
      dsimp only at hfinding ⊢
      rcases hname : Instruction.ofName? found.name with _ | instruction
      · rw [hname] at hfinding
        cases hfinding
      · rw [hname] at hfinding
        exact List.mem_append_right _ (List.mem_map_of_mem hfinding)

/-- The errors of lines are those of each line, at its number. -/
theorem mem_linesRemarks_iff (error : remark.level = .error) {opened : List Nat} {number : Nat}
    {lines : List String} :
    remark ∈ linesRemarks story kind script opened number lines ↔
      ∃ index raw, lines[index]? = some raw ∧ ∃ finding ∈ lineFindings story (Line.tidy raw),
        remark =
          { finding, script, line := some (number + index), detail := some (Line.tidy raw) } := by
  induction lines generalizing opened number with
  | nil =>
    constructor
    · intro h
      obtain ⟨_, -, rfl⟩ := List.mem_map.1 h
      cases error
    · rintro ⟨index, raw, hraw, -⟩
      cases hraw
  | cons first lines ih =>
    rw [linesRemarks, List.mem_append, mem_lineRemarks_iff error, ih]
    constructor
    · rintro (h | ⟨index, raw, hraw, finding, hfinding, hremark⟩)
      · exact ⟨0, first, rfl, h⟩
      · refine ⟨index + 1, raw, hraw, finding, hfinding, ?_⟩
        rw [hremark, Nat.add_assoc, Nat.add_comm 1 index]
    · rintro ⟨_ | index, raw, hraw, finding, hfinding, hremark⟩
      · cases hraw
        exact .inl ⟨finding, hfinding, hremark⟩
      · refine .inr ⟨index, raw, hraw, finding, hfinding, ?_⟩
        rw [hremark, Nat.add_assoc, Nat.add_comm 1 index]

/-- An error is reported for a line if and only if something is wrong with its targets. -/
theorem exists_error_iff {text raw : String} {index : Nat}
    (hraw : (Text.lines text)[index]? = some raw) :
    (∃ remark ∈ ofScript story kind script text,
        remark.level = .error ∧ remark.line = some (index + 1)) ↔
      lineFindings story (Line.tidy raw) ≠ [] := by
  constructor
  · rintro ⟨remark, hremark, error, hline⟩
    obtain ⟨place, raw', hraw', finding, hfinding, rfl⟩ := (mem_linesRemarks_iff error).1 hremark
    have same : place = index := by
      have := Option.some.inj hline
      omega
    subst same
    cases hraw.symm.trans hraw'
    exact List.ne_nil_of_mem hfinding
  · intro wrong
    obtain ⟨finding, hfinding⟩ := List.exists_mem_of_ne_nil _ wrong
    have error : finding.level = .error := by
      unfold lineFindings at hfinding
      split at hfinding
      · cases hfinding
      · split at hfinding
        · cases hfinding
        · exact level_of_mem_targetFindings hfinding
    refine ⟨⟨finding, script, some (index + 1), some (Line.tidy raw)⟩, ?_, error, rfl⟩
    refine (mem_linesRemarks_iff ?_).2 ⟨index, raw, hraw, finding, hfinding, by rw [Nat.add_comm]⟩
    exact error

/-- What is wrong with the targets of a line with a tag. -/
theorem lineFindings_eq {line : String} {found : Tag} {instruction : Instruction}
    (hfound : tag? line = some found) (hname : Instruction.ofName? found.name = some instruction) :
    lineFindings story line = targetFindings story instruction found.arguments := by
  simp only [lineFindings, hfound, hname]

end Review

/-! ## What a run makes of the name -/

/-- A script that cannot be started is not, and nothing happens. -/
theorem Session.start_of_startable?_eq_none {s : Session} {launch : Launch}
    (h : s.startable? launch = none) : s.start launch = (s, none) := by
  unfold start
  cases s.story.reusables.size with
  | zero => rfl
  | succ bound => simp only [startWithin, h]

/-- What a run makes of a tag that names a script. -/
structure Outcome.Seeks (outcome : Outcome) (instruction : Instruction) (arguments : Option String)
    (name : String) (s : Session) : Prop where
  /-- If the script is not there, nothing happens. -/
  missing : s.story.reusables.contains name = false →
    outcome.effect.perform Session.start = (s, none)
  /-- If the script is there and is called, it is found, unless it runs. -/
  starts : s.story.reusables.contains name = true → instruction = .call →
    ∀ launch, Launch.ofCall? arguments = some launch →
      outcome.effect = { session := s, launch := some launch } ∧
      (s.background.contains name = false → s.startable? launch = s.story.reusables.find? name)
  /-- If the script is there and is to be started later, its timer is set. -/
  waits : s.story.reusables.contains name = true → instruction = .after →
    ∀ launch frames, Launch.ofAfter? arguments = some (launch, frames) →
      outcome.effect = { session := { s with timers := s.timers.add launch frames } }

/-- What can be started of a name is the script of that name, unless it runs. -/
theorem Session.startable?_of_not_contains {s : Session} {launch : Launch}
    (named : launch.name ≠ "") (idle : s.background.contains launch.name = false) :
    s.startable? launch = s.story.reusables.find? launch.name := by
  have nonempty : launch.name.isEmpty = false := by simpa using named
  rw [startable?, nonempty, idle, if_neg (by decide)]

/-- What cannot be found cannot be started. -/
theorem Session.startable?_of_missing {s : Session} {launch : Launch}
    (missing : s.story.reusables.contains launch.name = false) : s.startable? launch = none := by
  unfold startable?
  split
  · rfl
  · simpa [Dict.contains] using missing

/-- A run looks for the script that the tag names. -/
theorem Instruction.Names.seeks {instruction : Instruction} {tag : Tag} {name : String}
    (h : instruction.Names tag.arguments name) (named : name ≠ "") (s : Session) (isMain : Bool) :
    ∃ outcome, s.execute isMain instruction tag = .ok outcome ∧
      outcome.Seeks instruction tag.arguments name s := by
  have kind : instruction = .call ∨ instruction = .after := by
    cases h <;> simp
  -- The name is looked up by the start in the one case, and by the tag itself in the other.
  rcases kind with rfl | rfl
  · refine ⟨.ofEffect { session := s, launch := Launch.ofCall? tag.arguments }, rfl, ?_, ?_,
      by rintro _ ⟨⟩⟩
    · intro missing
      show Effect.perform { session := s, launch := Launch.ofCall? tag.arguments } Session.start =
        (s, none)
      unfold Effect.perform
      rcases hlaunch : Launch.ofCall? tag.arguments with _ | launch
      · rfl
      · rw [← h.name_of_ofCall? hlaunch] at missing
        exact Session.start_of_startable?_eq_none (Session.startable?_of_missing missing)
    · intro _ _ launch hlaunch
      obtain rfl := h.name_of_ofCall? hlaunch
      exact ⟨by rw [hlaunch]; rfl, Session.startable?_of_not_contains named⟩
  · refine ⟨.ofSession (s.startTimer tag.arguments), rfl, ?_, by rintro _ ⟨⟩, ?_⟩
    · intro missing
      show (s.startTimer tag.arguments, none) = (s, none)
      unfold Session.startTimer
      rcases hlaunch : Launch.ofAfter? tag.arguments with _ | ⟨launch, frames⟩
      · rfl
      · rw [← h.name_of_ofAfter? hlaunch] at missing
        simp [missing]
    · intro there _ launch frames hlaunch
      rw [← h.name_of_ofAfter? hlaunch] at there
      show ({ session := s.startTimer tag.arguments } : Effect) = _
      simp [Session.startTimer, hlaunch, there]

/-! ## Reviews and runs -/

/-- **Missing scripts.** Take a line without placeholders, in any script of any story, with a tag
that calls a script or sets a timer for one, in either of its forms and with a name that is not
empty. A review reports an error for that line if and only if the story has no script of that name,
unless the name is the word for none: then it reports no error. A run that comes to the tag looks
for the same name, whichever it is: it does nothing if the script is not there, and otherwise finds
it, or sets its timer. -/
theorem missing_scripts_are_reported (story : Story) (kind : ScriptKind) (script text : String)
    {index : Nat} {raw : String} (hraw : (Text.lines text)[index]? = some raw)
    (plain : Line.hasPlaceholder (Line.tidy raw) = false) {found : Tag} {instruction : Instruction}
    {name : String} (hfound : Review.tag? (Line.tidy raw) = some found)
    (hname : Instruction.ofName? found.name = some instruction)
    (names : instruction.Names found.arguments name) (named : name ≠ "") :
    ((∃ remark ∈ Review.ofScript story kind script text,
        remark.level = .error ∧ remark.line = some (index + 1)) ↔
      story.reusables.contains name = false ∧ Text.sameAsciiCase name "none" = false) ∧
    ∀ (s : Session) (isMain : Bool), ∃ outcome, s.execute isMain instruction found = .ok outcome ∧
      outcome.Seeks instruction found.arguments name s := by
  have known :=
    Tag.not_hasPlaceholder_arguments (Line.read?_of_read (Review.read_of_tag? hfound)) plain
  refine ⟨?_, names.seeks named⟩
  rw [Review.exists_error_iff hraw, Review.lineFindings_eq hfound hname,
    names.targetFindings_eq story known named]
  cases story.reusables.contains name <;> cases Text.sameAsciiCase name "none" <;> simp

/-- A script that calls another one, and sets a timer for it. -/
def ringing : String := "<call:bell>\n<after:3,bell,tone=low>"

/-- In a story without that script an error is reported for the second line, and in one with it
there is none. -/
theorem ringing_needs_bell :
    (∃ remark ∈ Review.ofScript {} .scene "scene:dawn/street" ringing,
      remark.level = .error ∧ remark.line = some 2) ∧
    ¬ ∃ remark ∈ Review.ofScript { reusables := .ofEntries [("bell", "<play_sound:ding>")] } .scene
        "scene:dawn/street" ringing, remark.level = .error ∧ remark.line = some 2 := by
  have reported (story : Story) :=
    (missing_scripts_are_reported story .scene "scene:dawn/street" ringing
      (show (Text.lines ringing)[1]? = some "<after:3,bell,tone=low>" by decide +kernel)
      (by decide +kernel)
      (show Review.tag? _ = some ⟨"after", some "3,bell,tone=low"⟩ by decide +kernel)
      (show Instruction.ofName? _ = some .after by decide +kernel)
      (.afterWith (show _ = some (3, "bell", "tone=low", ()) by decide +kernel)) (by decide)).1
  refine ⟨(reported _).2 (by decide +kernel), fun error => ?_⟩
  obtain ⟨missing, -⟩ := (reported _).1 error
  revert missing
  decide +kernel

/-- A script may be called by the word for none. It is not there, so that a run does nothing at the
tag, but a review reports no error. -/
theorem missing_none_is_not_reported :
    ∃ raw found, (Text.lines "<call:none>")[0]? = some raw ∧
      Line.hasPlaceholder (Line.tidy raw) = false ∧ Review.tag? (Line.tidy raw) = some found ∧
      Instruction.ofName? found.name = some .call ∧ Instruction.Names .call found.arguments "none" ∧
      ({} : Story).reusables.contains "none" = false ∧
      ∀ remark ∈ Review.ofScript {} .scene "scene:dawn/street" "<call:none>",
      remark.level ≠ .error := by
  refine ⟨"<call:none>", ⟨"call", some "none"⟩, ?_, ?_, ?_, ?_, .call ?_, ?_, ?_⟩ <;> decide +kernel

end VisualNovel

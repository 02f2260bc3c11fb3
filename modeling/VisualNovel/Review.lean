import VisualNovel.Engine.Execute

/-!
# Reviewing a story

What can be said about the scripts of a story without running it: tags that stand for nothing,
blocks that do not close, parameters where there can be none, and names of scripts and scenes that
are not there. Arguments with placeholders are only known when the story runs, so that targets in
them are passed over.

A `Finding` is a cause, with its level and its wording; a `Remark` says where it was found. The
review reads lines and arguments exactly as the engine does.
-/

namespace VisualNovel

/-! ## Findings -/

/-- How grave a finding is. -/
inductive Level where
  /-- Good to know. -/
  | info
  /-- Better mended. -/
  | warning
  /-- To be mended. -/
  | error
  deriving DecidableEq, Repr

namespace Level

/-- The word for a level. -/
def name : Level → String
  | .info => "INFO"
  | .warning => "WARN"
  | .error => "ERROR"

/-- The place of a level in their order. -/
def rank : Level → Nat
  | .info => 0
  | .warning => 1
  | .error => 2

end Level

/-- What a review finds. -/
inductive Finding where
  /-- The scene to begin with is not there. -/
  | startupInvalid (error : StoryError)
  /-- The story does not say where to begin. -/
  | startupMissing
  /-- A parameter in a script that is not reusable. -/
  | parameterUnusable
  /-- A tag whose name stands for nothing. -/
  | unknownTag (name : String)
  /-- The end of a block that was not opened. -/
  | strayEnd
  /-- Another branch outside a block. -/
  | strayBranch (name : String)
  /-- A block that is not closed. -/
  | unclosedCase
  /-- A reusable script that is not there. -/
  | missingScript (name : String)
  /-- A scene that is not there. -/
  | missingScene (error : StoryError)
  deriving DecidableEq, Repr

namespace Finding

/-- How grave a finding is. -/
def level : Finding → Level
  | .startupInvalid _ => .error
  | .startupMissing => .info
  | .parameterUnusable => .warning
  | .unknownTag _ => .warning
  | .strayEnd => .warning
  | .strayBranch _ => .warning
  | .unclosedCase => .warning
  | .missingScript _ => .error
  | .missingScene _ => .error

/-- The wording of a finding. -/
def message : Finding → String
  | .startupInvalid error => s!"起始场景无效: {error.message}"
  | .startupMissing => "故事没有起始场景，需要在引擎配置中指定"
  | .parameterUnusable => "只有可复用脚本可以使用 (@参数)"
  | .unknownTag name => s!"未知指令: {name}"
  | .strayEnd => "case_end 没有对应的 case"
  | .strayBranch name => s!"{name} 不在 case 块内"
  | .unclosedCase => "case 块没有 case_end"
  | .missingScript name => s!"可复用脚本不存在: {name}"
  | .missingScene error => error.message

end Finding

/-- A finding and its place. -/
structure Remark where
  /-- What was found. -/
  finding : Finding
  /-- The script it was found in. -/
  script : String
  /-- The number of the line, counted from one. -/
  line : Option Nat := none
  /-- The line itself. -/
  detail : Option String := none
  deriving DecidableEq, Repr

namespace Remark

/-- How grave a remark is. -/
def level (remark : Remark) : Level :=
  remark.finding.level

/-- The wording of a remark. -/
def message (remark : Remark) : String :=
  remark.finding.message

/-- A remark as it is shown: level, place and wording, and the line below them. -/
def render (remark : Remark) : String :=
  let place :=
    match remark.line with
    | some line => s!"{remark.script}:{line}"
    | none => remark.script
  let detail :=
    match remark.detail with
    | some detail => s!"\n  | {detail}"
    | none => ""
  s!"[{remark.level.name}] {place}: {remark.message}{detail}"

end Remark

/-! ## Targets -/

/-- The kinds of scripts. -/
inductive ScriptKind where
  /-- The script that goes before every scene of a chapter. -/
  | chapter
  /-- The script of a scene. -/
  | scene
  /-- A reusable script. -/
  | reusable
  deriving DecidableEq, Repr

namespace Review

/-- The names that a tag has where scripts are named. -/
def scriptFields (instruction : Instruction) (arguments : Option String) : List String :=
  match instruction with
  | .call =>
    match Shape.callWith.decode? arguments with
    | some (name, _, ()) => [name]
    | none => ((Shape.name.decode? arguments).map fun (name, ()) => name).toList
  | .after =>
    match Shape.afterWith.decode? arguments with
    | some (_, name, _, ()) => [name]
    | none => ((Shape.after.decode? arguments).map fun (_, name, ()) => name).toList
  | .sprite _ action =>
    if action.isAfterStop then
      ((Shape.afterStop.decode? arguments).map fun (_, script, ()) => script).toList
    else []
  | .defineDialog =>
    match Shape.dialog.decode? arguments with
    | some (_, _, _, _, _, _, _, _, _, _, _, introStarting, introFinished, outroStarting,
        outroFinished, onHalt, onUnhalt, _) =>
      [introStarting, introFinished, outroStarting, outroFinished, onHalt, onUnhalt]
    | none => []
  | _ => []

/-- The reusable scripts that a tag names. An empty name and the word for none name no script. -/
def scriptTargets (instruction : Instruction) (arguments : Option String) : List String :=
  (scriptFields instruction arguments).filter fun name =>
    !name.isEmpty && !Text.sameAsciiCase name "none"

/-- The scene that a tag goes to. -/
def sceneTarget? (instruction : Instruction) (arguments : Option String) : Option SceneRef :=
  match instruction with
  | .scene => (Shape.scene.decode? arguments).map fun (chapter, scene, ()) => ⟨chapter, scene⟩
  | .sceneWithFade =>
    (Shape.sceneWithFade.decode? arguments).map fun (_, _, _, _, chapter, scene, ()) =>
      ⟨chapter, scene⟩
  | _ => none

/-- Whether the arguments of a tag are only known when the story runs. -/
def hasPlaceholder (arguments : Option String) : Bool :=
  arguments.any fun s =>
    Placeholder.occurs Placeholder.variableSigil s ||
      Placeholder.occurs Placeholder.parameterSigil s

/-- What is wrong with the targets of a tag. -/
def targetFindings (story : Story) (instruction : Instruction) (arguments : Option String) :
    List Finding :=
  if hasPlaceholder arguments then []
  else
    let missing := (scriptTargets instruction arguments).filter fun name =>
      !story.reusables.contains name
    let scene :=
      match (sceneTarget? instruction arguments).map story.checkScene with
      | some (.error error) => [Finding.missingScene error]
      | _ => []
    missing.map Finding.missingScript ++ scene

/-! ## Blocks -/

/-- The open blocks after an instruction on a line, as the numbers of the lines that opened them. -/
def openAfter (opened : List Nat) (number : Nat) : Instruction → List Nat
  | .case => opened ++ [number]
  | .caseEnd => opened.dropLast
  | _ => opened

/-- What is wrong with the place of an instruction among the open blocks. -/
def blockFindings (opened : List Nat) (name : String) : Instruction → List Finding
  | .caseEnd => if opened.isEmpty then [.strayEnd] else []
  | .orCase => if opened.isEmpty then [.strayBranch name] else []
  | .caseElse => if opened.isEmpty then [.strayBranch name] else []
  | _ => []

/-! ## Lines and scripts -/

/-- The tag of a line. -/
def tag? (line : String) : Option Tag :=
  match Line.read line with
  | .tag found => some found
  | _ => none

/-- The instruction on a line. -/
def instruction? (line : String) : Option Instruction :=
  (tag? line).bind fun found => Instruction.ofName? found.name

/-- The remarks on a line, given the blocks that are open before it. -/
def lineRemarks (story : Story) (kind : ScriptKind) (script : String) (opened : List Nat)
    (number : Nat) (line : String) : List Remark :=
  let brief (finding : Finding) : Remark := { finding, script, line := some number }
  let full (finding : Finding) : Remark :=
    { finding, script, line := some number, detail := some line }
  let parameter :=
    if kind != .reusable && Placeholder.occurs Placeholder.parameterSigil line then
      [full .parameterUnusable]
    else []
  let rest :=
    match tag? line with
    | none => []
    | some found =>
      match Instruction.ofName? found.name with
      | none => [full (.unknownTag found.name)]
      | some instruction =>
        (blockFindings opened found.name instruction).map brief ++
          (targetFindings story instruction found.arguments).map full
  parameter ++ rest

/-- The open blocks after a line. -/
def openAfterLine (opened : List Nat) (number : Nat) (line : String) : List Nat :=
  match instruction? line with
  | some instruction => openAfter opened number instruction
  | none => opened

/-- The remarks on the lines from a number on, with those on blocks that stay open at the end. -/
def linesRemarks (story : Story) (kind : ScriptKind) (script : String) :
    List Nat → Nat → List String → List Remark
  | opened, _, [] =>
    opened.map fun number => { finding := .unclosedCase, script, line := some number }
  | opened, number, raw :: lines =>
    let line := Line.tidy raw
    lineRemarks story kind script opened number line ++
      linesRemarks story kind script (openAfterLine opened number line) (number + 1) lines

/-- The remarks on a script. -/
def ofScript (story : Story) (kind : ScriptKind) (script text : String) : List Remark :=
  linesRemarks story kind script [] 1 (Text.lines text)

/-! ## Stories -/

/-- The remarks on where the story begins. -/
def ofStartup (story : Story) : List Remark :=
  match story.startup with
  | none => [{ finding := .startupMissing, script := "story" }]
  | some scene =>
    match story.checkScene scene with
    | .ok () => []
    | .error error => [{ finding := .startupInvalid error, script := "story" }]

/-- The remarks on the scripts of a chapter. -/
def ofChapter (story : Story) (name : String) (chapter : Chapter) : List Remark :=
  ofScript story .chapter s!"chapter:{name}" chapter.script ++
    chapter.scenes.entries.flatMap fun (scene, script) =>
      ofScript story .scene s!"scene:{name}/{scene}" script

/-- The remarks on a story: on where it begins, on its chapters with their scenes, and on its
reusable scripts. -/
def ofStory (story : Story) : List Remark :=
  ofStartup story ++
    story.chapters.entries.flatMap (fun (name, chapter) => ofChapter story name chapter) ++
    story.reusables.entries.flatMap fun (name, script) =>
      ofScript story .reusable s!"reusable:{name}" script

/-! ## Counting -/

/-- How many remarks have a level. -/
def count (remarks : List Remark) (level : Level) : Nat :=
  (remarks.filter fun remark => remark.level == level).length

/-- Whether there is an error among the remarks. -/
def hasErrors (remarks : List Remark) : Bool :=
  0 < count remarks .error

/-- The remarks with a level or a graver one. -/
def atLeast (remarks : List Remark) (level : Level) : List Remark :=
  remarks.filter fun remark => level.rank ≤ remark.level.rank

end Review

end VisualNovel

import VisualNovel.CommandLine.Request
import VisualNovel.Json.Printer
import VisualNovel.Json.Reader
import VisualNovel.Playback
import VisualNovel.Review

/-!
# Answering a request

A request is answered by lines of output, an exit code and perhaps a mistake. The files that it
names are handed in as a function, so that the answer is a value.
-/

namespace VisualNovel.CommandLine

/-- The answer to a request. -/
structure Report where
  /-- The lines of output. -/
  output : List String := []
  /-- The exit code. -/
  exit : Nat := 0
  /-- What went wrong. -/
  error : Option String := none
  deriving DecidableEq, Repr

/-- The exit code where something went wrong. -/
def failureExit : Nat := 1

/-- The exit code after a mistake in the arguments. -/
def usageExit : Nat := 2

/-- The exit code after a crash. -/
def crashExit : Nat := 101

/-- Why there is no story or no settings. -/
inductive LoadError where
  /-- The file of the story cannot be read. -/
  | storyUnreadable (file : String)
  /-- There is no story in the file. -/
  | storyMalformed (file : String)
  /-- The file of the settings cannot be read. -/
  | settingsUnreadable (file : String)
  /-- There are no settings in the file. -/
  | settingsMalformed (file : String)
  deriving DecidableEq, Repr

/-- The wording of a load error. -/
def LoadError.message : LoadError → String
  | .storyUnreadable file => s!"无法读取故事: {file}"
  | .storyMalformed file => s!"故事格式错误: {file}"
  | .settingsUnreadable file => s!"无法读取配置: {file}"
  | .settingsMalformed file => s!"配置格式错误: {file}"

/-- The texts of files, as far as they can be read. -/
abbrev Files := String → Option String

/-- The story in a file. -/
def loadStory (files : Files) (file : String) : Except LoadError Story :=
  match files file with
  | none => .error (.storyUnreadable file)
  | some text =>
    match (Json.read text).bind Story.ofJson? with
    | some story => .ok story
    | none => .error (.storyMalformed file)

/-- The settings in a file, or the default ones. -/
def loadSettings (files : Files) : Option String → Except LoadError Settings
  | none => .ok {}
  | some file =>
    match files file with
    | none => .error (.settingsUnreadable file)
    | some text =>
      match (Json.read text).bind Settings.ofJson? with
      | some settings => .ok settings
      | none => .error (.settingsMalformed file)

namespace Report

/-- The report of a mistake. -/
def ofError (message : String) : Report where
  exit := failureExit
  error := some message

/-- The report of a story that is played: a line for each cue, and what ended it. -/
def ofPlay (story : Story) (settings : Settings) (frames : Nat) (autoClick : Bool) : Report :=
  match Playback.create story settings with
  | .error error => ofError error.message
  | .ok playback =>
    let (cues, failure) := playback.play autoClick frames #[]
    let output := cues.toList.map fun cue => cue.toJson.render
    match failure with
    | none => { output }
    | some (.story error) => { output, exit := failureExit, error := some error.message }
    | some (.crash _) => { output, exit := crashExit }

/-- The report of a story that is checked: every remark, and how many there are. -/
def ofCheck (story : Story) : Report where
  output :=
    let remarks := Review.ofStory story
    remarks.map Remark.render ++
      [s!"{Review.count remarks .error} 个错误，{Review.count remarks .warning} 个警告"]
  exit := if Review.hasErrors (Review.ofStory story) then failureExit else 0

end Report

/-- How the program is used. -/
def usage : List String :=
  ["标签脚本视觉小说引擎的命令行宿主",
    "",
    "用法: story [-v] run <STORY> [-c <CONFIG>] [-f <FRAMES>] [--auto-click]",
    "      story [-v] check <STORY>",
    "",
    "  -c, --config <CONFIG>  引擎配置 JSON 文件",
    "  -f, --frames <FRAMES>  最多运行的帧数（默认：3600）",
    "      --auto-click       等待点击时自动点击",
    "  -v, --verbose          输出调试日志",
    "  -h, --help             显示帮助",
    "  -V, --version          显示版本"]

/-- The name and the version of the program. -/
def versionLine : String := "story 0.1.0"

namespace Request

/-- The files that a request names. -/
def files : Request → List String
  | .help => []
  | .version => []
  | .play story settings _ _ => story :: settings.toList
  | .check story => [story]

/-- The answer to a request. -/
def report (files : Files) : Request → Report
  | .help => { output := usage }
  | .version => { output := [versionLine] }
  | .play story settings frames autoClick =>
    match loadStory files story with
    | .error error => .ofError error.message
    | .ok story =>
      match loadSettings files settings with
      | .error error => .ofError error.message
      | .ok settings => .ofPlay story settings frames autoClick
  | .check story =>
    match loadStory files story with
    | .error error => .ofError error.message
    | .ok story => .ofCheck story

end Request

end VisualNovel.CommandLine

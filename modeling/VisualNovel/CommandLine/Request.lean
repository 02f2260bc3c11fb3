import VisualNovel.Number.Bounded
import VisualNovel.Text.Split

/-!
# Requests on the command line

The command line asks for a story to be played or to be checked. Arguments come in three forms: long
switches (`--frames 60`, `--frames=60`), short switches (`-f 60`, `-f60`, `-f=60`, and several in
one as `-vf60`), and operands. After `--` everything is an operand. No switch may be given twice.

Arguments are taken in their order: of a demand for help and a mistake, the earlier one counts.
-/

namespace VisualNovel.CommandLine

/-! ## Switches -/

/-- The switches. -/
inductive Switch where
  /-- Shows how the program is used. -/
  | help
  /-- Shows the version of the program. -/
  | version
  /-- Logs more. -/
  | verbose
  /-- Names the file of the settings. -/
  | config
  /-- Sets the greatest number of frames. -/
  | frames
  /-- Clicks where the story waits for it. -/
  | autoClick
  deriving DecidableEq, Repr

/-- How a switch is written. -/
structure SwitchForm where
  /-- The switch. -/
  switch : Switch
  /-- Its long name. -/
  long : String
  /-- Its short name. -/
  short : Option Char
  /-- Whether a value goes with it. -/
  takesValue : Bool := false
  deriving DecidableEq, Repr

/-- The switches that are good everywhere. -/
def commonForms : List SwitchForm :=
  [⟨.help, "help", some 'h', false⟩, ⟨.verbose, "verbose", some 'v', false⟩]

/-- The switches before a command. -/
def leadingForms : List SwitchForm :=
  ⟨.version, "version", some 'V', false⟩ :: commonForms

/-- The switches for playing. -/
def playForms : List SwitchForm :=
  [⟨.config, "config", some 'c', true⟩, ⟨.frames, "frames", some 'f', true⟩,
    ⟨.autoClick, "auto-click", none, false⟩] ++ commonForms

/-! ## Mistakes -/

/-- What is wrong with a command line. -/
inductive UsageError where
  /-- There is no command. -/
  | noCommand
  /-- A command that there is not. -/
  | unknownCommand (name : String)
  /-- An argument that there is no place for. -/
  | unexpected (argument : String)
  /-- A switch without its value. -/
  | noValue (switch : String)
  /-- A value that cannot be. -/
  | badValue (value : String)
  /-- A switch that is given twice. -/
  | repeated (switch : String)
  /-- A command without the file of the story. -/
  | noStory
  deriving DecidableEq, Repr

/-- The wording of a mistake. -/
def UsageError.message : UsageError → String
  | .noCommand => "缺少命令"
  | .unknownCommand name => s!"未知命令: {name}"
  | .unexpected argument => s!"多余的参数: {argument}"
  | .noValue switch => s!"选项缺少值: {switch}"
  | .badValue value => s!"无效的值: {value}"
  | .repeated switch => s!"选项重复: {switch}"
  | .noStory => "缺少故事文件"

/-! ## Items -/

/-- What an argument, or a part of one, is. -/
inductive Item where
  /-- A switch and its value. -/
  | switch (form : SwitchForm) (value : Option String)
  /-- An operand, and the arguments behind it. -/
  | operand (value : String) (rest : List String)
  /-- An operand behind the mark after which there are only operands. -/
  | plain (value : String)
  /-- A mistake. -/
  | mistake (error : UsageError)
  deriving DecidableEq, Repr

/-- The items of an argument, and the switch at its end whose value is the next argument. -/
structure Cluster where
  /-- The items that are whole. -/
  items : List Item
  /-- The switch that waits for its value. -/
  waiting : Option SwitchForm := none
  deriving DecidableEq, Repr

/-- The item of a long switch, without the dashes. -/
def longSwitch (forms : List SwitchForm) (argument body : String) : Cluster :=
  let (name, value) :=
    match Text.cut '=' body with
    | some (name, value) => (name, some value)
    | none => (body, none)
  match forms.find? (·.long == name) with
  | none => { items := [.mistake (.unexpected argument)] }
  | some form =>
    match form.takesValue, value with
    | true, none => { items := [], waiting := some form }
    | false, some _ => { items := [.mistake (.unexpected argument)] }
    | _, value => { items := [.switch form value] }

/-- A value that stands directly behind a short switch, perhaps after an equals sign. -/
def attachedValue : List Char → String
  | '=' :: cs => String.ofList cs
  | cs => String.ofList cs

/-- The items of short switches, without the dash. -/
def shortSwitches (forms : List SwitchForm) (argument : String) : List Char → Cluster
  | [] => { items := [] }
  | c :: cs =>
    match forms.find? (·.short == some c) with
    | none => { items := [.mistake (.unexpected argument)] }
    | some form =>
      if form.takesValue then
        if cs.isEmpty then { items := [], waiting := some form }
        else { items := [.switch form (some (attachedValue cs))] }
      else
        let cluster := shortSwitches forms argument cs
        { cluster with items := .switch form none :: cluster.items }

/-- Whether an argument is an operand, wherever it stands: it has no dash in front, or is one. -/
def isOperand (argument : String) : Bool :=
  match argument.toList with
  | ['-'] => true
  | '-' :: _ => false
  | _ => true

/-- The items of an argument that is no operand. -/
def switches (forms : List SwitchForm) (argument : String) : Cluster :=
  match argument.toList with
  | '-' :: '-' :: cs => longSwitch forms argument (String.ofList cs)
  | '-' :: cs => shortSwitches forms argument cs
  | _ => { items := [] }

/-- The items of all arguments. -/
def items (forms : List SwitchForm) : List String → List Item
  | [] => []
  | argument :: rest =>
    if argument = "--" then rest.map .plain
    else if isOperand argument then .operand argument rest :: items forms rest
    else
      let cluster := switches forms argument
      match cluster.waiting with
      | none => cluster.items ++ items forms rest
      | some form =>
        match rest with
        | [] => cluster.items ++ [.mistake (.noValue form.long)]
        | value :: rest =>
          if isOperand value then cluster.items ++ .switch form (some value) :: items forms rest
          else cluster.items ++ [.mistake (.noValue form.long)]

/-! ## Requests -/

/-- How many frames are played if nothing is said. -/
def defaultFrames : Nat := 3600

/-- The greatest number of frames that can be asked for. -/
def maxFrames : Nat := 18446744073709551615

/-- What is asked for. -/
inductive Request where
  /-- To show how the program is used. -/
  | help
  /-- To show the version of the program. -/
  | version
  /-- To play the story in a file, with the settings in another one. -/
  | play (story : String) (settings : Option String) (frames : Nat) (autoClick : Bool)
  /-- To check the story in a file. -/
  | check (story : String)
  deriving DecidableEq, Repr

/-- What has been given so far. -/
structure Given where
  /-- The switches. -/
  switches : List Switch := []
  /-- The file of the story. -/
  story : Option String := none
  /-- The file of the settings. -/
  settings : Option String := none
  /-- The greatest number of frames. -/
  frames : Nat := defaultFrames
  deriving DecidableEq, Repr

/-- Why the arguments are not taken to their end. -/
inductive Stop where
  /-- Something else is asked for. -/
  | instead (request : Request)
  /-- A mistake. -/
  | mistake (error : UsageError)
  deriving DecidableEq, Repr

namespace Given

/-- What has been given with a file of the story. -/
def takeOperand (given : Given) (value : String) : Except Stop Given :=
  if given.story.isSome then .error (.mistake (.unexpected value))
  else if value.isEmpty then .error (.mistake (.badValue value))
  else .ok { given with story := some value }

/-- What has been given with the value of a switch. -/
def takeValue (given : Given) (switch : Switch) (value : String) : Except Stop Given :=
  match switch with
  | .config =>
    if value.isEmpty then .error (.mistake (.badValue value))
    else .ok { given with settings := some value }
  | .frames =>
    match (Number.readNatural value).filter (· ≤ maxFrames) with
    | some frames => .ok { given with frames }
    | none => .error (.mistake (.badValue value))
  | _ => .ok given

/-- What has been given with a switch. -/
def takeSwitch (given : Given) (form : SwitchForm) (value : Option String) : Except Stop Given :=
  match form.switch with
  | .help => .error (.instead .help)
  | .version => .error (.instead .version)
  | switch =>
    if given.switches.contains switch then .error (.mistake (.repeated form.long))
    else takeValue { given with switches := switch :: given.switches } switch (value.getD "")

/-- What has been given with an item. -/
def take (given : Given) : Item → Except Stop Given
  | .switch form value => given.takeSwitch form value
  | .operand value _ => given.takeOperand value
  | .plain value => given.takeOperand value
  | .mistake error => .error (.mistake error)

/-- The file of the story, which a command needs. -/
def storyFile (given : Given) : Except Stop String :=
  match given.story with
  | some story => .ok story
  | none => .error (.mistake .noStory)

end Given

/-- Everything that is given with the arguments of a command. -/
def gather (forms : List SwitchForm) (arguments : List String) : Except Stop Given :=
  (items forms arguments).foldlM Given.take {}

/-- The names of the commands that help can be had for. -/
def commandNames : List String := ["run", "check", "help"]

/-- The request that a command makes with its arguments. -/
def readCommand (command : String) (arguments : List String) : Except Stop Request :=
  match command with
  | "run" => do
    let given ← gather playForms arguments
    let story ← given.storyFile
    return .play story given.settings given.frames (given.switches.contains .autoClick)
  | "check" => do
    let given ← gather commonForms arguments
    let story ← given.storyFile
    return .check story
  | "help" =>
    match arguments with
    | [] => .ok .help
    | [name] =>
      if commandNames.contains name then .ok .help else .error (.mistake (.unknownCommand name))
    | _ :: argument :: _ => .error (.mistake (.unknownCommand argument))
  | name => .error (.mistake (.unknownCommand name))

/-- Whether an item is a switch or a mistake, and so stands before the command. -/
def Item.isLeading : Item → Bool
  | .switch .. => true
  | .mistake _ => true
  | _ => false

/-- The request in the arguments, where something else may be asked for instead. -/
def readArguments (arguments : List String) : Except Stop Request := do
  let all := items leadingForms arguments
  let _ ← (all.takeWhile Item.isLeading).foldlM Given.take {}
  match (all.dropWhile Item.isLeading).head? with
  | some (.operand command rest) => readCommand command rest
  | some (.plain value) => .error (.mistake (.unexpected value))
  | _ => .error (.mistake .noCommand)

/-- The request in the arguments. -/
def Request.read (arguments : List String) : Except UsageError Request :=
  match readArguments arguments with
  | .ok request => .ok request
  | .error (.instead request) => .ok request
  | .error (.mistake error) => .error error

end VisualNovel.CommandLine

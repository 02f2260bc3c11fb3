import VisualNovel.Number.Bounded

/-!
# What can go wrong

Three kinds of failure, from the mildest to the gravest.

* An `ArgumentError` says why the arguments of a tag cannot be read. The tag is then passed over.
* A `StoryError` is a mistake of the story's author that ends the current tick. The host is told,
  and the engine goes on with the next tick.
* A `Crash` is a computation without an answer. Nothing goes on after it.

Each kind is a type of causes; the wording of a cause stands in one function beside the type.
-/

namespace VisualNovel

/-! ## Arguments -/

/-- What is wrong with a value. -/
inductive Complaint where
  /-- No group of sprites has this name. -/
  | unknownGroup
  /-- Neither a horizontal place nor a number. -/
  | unknownHorizontalPlace
  /-- Neither a vertical place nor a number. -/
  | unknownVerticalPlace
  /-- Neither of the two directions of a fade. -/
  | fadeDirection
  /-- Neither of the two directions of a change of scale. -/
  | scaleDirection
  /-- Neither of the two directions of a turn. -/
  | turnDirection
  /-- None of the four sides. -/
  | side
  /-- A speed that is no percentage. -/
  | speed
  /-- No way for a dialog to come in. -/
  | unknownDialogIntro
  /-- No way for a dialog to go out. -/
  | unknownDialogOutro
  /-- No place for a dialog. -/
  | unknownDialogAnchor
  /-- No way for text to appear. -/
  | unknownTextIntro
  /-- No kind of animation. -/
  | unknownAnimation
  /-- No operator of a condition. -/
  | unknownOperator
  /-- A range without the word between its bounds. -/
  | rangeForm
  /-- A range with a bound that is no number. -/
  | rangeBounds
  /-- A parameter without its value. -/
  | parameterForm
  /-- A parameter without a name. -/
  | parameterName
  deriving DecidableEq, Repr

/-- The wording of a complaint. -/
def Complaint.message : Complaint → String
  | .unknownGroup => "未知的精灵类型"
  | .unknownHorizontalPlace => "未知的水平位置"
  | .unknownVerticalPlace => "未知的垂直位置"
  | .fadeDirection => "应为 fade in 或 fade out"
  | .scaleDirection => "应为 scale up 或 scale down"
  | .turnDirection => "应为 clockwise 或 counterclockwise"
  | .side => "应为 left、right、top 或 bottom"
  | .speed => "速度应在 1-100 之间"
  | .unknownDialogIntro => "未知的对话框进场动画"
  | .unknownDialogOutro => "未知的对话框退场动画"
  | .unknownDialogAnchor => "未知的对话框锚点"
  | .unknownTextIntro => "未知的文字出现方式"
  | .unknownAnimation => "未知的动画类型"
  | .unknownOperator => "未知的比较运算符"
  | .rangeForm => "区间格式应为 '低 and 高'"
  | .rangeBounds => "区间边界必须是数值"
  | .parameterForm => "参数应为 key=value"
  | .parameterName => "参数名不能为空"

/-- The kinds of number that a field may ask for. -/
inductive NumberKind where
  /-- A signed whole number. -/
  | integer
  /-- An unsigned whole number. -/
  | count
  /-- A number with a fraction. -/
  | decimal
  deriving DecidableEq, Repr

/-- The wording of a kind of number. -/
def NumberKind.message : NumberKind → String
  | .integer => "整数"
  | .count => "非负整数"
  | .decimal => "数值"

/-- Why the arguments of a tag cannot be read. -/
inductive ArgumentError where
  /-- The tag has no arguments. -/
  | missing
  /-- The number of fields is wrong. -/
  | arity (expected actual : Nat)
  /-- The field at a position, counted from one, is not the number it should be. -/
  | notNumeric (position : Nat) (value : String) (kind : NumberKind)
  /-- A value is not among those that are allowed. -/
  | invalid (value : String) (complaint : Complaint)
  deriving DecidableEq, Repr

/-- The wording of an argument error. -/
def ArgumentError.message : ArgumentError → String
  | .missing => "缺少参数"
  | .arity expected actual => s!"参数数量不匹配：期望 {expected} 个，实际 {actual} 个"
  | .notNumeric position value kind =>
    s!"第 {position} 个参数 '{value}' 不是有效的{kind.message}"
  | .invalid value complaint => s!"参数 '{value}' 无效：{complaint.message}"

/-! ## Stories -/

/-- A mistake of a story's author. -/
inductive StoryError where
  /-- A reusable script uses a parameter that its caller did not give. -/
  | unboundParameter (script parameter : String)
  /-- There is no such chapter. -/
  | unknownChapter (chapter : String)
  /-- The chapter has no such scene. -/
  | unknownScene (chapter scene : String)
  /-- A tag needs the dialog before the dialog is defined. -/
  | dialogUndefined (tag : String)
  /-- Neither the story nor the settings say where to begin. -/
  | noStartup
  deriving DecidableEq, Repr

/-- The wording of a story error. -/
def StoryError.message : StoryError → String
  | .unboundParameter script parameter =>
    s!"可复用脚本 '{script}' 引用了未绑定的参数 '(@{parameter})'"
  | .unknownChapter chapter => s!"章节 '{chapter}' 不存在"
  | .unknownScene chapter scene => s!"章节 '{chapter}' 中不存在场景 '{scene}'"
  | .dialogUndefined tag => s!"指令 '{tag}' 需要先用 <text_dialog_define> 定义对话框"
  | .noStartup => "故事没有配置起始场景"

/-! ## Ticks -/

/-- Why a tick ends before its time. -/
inductive Failure where
  /-- A mistake of the story's author. -/
  | story (error : StoryError)
  /-- A computation without an answer. -/
  | crash (crash : Crash)
  deriving DecidableEq, Repr

end VisualNovel

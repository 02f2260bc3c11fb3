import VisualNovel.Cue
import VisualNovel.Stage.Group
import VisualNovel.Stage.Animation
import VisualNovel.Text.Split

/-!
# Instructions

What the name of a tag asks for. Most names stand for one instruction. The names about sprites are
made of the name of a group and the name of an action, with an underscore between them; there are
none about backgrounds, whose tags have names of their own.
-/

namespace VisualNovel

/-! ## Actions on sprites -/

/-- What can be done with a sprite. -/
inductive SpriteAction where
  /-- Show a loaded sprite. -/
  | appear
  /-- Hide a visible sprite. -/
  | hide
  /-- Hide all sprites of the group. -/
  | hideAll
  /-- Flip along both axes. -/
  | flipBoth
  /-- Flip from left to right. -/
  | flipHorizontal
  /-- Flip from top to bottom. -/
  | flipVertical
  /-- Put at a place on the horizontal axis. -/
  | setPositionX
  /-- Put at a place on the vertical axis. -/
  | setPositionY
  /-- Put the centre at a point. -/
  | setCenter
  /-- Align the centre with that of another sprite. -/
  | centerXWith
  /-- Say where a movement ends. -/
  | stopMovementCondition
  /-- Say how a movement goes. -/
  | move
  /-- Switch an animation on. -/
  | start (animation : Animation)
  /-- Switch an animation off. -/
  | stop (animation : Animation)
  /-- Say which script to start at the end of an animation. -/
  | afterStop (animation : Animation)
  /-- Say how many frames to let pass between two steps of an animation. -/
  | delay (animation : Animation)
  /-- Say where a fade ends. -/
  | fadeGoal
  /-- Say where a fade begins. -/
  | fadeCurrent
  /-- Say how fast a fade is. -/
  | fadeSpeed
  /-- Say how fast a change of scale is. -/
  | scaleSpeed
  /-- Say where a change of scale ends. -/
  | scaleGoal
  /-- Say where a change of scale begins. -/
  | scaleCurrent
  /-- Say where a turn begins. -/
  | turnCurrent
  /-- Say where a turn ends. -/
  | turnGoal
  /-- Say how fast a turn is. -/
  | turnSpeed
  deriving DecidableEq, Repr

namespace SpriteAction

/-- The names of the actions. -/
def names : List (String × SpriteAction) :=
  [("show", .appear), ("hide", .hide), ("hide_all", .hideAll), ("flip_both", .flipBoth),
    ("flip_horizontal", .flipHorizontal), ("flip_vertical", .flipVertical),
    ("set_position_x", .setPositionX), ("set_position_y", .setPositionY),
    ("set_center", .setCenter), ("center_x_with", .centerXWith),
    ("stop_movement_condition", .stopMovementCondition),
    ("after_movement_stop", .afterStop .move), ("move", .move), ("start_moving", .start .move),
    ("stop_moving", .stop .move), ("move_delay", .delay .move), ("fade_until", .fadeGoal),
    ("fade_current_value", .fadeCurrent), ("fade_speed", .fadeSpeed),
    ("after_fading_stop", .afterStop .fade), ("fade_delay", .delay .fade),
    ("start_fading", .start .fade), ("stop_fading", .stop .fade), ("scale_by", .scaleSpeed),
    ("scale_until", .scaleGoal), ("scale_current_value", .scaleCurrent),
    ("after_scaling_stop", .afterStop .scale), ("scale_delay", .delay .scale),
    ("start_scaling", .start .scale), ("stop_scaling", .stop .scale),
    ("rotate_current_value", .turnCurrent), ("rotate_until", .turnGoal),
    ("rotate_speed", .turnSpeed), ("after_rotating_stop", .afterStop .turn),
    ("rotate_delay", .delay .turn), ("start_rotating", .start .turn),
    ("stop_rotating", .stop .turn)]

/-- The action of a name. -/
def ofName? (name : String) : Option SpriteAction :=
  names.lookup name

/-- Whether an action says which script to start at the end of an animation. -/
def isAfterStop : SpriteAction → Bool
  | .afterStop _ => true
  | _ => false

end SpriteAction

/-! ## Instructions -/

/-- What a tag asks for. -/
inductive Instruction where
  /-- Load a sprite. -/
  | load (group : Group)
  /-- Do something with a sprite. -/
  | sprite (group : Group) (action : SpriteAction)
  /-- Show a background. -/
  | showBackground
  /-- Hide the background. -/
  | hideBackground
  /-- Play a sound. -/
  | play (channel : Channel)
  /-- Stop a channel, or all of them. -/
  | stop (channel : Option Channel)
  /-- Set the volume of a channel. -/
  | volume (channel : Channel)
  /-- Set the sound of appearing letters. -/
  | textSound
  /-- Take away the sound of appearing letters. -/
  | clearTextSound
  /-- Define the dialog. -/
  | defineDialog
  /-- Show the dialog. -/
  | showDialog
  /-- Hide the dialog. -/
  | closeDialog
  /-- Put the next line after the present one. -/
  | continueText
  /-- Keep the text when the story goes on. -/
  | keepText
  /-- Load a font. -/
  | loadFont
  /-- Use a font. -/
  | setFont
  /-- Move the text along the horizontal axis. -/
  | fontX
  /-- Move the text along the vertical axis. -/
  | fontY
  /-- Say how fast text gets opaque. -/
  | textFadeSpeed
  /-- Say how long to wait between letters. -/
  | textDelay
  /-- Say how long to wait after a punctuation mark. -/
  | punctuationDelay
  /-- Say how text appears. -/
  | textIntro
  /-- Wait for a click. -/
  | halt
  /-- Wait for some frames with the text. -/
  | haltAuto
  /-- Wait for some frames. -/
  | rest
  /-- Wait for an animation. -/
  | waitForAnimation
  /-- Start a reusable script. -/
  | call
  /-- Start a reusable script later. -/
  | after
  /-- Cancel a timer. -/
  | cancelAfter
  /-- Cancel all timers. -/
  | cancelAllAfter
  /-- Go to a scene. -/
  | scene
  /-- Go to a scene under a cover. -/
  | sceneWithFade
  /-- End the script. -/
  | exit
  /-- Open a block. -/
  | case
  /-- Give a block another condition. -/
  | orCase
  /-- Turn a block round. -/
  | caseElse
  /-- Close a block. -/
  | caseEnd
  /-- Set a variable. -/
  | setVariable
  deriving DecidableEq, Repr

namespace Instruction

/-- The names that stand for one instruction. -/
def names : List (String × Instruction) :=
  [("load_character", .load .character), ("load_object", .load .object),
    ("load_dialog_sprite", .load .dialogSprite), ("load_background", .load .background),
    ("background_show", .showBackground), ("background_hide", .hideBackground),
    ("play_sound", .play .fx), ("play_voice", .play .voice), ("play_music", .play .music),
    ("stop_fx", .stop (some .fx)), ("stop_voice", .stop (some .voice)),
    ("stop_music", .stop (some .music)), ("stop_all_audio", .stop none),
    ("volume_fx", .volume .fx), ("volume_voice", .volume .voice),
    ("volume_music", .volume .music), ("volume_text", .volume .text),
    ("dialog_text_sound", .textSound), ("dialog_text_sound_clear", .clearTextSound),
    ("text_dialog_define", .defineDialog), ("text_dialog_show", .showDialog),
    ("text_dialog_close", .closeDialog), ("continue", .continueText), ("no_clear", .keepText),
    ("load_font_sprite", .loadFont), ("font", .setFont), ("font_x", .fontX), ("font_y", .fontY),
    ("font_text_fade_speed", .textFadeSpeed), ("font_text_delay", .textDelay),
    ("font_text_delay_punc", .punctuationDelay), ("font_intro_animation", .textIntro),
    ("halt", .halt), ("halt_auto", .haltAuto), ("rest", .rest),
    ("wait_for_animation", .waitForAnimation), ("call", .call), ("after", .after),
    ("after_cancel", .cancelAfter), ("after_cancel_all", .cancelAllAfter), ("scene", .scene),
    ("scene_with_fade", .sceneWithFade), ("exit", .exit), ("case", .case), ("or_case", .orCase),
    ("case_else", .caseElse), ("case_end", .caseEnd), ("variable_set", .setVariable)]

/-- The groups that names of actions go with. -/
def actionGroups : List Group :=
  [.dialogSprite, .character, .object]

/-- What follows a text at the start of another. -/
def dropFront? : List Char → List Char → Option (List Char)
  | [], cs => some cs
  | _ :: _, [] => none
  | d :: ds, c :: cs => if d = c then dropFront? ds cs else none

/-- The action on a sprite of a group that a name stands for. -/
def actionOf? (name : String) (group : Group) : Option Instruction := do
  let rest ← dropFront? (group.name.toList ++ ['_']) name.toList
  let action ← SpriteAction.ofName? (String.ofList rest)
  return .sprite group action

/-- The instruction that a name stands for. -/
def ofName? (name : String) : Option Instruction :=
  match names.lookup name with
  | some instruction => some instruction
  | none => actionGroups.findSome? (actionOf? name)

end Instruction

end VisualNovel

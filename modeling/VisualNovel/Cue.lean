import VisualNovel.Dialog

/-!
# Cues

What an engine asks its host to do: show text, show or hide the dialog, play sounds, cover the
screen. Sprites are not among them, since the host reads them off the stage.
-/

namespace VisualNovel

open Json Number

/-! ## Sound -/

/-- The channels of sound. -/
inductive Channel where
  /-- Effects. -/
  | fx
  /-- Voices. -/
  | voice
  /-- Music, which is repeated. -/
  | music
  /-- The sound of appearing letters. -/
  | text
  deriving DecidableEq, Repr

namespace Channel

/-- All channels. -/
def all : List Channel :=
  [.fx, .voice, .music, .text]

/-- The name of a channel. -/
def name : Channel → String
  | .fx => "fx"
  | .voice => "voice"
  | .music => "music"
  | .text => "text"

/-- A channel in JSON. -/
def toJson (channel : Channel) : Json :=
  .text channel.name

/-- The channel in a JSON value. -/
def ofJson? (j : Json) : Option Channel :=
  j.bare? all name

end Channel

/-! ## Cues -/

/-- What the host is to do. -/
inductive Cue where
  /-- Show a line of text. -/
  | dialogText (line : String)
  /-- Change the looks of the dialog. -/
  | defineDialog (style : DialogStyle)
  /-- Show the dialog; if it is animated, report the end. -/
  | showDialog (animated : Bool)
  /-- Hide the dialog; if it is animated, report the end. -/
  | hideDialog (animated : Bool)
  /-- Let the text appear. -/
  | startTextAnimation
  /-- Let the rest of the text appear at once. -/
  | speedUpText
  /-- Take the text away. -/
  | clearText
  /-- Put the next line of text after the present one. -/
  | continueText (adjustY : Option Int)
  /-- Load a font. -/
  | loadFont (name : String)
  /-- Use a font. -/
  | setFont (name : String)
  /-- Move the text. -/
  | fontPosition (x y : Option Int)
  /-- How fast text gets opaque. -/
  | fontTextFadeSpeed (speed : Int)
  /-- The frames between two letters. -/
  | fontTextDelay (frames : Int)
  /-- The frames after a punctuation mark. -/
  | fontTextDelayPunc (previousLetter : String) (frames : Int)
  /-- How text appears. -/
  | fontIntroAnimation (animation : TextIntro)
  /-- Play a sound. -/
  | playAudio (channel : Channel) (name : String) (looped : Bool)
  /-- Stop a channel, or all of them. -/
  | stopAudio (channel : Option Channel)
  /-- Set the volume of a channel, between zero and one. -/
  | setVolume (channel : Channel) (volume : Single)
  /-- The sound of appearing letters, or none. -/
  | dialogTextSound (name : Option String)
  /-- Cover the screen and uncover it; report when it is covered, and the end. -/
  | coverScreen (color : String) (fadeInSpeed fadeOutSpeed holdFrames : Nat)
  /-- The story is over. -/
  | exit
  deriving DecidableEq, Repr

namespace Cue

/-- A cue in JSON. -/
def toJson : Cue → Json
  | .dialogText line => ofVariant "DialogText" [("text", .text line)]
  | .defineDialog style => ofVariant "DefineDialog" [("style", style.toJson)]
  | .showDialog animated => ofVariant "ShowDialog" [("animated", .bool animated)]
  | .hideDialog animated => ofVariant "HideDialog" [("animated", .bool animated)]
  | .startTextAnimation => .text "StartTextAnimation"
  | .speedUpText => .text "SpeedUpText"
  | .clearText => .text "ClearText"
  | .continueText adjustY => ofVariant "ContinueText" [("adjust_y", ofOption ofInt adjustY)]
  | .loadFont name => ofVariant "LoadFont" [("name", .text name)]
  | .setFont name => ofVariant "SetFont" [("name", .text name)]
  | .fontPosition x y =>
    ofVariant "FontPosition" [("x", ofOption ofInt x), ("y", ofOption ofInt y)]
  | .fontTextFadeSpeed speed => ofVariant "FontTextFadeSpeed" [("speed", ofInt speed)]
  | .fontTextDelay frames => ofVariant "FontTextDelay" [("frames", ofInt frames)]
  | .fontTextDelayPunc previousLetter frames =>
    ofVariant "FontTextDelayPunc" [("previous_letter", .text previousLetter),
      ("frames", ofInt frames)]
  | .fontIntroAnimation animation =>
    ofVariant "FontIntroAnimation" [("animation", .text animation.name)]
  | .playAudio channel name looped =>
    ofVariant "PlayAudio" [("channel", channel.toJson), ("name", .text name),
      ("looped", .bool looped)]
  | .stopAudio channel => ofVariant "StopAudio" [("channel", ofOption Channel.toJson channel)]
  | .setVolume channel volume =>
    ofVariant "SetVolume" [("channel", channel.toJson), ("volume", ofSingle volume)]
  | .dialogTextSound name => ofVariant "DialogTextSound" [("name", ofOption .text name)]
  | .coverScreen color fadeInSpeed fadeOutSpeed holdFrames =>
    ofVariant "CoverScreen" [("hex_color", .text color), ("fade_in_speed", ofNat fadeInSpeed),
      ("fade_out_speed", ofNat fadeOutSpeed), ("hold_frames", ofNat holdFrames)]
  | .exit => .text "Exit"

/-- The cue without fields that a name stands for. -/
def ofName? : String → Option Cue
  | "StartTextAnimation" => some .startTextAnimation
  | "SpeedUpText" => some .speedUpText
  | "ClearText" => some .clearText
  | "Exit" => some .exit
  | _ => none

/-- The cue with fields that a name stands for. -/
def ofFields? (name : String) (payload : Json) : Option Cue :=
  match name with
  | "DialogText" => do
    let fields ← payload.fields? ["text"]
    return .dialogText (← fields.required "text" text?)
  | "DefineDialog" => do
    let fields ← payload.fields? ["style"]
    return .defineDialog (← fields.required "style" DialogStyle.ofJson?)
  | "ShowDialog" => do
    let fields ← payload.fields? ["animated"]
    return .showDialog (← fields.required "animated" bool?)
  | "HideDialog" => do
    let fields ← payload.fields? ["animated"]
    return .hideDialog (← fields.required "animated" bool?)
  | "ContinueText" => do
    let fields ← payload.fields? ["adjust_y"]
    return .continueText (← fields.optional "adjust_y" signed?)
  | "LoadFont" => do
    let fields ← payload.fields? ["name"]
    return .loadFont (← fields.required "name" text?)
  | "SetFont" => do
    let fields ← payload.fields? ["name"]
    return .setFont (← fields.required "name" text?)
  | "FontPosition" => do
    let fields ← payload.fields? ["x", "y"]
    let x ← fields.optional "x" signed?
    let y ← fields.optional "y" signed?
    return .fontPosition x y
  | "FontTextFadeSpeed" => do
    let fields ← payload.fields? ["speed"]
    return .fontTextFadeSpeed (← fields.required "speed" signed?)
  | "FontTextDelay" => do
    let fields ← payload.fields? ["frames"]
    return .fontTextDelay (← fields.required "frames" signed?)
  | "FontTextDelayPunc" => do
    let fields ← payload.fields? ["previous_letter", "frames"]
    let previousLetter ← fields.required "previous_letter" text?
    let frames ← fields.required "frames" signed?
    return .fontTextDelayPunc previousLetter frames
  | "FontIntroAnimation" => do
    let fields ← payload.fields? ["animation"]
    return .fontIntroAnimation (← fields.required "animation" (bare? TextIntro.all TextIntro.name))
  | "PlayAudio" => do
    let fields ← payload.fields? ["channel", "name", "looped"]
    let channel ← fields.required "channel" Channel.ofJson?
    let name ← fields.required "name" text?
    let looped ← fields.required "looped" bool?
    return .playAudio channel name looped
  | "StopAudio" => do
    let fields ← payload.fields? ["channel"]
    return .stopAudio (← fields.optional "channel" Channel.ofJson?)
  | "SetVolume" => do
    let fields ← payload.fields? ["channel", "volume"]
    let channel ← fields.required "channel" Channel.ofJson?
    let volume ← fields.required "volume" single?
    return .setVolume channel volume
  | "DialogTextSound" => do
    let fields ← payload.fields? ["name"]
    return .dialogTextSound (← fields.optional "name" text?)
  | "CoverScreen" => do
    let fields ← payload.fields? ["hex_color", "fade_in_speed", "fade_out_speed", "hold_frames"]
    let color ← fields.required "hex_color" text?
    let fadeInSpeed ← fields.required "fade_in_speed" count?
    let fadeOutSpeed ← fields.required "fade_out_speed" count?
    let holdFrames ← fields.required "hold_frames" count?
    return .coverScreen color fadeInSpeed fadeOutSpeed holdFrames
  | _ => none

/-- The cue in a JSON value. -/
def ofJson? (j : Json) : Option Cue := do
  let (name, payload) ← j.variant?
  match ofName? name, payload with
  | some cue, payload => if isBare payload then some cue else none
  | none, some payload => ofFields? name payload
  | none, none => none

/-- The line of text that a cue shows. -/
def text? : Cue → Option String
  | .dialogText line => some line
  | _ => none

end Cue

end VisualNovel

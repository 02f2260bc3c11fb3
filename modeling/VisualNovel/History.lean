import VisualNovel.Json.Record

/-!
# History

What has happened in a story, for the reader to look back at: lines that were spoken, scenes that
began, reusable scripts that were started. Each event has the time at which it happened. The history
keeps a limited number of events and drops the oldest ones.
-/

namespace VisualNovel

open Json

/-- What can happen. -/
inductive Event where
  /-- A line was spoken. -/
  | spoken (content : String)
  /-- A scene began. -/
  | sceneChange (chapter scene : String)
  /-- A reusable script was started. -/
  | started (name : String)
  deriving DecidableEq, Repr

/-- An event and when it happened, in seconds. -/
structure Entry where
  /-- What happened. -/
  event : Event
  /-- When it happened. -/
  timestamp : Nat
  deriving DecidableEq, Repr

namespace Entry

/-- An entry in JSON. -/
def toJson (entry : Entry) : Json :=
  match entry.event with
  | .spoken content =>
    ofVariant "Dialogue" [("content", .text content), ("timestamp", ofNat entry.timestamp)]
  | .sceneChange chapter scene =>
    ofVariant "SceneChange" [("chapter", .text chapter), ("scene", .text scene),
      ("timestamp", ofNat entry.timestamp)]
  | .started name =>
    ofVariant "ReusableStarted" [("name", .text name), ("timestamp", ofNat entry.timestamp)]

/-- The entry in a JSON value. -/
def ofJson? (j : Json) : Option Entry := do
  match ← j.variant? with
  | ("Dialogue", some payload) =>
    let fields ← payload.fields? ["content", "timestamp"]
    let content ← fields.required "content" text?
    let timestamp ← fields.required "timestamp" size?
    return { event := .spoken content, timestamp }
  | ("SceneChange", some payload) =>
    let fields ← payload.fields? ["chapter", "scene", "timestamp"]
    let chapter ← fields.required "chapter" text?
    let scene ← fields.required "scene" text?
    let timestamp ← fields.required "timestamp" size?
    return { event := .sceneChange chapter scene, timestamp }
  | ("ReusableStarted", some payload) =>
    let fields ← payload.fields? ["name", "timestamp"]
    let name ← fields.required "name" text?
    let timestamp ← fields.required "timestamp" size?
    return { event := .started name, timestamp }
  | _ => none

/-- The line that was spoken. -/
def spoken? (entry : Entry) : Option String :=
  match entry.event with
  | .spoken content => some content
  | _ => none

end Entry

/-- The latest events. -/
structure History where
  /-- The events, oldest first. -/
  entries : List Entry := []
  /-- How many events are kept. -/
  limit : Nat := 1000
  deriving DecidableEq, Repr

namespace History

/-- The history with one more event. -/
def push (history : History) (entry : Entry) : History :=
  let entries := history.entries ++ [entry]
  { history with entries := entries.drop (entries.length - history.limit) }

/-- The history without events. -/
def clear (history : History) : History :=
  { history with entries := [] }

/-- The lines that were spoken, oldest first. -/
def spokenLines (history : History) : List String :=
  history.entries.filterMap Entry.spoken?

/-- The latest spoken lines, oldest first. -/
def latestSpoken (history : History) (count : Nat) : List String :=
  let lines := history.spokenLines
  lines.drop (lines.length - count)

/-- A history in JSON. -/
def toJson (history : History) : Json :=
  .object [
    ("events", .array (history.entries.map Entry.toJson)),
    ("max_events", ofNat history.limit)]

/-- The history in a JSON value. -/
def ofJson? (j : Json) : Option History := do
  let fields ← j.fields? ["events", "max_events"]
  let entries ← fields.required "events" (list? Entry.ofJson?)
  let limit ← fields.required "max_events" size?
  return { entries, limit }

end History

end VisualNovel

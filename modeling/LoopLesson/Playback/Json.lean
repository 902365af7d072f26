import LoopLesson.Json.Value
import LoopLesson.Lesson.Script
import LoopLesson.Playback.Event

/-!
Scripts, events and playbacks as JSON values.

A value is read from an object, in which fields of other names are passed over, or from a list that
gives the fields in their order.
-/

namespace LoopLesson

/-- Reads the value of a field that may be absent. -/
def Json.fieldOr? {α : Type} (absent : α) (read : Json → Option α) (name : String)
    (fields : List (String × Json)) : Option α :=
  match fields.lookup name with
  | none => some absent
  | some value => read value

/-- Reads the value of a field that has to be there. -/
def Json.requiredField? {α : Type} (read : Json → Option α) (name : String)
    (fields : List (String × Json)) : Option α :=
  (fields.lookup name).bind read

/-- The name of the one field of an object that has no other, if the field holds `null`. -/
def Json.bareName? : List (String × Json) → Option String
  | (name, .null) :: rest => if ∀ field ∈ rest, field.1 = name then some name else none
  | _ => none

namespace Script

def toJson (script : Script) : Json :=
  .object [("start", .text script.start), ("condition", .text script.condition),
    ("step", .text script.step), ("body", .text script.body)]

/-- Reads a script; parts that are absent are blank. -/
def ofJson? : Json → Option Script
  | .object fields => do
      let start ← Json.fieldOr? "" Json.text? "start" fields
      let condition ← Json.fieldOr? "" Json.text? "condition" fields
      let step ← Json.fieldOr? "" Json.text? "step" fields
      let body ← Json.fieldOr? "" Json.text? "body" fields
      return { start, condition, step, body }
  | .list items =>
      if items.length ≤ 4 then
        (items.mapM Json.text?).map fun texts =>
          { start := texts[0]?.getD ""
            condition := texts[1]?.getD ""
            step := texts[2]?.getD ""
            body := texts[3]?.getD "" }
      else
        none
  | _ => none

end Script

namespace Part

/-- The part that is at work, or `null` for none. -/
def optionToJson (highlight : Option Part) : Json := Json.ofOption (highlight.map name)

/-- Reads a part by its exact name, or none from `null`.  The name may also stand in an object, as
that of its one field. -/
def optionOfJson? : Json → Option (Option Part)
  | .null => some none
  | .text value => (ofName? value).map some
  | .object fields => ((Json.bareName? fields).bind ofName?).map some
  | _ => none

end Part

namespace Event

/-- A field that is left out when there is nothing to say. -/
def optionalField (name : String) : Option String → List (String × Json)
  | none => []
  | some value => [(name, .text value)]

def toJson (event : Event) : Json :=
  .object (("highlight", Part.optionToJson event.highlight) ::
    (optionalField "trace" event.trace ++ optionalField "console" event.console ++
      optionalField "counter" event.counter))

def ofJson? : Json → Option Event
  | .object fields => do
      let highlight ← Json.fieldOr? none Part.optionOfJson? "highlight" fields
      let trace ← Json.fieldOr? none Json.optionalText? "trace" fields
      let console ← Json.fieldOr? none Json.optionalText? "console" fields
      let counter ← Json.fieldOr? none Json.optionalText? "counter" fields
      return { highlight, trace, console, counter }
  | .list [highlight, trace, console, counter] => do
      return {
        highlight := ← Part.optionOfJson? highlight
        trace := ← Json.optionalText? trace
        console := ← Json.optionalText? console
        counter := ← Json.optionalText? counter }
  | _ => none

end Event

namespace Playback

def toJson (playback : Playback) : Json :=
  .object [("events", .list (playback.events.map Event.toJson)),
    ("trace_lines", .list (playback.traceLines.map .text)),
    ("console_lines", .list (playback.consoleLines.map .text)),
    ("final_counter", .text playback.finalCounter)]

/-- Reads a list of events. -/
def eventsOfJson? : Json → Option (List Event)
  | .list items => items.mapM Event.ofJson?
  | _ => none

def ofJson? : Json → Option Playback
  | .object fields => do
      let events ← Json.requiredField? eventsOfJson? "events" fields
      let traceLines ← Json.requiredField? Json.texts? "trace_lines" fields
      let consoleLines ← Json.requiredField? Json.texts? "console_lines" fields
      let finalCounter ← Json.requiredField? Json.text? "final_counter" fields
      return { events, traceLines, consoleLines, finalCounter }
  | .list [events, traceLines, consoleLines, finalCounter] => do
      return {
        events := ← eventsOfJson? events
        traceLines := ← Json.texts? traceLines
        consoleLines := ← Json.texts? consoleLines
        finalCounter := ← Json.text? finalCounter }
  | _ => none

end Playback

end LoopLesson

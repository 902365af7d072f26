import LoopLesson.Command.LogFilter
import LoopLesson.Lesson.Script
import LoopLesson.Yaml.Document

/-!
The settings of the program, and how settings and scripts are read from YAML documents.  What a
document leaves out keeps its default.
-/

namespace LoopLesson

/-- Reads a script; parts that are left out are blank. -/
def Script.ofYaml? (root : Yaml) : Option Script := do
  let entries ← root.entries? root
  let start ← Yaml.entryOr? "" root.text? "start" entries
  let condition ← Yaml.entryOr? "" root.text? "condition" entries
  let step ← Yaml.entryOr? "" root.text? "step" entries
  let body ← Yaml.entryOr? "" root.text? "body" entries
  return { start, condition, step, body }

/-- The settings of the program. -/
structure Settings where
  /-- The filter of the log. -/
  logLevel : Option String := some "info"
  colour : Bool := true
  showCounter : Bool := true
  /-- The wait before each frame of a tour, in milliseconds. -/
  frameDelay : Nat := 600
  /-- The wait before each step that needs no key, in milliseconds. -/
  autoAdvance : Nat := 400
deriving DecidableEq, Repr

namespace Settings

def default : Settings := {}

/-- The lines that warn of a filter of the log that cannot be understood. -/
def logWarnings (settings : Settings) : List String :=
  (settings.logLevel.map LogFilter.warnings).getD []

/-- Reads a section of settings that may be missing. -/
def sectionOr? {α : Type} (root : Yaml) (missing : α) (read : List (String × Yaml) → Option α) (key : String)
    (entries : List (String × Yaml)) : Option α :=
  Yaml.entryOr? missing (fun node => (root.entries? node).bind read) key entries

def ofYaml? (root : Yaml) : Option Settings := do
  let entries ← root.entries? root
  let logLevel ← Yaml.entryOr? default.logLevel root.optionalText? "log_level" entries
  let (colour, showCounter) ← sectionOr? root (default.colour, default.showCounter) (fun inside => do
    let colour ← Yaml.entryOr? default.colour root.boolean? "color" inside
    let showCounter ← Yaml.entryOr? default.showCounter root.boolean? "show_counter" inside
    return (colour, showCounter)) "display" entries
  let frameDelay ← sectionOr? root default.frameDelay
    (Yaml.entryOr? default.frameDelay root.natural? "frame_delay_ms") "animation" entries
  let autoAdvance ← sectionOr? root default.autoAdvance
    (Yaml.entryOr? default.autoAdvance root.natural? "auto_advance_ms") "playback" entries
  return { logLevel, colour, showCounter, frameDelay, autoAdvance }

end Settings

end LoopLesson

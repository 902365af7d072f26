import LoopLesson.Command.Display
import LoopLesson.Command.Folder
import LoopLesson.Command.Invocation
import LoopLesson.Command.LogFilter
import LoopLesson.Command.Settings
import LoopLesson.Playback.Json
import LoopLesson.Tour.Basic
import LoopLesson.Tutor.Basic

/-!
The program as a whole: what it prints and how it ends, as a function of its arguments, of the files
it finds and of the lines it is given.
-/

namespace LoopLesson

/-- Why a document cannot be used. -/
inductive DocumentFault where
  | unreadable (fault : ReadFault)
  /-- The text is none of those that the document may be, in the words of the reader of documents. -/
  | malformed (report : String)
deriving DecidableEq, Repr

/-- Why the program fails. -/
inductive ProgramFault where
  | settings (path : String) (fault : DocumentFault)
  | logging
  | script (path : String) (fault : DocumentFault)
  | run (kind : LoopKind) (fault : LessonFault)
  | step (kind : LoopKind) (fault : LessonFault)
  | input
deriving DecidableEq, Repr

/-- What went wrong, from the outermost description to the innermost. -/
def ProgramFault.chain : ProgramFault → List String
  | .settings path fault =>
      ["Failed to load configuration", "Failed to load config from " ++ path] ++
        match fault with
        | .unreadable cause => ["Failed to read config file", cause.message]
        | .malformed report => ["Failed to parse config file", report]
  | .logging =>
      ["Failed to setup logging", "Failed to create log directory", ReadFault.notDirectory.message]
  | .script path (.unreadable cause) =>
      ["Application failed", "Failed to read lesson file " ++ path, cause.message]
  | .script _ (.malformed report) => ["Application failed", "Failed to parse lesson file", report]
  | .run kind fault => ["Application failed", "Failed to run " ++ kind.name ++ " lesson", fault.message]
  | .step kind fault => ["Application failed", "Failed to step " ++ kind.name ++ " lesson", fault.message]
  | .input => ["Application failed", "Failed to read from stdin", ReadFault.notText.message]

/-- The lines that report a fault: what failed, and what caused it. -/
def ProgramFault.report (fault : ProgramFault) : List String :=
  match fault.chain with
  | [] => []
  | [failure] => ["Error: " ++ failure]
  | [failure, cause] => ["Error: " ++ failure, "", "Caused by:", "    " ++ cause]
  | failure :: causes =>
      ["Error: " ++ failure, "", "Caused by:"] ++ causes.zipIdx.map fun (cause, index) =>
        "    " ++ Number.naturalText index ++ ": " ++ cause

/-- How the program ends. -/
inductive Ending where
  | finished
  /-- The program would go on if it were given another line. -/
  | inputEnded
  | failed (fault : ProgramFault)
  | rejected
deriving DecidableEq, Repr

def Ending.exitCode : Ending → Nat
  | .finished | .inputEnded => 0
  | .failed _ => 1
  | .rejected => 2

/-- What the program does, in order, and how it ends. -/
structure Outcome where
  effects : List Effect
  ending : Ending
deriving DecidableEq, Repr

namespace Outcome

/-- Does something else first. -/
def after (effects : List Effect) (outcome : Outcome) : Outcome :=
  { outcome with effects := effects ++ outcome.effects }

/-- All that is printed on the first output. -/
def standardOutput (outcome : Outcome) : String :=
  String.join (outcome.effects.filterMap fun
    | .print line => some (line ++ "\n")
    | _ => none)

/-- All that is printed on the second output. -/
def standardError (outcome : Outcome) : String :=
  String.join (outcome.effects.filterMap fun
    | .complain line => some (line ++ "\n")
    | _ => none)

end Outcome

/-- What the program finds around it. -/
structure Surroundings where
  /-- The content of a file of the working directory. -/
  file : String → Except ReadFault ByteArray
  /-- The content of the settings file of the user. -/
  userSettings : Except ReadFault ByteArray
  /-- What the reader of documents says of a text that holds no settings. -/
  settingsReport : String → String
  /-- What the reader of documents says of a text that holds no script. -/
  scriptReport : String → String
  /-- The lines of the input; one that is no text is missing. -/
  input : List (Option String)
  /-- Whether no log can be kept. -/
  logBlocked : Bool
  /-- Whether the output shows colour before the settings say so. -/
  coloured : Bool

/-- The lines of a sequence of bytes, each with the line feed that ends it. -/
def byteLines : List UInt8 → List (List UInt8)
  | [] => []
  | byte :: rest =>
      if byte = 10 then [byte] :: byteLines rest
      else
        match byteLines rest with
        | [] => [[byte]]
        | line :: others =>
            (byte :: line) :: others

/-- The text of a sequence of bytes, if it is one. -/
def decodeText? (bytes : ByteArray) : Option String := String.fromUTF8? bytes

/-- The lines of an input. -/
def decodeLines (bytes : List UInt8) : List (Option String) :=
  (byteLines bytes).map fun line => decodeText? ⟨line.toArray⟩

/-- Reads a document from the content of a file. -/
def readDocument {α : Type} (report : String → String) (read : Yaml → Option α)
    (content : Except ReadFault ByteArray) : Except DocumentFault α :=
  match content with
  | .error fault => .error (.unreadable fault)
  | .ok bytes =>
      match decodeText? bytes with
      | none => .error (.unreadable .notText)
      | some text =>
          match (Yaml.read? text).bind read with
          | none => .error (.malformed (report text))
          | some value => .ok value

/-- The name of the settings file in the working directory. -/
def localSettingsFile : String := "looplab.yml"

/-- The settings of a run.  A file that was asked for has to be usable; otherwise the first usable
one of the user's file and the local file counts. -/
def findSettings (surroundings : Surroundings) (asked : Option String) :
    Except ProgramFault Settings :=
  let readSettings := readDocument surroundings.settingsReport Settings.ofYaml?
  match asked with
  | some path => (readSettings (surroundings.file path)).mapError (.settings path)
  | none =>
      match readSettings surroundings.userSettings with
      | .ok settings => .ok settings
      | .error _ =>
          match readSettings (surroundings.file localSettingsFile) with
          | .ok settings => .ok settings
          | .error _ => .ok .default

/-- The script that a file holds. -/
def readScript (surroundings : Surroundings) (path : String) : Except DocumentFault Script :=
  readDocument surroundings.scriptReport Script.ofYaml? (surroundings.file path)

/-- Loads the script that the options describe. -/
def loadScript (surroundings : Surroundings) (kind : LoopKind) (options : ScriptOptions)
    (tutor : Tutor) : Except ProgramFault (Tutor × List Notice) := do
  let (loaded, notices) ← match options.file with
    | none => pure (tutor, [])
    | some path =>
        match readScript surroundings path with
        | .error fault => throw (.script path fault)
        | .ok script =>
            let reaction := tutor.load kind script
            pure (reaction.tutor, reaction.notices)
  return options.overrides.foldl (fun (tutor, notices) (part, text) =>
    let reaction := tutor.edit kind part text
    (reaction.tutor, notices ++ reaction.notices)) (loaded, notices)

namespace Program

/-- Plays a lesson at once and prints it. -/
def run (surroundings : Surroundings) (display : Display) (kind : LoopKind)
    (options : ScriptOptions) : Outcome :=
  match loadScript surroundings kind options .initial with
  | .error fault => { effects := [], ending := .failed fault }
  | .ok (tutor, notices) =>
      let reaction := tutor.run kind
      { effects := display.notices notices ++ .print (display.paint .bold kind.title) ::
          display.notices reaction.notices
        ending := match reaction.answer with
          | .refused fault => .failed (.run kind fault)
          | _ => .finished }

/-- Plays a lesson at once and prints it as JSON. -/
def runJson (surroundings : Surroundings) (kind : LoopKind) (options : ScriptOptions) : Outcome :=
  match loadScript surroundings kind options .initial with
  | .error fault => { effects := [], ending := .failed fault }
  | .ok (tutor, _) =>
      match (tutor.run kind).answer with
      | .played playback => { effects := [.print (playback.toJson.pretty 0)], ending := .finished }
      | .refused fault =>
          { effects := [.print ((Json.object [("error", .text fault.message)]).pretty 0)]
            ending := .failed (.run kind fault) }
      | _ => { effects := [], ending := .finished }

/-- Reveals one event and prints it.  The answer tells whether more may follow. -/
def reveal (display : Display) (kind : LoopKind) (tutor : Tutor) : Tutor × List Effect × Bool :=
  let reaction := tutor.advance kind
  match reaction.answer with
  | .revealed (some frame) =>
      (reaction.tutor, display.notices reaction.notices ++ display.frame frame, !frame.isLast)
  | _ => (reaction.tutor, display.notices reaction.notices, false)

/-- Reveals one event for each line of the input. -/
def stepByLines (display : Display) (kind : LoopKind) : Tutor → List (Option String) → Outcome
  | _, [] => { effects := [], ending := .inputEnded }
  | _, none :: _ => { effects := [], ending := .failed .input }
  | tutor, some _ :: rest =>
      let (next, effects, more) := reveal display kind tutor
      if more then (stepByLines display kind next rest).after effects
      else { effects, ending := .finished }

/-- Reveals so many events, with a wait before each. -/
def stepByTime (display : Display) (kind : LoopKind) (delay : Nat) : Nat → Tutor → Outcome
  | 0, _ => { effects := [], ending := .finished }
  | count + 1, tutor =>
      let (next, effects, more) := reveal display kind tutor
      if more then (stepByTime display kind delay count next).after (.pause delay :: effects)
      else { effects := .pause delay :: effects, ending := .finished }

/-- What is said before the first step. -/
def stepHint (total : Nat) : String :=
  Number.naturalText total ++ " steps. Press Enter to advance."

/-- Steps through a lesson. -/
def step (surroundings : Surroundings) (settings : Settings) (display : Display) (kind : LoopKind)
    (options : ScriptOptions) (auto : Bool) : Outcome :=
  match loadScript surroundings kind options .initial with
  | .error fault => { effects := [], ending := .failed fault }
  | .ok (tutor, notices) =>
      let reaction := tutor.step kind
      let opening := display.notices notices ++ .print (display.paint .bold kind.title) ::
        display.notices reaction.notices
      match reaction.answer with
      | .begun total =>
          if auto then
            (stepByTime display kind settings.autoAdvance total reaction.tutor).after opening
          else
            (stepByLines display kind reaction.tutor surroundings.input).after
              (opening ++ [.print (display.paint .dimmed (stepHint total))])
      | .refused fault => { effects := opening, ending := .failed (.step kind fault) }
      | _ => { effects := opening, ending := .finished }

/-- Highlights a part of a lesson and explains it. -/
def explain (display : Display) (kind : LoopKind) (part : Part) : Outcome :=
  let reaction := Tutor.initial.select kind part
  { effects := display.notices reaction.notices ++
      [.print (display.paint .cyan ((reaction.tutor.lesson kind).script.get part)),
        .print (kind.explanation part)]
    ending := .finished }

/-- A text with blanks in front of it, at least so wide. -/
def alignRight (width : Nat) (text : String) : String :=
  String.ofList (List.replicate (width - text.length) ' ') ++ text

/-- Prints the script that a lesson starts from. -/
def defaults (coloured : Bool) (kind : LoopKind) : Outcome where
  effects := .print (Ink.bold.paint coloured kind.title) :: Part.all.map fun part =>
    .print (Ink.cyan.paint coloured (alignRight 10 part.name) ++ "  " ++ kind.defaultScript.get part)
  ending := .finished

/-- Shows a tour of a lesson. -/
def animate (display : Display) (kind : LoopKind) (delay : Nat) : Outcome :=
  let begun := Tutor.initial.beginTour kind
  { effects := display.notices begun.notices ++
      Tour.frames.flatMap (fun frame =>
        .pause delay :: display.notices (begun.tutor.showTourFrame kind frame).notices) ++
      display.notices (begun.tutor.finishTour kind).notices
    ending := .finished }

/-- Carries out a command. -/
def perform (surroundings : Surroundings) (settings : Settings) (command : Command) : Outcome :=
  let display : Display := { coloured := settings.colour, showCounter := settings.showCounter }
  match command with
  | .run kind options json =>
      if json then runJson surroundings kind options else run surroundings display kind options
  | .step kind options auto => step surroundings settings display kind options auto
  | .explain kind part => explain display kind part
  | .defaults kind => defaults surroundings.coloured kind
  | .animate kind delay => animate display kind (delay.getD settings.frameDelay)

/-- Finds the settings, opens the log, and carries out a command. -/
def invoke (surroundings : Surroundings) (invocation : Invocation) : Outcome :=
  match findSettings surroundings invocation.config with
  | .error fault => { effects := [], ending := .failed fault }
  | .ok settings =>
      if surroundings.logBlocked then
        { effects := [], ending := .failed .logging }
      else
        (perform surroundings settings invocation.command).after
          (settings.logWarnings.map .complain ++
            if invocation.verbose then
              [.print (Ink.yellow.paint surroundings.coloured "Verbose mode enabled")] else [])

def versionText : String := "looplab 0.1.0"

def usageText : String :=
  "Usage: looplab [-c FILE] [-v] run|step|explain|defaults|animate LESSON [OPTIONS]"

/-- The whole program. -/
def outcome (surroundings : Surroundings) (arguments : List String) : Outcome :=
  match Invocation.read arguments with
  | .ok invocation => invoke surroundings invocation
  | .error .version => { effects := [.print versionText], ending := .finished }
  | .error .help => { effects := [.print usageText], ending := .finished }
  | .error .rejected => { effects := [.complain usageText], ending := .rejected }

/-- The files of the working directory that an invocation may read. -/
def filesRead (arguments : List String) : List String :=
  match Invocation.read arguments with
  | .error _ => []
  | .ok invocation =>
      invocation.config.getD localSettingsFile ::
        match invocation.command with
        | .run _ options _ | .step _ options _ => options.file.toList
        | _ => []

end Program

end LoopLesson

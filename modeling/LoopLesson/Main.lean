import LoopLesson.Command.Program

/-!
The command line program.  It reads the files and lines that the program asks for, and carries out
what the program says.
-/

namespace LoopLesson
namespace Terminal

/-- The content of a file, or why there is none. -/
def fileContent (path : String) : IO (Except ReadFault ByteArray) := do
  try
    return .ok (← IO.FS.readBinFile path)
  catch
    | .noFileOrDirectory .. => return .error .notFound
    | .inappropriateType _ code _ => return .error (if code = 20 then .notDirectory else .isDirectory)
    | error => return .error (.other (toString error))

/-- A directory of the user, from its variable or below the home directory. -/
def userDirectory (variableName below : String) : IO (Option String) := do
  match ← IO.getEnv variableName with
  | some path => return some path
  | none => return (← IO.getEnv "HOME").map fun home => home ++ below

def userSettingsContent : IO (Except ReadFault ByteArray) := do
  match ← userDirectory "XDG_CONFIG_HOME" "/.config" with
  | none => return .error .notFound
  | some directory => fileContent (directory ++ "/looplab/looplab.yml")

/-- Makes the directory for the log; the answer is whether that failed. -/
def openLog : IO Bool := do
  let directory := (← userDirectory "XDG_DATA_HOME" "/.local/share").getD "."
  try
    IO.FS.createDirAll (directory ++ "/looplab/logs")
    return false
  catch _ => return true

/-- The bytes of the next line of the input. -/
partial def nextBytes (input : IO.FS.Stream) (line : List UInt8) : IO (List UInt8) := do
  let bytes := (← input.read 1).toList
  if bytes.isEmpty || bytes.contains 10 then
    return line ++ bytes
  nextBytes input (line ++ bytes)

/-- The next line of the input, or none at its end. -/
def nextLine (input : IO.FS.Stream) : IO (Option (Option String)) := do
  return (decodeLines (← nextBytes input [])).head?

/-- Waits, for no longer than a single sleep may last at a time. -/
partial def pause (milliseconds : Nat) : IO Unit := do
  let first := min milliseconds (UInt32.size - 1)
  IO.sleep first.toUInt32
  if first < milliseconds then
    pause (milliseconds - first)

def carryOut (output errors : IO.FS.Stream) : Effect → IO Unit
  | .print line => do
      output.putStr (line ++ "\n")
      output.flush
  | .complain line => errors.putStr (line ++ "\n")
  | .pause milliseconds => pause milliseconds

/-- Runs the program with the lines read so far, and again with one more as long as it asks for it.
What it did before is not done again. -/
partial def converse (surroundings : Surroundings) (arguments : List String) (input output errors : IO.FS.Stream)
    (lines : List (Option String)) (done : Nat) : IO UInt32 := do
  let outcome := Program.outcome { surroundings with input := lines } arguments
  for effect in outcome.effects.drop done do
    carryOut output errors effect
  match outcome.ending with
  | .inputEnded =>
      match ← nextLine input with
      | some line =>
          converse surroundings arguments input output errors (lines ++ [line]) outcome.effects.length
      | none => return outcome.ending.exitCode.toUInt32
  | .failed fault =>
      for line in fault.report do
        errors.putStr (line ++ "\n")
      return outcome.ending.exitCode.toUInt32
  | .finished | .rejected => return outcome.ending.exitCode.toUInt32

end Terminal
end LoopLesson

open LoopLesson Terminal in
def main (arguments : List String) : IO UInt32 := do
  let output ← IO.getStdout
  let files ← (Program.filesRead arguments).mapM fun path => do return (path, ← fileContent path)
  let surroundings : Surroundings :=
    { file := fun path => (files.lookup path).getD (.error .notFound)
      userSettings := ← userSettingsContent
      settingsReport := fun _ => "the document holds no settings"
      scriptReport := fun _ => "the document holds no script"
      input := []
      logBlocked := ← openLog
      coloured := ← output.isTty }
  converse surroundings arguments (← IO.getStdin) output (← IO.getStderr) [] 0

import LoopLesson.Lesson.Kind
import LoopLesson.Lesson.Script
import LoopLesson.Number.Integer

/-!
The command line: what the program can be asked to do, and how the arguments ask for it.

Options that concern every command may stand before or after the name of the command, once in each
place.  Any other option may be given once.  A value stands after its option, or is joined to it; a
separate value may not look like an option.
-/

namespace LoopLesson

/-- Where the script of a lesson is taken from. -/
structure ScriptOptions where
  file : Option String := none
  start : Option String := none
  condition : Option String := none
  step : Option String := none
  body : Option String := none
deriving DecidableEq, Repr

/-- The parts that are given one by one, in order. -/
def ScriptOptions.overrides (options : ScriptOptions) : List (Part × String) :=
  [(Part.start, options.start), (.condition, options.condition), (.step, options.step),
    (.body, options.body)].filterMap fun (part, text) => text.map fun text => (part, text)

/-- What the program is asked to do. -/
inductive Command where
  | run (kind : LoopKind) (script : ScriptOptions) (json : Bool)
  | step (kind : LoopKind) (script : ScriptOptions) (auto : Bool)
  | explain (kind : LoopKind) (part : Part)
  | defaults (kind : LoopKind)
  | animate (kind : LoopKind) (delay : Option Nat)
deriving DecidableEq, Repr

/-- A command with the options that concern every command. -/
structure Invocation where
  config : Option String
  verbose : Bool
  command : Command
deriving DecidableEq, Repr

/-- Why the arguments describe no invocation. -/
inductive Halt where
  /-- The arguments make no sense. -/
  | rejected
  /-- Only the version is asked for. -/
  | version
  /-- Only help is asked for. -/
  | help
deriving DecidableEq, Repr

/-- What an option is followed by. -/
inductive OptionForm where
  | flag
  | value
  /-- A value that is not empty. -/
  | path
  /-- Nothing, for it ends the reading of arguments. -/
  | halt (reason : Halt)
deriving DecidableEq, Repr

/-- An option that may be given. -/
structure OptionSpec where
  name : String
  letter : Option Char := none
  form : OptionForm
deriving DecidableEq, Repr

/-- The options and words that were given in one place. -/
structure Given where
  options : List (String × String) := []
  words : List String := []
  /-- An option whose value is still to come. -/
  awaiting : Option OptionSpec := none

namespace Given

/-- Notes an option with its value, which is empty for a flag. -/
def note (given : Given) (spec : OptionSpec) (value : String) : Except Halt Given :=
  if given.options.any fun option => option.1 = spec.name then .error .rejected
  else if spec.form = .path ∧ value = "" then .error .rejected
  else .ok { given with options := given.options ++ [(spec.name, value)], awaiting := none }

/-- Notes an option with no value joined to it. -/
def begin (given : Given) (spec : OptionSpec) : Except Halt Given :=
  match spec.form with
  | .flag => given.note spec ""
  | .halt reason => .error reason
  | .value | .path => .ok { given with awaiting := some spec }

/-- Notes an option with a value joined to it. -/
def join (given : Given) (spec : OptionSpec) (value : String) : Except Halt Given :=
  match spec.form with
  | .flag | .halt _ => .error .rejected
  | .value | .path => given.note spec value

def isGiven (given : Given) (name : String) : Bool :=
  given.options.any fun option => option.1 = name

def value? (given : Given) (name : String) : Option String := given.options.lookup name

/-- Reads the letters after a single dash. -/
def letters (specs : List OptionSpec) : Given → List Char → Except Halt Given
  | given, [] => .ok given
  | given, c :: rest =>
      match specs.find? fun spec => spec.letter = some c with
      | none => .error .rejected
      | some spec =>
          match spec.form with
          | .flag => (given.begin spec).bind fun next => letters specs next rest
          | .halt reason => .error reason
          | .value | .path =>
              match rest with
              | [] => given.begin spec
              | d :: tail =>
                  given.join spec (String.ofList (if d = '=' then tail else d :: tail))

/-- Reads what follows two dashes. -/
def long (specs : List OptionSpec) (given : Given) (text : List Char) : Except Halt Given :=
  let name := text.takeWhile (· ≠ '=')
  match specs.find? fun spec => spec.name = String.ofList name with
  | none => .error .rejected
  | some spec =>
      match text.dropWhile (· ≠ '=') with
      | [] => given.begin spec
      | _ :: value => given.join spec (String.ofList value)

end Given

/-- Whether an argument looks like an option.  A single dash does not. -/
def looksLikeOption : List Char → Bool
  | '-' :: _ :: _ => true
  | _ => false

/-- Reads the options up to the first word, and gives back the arguments from that word on. -/
def leadingOptions (specs : List OptionSpec) :
    Given → List String → Except Halt (Given × List String)
  | given, [] => if given.awaiting.isSome then .error .rejected else .ok (given, [])
  | given, argument :: rest =>
      match given.awaiting with
      | some spec =>
          if looksLikeOption argument.toList then .error .rejected
          else (given.note spec argument).bind fun next => leadingOptions specs next rest
      | none =>
          match argument.toList with
          | ['-', '-'] => .error .rejected
          | '-' :: '-' :: text =>
              (given.long specs text).bind fun next => leadingOptions specs next rest
          | '-' :: c :: text =>
              (given.letters specs (c :: text)).bind fun next => leadingOptions specs next rest
          | _ => .ok (given, argument :: rest)

/-- Reads options and words in any order; after two dashes there are only words. -/
def optionsAndWords (specs : List OptionSpec) : Given → List String → Except Halt Given
  | given, [] => if given.awaiting.isSome then .error .rejected else .ok given
  | given, argument :: rest =>
      match given.awaiting with
      | some spec =>
          if looksLikeOption argument.toList then .error .rejected
          else (given.note spec argument).bind fun next => optionsAndWords specs next rest
      | none =>
          match argument.toList with
          | ['-', '-'] => .ok { given with words := given.words ++ rest }
          | '-' :: '-' :: text =>
              (given.long specs text).bind fun next => optionsAndWords specs next rest
          | '-' :: c :: text =>
              (given.letters specs (c :: text)).bind fun next => optionsAndWords specs next rest
          | _ => optionsAndWords specs { given with words := given.words ++ [argument] } rest

/-- The options that concern every command. -/
def sharedOptions : List OptionSpec :=
  [{ name := "config", letter := some 'c', form := .path },
    { name := "verbose", letter := some 'v', form := .flag },
    { name := "help", letter := some 'h', form := .halt .help }]

def programOptions : List OptionSpec :=
  { name := "version", letter := some 'V', form := .halt .version } :: sharedOptions

def scriptOptions : List OptionSpec :=
  [{ name := "file", letter := some 'f', form := .path }, { name := "start", form := .value },
    { name := "condition", form := .value }, { name := "step", form := .value },
    { name := "body", form := .value }]

def ScriptOptions.ofGiven (given : Given) : ScriptOptions where
  file := given.value? "file"
  start := given.value? "start"
  condition := given.value? "condition"
  step := given.value? "step"
  body := given.value? "body"

/-- Takes a name that has to be known. -/
def known {α : Type} (result : Except NameFault α) : Except Halt α :=
  result.mapError fun _ => .rejected

/-- The only word that was given, as a kind of loop. -/
def Given.kind (given : Given) : Except Halt LoopKind :=
  match given.words with
  | [word] => known (LoopKind.read word)
  | _ => .error .rejected

/-- Reads a wait in milliseconds, which has at most 64 bits. -/
def milliseconds (text : String) : Except Halt Nat :=
  let digits := match text.toList with
    | '+' :: rest => rest
    | other => other
  if digits ≠ [] ∧ digits.all Char.isDigit ∧ Number.FitsUnsignedWord (Nat.ofDigitChars 10 digits 0) then
    .ok (Nat.ofDigitChars 10 digits 0)
  else .error .rejected

/-- Reads the arguments after the name of a command. -/
def readCommand (name : String) (arguments : List String) : Except Halt (Given × Command) := do
  match name with
  | "run" =>
      let given ← optionsAndWords
        ({ name := "json", form := .flag } :: scriptOptions ++ sharedOptions) {} arguments
      return (given, .run (← given.kind) (.ofGiven given) (given.isGiven "json"))
  | "step" =>
      let given ← optionsAndWords
        ({ name := "auto", letter := some 'a', form := .flag } :: scriptOptions ++ sharedOptions) {} arguments
      return (given, .step (← given.kind) (.ofGiven given) (given.isGiven "auto"))
  | "explain" =>
      let given ← optionsAndWords sharedOptions {} arguments
      match given.words with
      | [kind, part] => return (given, .explain (← known (LoopKind.read kind)) (← known (Part.read part)))
      | _ => throw .rejected
  | "defaults" =>
      let given ← optionsAndWords sharedOptions {} arguments
      return (given, .defaults (← given.kind))
  | "animate" =>
      let given ← optionsAndWords
        ({ name := "delay-ms", letter := some 'd', form := .value } :: sharedOptions) {} arguments
      let kind ← given.kind
      match given.value? "delay-ms" with
      | none => return (given, .animate kind none)
      | some text => return (given, .animate kind (some (← milliseconds text)))
  | _ => throw .rejected

/-- Reads the arguments of the program. -/
def Invocation.read (arguments : List String) : Except Halt Invocation := do
  match ← leadingOptions programOptions {} arguments with
  | (_, []) => throw .rejected
  | (before, name :: rest) =>
      let (after, command) ← readCommand name rest
      return {
        config := (after.value? "config").or (before.value? "config")
        verbose := before.isGiven "verbose" || after.isGiven "verbose"
        command }

end LoopLesson

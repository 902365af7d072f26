import LoopLesson.Pattern.Meaning
import LoopLesson.Text.Blank
import LoopLesson.Text.Search

/-!
The filter of the log: which messages of which part of the program are kept.

A filter is a list of directives between commas.  A directive is a level, the name of a part, or a
name and a level with an equals sign between them.  After a slash there may be a pattern that every
message has to match.  What cannot be understood is passed over with a warning.
-/

namespace LoopLesson

open Text

/-- Something in a filter that cannot be understood. -/
inductive LogFilterFault where
  | slashes (filter : List Char)
  | directive (text : List Char)
  | pattern (report : String)
deriving DecidableEq, Repr

def LogFilterFault.message : LogFilterFault → String
  | .slashes filter => "invalid logging spec '" ++ String.ofList filter ++ "' (too many '/'s)"
  | .directive text => "invalid logging spec '" ++ String.ofList text ++ "'"
  | .pattern report => "invalid regex filter - " ++ report

namespace LogFilter

/-- The names of the levels. -/
def levels : List String := ["off", "error", "warn", "info", "debug", "trace"]

/-- Whether a text names a level; capital letters do not matter. -/
def isLevel (text : List Char) : Bool := levels.contains (String.ofList (text.map Char.toLower))

/-- What is wrong with a directive without the blanks around it. -/
def directiveFault? (directive : List Char) : Option LogFilterFault :=
  match pieces '=' directive with
  | (_, []) => none
  | (_, [level]) =>
      if trim level = [] ∨ isLevel (trim level) then none else some (.directive (trim level))
  | _ => some (.directive directive)

/-- All that is wrong with a list of directives. -/
def directiveFaults (directives : List Char) : List LogFilterFault :=
  let (first, others) := pieces ',' directives
  (first :: others).filterMap fun directive => directiveFault? (trim directive)

/-- All that is wrong with a filter. -/
def faults (filter : List Char) : List LogFilterFault :=
  match pieces '/' filter with
  | (directives, []) => directiveFaults directives
  | (directives, [pattern]) =>
      directiveFaults directives ++ ((Pattern.problem? pattern).map LogFilterFault.pattern).toList
  | _ => [.slashes filter]

/-- The lines that warn of what is wrong with a filter. -/
def warnings (filter : String) : List String :=
  (faults filter.toList).map fun fault => "warning: " ++ fault.message ++ ", ignoring it"

end LogFilter

end LoopLesson

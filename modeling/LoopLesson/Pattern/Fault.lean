import LoopLesson.Number.Integer
import LoopLesson.Text.Search

/-!
Why a pattern cannot be understood, and how that is shown: the lines of the pattern, marks under the
characters that are to blame, and the reason.
-/

namespace LoopLesson

/-- What is wrong with a pattern. -/
inductive PatternCause where
  | classEscape
  | classRange
  | classBoundary
  | classUnclosed
  | numberTooLarge
  | hexadecimalEmpty
  | hexadecimalInvalid
  | hexadecimalDigit
  | escapeEnd
  | escapeUnknown
  | flagNegationDangling
  | flagRepeated
  | flagNegationRepeated
  | flagEnd
  | flagUnknown
  | groupNameRepeated
  | groupNameEmpty
  | groupNameCharacter
  | groupNameEnd
  | groupUnclosed
  | groupUnopened
  | countRange
  | countEmpty
  | countUnclosed
  | nothingToRepeat
  | boundaryUnclosed
  | boundaryUnknown
  | boundaryEnd
  | propertyInvalid
  | backreference
  | lookAround
  | nestingTooDeep
  | propertyUnknown
  | propertyValueUnknown
  | unicodeNotAllowed
  | invalidText
deriving DecidableEq, Repr

/-- The greatest depth of parts inside parts. -/
def PatternCause.nestingLimit : Nat := 250

def PatternCause.message : PatternCause → String
  | .classEscape => "invalid escape sequence found in character class"
  | .classRange => "invalid character class range, the start must be <= the end"
  | .classBoundary => "invalid range boundary, must be a literal"
  | .classUnclosed => "unclosed character class"
  | .numberTooLarge => "decimal literal invalid"
  | .hexadecimalEmpty => "hexadecimal literal empty"
  | .hexadecimalInvalid => "hexadecimal literal is not a Unicode scalar value"
  | .hexadecimalDigit => "invalid hexadecimal digit"
  | .escapeEnd => "incomplete escape sequence, reached end of pattern prematurely"
  | .escapeUnknown => "unrecognized escape sequence"
  | .flagNegationDangling => "dangling flag negation operator"
  | .flagRepeated => "duplicate flag"
  | .flagNegationRepeated => "flag negation operator repeated"
  | .flagEnd => "expected flag but got end of regex"
  | .flagUnknown => "unrecognized flag"
  | .groupNameRepeated => "duplicate capture group name"
  | .groupNameEmpty => "empty capture group name"
  | .groupNameCharacter => "invalid capture group character"
  | .groupNameEnd => "unclosed capture group name"
  | .groupUnclosed => "unclosed group"
  | .groupUnopened => "unopened group"
  | .countRange => "invalid repetition count range, the start must be <= the end"
  | .countEmpty => "repetition quantifier expects a valid decimal"
  | .countUnclosed => "unclosed counted repetition"
  | .nothingToRepeat => "repetition operator missing expression"
  | .boundaryUnclosed =>
      "special word boundary assertion is either unclosed or contains an invalid character"
  | .boundaryUnknown =>
      "unrecognized special word boundary assertion, valid choices are: start, end, start-half " ++
        "or end-half"
  | .boundaryEnd =>
      "found either the beginning of a special word boundary or a bounded repetition on a \\b " ++
        "with an opening brace, but no closing brace"
  | .propertyInvalid => "invalid Unicode character class"
  | .backreference => "backreferences are not supported"
  | .lookAround => "look-around, including look-ahead and look-behind, is not supported"
  | .nestingTooDeep =>
      "exceed the maximum number of nested parentheses/brackets (" ++
        Number.naturalText PatternCause.nestingLimit ++ ")"
  | .propertyUnknown => "Unicode property not found"
  | .propertyValueUnknown => "Unicode property value not found"
  | .unicodeNotAllowed => "Unicode not allowed here"
  | .invalidText => "pattern can match invalid UTF-8"

/-- A part of a pattern, from the number of characters before it to the number up to its end. -/
structure PatternSpan where
  start : Nat
  stop : Nat
deriving DecidableEq, Repr

/-- What is wrong with a pattern, and which characters show it. -/
structure PatternFault where
  cause : PatternCause
  span : PatternSpan
  /-- An earlier part of the pattern that it clashes with. -/
  earlier : Option PatternSpan := none
deriving DecidableEq, Repr

/-- A line and a column, both counted from one. -/
structure LinePlace where
  line : Nat
  column : Nat
deriving DecidableEq, Repr

namespace PatternFault

/-- The line and the column after so many characters. -/
def linePlace (pattern : List Char) (offset : Nat) : LinePlace :=
  let before := pattern.take offset
  { line := before.count '\n' + 1
    column := (before.reverse.takeWhile (· ≠ '\n')).length + 1 }

/-- A line without the carriage return before its end. -/
def withoutReturn (line : List Char) : List Char :=
  if line.getLast? = some '\r' then line.dropLast else line

/-- The lines of a pattern.  After a final break there is none. -/
def lines (pattern : List Char) : List (List Char) :=
  let (first, others) := Text.pieces '\n' pattern
  let complete := (first :: others).dropLast.map withoutReturn
  let final := (first :: others).getLast (by simp)
  if final = [] then complete else complete ++ [final]

/-- The width of line numbers; a single line has none. -/
def numberWidth (pattern : List Char) : Nat :=
  if pattern.contains '\n' then
    (Number.naturalText (pattern.count '\n' + 1)).length
  else
    0

/-- Marks under parts of a line, after so many columns. -/
def marks (done : Nat) : List (LinePlace × LinePlace) → List Char
  | [] => []
  | (start, stop) :: rest =>
      let width := max 1 (stop.column - start.column)
      List.replicate (start.column - 1 - done) ' ' ++ List.replicate width '^' ++
        marks (max done (start.column - 1) + width) rest

/-- A line with what stands before it, and the marks under it. -/
def markedLine (width : Nat) (spans : List (LinePlace × LinePlace)) (index : Nat)
    (line : List Char) : List Char :=
  let number := (Number.naturalText (index + 1)).toList
  let before :=
    if width = 0 then [' ', ' ', ' ', ' ']
    else List.replicate (width - number.length) ' ' ++ number ++ [':', ' ']
  let inside := spans.filter fun span => span.1.line = index + 1
  before ++ line ++ ['\n'] ++
    if inside = [] then [] else List.replicate before.length ' ' ++ marks 0 inside ++ ['\n']

/-- Says where a part of more than one line stands. -/
def lineNote (span : LinePlace × LinePlace) : String :=
  "on line " ++ Number.naturalText span.1.line ++
    " (column " ++ Number.naturalText span.1.column ++
    ") through line " ++ Number.naturalText span.2.line ++
    " (column " ++ Number.naturalText (span.2.column - 1) ++ ")"

/-- The report on a pattern. -/
def report (pattern : List Char) (fault : PatternFault) : String :=
  let spans := (fault.earlier.toList ++ [fault.span]).map fun span =>
    (linePlace pattern span.start, linePlace pattern span.stop)
  let within := spans.filter fun span => span.1.line = span.2.line
  let across := spans.filter fun span => span.1.line ≠ span.2.line
  let shown := String.ofList
    ((lines pattern).mapIdx (markedLine (numberWidth pattern) within)).flatten
  let divider := String.ofList (List.replicate 79 '~') ++ "\n"
  "regex parse error:\n" ++
    (if pattern.contains '\n' then
      divider ++ shown ++ divider ++ String.join (across.map fun span => lineNote span ++ "\n")
    else
      shown) ++
    "error: " ++ fault.cause.message

end PatternFault

end LoopLesson

import LoopLesson.Pattern.Bracket
import LoopLesson.Pattern.Group
import LoopLesson.Pattern.Repetition

/-!
The syntax of patterns: alternatives of sequences of characters, sets of characters, groups and
assertions, which may be repeated.

A pattern is read from left to right up to the first fault.  The depth of the tree is looked at when
it is complete.
-/

namespace LoopLesson
namespace Pattern

/-- A sequence of parts, as far as it has been read. -/
structure Sequence where
  start : Nat
  /-- The parts, latest first. -/
  parts : List Pattern := []

namespace Sequence

def push (sequence : Sequence) (part : Pattern) : Sequence :=
  { sequence with parts := part :: sequence.parts }

/-- The pattern that a sequence is when it ends at a place. -/
def toPattern (sequence : Sequence) (stop : Nat) : Pattern :=
  match sequence.parts with
  | [] => .empty { start := sequence.start, stop }
  | [part] => part
  | parts => .concatenation { start := sequence.start, stop } parts.reverse

end Sequence

/-- What has been begun around a sequence. -/
inductive Frame where
  /-- A group, which is a part of the sequence around it, and whether blanks stand for nothing
  there. -/
  | group (around : Sequence) (span : PatternSpan) (captures : Bool) (items : List FlagItem)
      (spaced : Bool)
  /-- Alternatives, latest first. -/
  | alternation (start : Nat) (branches : List Pattern)

/-- A reader of patterns. -/
structure Reader where
  cursor : Cursor
  sequence : Sequence := { start := 0 }
  frames : List Frame := []
  names : List (List Char × PatternSpan) := []

namespace Reader

/-- Adds a part that ends at a place. -/
def push (reader : Reader) (part : Pattern) (stop : Cursor) : Reader :=
  { reader with cursor := stop, sequence := reader.sequence.push part }

/-- Opens a group or sets flags. -/
def openGroup (reader : Reader) : Except PatternFault Reader :=
  let start := reader.cursor
  (groupOpening reader.names start).map fun (opening, stop) =>
    let opened (captures : Bool) (items : List FlagItem) : Reader :=
      { reader with
        cursor := { stop with spaced := (flagState? 'x' items).getD stop.spaced }
        sequence := { start := stop.offset }
        frames := .group reader.sequence start.charSpan captures items start.spaced ::
          reader.frames }
    match opening with
    | .capturing => opened true []
    | .named name span => { opened true [] with names := (name, span) :: reader.names }
    | .flagged items => opened false items
    | .directive items =>
        reader.push (.flags (start.spanTo stop) items)
          { stop with spaced := (flagState? 'x' items).getD stop.spaced }

/-- Closes a group. -/
def closeGroup (reader : Reader) : Except PatternFault Reader :=
  let place := reader.cursor.offset
  let last := reader.sequence.toPattern place
  let closed (inside : Pattern) (frames : List Frame) : Except PatternFault Reader :=
    match frames with
    | .group around span captures items spaced :: frames =>
        let stop := reader.cursor.advance
        let group := .group { span with stop := stop.offset } captures items inside
        .ok { reader with cursor := { stop with spaced }, sequence := around.push group, frames }
    | _ => refuse .groupUnopened reader.cursor.charSpan
  match reader.frames with
  | .alternation start branches :: frames =>
      closed (.alternation { start, stop := place } (last :: branches).reverse) frames
  | frames => closed last frames

/-- Begins the next alternative. -/
def nextBranch (reader : Reader) : Reader :=
  let last := reader.sequence.toPattern reader.cursor.offset
  let stop := reader.cursor.advance
  let frames :=
    match reader.frames with
    | .alternation start branches :: frames => .alternation start (last :: branches) :: frames
    | frames => .alternation reader.sequence.start [last] :: frames
  { reader with cursor := stop, sequence := { start := stop.offset }, frames }

/-- Repeats the last part. -/
def repeatLast (reader : Reader) (sign : Char) : Except PatternFault Reader :=
  match reader.sequence.parts with
  | [] => refuse .nothingToRepeat reader.cursor.here
  | part :: parts =>
      if part.isRepeatable then
        (counts reader.cursor sign).map fun (counts, stop) =>
          let span : PatternSpan := { start := part.span.start, stop := stop.offset }
          { reader with
            cursor := stop
            sequence := { reader.sequence with
              parts := .repetition span counts.least counts.most part :: parts } }
      else
        refuse .nothingToRepeat reader.cursor.here

/-- The part that a single character is. -/
def single (cursor : Cursor) (c : Char) : Primitive :=
  if c = '.' then .anything cursor.charSpan
  else if c = '^' then .assertion cursor.charSpan .lineStart
  else if c = '$' then .assertion cursor.charSpan .lineEnd
  else .literal { span := cursor.charSpan, char := c }

/-- Reads the part or the sign that begins with a character. -/
def part (reader : Reader) (c : Char) : Except PatternFault Reader :=
  if c = '(' then reader.openGroup
  else if c = ')' then reader.closeGroup
  else if c = '|' then .ok reader.nextBranch
  else if c = '[' then
    (bracketAt reader.cursor).map fun (set, stop) => reader.push set stop
  else if "?*+\x7b".toList.contains c then reader.repeatLast c
  else if c = '\\' then
    (escape reader.cursor).map fun (found, stop) => reader.push (.primitive found) stop
  else .ok (reader.push (.primitive (single reader.cursor c)) reader.cursor.advance)

/-- The pattern that has been read, if all groups are closed. -/
def finish (reader : Reader) : Except PatternFault Pattern :=
  let stop := reader.cursor.offset
  let last := reader.sequence.toPattern stop
  let closed (pattern : Pattern) : List Frame → Except PatternFault Pattern
    | .group _ span _ _ _ :: _ => refuse .groupUnclosed span
    | _ => .ok pattern
  match reader.frames with
  | .alternation start branches :: frames =>
      closed (.alternation { start, stop } (last :: branches).reverse) frames
  | frames => closed last frames

/-- Reads on to the end of the text, one part or sign for each step. -/
def readAll : Nat → Reader → Except PatternFault Pattern
  | 0, reader => reader.finish
  | steps + 1, reader =>
      let ready := { reader with cursor := reader.cursor.skipSpace }
      match ready.cursor.text with
      | [] => ready.finish
      | c :: _ => (ready.part c).bind (readAll steps)

end Reader

/-- The depth at which no further part may stand inside another. -/
def depthLimit : Nat := PatternCause.nestingLimit

mutual

/-- The first set that stands too deep inside others. -/
def deepSet? (depth : Nat) : CharSet → Option PatternSpan
  | .bracket span _ inside => if depth < depthLimit then deepSet? (depth + 1) inside else some span
  | .union span members => if depth < depthLimit then deepMember? (depth + 1) members else some span
  | .operation span _ left right =>
      if depth < depthLimit then
        match deepSet? (depth + 1) left with
        | some found => some found
        | none => deepSet? (depth + 1) right
      else
        some span
  | _ => none

def deepMember? (depth : Nat) : List CharSet → Option PatternSpan
  | [] => none
  | set :: members =>
      match deepSet? depth set with
      | some found => some found
      | none => deepMember? depth members

end

mutual

/-- The first part that stands too deep inside others. -/
def deepPart? (depth : Nat) : Pattern → Option PatternSpan
  | .bracket span _ inside => if depth < depthLimit then deepSet? (depth + 1) inside else some span
  | .repetition span _ _ inside =>
      if depth < depthLimit then deepPart? (depth + 1) inside else some span
  | .group span _ _ inside => if depth < depthLimit then deepPart? (depth + 1) inside else some span
  | .alternation span branches =>
      if depth < depthLimit then deepAmong? (depth + 1) branches else some span
  | .concatenation span parts =>
      if depth < depthLimit then deepAmong? (depth + 1) parts else some span
  | _ => none

def deepAmong? (depth : Nat) : List Pattern → Option PatternSpan
  | [] => none
  | part :: parts =>
      match deepPart? depth part with
      | some found => some found
      | none => deepAmong? depth parts

end

/-- Reads a pattern. -/
def read (text : List Char) : Except PatternFault Pattern := do
  let pattern ← Reader.readAll (text.length + 1) { cursor := { text } }
  match deepPart? 0 pattern with
  | some span => refuse .nestingTooDeep span
  | none => return pattern

end Pattern
end LoopLesson

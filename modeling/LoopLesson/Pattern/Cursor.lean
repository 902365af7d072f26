import LoopLesson.Pattern.Fault
import LoopLesson.Text.Blank

/-!
Places in a pattern.

Where a flag asks for it, blanks stand for nothing, and so does a comment from a number sign to the
end of its line.
-/

namespace LoopLesson
namespace Pattern

/-- A place in a pattern and the text from there on. -/
structure Cursor where
  /-- The number of characters before it. -/
  offset : Nat := 0
  text : List Char
  /-- Whether blanks and comments stand for nothing. -/
  spaced : Bool := false
deriving DecidableEq, Repr

namespace Cursor

/-- The place after one more character. -/
def advance (cursor : Cursor) : Cursor :=
  match cursor.text with
  | [] => cursor
  | _ :: rest => { cursor with offset := cursor.offset + 1, text := rest }

/-- The place after so many more characters. -/
def skip (cursor : Cursor) (count : Nat) : Cursor :=
  { cursor with offset := cursor.offset + count, text := cursor.text.drop count }

/-- The number of characters of the blanks and comments that a text begins with. -/
def spaceLength (inComment : Bool) : List Char → Nat
  | [] => 0
  | c :: rest =>
      if inComment then spaceLength (c ≠ '\n') rest + 1
      else if c = '#' then spaceLength true rest + 1
      else if Text.isBlank c then spaceLength false rest + 1
      else 0

/-- Passes over what stands for nothing. -/
def skipSpace (cursor : Cursor) : Cursor :=
  if cursor.spaced then cursor.skip (spaceLength false cursor.text) else cursor

/-- The place after one more character and what stands for nothing after it. -/
def next (cursor : Cursor) : Cursor := cursor.advance.skipSpace

/-- The place right here, without any character. -/
def here (cursor : Cursor) : PatternSpan := { start := cursor.offset, stop := cursor.offset }

/-- The next character. -/
def charSpan (cursor : Cursor) : PatternSpan :=
  { start := cursor.offset, stop := cursor.offset + 1 }

/-- What stands between two places. -/
def spanTo (start stop : Cursor) : PatternSpan := { start := start.offset, stop := stop.offset }

/-- The first character after blanks, and after one number sign and the blanks that follow it.  Where
there is none, it is whatever comes first. -/
def firstVisible? (text : List Char) : Option Char :=
  match text.dropWhile Text.isBlank with
  | '#' :: rest =>
      match rest.dropWhile Text.isBlank with
      | [] => text.head?
      | c :: _ => some c
  | c :: _ => some c
  | [] => text.head?

/-- The character that comes after the next one. -/
def second? (cursor : Cursor) : Option Char :=
  let rest := cursor.text.drop 1
  if cursor.spaced then firstVisible? rest else rest.head?

end Cursor

/-- Refuses a pattern. -/
def refuse {α : Type} (cause : PatternCause) (span : PatternSpan) : Except PatternFault α :=
  .error { cause, span }

end Pattern
end LoopLesson

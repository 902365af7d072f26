import LoopLesson.Pattern.Cursor
import LoopLesson.Pattern.Tree

/-!
The signs of repetition: a question mark, an asterisk, a plus sign, or counts between braces.  A
question mark after any of them makes it prefer fewer repetitions.
-/

namespace LoopLesson
namespace Pattern

/-- How often a part of a pattern is repeated. -/
structure Counts where
  least : Nat
  most : Option Nat
deriving DecidableEq, Repr

/-- The counts that a single sign stands for. -/
def signCounts? (c : Char) : Option Counts :=
  [('?', { least := 0, most := some 1 }), ('*', { least := 0, most := none }),
    ('+', { least := 1, most := none })].lookup c

/-- Passes over blanks, one for each step. -/
def skipBlanks : Nat → Cursor → Cursor
  | 0, cursor => cursor
  | steps + 1, cursor =>
      if cursor.text.head?.any Text.isBlank then skipBlanks steps cursor.next else cursor

/-- Reads decimal digits, one for each step. -/
def digits (taken : List Char) : Nat → Cursor → List Char × Cursor
  | 0, cursor => (taken.reverse, cursor)
  | steps + 1, cursor =>
      match cursor.text with
      | [] => (taken.reverse, cursor)
      | c :: _ =>
          if c.isDigit then digits (c :: taken) steps cursor.next else (taken.reverse, cursor)

/-- The value of the digits of a count. -/
def countValue (digits : List Char) (span : PatternSpan) : Except PatternFault Nat :=
  let value := Nat.ofDigitChars 10 digits 0
  if digits = [] then refuse .countEmpty span
  else if value < 0x100000000 then .ok value
  else refuse .numberTooLarge span

/-- Reads a count, which blanks may surround.  Whether it is one shows only in its value. -/
def count (start : Cursor) : Except PatternFault Nat × Cursor :=
  let first := start.skip (start.text.takeWhile Text.isBlank).length
  let (digits, stop) := digits [] first.text.length first
  (countValue digits (first.spanTo stop), skipBlanks stop.text.length stop)

/-- Reads what follows the first count, up to the closing brace. -/
def furtherCount (start : Cursor) (least : Except PatternFault Nat) (cursor : Cursor) :
    Except PatternFault (Counts × Cursor) :=
  if cursor.text.head? = some ',' then
    let second := cursor.next
    if second.text = [] then refuse .countUnclosed (start.spanTo second)
    else if second.text.head? = some '\x7d' then
      least.map fun least => ({ least, most := none }, second)
    else do
      let least ← least
      let (most, stop) := count second
      return ({ least, most := some (← most) }, stop)
  else
    least.map fun least => ({ least, most := some least }, cursor)

/-- Passes over a question mark. -/
def skipPreference (cursor : Cursor) : Cursor :=
  if cursor.text.head? = some '?' then cursor.advance else cursor

/-- Reads counts between braces from the opening one on. -/
def bracedCounts (start : Cursor) : Except PatternFault (Counts × Cursor) :=
  let inside := start.next
  if inside.text = [] then refuse .countUnclosed (start.spanTo inside)
  else
    let (least, cursor) := count inside
    if cursor.text = [] then refuse .countUnclosed (start.spanTo cursor)
    else do
      let (counts, brace) ← furtherCount start least cursor
      if brace.text.head? ≠ some '\x7d' then refuse .countUnclosed (start.spanTo brace)
      else
        let stop := skipPreference brace.next
        if counts.most.all (counts.least ≤ ·) then return (counts, stop)
        else refuse .countRange (start.spanTo stop)

/-- Reads the sign of a repetition. -/
def counts (start : Cursor) (sign : Char) : Except PatternFault (Counts × Cursor) :=
  match signCounts? sign with
  | some counts => .ok (counts, skipPreference start.advance)
  | none => bracedCounts start

end Pattern
end LoopLesson

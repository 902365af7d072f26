import LoopLesson.Pattern.Cursor
import LoopLesson.Pattern.Tree

/-!
What a backslash and the characters after it mean.
-/

namespace LoopLesson
namespace Pattern

/-- The characters with a meaning of their own. -/
def isMeta (c : Char) : Bool := "\\.+*?()|[]\x7b\x7d^$#&-~".toList.contains c

/-- The characters that a backslash may stand before without changing them. -/
def isEscapable (c : Char) : Bool :=
  isMeta c || (c.toNat < 0x80 && !c.isAlphanum && c ≠ '<' && c ≠ '>')

/-- The control characters with a letter for their escape. -/
def controlEscape? (c : Char) : Option Char :=
  [('a', '\x07'), ('f', '\x0c'), ('t', '\t'), ('n', '\n'), ('r', '\r'), ('v', '\x0b')].lookup c

def isHexadecimal (c : Char) : Bool :=
  c.isDigit || ('a' ≤ c && c ≤ 'f') || ('A' ≤ c && c ≤ 'F')

def hexadecimalValue (digits : List Char) : Nat :=
  digits.foldl (fun total c =>
    total * 16 +
      (if c.isDigit then c.toNat - 48 else if 'a' ≤ c then c.toNat - 87 else c.toNat - 55)) 0

/-- The character that hexadecimal digits stand for. -/
def hexadecimalChar (digits : List Char) (span : PatternSpan) : Except PatternFault Char :=
  if (hexadecimalValue digits).isValidChar then .ok (Char.ofNat (hexadecimalValue digits))
  else refuse .hexadecimalInvalid span

/-- Reads so many hexadecimal digits. -/
def fixedDigits (digits : List Char) : Nat → Cursor → Except PatternFault (List Char × Cursor)
  | 0, cursor => .ok (digits.reverse, cursor)
  | count + 1, cursor =>
      match cursor.text with
      | [] => refuse .escapeEnd cursor.here
      | c :: _ =>
          if isHexadecimal c then fixedDigits (c :: digits) count cursor.next
          else refuse .hexadecimalDigit cursor.charSpan

/-- Reads characters that satisfy a condition up to a closing brace, one for each step.  The place
after them is that of the brace, or the end of the pattern. -/
def braced (allowed : Char → Bool) (fault : PatternCause) (taken : List Char) :
    Nat → Cursor → Except PatternFault (List Char × Cursor)
  | 0, cursor => .ok (taken.reverse, cursor)
  | steps + 1, cursor =>
      match cursor.text with
      | [] => .ok (taken.reverse, cursor)
      | c :: _ =>
          if c = '\x7d' then .ok (taken.reverse, cursor)
          else if allowed c then braced allowed fault (c :: taken) steps cursor.next
          else refuse fault cursor.charSpan

/-- Reads the digits of a hexadecimal escape from its letter on. -/
def hexadecimal (start letter : Cursor) (count : Nat) : Except PatternFault (Primitive × Cursor) :=
  let first := letter.next
  match first.text with
  | [] => refuse .escapeEnd first.here
  | '\x7b' :: rest => do
      let (digits, brace) ← braced isHexadecimal .hexadecimalDigit [] rest.length first.next
      let stop := brace.next
      if brace.text = [] then refuse .escapeEnd (first.spanTo brace)
      else if digits = [] then refuse .hexadecimalEmpty (first.spanTo stop)
      else
        let char ← hexadecimalChar digits (first.advance.spanTo brace)
        return (.literal { span := start.spanTo stop, char }, stop)
  | _ => do
      let (digits, stop) ← fixedDigits [] count first
      let char ← hexadecimalChar digits (first.spanTo stop)
      return (.literal { span := start.spanTo stop, char, isByte := decide (count = 2) }, stop)

/-- Divides a text at the first place where a mark stands. -/
def splitAt? (mark : String) (before : List Char) : List Char → Option (List Char × List Char)
  | [] => none
  | c :: rest =>
      match Text.after? mark (c :: rest) with
      | some after => some (before.reverse, after)
      | none => splitAt? mark (c :: before) rest

/-- What the text between the braces of a property asks for. -/
def propertyQuery (text : List Char) : PropertyQuery :=
  match ["!=", ":", "="].findSome? fun mark => splitAt? mark [] text with
  | some (name, value) => .valued name value
  | none => .named text

/-- Reads a property from its letter on. -/
def property (start letter : Cursor) (negated : Bool) : Except PatternFault (Primitive × Cursor) :=
  let first := letter.next
  match first.text with
  | [] => refuse .escapeEnd first.here
  | '\x7b' :: rest => do
      let (text, brace) ← braced (fun _ => true) .escapeEnd [] rest.length first.next
      let stop := brace.advance
      if brace.text = [] then refuse .escapeEnd brace.here
      else return (.property (start.spanTo stop) negated (propertyQuery text), stop)
  | c :: _ =>
      if c = '\\' then refuse .propertyInvalid first.charSpan
      else .ok (.property (start.spanTo first.next) negated (.named [c]), first.next)

def isBoundaryChar (c : Char) : Bool := c.isAlpha || c = '-'

/-- Reads the characters of the name of a word boundary, one for each step. -/
def boundaryName (taken : List Char) : Nat → Cursor → List Char × Cursor
  | 0, cursor => (taken.reverse, cursor)
  | steps + 1, cursor =>
      match cursor.text with
      | [] => (taken.reverse, cursor)
      | c :: _ =>
          if isBoundaryChar c then boundaryName (c :: taken) steps cursor.next
          else (taken.reverse, cursor)

/-- Reads what may stand between braces after the letter of a word boundary.  Braces around anything
but a name are none of its business. -/
def wordBoundary (start stop : Cursor) : Except PatternFault (Primitive × Cursor) :=
  match stop.text with
  | '\x7b' :: rest =>
      let first := stop.next
      let (name, brace) := boundaryName [] rest.length first
      if first.text = [] then refuse .boundaryEnd (start.spanTo first)
      else if name = [] then .ok (.assertion (start.spanTo stop) .wordEdge, stop)
      else if brace.text.head? ≠ some '\x7d' then refuse .boundaryUnclosed (stop.spanTo brace)
      else if ["start", "end", "start-half", "end-half"].contains (String.ofList name) then
        .ok (.assertion (start.spanTo brace.advance) .wordEdge, brace.advance)
      else refuse .boundaryUnknown (first.spanTo brace)
  | _ => .ok (.assertion (start.spanTo stop) .wordEdge, stop)

/-- The class of characters that a letter stands for, and whether it is meant to be left out. -/
def shorthand? (c : Char) : Option (Bool × Shorthand) :=
  [('d', (false, .digit)), ('D', (true, .digit)), ('s', (false, .space)), ('S', (true, .space)),
    ('w', (false, .word)), ('W', (true, .word))].lookup c

/-- Reads an escape from its backslash on. -/
def escape (start : Cursor) : Except PatternFault (Primitive × Cursor) :=
  let letter := start.advance
  let stop := letter.advance
  let span := start.spanTo stop
  match letter.text with
  | [] => refuse .escapeEnd (start.spanTo letter)
  | c :: _ =>
      if c.isDigit then refuse .backreference span
      else if c = 'x' then hexadecimal start letter 2
      else if c = 'u' then hexadecimal start letter 4
      else if c = 'U' then hexadecimal start letter 8
      else if c = 'p' ∨ c = 'P' then property start letter (c = 'P')
      else if isEscapable c then .ok (.literal { span, char := c }, stop)
      else if c = 'b' then wordBoundary start stop
      else if c = 'A' then .ok (.assertion span .textStart, stop)
      else if c = 'z' then .ok (.assertion span .textEnd, stop)
      else if "B<>".toList.contains c then .ok (.assertion span .wordEdge, stop)
      else
        match shorthand? c, controlEscape? c with
        | some (negated, kind), _ => .ok (.shorthand span negated kind, stop)
        | none, some char => .ok (.literal { span, char }, stop)
        | none, none => refuse .escapeUnknown span

end Pattern
end LoopLesson

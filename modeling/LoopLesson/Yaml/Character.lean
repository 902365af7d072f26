/-!
The characters of a YAML document, and places in its text.

Carriage returns, alone or before a line feed, and the next-line character end a line like a line
feed.  The line and paragraph separators end a line too, but are kept as they are.
-/

namespace LoopLesson
namespace Yaml

/-- The characters that may stand in a document. -/
def isAllowed (c : Char) : Bool :=
  c.toNat = 0x9 || c.toNat = 0xA || c.toNat = 0xD || (0x20 ≤ c.toNat && c.toNat ≤ 0x7E) ||
    c.toNat = 0x85 || (0xA0 ≤ c.toNat && c.toNat ≤ 0xFFFD) || 0x10000 ≤ c.toNat

def nextLine : Char := Char.ofNat 0x85

def lineSeparator : Char := Char.ofNat 0x2028

def paragraphSeparator : Char := Char.ofNat 0x2029

def byteOrderMark : Char := Char.ofNat 0xFEFF

/-- A text with a line feed for every carriage return and next-line character. -/
def unifyBreaks : List Char → List Char
  | [] => []
  | '\r' :: '\n' :: rest => '\n' :: unifyBreaks rest
  | c :: rest => (if c = '\r' ∨ c = nextLine then '\n' else c) :: unifyBreaks rest

/-- A space or a tab. -/
def isGap (c : Char) : Bool := c = ' ' || c = '\t'

/-- Whether a character of a text with unified breaks ends a line. -/
def isBreak (c : Char) : Bool := c = '\n' || c = lineSeparator || c = paragraphSeparator

/-- Whether a token ends here: at a gap, a break or the end of the text. -/
def endsToken : List Char → Bool
  | [] => true
  | c :: _ => isGap c || isBreak c

/-- Whether a text begins with one of the given character. -/
def beginsWith (c : Char) (text : List Char) : Bool := text.head? = some c

/-- Whether a text begins with three dashes that stand alone. -/
def isDocumentStart : List Char → Bool
  | '-' :: '-' :: '-' :: rest => endsToken rest
  | _ => false

/-- Whether a text begins with three points that stand alone. -/
def isDocumentEnd : List Char → Bool
  | '.' :: '.' :: '.' :: rest => endsToken rest
  | _ => false

/-- Whether a text that begins a line begins with a marker between documents. -/
def isDocumentMarker (text : List Char) : Bool := isDocumentStart text || isDocumentEnd text

/-- The value of a digit in a base. -/
def digitValue? (base : Nat) (c : Char) : Option Nat :=
  let value :=
    if c.isDigit then c.toNat - 48
    else if 'a' ≤ c ∧ c ≤ 'z' then c.toNat - 87
    else if 'A' ≤ c ∧ c ≤ 'Z' then c.toNat - 55
    else base
  if value < base then some value else none

/-- A place in a document, with the text from there on. -/
structure Cursor where
  text : List Char
  line : Nat := 0
  column : Nat := 0
deriving DecidableEq, Repr

namespace Cursor

/-- Passes to a later place of the same line. -/
def moveTo (cursor : Cursor) (rest : List Char) : Cursor :=
  { cursor with text := rest, column := cursor.column + (cursor.text.length - rest.length) }

/-- Passes over so many characters of the line. -/
def skip (cursor : Cursor) (count : Nat) : Cursor := cursor.moveTo (cursor.text.drop count)

/-- Passes over gaps and a comment to the end of the line, which nothing else may precede, and on to
the next line. -/
def finishLine? (cursor : Cursor) : Option Cursor :=
  let rest := cursor.text.dropWhile isGap
  let ending := if beginsWith '#' rest then rest.dropWhile (!isBreak ·) else rest
  match ending with
  | [] => some (cursor.moveTo [])
  | c :: rest => if isBreak c then some { text := rest, line := cursor.line + 1 } else none

end Cursor

end Yaml
end LoopLesson

import LoopLesson.Yaml.Character
import LoopLesson.Yaml.Token

/-!
The spellings of a scalar: plain, between quotation marks, and as a block of lines.

A plain or quoted scalar may go on over several lines.  A single break between two of its words then
counts as a space, and of several breaks the first one is dropped.  In a block the lines stay apart,
or are folded in the same way where no line of the two begins with a gap.
-/

namespace LoopLesson
namespace Yaml

/-- What stands between two words of a scalar. -/
inductive Spacing where
  /-- Gaps on one line, possibly none. -/
  | gaps (text : List Char)
  /-- Line breaks; the gaps around them do not count. -/
  | breaks (first : Char) (later : List Char)
  /-- An escaped line break, and the line breaks after it. -/
  | escapedBreak (later : List Char)
deriving DecidableEq, Repr

namespace Spacing

def none : Spacing := .gaps []

/-- The text that the spacing amounts to. -/
def text : Spacing → List Char
  | .gaps text => text
  | .breaks first later =>
      if first = '\n' then (if later = [] then [' '] else later) else first :: later
  | .escapedBreak later => later

def addGap (c : Char) : Spacing → Spacing
  | .gaps text => .gaps (text ++ [c])
  | other => other

def addBreak (c : Char) : Spacing → Spacing
  | .gaps _ => .breaks c []
  | .breaks first later => .breaks first (later ++ [c])
  | .escapedBreak later => .escapedBreak (later ++ [c])

def crossesLine : Spacing → Bool
  | .gaps _ => false
  | _ => true

end Spacing

/-- A plain scalar, whether the place after it is on a later line, and that place. -/
structure PlainScalar where
  text : List Char
  crossesLine : Bool
  after : Cursor
deriving DecidableEq, Repr

/-- Whether a plain scalar may begin with a character, given the text after it. -/
def opensPlain (inFlow : Bool) (c : Char) (rest : List Char) : Bool :=
  if c = '-' then
    !(rest.head?.any isGap)
  else if c = '?' ∨ c = ':' then
    !inFlow && !endsToken rest
  else
    !(",[]\x7b\x7d#&*!|>%@\x27\x22\x60".toList.contains c || isGap c || isBreak c)

/-- Whether a plain scalar ends before a character, given the text after it. -/
def closesPlain (inFlow : Bool) (c : Char) (rest : List Char) : Bool :=
  (c = ':' && endsToken rest) || (inFlow && ",[]\x7b\x7d".toList.contains c)

/-- Whether a colon stands where a plain scalar of a flow collection may not have it. -/
def misplacesColon (inFlow : Bool) (c : Char) (rest : List Char) : Bool :=
  inFlow && c = ':' && (rest.head?.any ",?[]\x7b\x7d".toList.contains)

/-- The plain scalar with this text, latest character first, and this spacing up to a place. -/
def PlainScalar.ending (written : List Char) (spacing : Spacing) (after : Cursor) : PlainScalar :=
  { text := written.reverse, crossesLine := spacing.crossesLine, after }

/-- Reads a plain scalar on from a place.  Outside flow collections its later lines are indented by
`least` or more.  What was written so far comes latest first. -/
def plainFrom? (inFlow : Bool) (least : Nat) (written : List Char) (spacing : Spacing)
    (line column : Nat) : List Char → Option PlainScalar
  | [] => some (.ending written spacing { text := [], line, column })
  | c :: rest =>
      if isBreak c then
        plainFrom? inFlow least written (spacing.addBreak c) (line + 1) 0 rest
      else if isGap c then
        if spacing.crossesLine ∧ column < least ∧ c = '\t' then none
        else plainFrom? inFlow least written (spacing.addGap c) line (column + 1) rest
      else if spacing ≠ .none ∧ ((!inFlow ∧ column < least) ∨
          (column = 0 ∧ isDocumentMarker (c :: rest)) ∨ c = '#') then
        some (.ending written spacing { text := c :: rest, line, column })
      else if misplacesColon inFlow c rest then
        none
      else if closesPlain inFlow c rest then
        some (.ending written spacing { text := c :: rest, line, column })
      else
        plainFrom? inFlow least (c :: (spacing.text.reverse ++ written)) .none line (column + 1) rest

/-- Reads a plain scalar. -/
def plain? (inFlow : Bool) (least : Nat) (cursor : Cursor) : Option PlainScalar :=
  plainFrom? inFlow least [] .none cursor.line cursor.column cursor.text

/-- The characters with a letter for their escape. -/
def namedEscape? (c : Char) : Option Char :=
  [('0', '\x00'), ('a', '\x07'), ('b', '\x08'), ('t', '\t'), ('\t', '\t'), ('n', '\n'),
    ('v', '\x0b'), ('f', '\x0c'), ('r', '\r'), ('e', '\x1b'), (' ', ' '), ('\x22', '\x22'),
    ('/', '/'), ('\\', '\\'), ('N', nextLine), ('_', Char.ofNat 0xA0), ('L', lineSeparator),
    ('P', paragraphSeparator)].lookup c

/-- The number of hexadecimal digits that an escape letter announces. -/
def escapeWidth? (c : Char) : Option Nat := [('x', 2), ('u', 4), ('U', 8)].lookup c

/-- What the next character of a quoted scalar is. -/
inductive QuotedPlace where
  | literal
  /-- The second of two apostrophes. -/
  | apostrophe
  /-- The character after a backslash. -/
  | escape
  /-- One of so many hexadecimal digits; those before it have this value. -/
  | hexadecimal (count value : Nat)
deriving DecidableEq, Repr

/-- Reads a quoted scalar on from a place up to its closing mark.  What was written so far comes
latest first. -/
def quotedFrom? (quote : Char) (place : QuotedPlace) (written : List Char) (spacing : Spacing)
    (line column : Nat) : List Char → Option (List Char × Cursor)
  | [] => none
  | c :: rest =>
      match place with
      | .apostrophe => quotedFrom? quote .literal (c :: written) .none line (column + 1) rest
      | .escape =>
          if isBreak c then
            quotedFrom? quote .literal written (.escapedBreak []) (line + 1) 0 rest
          else
            match namedEscape? c with
            | some meant => quotedFrom? quote .literal (meant :: written) .none line (column + 1) rest
            | none =>
                match escapeWidth? c with
                | some width =>
                    quotedFrom? quote (.hexadecimal width 0) written .none line (column + 1) rest
                | none => none
      | .hexadecimal count value =>
          match digitValue? 16 c with
          | none => none
          | some digit =>
              if 1 < count then
                quotedFrom? quote (.hexadecimal (count - 1) (value * 16 + digit)) written .none line
                  (column + 1) rest
              else if (value * 16 + digit).isValidChar then
                quotedFrom? quote .literal (Char.ofNat (value * 16 + digit) :: written) .none line
                  (column + 1) rest
              else
                none
      | .literal =>
          let joined := spacing.text.reverse ++ written
          if isBreak c then
            quotedFrom? quote .literal written (spacing.addBreak c) (line + 1) 0 rest
          else if isGap c then
            quotedFrom? quote .literal written (spacing.addGap c) line (column + 1) rest
          else if column = 0 ∧ isDocumentMarker (c :: rest) then
            none
          else if c = quote then
            if quote = '\x27' ∧ beginsWith '\x27' rest then
              quotedFrom? quote .apostrophe joined .none line (column + 1) rest
            else
              some (joined.reverse, { text := rest, line, column := column + 1 })
          else if quote = '\x22' ∧ c = '\\' then
            quotedFrom? quote .escape joined .none line (column + 1) rest
          else
            quotedFrom? quote .literal (c :: joined) .none line (column + 1) rest

/-- Reads the scalar that a quotation mark opens, up to the next mark of its kind that counts. -/
def quoted? (quote : Char) (cursor : Cursor) : Option (List Char × Cursor) :=
  quotedFrom? quote .literal [] .none cursor.line (cursor.column + 1) (cursor.text.drop 1)

/-- What becomes of the line breaks after a block of lines. -/
inductive Chomping where
  | strip
  | clip
  | keep
deriving DecidableEq, Repr

/-- What the first line of a block says about it. -/
structure BlockHeader where
  chomping : Chomping := .clip
  /-- How much deeper than the collection around it the block is indented, if that is said. -/
  increment : Option Nat := none
deriving DecidableEq, Repr

namespace BlockHeader

def takeChomping : List Char → Option Chomping × List Char
  | [] => (none, [])
  | c :: rest =>
      if c = '-' then (some .strip, rest) else if c = '+' then (some .keep, rest) else (none, c :: rest)

/-- Takes a digit that is not zero, if there is a digit. -/
def takeIncrement? : List Char → Option (Option Nat × List Char)
  | [] => some (none, [])
  | c :: rest =>
      if c = '0' then none
      else if c.isDigit then some (some (c.toNat - 48), rest)
      else some (none, c :: rest)

/-- Reads the two indicators of a block, each of which may be left out, in any order. -/
def read? (text : List Char) : Option (BlockHeader × List Char) :=
  match takeChomping text with
  | (some chomping, rest) =>
      (takeIncrement? rest).map fun (increment, rest) => ({ chomping, increment }, rest)
  | (none, _) =>
      (takeIncrement? text).map fun (increment, rest) =>
        if increment.isSome then
          let (chomping, rest) := takeChomping rest
          ({ chomping := chomping.getD .clip, increment }, rest)
        else
          ({}, rest)

end BlockHeader

/-- Passes over spaces and breaks in front of a block whose indentation is not known.  The answer is
the greatest column that was reached, the breaks and the place.  Tabs are refused. -/
def leadingBreaks? (reached : Nat) (breaks : List Char) (line column : Nat) :
    List Char → Option (Nat × List Char × Cursor)
  | [] => some (max reached column, breaks, { text := [], line, column })
  | c :: rest =>
      if c = ' ' then leadingBreaks? reached breaks line (column + 1) rest
      else if c = '\t' then none
      else if isBreak c then
        leadingBreaks? (max reached column) (breaks ++ [c]) (line + 1) 0 rest
      else
        some (max reached column, breaks, { text := c :: rest, line, column })

/-- A block of lines as far as it was read. -/
structure Block where
  /-- The text, latest first, without the breaks after its last line. -/
  written : List Char := []
  /-- The break that ended the last line. -/
  ending : List Char := []
  /-- The breaks of the empty lines after it. -/
  empty : List Char := []
  /-- Whether the last line begins with a gap. -/
  gapped : Bool := false
  /-- Whether the place is inside a line. -/
  inLine : Bool := false
deriving DecidableEq, Repr

namespace Block

/-- Begins a new line with a character. -/
def beginLine (folded : Bool) (block : Block) (c : Char) : Block :=
  let joint :=
    if folded ∧ block.ending = ['\n'] ∧ !block.gapped ∧ !isGap c then
      (if block.empty = [] then [' '] else [])
    else
      block.ending
  { written := c :: ((joint ++ block.empty).reverse ++ block.written)
    gapped := isGap c
    inLine := true }

/-- Reads a block that is indented by so much on from a place. -/
def readFrom? (folded : Bool) (indent : Nat) (block : Block) (line column : Nat) :
    List Char → Option (Block × Cursor)
  | [] => some (block, { text := [], line, column })
  | c :: rest =>
      if block.inLine then
        if isBreak c then
          readFrom? folded indent { block with ending := [c], empty := [], inLine := false }
            (line + 1) 0 rest
        else
          readFrom? folded indent { block with written := c :: block.written } line (column + 1) rest
      else if column < indent ∧ c = ' ' then
        readFrom? folded indent block line (column + 1) rest
      else if column < indent ∧ c = '\t' then
        none
      else if isBreak c then
        readFrom? folded indent { block with empty := block.empty ++ [c] } (line + 1) 0 rest
      else if column = indent then
        readFrom? folded indent (block.beginLine folded c) line (column + 1) rest
      else
        some (block, { text := c :: rest, line, column })

/-- The text of a block that has been read to its end. -/
def text (chomping : Chomping) (block : Block) : List Char :=
  block.written.reverse ++
    match chomping with
    | .strip => []
    | .clip => block.ending
    | .keep => block.ending ++ block.empty

end Block

/-- Reads the block of lines that an indicator opens.  Its indentation is what the header says, or
the greatest one up to its first line that is not empty, and at least `least`. -/
def block? (folded : Bool) (least : Nat) (cursor : Cursor) : Option (List Char × Cursor) :=
  (BlockHeader.read? (cursor.text.drop 1)).bind fun (header, rest) =>
    ((cursor.moveTo rest).finishLine?).bind fun start =>
      let result := match header.increment with
        | some increment =>
            Block.readFrom? folded (least - 1 + increment) {} start.line start.column start.text
        | none =>
            (leadingBreaks? 0 [] start.line start.column start.text).bind fun (reached, empty, first) =>
              Block.readFrom? folded (max reached (max least 1)) { empty } first.line first.column
                first.text
      result.map fun (block, after) => (block.text header.chomping, after)

end Yaml
end LoopLesson

import LoopLesson.Pattern.Machine
import LoopLesson.Pattern.Property
import LoopLesson.Pattern.Syntax
import LoopLesson.Text.DecimalDigit

/-!
The machines of patterns.

Flags say how the rest of a group is meant.  Without the flag for Unicode a pattern is about bytes:
sets hold ASCII characters only, and nothing may match a part of a character, which is what
everything would that is said by what it leaves out.
-/

namespace LoopLesson

/-- How a pattern is meant. -/
structure Mode where
  unicode : Bool := true
  ignoresCase : Bool := false
  /-- Whether a point matches the end of a line. -/
  matchesBreaks : Bool := false
  /-- Whether a carriage return ends a line, too. -/
  returnsBreak : Bool := false
  /-- Whether the ends of a line are asked about where otherwise those of the text are. -/
  asksForLines : Bool := false
deriving DecidableEq, Repr

/-- The mode that flags make of another. -/
def Mode.flagged (mode : Mode) (items : List FlagItem) : Mode where
  unicode := (flagState? 'u' items).getD mode.unicode
  ignoresCase := (flagState? 'i' items).getD mode.ignoresCase
  matchesBreaks := (flagState? 's' items).getD mode.matchesBreaks
  returnsBreak := (flagState? 'R' items).getD mode.returnsBreak
  asksForLines := (flagState? 'm' items).getD mode.asksForLines

/-- Characters of a set: code points, and the room that others take. -/
structure Characters where
  points : List (Nat × Nat) := []
  weight : Nat := 0
deriving DecidableEq, Repr

namespace Characters

/-- The capital or small letters that letters of ASCII stand for if case does not matter.  Two of
them are also the small or capital form of a letter outside ASCII. -/
def otherCase (points : List (Nat × Nat)) : List (Nat × Nat) :=
  let capitals := CodeRanges.intersection points [(0x41, 0x5A)]
  let smalls := CodeRanges.intersection points [(0x61, 0x7A)]
  let both := capitals.map (fun range => (range.1 + 0x20, range.2 + 0x20)) ++
    smalls.map (fun range => (range.1 - 0x20, range.2 - 0x20))
  let further (letter meant : Nat) : List (Nat × Nat) :=
    if CodeRanges.intersection (points ++ both) [(letter, letter)] = [] then []
    else [(meant, meant)]
  both ++ further 0x6B 0x212A ++ further 0x73 0x17F

def foldCase (characters : Characters) (mode : Mode) : Characters :=
  if mode.ignoresCase then
    let others := (otherCase characters.points).filter fun range => mode.unicode || range.2 < 0x80
    { characters with points := characters.points ++ others }
  else
    characters

def complement (characters : Characters) : Characters :=
  { characters with points := CodeRanges.complement characters.points }

def negate (negated : Bool) (characters : Characters) : Characters :=
  if negated then
    if characters.points = [] ∧ characters.weight ≠ 0 then characters else characters.complement
  else
    characters

def union (left right : Characters) : Characters :=
  { points := left.points ++ right.points, weight := left.weight + right.weight }

def combine (operator : SetOperator) (left right : Characters) : Characters :=
  { weight := left.weight + right.weight
    points :=
      match operator with
      | .intersection => CodeRanges.intersection left.points right.points
      | .difference => CodeRanges.difference left.points right.points
      | .symmetricDifference =>
          CodeRanges.difference left.points right.points ++
            CodeRanges.difference right.points left.points }

def toMachine (characters : Characters) : Machine :=
  .ofPoints characters.points characters.weight

end Characters

namespace Shorthand

/-- The ASCII characters of a class. -/
def asciiPoints : Shorthand → List (Nat × Nat)
  | .digit => [(0x30, 0x39)]
  | .space => [(0x09, 0x0D), (0x20, 0x20)]
  | .word => [(0x30, 0x39), (0x41, 0x5A), (0x5F, 0x5F), (0x61, 0x7A)]

/-- All characters of a class. -/
def points : Shorthand → List (Nat × Nat)
  | .digit => Text.decimalNumber.ranges
  | .space => Text.whiteSpace.ranges
  | .word =>
      Shorthand.word.asciiPoints ++ Text.firstPlaneLow.ranges ++ Text.firstPlaneHigh.ranges ++
        Text.higherPlanes.ranges

def characters (mode : Mode) (span : PatternSpan) (negated : Bool) (kind : Shorthand) :
    Except PatternFault Characters :=
  if mode.unicode then .ok (Characters.negate negated { points := kind.points })
  else if negated then Pattern.refuse .invalidText span
  else .ok { points := kind.asciiPoints }

end Shorthand

/-- The characters with a property. -/
def PropertyQuery.characters (mode : Mode) (span : PatternSpan) (query : PropertyQuery) :
    Except PatternFault Characters :=
  if mode.unicode then
    match query.weight with
    | .ok weight => .ok { weight }
    | .error cause => Pattern.refuse cause span
  else
    Pattern.refuse .unicodeNotAllowed span

namespace PatternLiteral

/-- Whether it is a byte that is a part of a character. -/
def splitsCharacter (literal : PatternLiteral) (mode : Mode) : Bool :=
  !mode.unicode && literal.isByte && decide (0x80 ≤ literal.char.toNat)

/-- The code point of a character in a set. -/
def point (mode : Mode) (literal : PatternLiteral) : Except PatternFault Nat :=
  if literal.splitsCharacter mode then Pattern.refuse .invalidText literal.span
  else if !mode.unicode ∧ 0x80 ≤ literal.char.toNat then
    Pattern.refuse .unicodeNotAllowed literal.span
  else .ok literal.char.toNat

end PatternLiteral

namespace CharSet

/-- The characters of a set whose sign of negation has been looked at. -/
def signed (mode : Mode) (span : PatternSpan) (negated : Bool) (inside : Characters) :
    Except PatternFault Characters :=
  if negated ∧ !mode.unicode then Pattern.refuse .invalidText span
  else .ok (Characters.negate negated (inside.foldCase mode))

mutual

/-- The characters of a set. -/
def characters (mode : Mode) : CharSet → Except PatternFault Characters
  | .nothing _ => .ok {}
  | .literal written => do
      let point ← written.point mode
      return { points := [(point, point)] }
  | .range _ lower upper => do
      let start ← lower.point mode
      let stop ← upper.point mode
      return { points := [(start, stop)] }
  | .ascii span negated ranges => signed mode span negated { points := ranges }
  | .shorthand span negated kind => kind.characters mode span negated
  | .property span _ query => query.characters mode span
  | .bracket span negated inside => do signed mode span negated (← inside.characters mode)
  | .union _ members => membersOf mode members
  | .operation _ operator left right => do
      let left ← left.characters mode
      let right ← right.characters mode
      return Characters.combine operator (left.foldCase mode) (right.foldCase mode)

/-- The characters of some sets. -/
def membersOf (mode : Mode) : List CharSet → Except PatternFault Characters
  | [] => .ok {}
  | set :: members => do
      let first ← set.characters mode
      let others ← membersOf mode members
      return first.union others

end

end CharSet

/-- The machine that looks at a place. -/
def Assertion.machine (mode : Mode) : Assertion → Machine
  | .lineStart => if mode.asksForLines then .place else .textStart
  | .lineEnd => if mode.asksForLines then .place else .textEnd
  | .textStart => .textStart
  | .textEnd => .textEnd
  | .wordEdge => .place

namespace Primitive

/-- The characters that a point matches. -/
def anyPoints (mode : Mode) : List (Nat × Nat) :=
  CodeRanges.complement
    (if mode.matchesBreaks then []
      else if mode.returnsBreak then [(0x0A, 0x0A), (0x0D, 0x0D)]
      else [(0x0A, 0x0A)])

def machine (mode : Mode) : Primitive → Except PatternFault Machine
  | .literal written =>
      if written.splitsCharacter mode then Pattern.refuse .invalidText written.span
      else
        let point := written.char.toNat
        .ok (({ points := [(point, point)] } : Characters).foldCase mode).toMachine
  | .shorthand span negated kind => (kind.characters mode span negated).map Characters.toMachine
  | .property span _ query => (query.characters mode span).map Characters.toMachine
  | .anything span =>
      if mode.unicode then .ok (.ofPoints (anyPoints mode) 0)
      else Pattern.refuse .invalidText span
  | .assertion _ kind => .ok (kind.machine mode)

end Primitive

namespace Pattern

mutual

/-- The machine of a pattern, and how what follows it is meant. -/
def machine (mode : Mode) : Pattern → Except PatternFault (Machine × Mode)
  | .empty _ => .ok (.nothing, mode)
  | .flags _ items => .ok (.nothing, mode.flagged items)
  | .primitive inside => (inside.machine mode).map fun machine => (machine, mode)
  | .bracket span negated inside => do
      let characters ← inside.characters mode
      let signed ← CharSet.signed mode span negated characters
      return (signed.toMachine, mode)
  | .repetition _ least most inside => do
      let (inner, mode) ← inside.machine mode
      return (.repeated least most inner, mode)
  | .group _ captures items inside => do
      let (inner, _) ← inside.machine (mode.flagged items)
      return (if captures then .capture inner else inner, mode)
  | .alternation _ branches => do
      let (machines, mode) ← machines mode branches
      return (.choice machines, mode)
  | .concatenation _ parts => do
      let (machines, mode) ← machines mode parts
      return (.sequence machines, mode)

/-- The machines of patterns one after the other. -/
def machines (mode : Mode) : List Pattern → Except PatternFault (List Machine × Mode)
  | [] => .ok ([], mode)
  | part :: parts => do
      let (first, mode) ← part.machine mode
      let (others, mode) ← machines mode parts
      return (first :: others, mode)

end

/-- Says what is wrong with a pattern: a fault, or a machine that is too large. -/
def problem? (text : List Char) : Option String :=
  match (read text).bind (machine {}) with
  | .error fault => some (fault.report text)
  | .ok (machine, _) =>
      if machine.Fits then none
      else
        some ("Compiled regex exceeds size limit of " ++ Number.naturalText Machine.limit ++ " bytes.")

end Pattern

end LoopLesson

import LoopLesson.Pattern.Escape

/-!
Sets of characters between brackets.

A set is a union of characters, ranges and classes.  Sets may stand inside sets, and operators that
join two unions are read from left to right.
-/

namespace LoopLesson
namespace Pattern

/-- The classes of ASCII characters with a name. -/
def asciiClasses : List (String × List (Nat × Nat)) := [
  ("alnum", [(0x30, 0x39), (0x41, 0x5A), (0x61, 0x7A)]),
  ("alpha", [(0x41, 0x5A), (0x61, 0x7A)]),
  ("ascii", [(0x00, 0x7F)]),
  ("blank", [(0x09, 0x09), (0x20, 0x20)]),
  ("cntrl", [(0x00, 0x1F), (0x7F, 0x7F)]),
  ("digit", [(0x30, 0x39)]),
  ("graph", [(0x21, 0x7E)]),
  ("lower", [(0x61, 0x7A)]),
  ("print", [(0x20, 0x7E)]),
  ("punct", [(0x21, 0x2F), (0x3A, 0x40), (0x5B, 0x60), (0x7B, 0x7E)]),
  ("space", [(0x09, 0x0D), (0x20, 0x20)]),
  ("upper", [(0x41, 0x5A)]),
  ("word", [(0x30, 0x39), (0x41, 0x5A), (0x5F, 0x5F), (0x61, 0x7A)]),
  ("xdigit", [(0x30, 0x39), (0x41, 0x46), (0x61, 0x66)])]

/-- Reads a named class of ASCII characters from its bracket on. -/
def asciiClass? (start : Cursor) : Option (CharSet × Cursor) :=
  (Text.after? "[:" start.text).bind fun inside =>
    let negated := inside.head? = some '^'
    let afterSign := if negated then inside.drop 1 else inside
    let name := afterSign.takeWhile (· ≠ ':')
    (asciiClasses.lookup (String.ofList name)).bind fun ranges =>
      (Text.after? ":]" (afterSign.drop name.length)).map fun rest =>
        let stop := start.skip (start.text.length - rest.length)
        (.ascii (start.spanTo stop) negated ranges, stop)

/-- A union of sets, as far as it has been read. -/
structure Members where
  span : PatternSpan
  /-- The sets, latest first. -/
  sets : List CharSet := []

namespace Members

def push (members : Members) (set : CharSet) : Members :=
  { span := {
      start := if members.sets.isEmpty then set.span.start else members.span.start
      stop := set.span.stop }
    sets := set :: members.sets }

def toSet (members : Members) : CharSet :=
  match members.sets with
  | [] => .nothing members.span
  | [set] => set
  | sets => .union members.span sets.reverse

end Members

/-- What has been begun inside brackets. -/
inductive BracketFrame where
  /-- An opening, which is a member of the union around it. -/
  | opening (around : Members) (span : PatternSpan) (negated : Bool)
  /-- An operator and the set on its left. -/
  | operator (operator : SetOperator) (left : CharSet)

/-- The innermost opening. -/
def innermost? : List BracketFrame → Option PatternSpan
  | [] => none
  | .opening _ span _ :: _ => some span
  | .operator _ _ :: frames => innermost? frames

/-- Refuses a set whose brackets are not closed. -/
def refuseUnclosed {α : Type} (frames : List BracketFrame) (cursor : Cursor) :
    Except PatternFault α :=
  refuse .classUnclosed ((innermost? frames).getD cursor.here)

/-- Reads dashes that stand for themselves, one for each step. -/
def leadingDashes (start : Cursor) (members : Members) :
    Nat → Cursor → Except PatternFault (Members × Cursor)
  | 0, cursor => .ok (members, cursor)
  | steps + 1, cursor =>
      if cursor.text.head? = some '-' then
        let dash := members.push (.literal { span := cursor.charSpan, char := '-' })
        if cursor.next.text = [] then refuse .classUnclosed start.here
        else leadingDashes start dash steps cursor.next
      else
        .ok (members, cursor)

/-- Reads an opening bracket, the sign of negation after it, and dashes or a bracket that stand for
themselves.  The answer is what belongs to the opening, whether it is negated, and the first members
of the union inside. -/
def opening (start : Cursor) : Except PatternFault (PatternSpan × Bool × Members × Cursor) :=
  let afterBracket := start.next
  let negated := afterBracket.text.head? = some '^'
  let inside := if negated then afterBracket.next else afterBracket
  if inside.text = [] then refuse .classUnclosed (start.spanTo inside)
  else do
    let (members, cursor) ← leadingDashes start { span := inside.here } inside.text.length inside
    if members.sets.isEmpty ∧ cursor.text.head? = some ']' then
      if cursor.next.text = [] then refuse .classUnclosed (start.spanTo cursor.next)
      else
        return (start.spanTo cursor.next, negated,
          members.push (.literal { span := cursor.charSpan, char := ']' }), cursor.next)
    else
      return (start.spanTo cursor, negated, members, cursor)

/-- Reads a character or a class inside brackets. -/
def bracketItem (frames : List BracketFrame) (cursor : Cursor) :
    Except PatternFault (Primitive × Cursor) :=
  match cursor.text with
  | [] => refuseUnclosed frames cursor
  | c :: _ =>
      if c = '\\' then escape cursor
      else .ok (.literal { span := cursor.charSpan, char := c }, cursor.advance)

/-- The set that a primitive is inside brackets. -/
def memberOf : Primitive → Except PatternFault CharSet
  | .literal literal => .ok (.literal literal)
  | .shorthand span negated kind => .ok (.shorthand span negated kind)
  | .property span negated query => .ok (.property span negated query)
  | .anything span => refuse .classEscape span
  | .assertion span _ => refuse .classEscape span

/-- The character that an end of a range has to be. -/
def rangeEnd : Primitive → Except PatternFault PatternLiteral
  | .literal literal => .ok literal
  | other => refuse .classBoundary other.span

/-- Reads a character, a class or a range. -/
def bracketMember (frames : List BracketFrame) (start : Cursor) :
    Except PatternFault (CharSet × Cursor) := do
  let (first, afterFirst) ← bracketItem frames start
  let cursor := afterFirst.skipSpace
  if cursor.text = [] then
    refuseUnclosed frames cursor
  else if cursor.text.head? ≠ some '-' ∨ cursor.second? = some ']' ∨ cursor.second? = some '-' then
    return (← memberOf first, cursor)
  else if cursor.next.text = [] then
    refuseUnclosed frames cursor.next
  else
    let (second, stop) ← bracketItem frames cursor.next
    let span : PatternSpan := { start := first.span.start, stop := second.span.stop }
    let lower ← rangeEnd first
    let upper ← rangeEnd second
    if upper.char < lower.char then refuse .classRange span
    else return (.range span lower upper, stop)

/-- Joins a set to what stands before the operator on its left, if there is one. -/
def joinLeft (frames : List BracketFrame) (right : CharSet) : CharSet × List BracketFrame :=
  match frames with
  | .operator operator left :: frames =>
      (.operation { start := left.span.start, stop := right.span.stop } operator left right, frames)
  | frames => (right, frames)

/-- The operator that begins with two of the same character. -/
def setOperator? (c : Char) : Option SetOperator :=
  [('&', .intersection), ('-', .difference), ('~', .symmetricDifference)].lookup c

/-- Reads on inside brackets up to the one that closes the outermost set, one member, bracket or
operator for each step. -/
def bracketFrom : Nat → List BracketFrame → Members → Cursor →
    Except PatternFault (Pattern × Cursor)
  | 0, frames, _, cursor => refuseUnclosed frames cursor
  | steps + 1, frames, members, place =>
      let cursor := place.skipSpace
      match cursor.text with
      | [] => refuseUnclosed frames cursor
      | c :: rest =>
          if c = '[' then
            match if frames.isEmpty then none else asciiClass? cursor with
            | some (set, stop) => bracketFrom steps frames (members.push set) stop
            | none => do
                let (span, negated, inside, stop) ← opening cursor
                bracketFrom steps (.opening members span negated :: frames) inside stop
          else if c = ']' then
            let (inside, outer) := joinLeft frames members.toSet
            match outer with
            | .opening around span negated :: outer =>
                let stop := cursor.advance
                let whole : PatternSpan := { span with stop := stop.offset }
                if outer.isEmpty then .ok (.bracket whole negated inside, stop)
                else bracketFrom steps outer (around.push (.bracket whole negated inside)) stop
            | _ => refuseUnclosed frames cursor
          else
            match if rest.head? = some c then setOperator? c else none with
            | some operator =>
                let (left, outer) := joinLeft frames members.toSet
                let stop := cursor.skip 2
                bracketFrom steps (.operator operator left :: outer) { span := stop.here } stop
            | none => do
                let (set, stop) ← bracketMember frames cursor
                bracketFrom steps frames (members.push set) stop

/-- Reads a set of characters from its opening bracket on. -/
def bracketAt (start : Cursor) : Except PatternFault (Pattern × Cursor) :=
  bracketFrom start.text.length [] { span := start.here } start

end Pattern
end LoopLesson

import LoopLesson.Pattern.Cursor
import LoopLesson.Pattern.Tree
import LoopLesson.Text.Letter

/-!
The openings of groups.

A group captures what it matches, under a name if it has one, unless flags and a colon follow its
opening parenthesis.  Flags without a colon hold for the rest of the group around them.
-/

namespace LoopLesson
namespace Pattern

/-- What the opening of a group says. -/
inductive Opening where
  | capturing
  | named (name : List Char) (span : PatternSpan)
  | flagged (items : List FlagItem)
  /-- Flags for what follows, which open no group. -/
  | directive (items : List FlagItem)
deriving DecidableEq, Repr

/-- Reads flags up to a colon or a closing parenthesis, after those that have been read. -/
def flagItems (items : List FlagItem) :
    List Char → Cursor → Except PatternFault (List FlagItem × Cursor)
  | [], cursor => refuse .flagEnd cursor.here
  | c :: rest, cursor =>
      if c = ':' ∨ c = ')' then
        match items.getLast? with
        | some { mark := '-', offset } =>
            refuse .flagNegationDangling { start := offset, stop := offset + 1 }
        | _ => .ok (items, cursor)
      else if !("-imsUuRx".toList.contains c) then
        refuse .flagUnknown cursor.charSpan
      else
        match items.find? fun item => item.mark = c with
        | some item =>
            .error {
              cause := if c = '-' then .flagNegationRepeated else .flagRepeated
              span := cursor.charSpan
              earlier := some { start := item.offset, stop := item.offset + 1 } }
        | none => flagItems (items ++ [{ mark := c, offset := cursor.offset }]) rest cursor.advance

def isGroupNameStart (c : Char) : Bool := c = '_' || Text.isAlphabetic c

def isGroupNamePart (c : Char) : Bool :=
  c = '_' || c = '.' || c = '[' || c = ']' || Text.isAlphanumeric c

/-- The longest name that a text begins with. -/
def groupNameOf : List Char → List Char
  | [] => []
  | c :: rest => if isGroupNameStart c then c :: rest.takeWhile isGroupNamePart else []

/-- Reads the name of a group and the angle bracket after it.  No two groups have the same name. -/
def groupName (names : List (List Char × PatternSpan)) (start : Cursor) :
    Except PatternFault (Opening × Cursor) :=
  let name := groupNameOf start.text
  let stop := start.skip name.length
  let span := start.spanTo stop
  match stop.text with
  | [] => refuse .groupNameEnd stop.here
  | c :: _ =>
      if c ≠ '>' then refuse .groupNameCharacter stop.charSpan
      else if name = [] then refuse .groupNameEmpty start.here
      else
        match names.find? fun known => known.1 = name with
        | some (_, earlier) =>
            .error { cause := .groupNameRepeated, span, earlier := some earlier }
        | none => .ok (.named name span, stop.advance)

/-- The number of characters of the mark of a look-around. -/
def lookAroundLength? (text : List Char) : Option Nat :=
  ["?=", "?!", "?<=", "?<!"].findSome? fun mark => (Text.after? mark text).map fun _ => mark.length

/-- Reads the opening of a group from its parenthesis on, given the names of the groups so far. -/
def groupOpening (names : List (List Char × PatternSpan)) (start : Cursor) :
    Except PatternFault (Opening × Cursor) :=
  let inside := start.next
  match lookAroundLength? inside.text with
  | some length => refuse .lookAround (start.spanTo (inside.skip length))
  | none =>
      match inside.text with
      | '?' :: 'P' :: '<' :: _ => groupName names (inside.skip 3)
      | '?' :: '<' :: _ => groupName names (inside.skip 2)
      | ['?'] => refuse .groupUnclosed start.charSpan
      | '?' :: rest => do
          let (items, cursor) ← flagItems [] rest inside.advance
          if cursor.text.head? = some ':' then return (.flagged items, cursor.advance)
          else if items = [] then refuse .nothingToRepeat inside.here
          else return (.directive items, cursor.advance)
      | _ => .ok (.capturing, inside)

end Pattern
end LoopLesson

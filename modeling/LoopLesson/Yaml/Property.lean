import LoopLesson.Yaml.Character
import LoopLesson.Yaml.Token

/-!
Anchors, aliases, tags and directives.

The text of a tag keeps every octet that is escaped in it as a character of its own, for tags are
only compared with each other.
-/

namespace LoopLesson
namespace Yaml

/-- The characters of the names of anchors, directives and handles. -/
def isNameChar (c : Char) : Bool := c.isAlphanum || c = '_' || c = '-'

/-- The name after the mark of an anchor or an alias, and what follows it. -/
def anchorName? (text : List Char) : Option (List Char × List Char) :=
  let name := text.takeWhile isNameChar
  let rest := text.dropWhile isNameChar
  if name ≠ [] ∧ (endsToken rest ∨ rest.head?.any "?:,]\x7d%@\x60".toList.contains) then
    some (name, rest)
  else
    none

/-- The characters of a tag other than percent signs.  A tag between angle brackets may also hold
commas and brackets. -/
def isTagChar (verbatim : Bool) (c : Char) : Bool :=
  isNameChar c || ";/?:@&=+$.!~*\x27()".toList.contains c || (verbatim && ",[]".toList.contains c)

/-- The number of octets that follow a leading octet of an encoded character. -/
def trailingOctets? (octet : Nat) : Option Nat :=
  if octet < 0x80 then some 0
  else if 0xC0 ≤ octet ∧ octet < 0xE0 then some 1
  else if 0xE0 ≤ octet ∧ octet < 0xF0 then some 2
  else if 0xF0 ≤ octet ∧ octet < 0xF8 then some 3
  else none

/-- Takes the text of a tag from the front of a text.  The number counts the octets that the last
escaped one still asks for. -/
def takeTagText? (verbatim : Bool) : Nat → List Char → Option (List Char × List Char)
  | 0, [] => some ([], [])
  | _ + 1, [] => none
  | pending, '%' :: high :: low :: rest =>
      (digitValue? 16 high).bind fun high => (digitValue? 16 low).bind fun low =>
        let octet := high * 16 + low
        let after := match pending with
          | 0 => trailingOctets? octet
          | count + 1 => if 0x80 ≤ octet ∧ octet < 0xC0 then some count else none
        after.bind fun pending =>
          (takeTagText? verbatim pending rest).map fun (text, rest) => (Char.ofNat octet :: text, rest)
  | 0, c :: rest =>
      if c = '%' then none
      else if isTagChar verbatim c then
        (takeTagText? verbatim 0 rest).map fun (text, rest) => (c :: text, rest)
      else
        some ([], c :: rest)
  | _ + 1, _ :: _ => none

/-- A tag reaches no further than a null character in it. -/
def beforeNull (text : List Char) : List Char := text.takeWhile (· ≠ '\x00')

/-- Takes the text of a tag that is not empty. -/
def tagText? (verbatim : Bool) (text : List Char) : Option (List Char × List Char) :=
  (takeTagText? verbatim 0 text).bind fun (found, rest) =>
    if found = [] then none else some (beforeNull found, rest)

/-- Takes an exclamation mark with the name after it and a second mark after that, as far as they
are there. -/
def takeHandle? : List Char → Option (List Char × List Char)
  | [] => none
  | c :: rest =>
      if c = '!' then
        let name := rest.takeWhile isNameChar
        match rest.dropWhile isNameChar with
        | [] => some ('!' :: name, [])
        | d :: after => if d = '!' then some ('!' :: name ++ ['!'], after) else some ('!' :: name, d :: after)
      else
        none

/-- Whether an exclamation mark closes what another one opens. -/
def isClosedHandle (handle : List Char) : Bool := 1 < handle.length && handle.getLast? = some '!'

/-- Reads a tag: its handle, the text after the handle, and what follows. -/
def tag? (text : List Char) : Option ((List Char × List Char) × List Char) :=
  match text with
  | '!' :: '<' :: rest =>
      (tagText? true rest).bind fun (found, rest) =>
        match rest with
        | '>' :: after => some (([], found), after)
        | _ => none
  | _ =>
      (takeHandle? text).bind fun (handle, rest) =>
        if isClosedHandle handle then
          (tagText? false rest).map fun (found, rest) => ((handle, found), rest)
        else
          (takeTagText? false 0 rest).map fun (found, rest) =>
            let suffix := beforeNull (handle.drop 1 ++ found)
            (if suffix = [] then ([], ['!']) else (['!'], suffix), rest)

/-- Takes a version number of at most nine digits. -/
def takeVersionNumber? (text : List Char) : Option (Nat × List Char) :=
  let digits := text.takeWhile Char.isDigit
  if digits ≠ [] ∧ digits.length ≤ 9 then
    some (Nat.ofDigitChars 10 digits 0, text.dropWhile Char.isDigit)
  else
    none

/-- Reads the numbers of a version directive. -/
def versionDirective? (text : List Char) : Option (Token × List Char) :=
  (takeVersionNumber? (text.dropWhile isGap)).bind fun (major, rest) =>
    match rest with
    | '.' :: rest =>
        (takeVersionNumber? rest).map fun (minor, rest) => (.versionDirective major minor, rest)
    | _ => none

/-- Reads the handle of a tag directive and what it stands for. -/
def tagDirective? (text : List Char) : Option (Token × List Char) :=
  (takeHandle? (text.dropWhile isGap)).bind fun (handle, rest) =>
    if (handle = ['!'] ∨ isClosedHandle handle) ∧ rest.head?.any isGap then
      (tagText? true (rest.dropWhile isGap)).bind fun (stem, rest) =>
        if endsToken rest then some (.tagDirective handle stem, rest) else none
    else
      none

/-- Reads a directive after its percent sign, without the end of its line. -/
def directive? (text : List Char) : Option (Token × List Char) :=
  let name := text.takeWhile isNameChar
  let rest := text.dropWhile isNameChar
  if !endsToken rest then none
  else if name = "YAML".toList then versionDirective? rest
  else if name = "TAG".toList then tagDirective? rest
  else none

end Yaml
end LoopLesson

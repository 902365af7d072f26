import LoopLesson.Pattern.Fault

/-!
Patterns as trees.

Every part of a tree knows which characters of the pattern it was written with.
-/

namespace LoopLesson

/-- A character that a pattern asks for. -/
structure PatternLiteral where
  span : PatternSpan
  char : Char
  /-- Whether it was written as a byte, with two hexadecimal digits. -/
  isByte : Bool := false
deriving DecidableEq, Repr

/-- The classes of characters that a single letter stands for. -/
inductive Shorthand where
  | digit
  | space
  | word
deriving DecidableEq, Repr

/-- A question for a property of characters: one that a character has or has not, or its value. -/
inductive PropertyQuery where
  | named (name : List Char)
  | valued (name value : List Char)
deriving DecidableEq, Repr

/-- What a pattern may ask about a place. -/
inductive Assertion where
  | lineStart
  | lineEnd
  | textStart
  | textEnd
  | wordEdge
deriving DecidableEq, Repr

/-- The smallest part of a pattern: something about one character, or about a place. -/
inductive Primitive where
  | literal (literal : PatternLiteral)
  | shorthand (span : PatternSpan) (negated : Bool) (kind : Shorthand)
  | property (span : PatternSpan) (negated : Bool) (query : PropertyQuery)
  | anything (span : PatternSpan)
  | assertion (span : PatternSpan) (kind : Assertion)
deriving DecidableEq, Repr

def Primitive.span : Primitive → PatternSpan
  | .literal written => written.span
  | .shorthand span _ _ => span
  | .property span _ _ => span
  | .anything span => span
  | .assertion span _ => span

/-- The operations on two sets of characters. -/
inductive SetOperator where
  | intersection
  | difference
  | symmetricDifference
deriving DecidableEq, Repr

/-- A set of characters. -/
inductive CharSet where
  | nothing (span : PatternSpan)
  | literal (literal : PatternLiteral)
  | range (span : PatternSpan) (lower upper : PatternLiteral)
  | ascii (span : PatternSpan) (negated : Bool) (ranges : List (Nat × Nat))
  | shorthand (span : PatternSpan) (negated : Bool) (kind : Shorthand)
  | property (span : PatternSpan) (negated : Bool) (query : PropertyQuery)
  | bracket (span : PatternSpan) (negated : Bool) (inside : CharSet)
  | union (span : PatternSpan) (members : List CharSet)
  | operation (span : PatternSpan) (operator : SetOperator) (left right : CharSet)

def CharSet.span : CharSet → PatternSpan
  | .nothing span => span
  | .literal written => written.span
  | .range span _ _ => span
  | .ascii span _ _ => span
  | .shorthand span _ _ => span
  | .property span _ _ => span
  | .bracket span _ _ => span
  | .union span _ => span
  | .operation span _ _ _ => span

/-- One of the flags of a group, or the mark after which flags are taken back. -/
structure FlagItem where
  mark : Char
  offset : Nat
deriving DecidableEq, Repr

/-- What a list of flags says of one of them, if anything. -/
def flagState? (flag : Char) (items : List FlagItem) : Option Bool :=
  if items.any fun item => item.mark = flag then
    some !((items.takeWhile fun item => item.mark ≠ flag).any fun item => item.mark = '-')
  else
    none

/-- A pattern. -/
inductive Pattern where
  | empty (span : PatternSpan)
  | flags (span : PatternSpan) (items : List FlagItem)
  | primitive (primitive : Primitive)
  | bracket (span : PatternSpan) (negated : Bool) (inside : CharSet)
  | repetition (span : PatternSpan) (least : Nat) (most : Option Nat) (inside : Pattern)
  | group (span : PatternSpan) (captures : Bool) (items : List FlagItem) (inside : Pattern)
  | alternation (span : PatternSpan) (branches : List Pattern)
  | concatenation (span : PatternSpan) (parts : List Pattern)

namespace Pattern

def span : Pattern → PatternSpan
  | .empty span => span
  | .flags span _ => span
  | .primitive inside => inside.span
  | .bracket span _ _ => span
  | .repetition span _ _ _ => span
  | .group span _ _ _ => span
  | .alternation span _ => span
  | .concatenation span _ => span

/-- Whether a part of a pattern may be repeated. -/
def isRepeatable : Pattern → Bool
  | .empty _ => false
  | .flags _ _ => false
  | _ => true

end Pattern

end LoopLesson

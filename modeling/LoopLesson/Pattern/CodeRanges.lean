/-!
Sets of code points as lists of ranges, and the sequences of bytes that spell them.

A range of code points falls into blocks in which every byte runs through a range of its own.
-/

namespace LoopLesson
namespace CodeRanges

/-- The last code point. -/
def last : Nat := 0x10FFFF

/-- Joins ranges that touch, given that they are in order. -/
def join : List (Nat × Nat) → List (Nat × Nat)
  | [] => []
  | (start, stop) :: rest =>
      match join rest with
      | [] => [(start, stop)]
      | (next, final) :: joined =>
          if next ≤ stop + 1 then (start, max stop final) :: joined
          else (start, stop) :: (next, final) :: joined

/-- The same code points in order, as few ranges as possible. -/
def normalized (ranges : List (Nat × Nat)) : List (Nat × Nat) :=
  join (ranges.mergeSort fun left right => left.1 ≤ right.1)

/-- The code points from a place on that lie in none of the ranges, given that they are in order. -/
def gaps (start : Nat) : List (Nat × Nat) → List (Nat × Nat)
  | [] => if start ≤ last then [(start, last)] else []
  | (lower, upper) :: rest =>
      if start < lower then (start, lower - 1) :: gaps (upper + 1) rest else gaps (upper + 1) rest

/-- All other code points. -/
def complement (ranges : List (Nat × Nat)) : List (Nat × Nat) := gaps 0 (normalized ranges)

/-- The code points in both sets. -/
def intersection (left right : List (Nat × Nat)) : List (Nat × Nat) :=
  complement (complement left ++ complement right)

/-- The code points in the first set only. -/
def difference (left right : List (Nat × Nat)) : List (Nat × Nat) :=
  intersection left (complement right)

/-- The code points with the same number of bytes; those of surrogates have none. -/
def byteLengths : List (Nat × Nat × Nat) :=
  [(1, 0x0, 0x7F), (2, 0x80, 0x7FF), (3, 0x800, 0xD7FF), (3, 0xE000, 0xFFFF),
    (4, 0x10000, 0x10FFFF)]

/-- Where a range has to be divided so that the later bytes run through all values. -/
def cut? (start stop : Nat) : Option Nat :=
  [64, 4096, 262144].findSome? fun block =>
    if start / block = stop / block then none
    else if start % block ≠ 0 then some ((start / block + 1) * block)
    else if stop % block ≠ block - 1 then some (stop / block * block)
    else none

/-- The blocks of a range, which is divided at most so many times one inside the other. -/
def blocks : Nat → Nat → Nat → List (Nat × Nat)
  | 0, start, stop => [(start, stop)]
  | depth + 1, start, stop =>
      match cut? start stop with
      | none => [(start, stop)]
      | some cut => blocks depth start (cut - 1) ++ blocks depth cut stop

/-- The bytes of a code point that takes so many of them, without the marks of their kinds but with
the number of bytes in front. -/
def spelling (length point : Nat) : List Nat :=
  match length with
  | 1 => [1, point]
  | 2 => [2, point / 64, point % 64]
  | 3 => [3, point / 4096, point / 64 % 64, point % 64]
  | _ => [4, point / 262144, point / 4096 % 64, point / 64 % 64, point % 64]

/-- The ranges of bytes of every block of a range; with one byte there is a single block. -/
def byteRanges (range : Nat × Nat) : List (List (Nat × Nat)) :=
  byteLengths.flatMap fun (length, lower, upper) =>
    let start := max lower range.1
    let stop := min upper range.2
    if start ≤ stop then
      (blocks (if length = 1 then 0 else 16) start stop).map fun block =>
        match (spelling length block.1).zip (spelling length block.2) with
        | _ :: (first, second) :: rest => (first + 256 * length, second + 256 * length) :: rest
        | other => other
    else
      []

/-- The length of the common beginning of two lists. -/
def sharedLength : List (Nat × Nat) → List (Nat × Nat) → Nat
  | left :: lefts, right :: rights => if left = right then sharedLength lefts rights + 1 else 0
  | _, _ => 0

/-- The number of different beginnings of sequences that are in order. -/
def beginnings (before : List (Nat × Nat)) : List (List (Nat × Nat)) → Nat
  | [] => 0
  | sequence :: rest =>
      sequence.length - sharedLength before sequence + beginnings sequence rest

/-- The ranges that sequences in order begin with, and what follows each of them. -/
def fan : List (List (Nat × Nat)) → List ((Nat × Nat) × List (List (Nat × Nat)))
  | [] => []
  | [] :: rest => fan rest
  | (range :: further) :: rest =>
      match fan rest with
      | [] => [(range, [further])]
      | (next, tails) :: others =>
          if next = range then (range, further :: tails) :: others
          else (range, [further]) :: (next, tails) :: others

/-- All that may follow one of the beginnings of sequences which are so long at most. -/
def continuations : Nat → List (List (Nat × Nat)) → List (List (List (Nat × Nat)))
  | 0, _ => []
  | length + 1, sequences =>
      if sequences.all List.isEmpty then []
      else sequences :: (fan sequences).flatMap fun (_, tails) => continuations length tails

end CodeRanges
end LoopLesson

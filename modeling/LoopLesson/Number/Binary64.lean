import LoopLesson.Number.Decimal

/-!
Binary floating-point numbers of 64 bits: one sign bit, eleven bits of exponent and fifty-two bits
of fraction.

Without its sign, a finite number is `significand · 2 ^ scale`.  Read as one whole number, the
sixty-three bits below the sign grow with the size of the number, so rounding only has to find the
right place in that order.
-/

namespace LoopLesson
namespace Number

/-- A binary64 datum: its sign and the other sixty-three bits read as a whole number. -/
structure Binary64 where
  negative : Bool
  magnitude : Fin 0x8000000000000000
deriving DecidableEq, Repr

namespace Binary64

/-- The magnitude of the infinities; those above it are not numbers. -/
def infinityMagnitude : Nat := 0x7FF0000000000000

/-- The number of different fractions. -/
def fractionCount : Nat := 0x10000000000000

/-- The datum with a given sign and magnitude, infinite from the infinite magnitude on. -/
def ofMagnitude (negative : Bool) (magnitude : Nat) : Binary64 :=
  { negative
    magnitude := ⟨min magnitude infinityMagnitude, by
      have : infinityMagnitude < 0x8000000000000000 := by decide
      omega⟩ }

def infinity (negative : Bool) : Binary64 := ofMagnitude negative infinityMagnitude

/-- The quiet datum that is not a number. -/
def notANumber : Binary64 := { negative := false, magnitude := 0x7FF8000000000000 }

def ofBits (bits : Nat) : Binary64 :=
  { negative := decide (0x8000000000000000 ≤ bits % 0x10000000000000000)
    magnitude := ⟨bits % 0x8000000000000000, Nat.mod_lt _ (by decide)⟩ }

def toBits (x : Binary64) : Nat := (if x.negative then 0x8000000000000000 else 0) + x.magnitude

def isFinite (x : Binary64) : Bool := x.magnitude < infinityMagnitude

def isInfinite (x : Binary64) : Bool := x.magnitude = infinityMagnitude

def isNotANumber (x : Binary64) : Bool := infinityMagnitude < x.magnitude

def isZero (x : Binary64) : Bool := x.magnitude.val = 0

def exponentField (x : Binary64) : Nat := x.magnitude / fractionCount

def fraction (x : Binary64) : Nat := x.magnitude % fractionCount

/-- The fraction with its leading bit, which the smallest numbers do not have. -/
def significand (x : Binary64) : Nat :=
  if x.exponentField = 0 then x.fraction else fractionCount + x.fraction

def scale (x : Binary64) : Int := (max x.exponentField 1 : Nat) - 1075

/-- The exact value of a finite datum without its sign. -/
def size (x : Binary64) : Rat := (x.significand : Rat) * (2 : Rat) ^ x.scale

/-- The exact value of a finite datum. -/
def value (x : Binary64) : Rat := if x.negative then -x.size else x.size

def abs (x : Binary64) : Binary64 := { x with negative := false }

def neg (x : Binary64) : Binary64 := { x with negative := !x.negative }

/-- The whole number nearest to a rational one that is not negative; a half goes to the even
neighbour. -/
def roundHalfEven (r : Rat) : Nat :=
  let below := r.floor.toNat
  let excess := r - (below : Rat)
  if excess < 1 / 2 then below
  else if 1 / 2 < excess then below + 1
  else if below % 2 = 0 then below else below + 1

/-- For a positive rational number, the exponent `e` with `2 ^ e ≤ r < 2 ^ (e + 1)`. -/
def leadingExponent (r : Rat) : Int :=
  let estimate : Int := (r.num.natAbs.log2 : Int) - (r.den.log2 : Int)
  if (2 : Rat) ^ estimate ≤ r then estimate else estimate - 1

/-- The scale at which a size is rounded: fifty-three bits, fewer for the smallest numbers. -/
def roundingScale (r : Rat) : Int := max (leadingExponent r - 52) (-1074)

/-- The datum nearest to a size that is not negative; a half goes to the even significand, and a
size beyond the largest finite one by half a unit or more goes to infinity. -/
def ofSize (negative : Bool) (r : Rat) : Binary64 :=
  if r = 0 then
    ofMagnitude negative 0
  else
    let scale := roundingScale r
    let significand := roundHalfEven (r / (2 : Rat) ^ scale)
    ofMagnitude negative ((scale + 1074).toNat * fractionCount + significand)

/-- The datum nearest to a decimal number.  A number of `10 ^ 310` or more is infinite and one
below `10 ^ (-330)` is zero, whatever its digits, so no larger power of ten is ever computed. -/
def ofDecimal (decimal : Decimal) : Binary64 :=
  let leading := (Decimal.width decimal.digits : Int) + decimal.exponent
  if decimal.digits = 0 then ofMagnitude decimal.negative 0
  else if 310 < leading then infinity decimal.negative
  else if leading < -330 then ofMagnitude decimal.negative 0
  else ofSize decimal.negative decimal.size

/-- The sum of two finite numbers rounded to the nearest datum.  An exact zero is negative only if
both summands are. -/
def addFinite (x y : Binary64) : Binary64 :=
  let sum := x.value + y.value
  if sum = 0 then ofMagnitude (x.negative && y.negative) 0
  else if sum < 0 then ofSize true (-sum)
  else ofSize false sum

def add (x y : Binary64) : Binary64 :=
  if x.isNotANumber || y.isNotANumber then notANumber
  else if x.isInfinite then
    if y.isInfinite && x.negative != y.negative then notANumber else x
  else if y.isInfinite then y
  else addFinite x y

def sub (x y : Binary64) : Binary64 := add x y.neg

/-- The words that stand for data with no decimal spelling, in lower case. -/
def ofWord? (negative : Bool) (text : List Char) : Option Binary64 :=
  let word := String.ofList (text.map Char.toLower)
  if word = "inf" ∨ word = "infinity" then some (infinity negative)
  else if word = "nan" then some { notANumber with negative }
  else none

/-- Reads a whole text as a number: a decimal spelling, or a word for an infinity or for no
number. -/
def read? (text : List Char) : Option Binary64 :=
  let (negative, rest) := Decimal.splitSign text
  match ofWord? negative rest with
  | some x => some x
  | none => (Decimal.unsigned? negative rest).map ofDecimal

end Binary64

end Number
end LoopLesson

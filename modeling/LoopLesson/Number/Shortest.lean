import LoopLesson.Number.Binary64

/-!
The shortest decimal number that reads back as a given binary64 number.

For one digit, two digits and so on, the two neighbours of the number on the grid of that many
digits are tried.  The first grid with a neighbour that reads back decides; of two such neighbours
the nearer one is taken, and the upper one if both are equally near.
-/

namespace LoopLesson
namespace Number
namespace Binary64

/-- Whether a decimal number rounds to the size of a datum. -/
def roundsTo (x : Binary64) (decimal : Decimal) : Bool := ofSize false decimal.size = x.abs

/-- The neighbours of a size on the grid with the given number of digits. -/
def neighbours (r : Rat) (digitCount : Nat) : Decimal × Decimal :=
  let exponent := Decimal.leadingExponent r - (digitCount : Int) + 1
  let below := (r / (10 : Rat) ^ exponent).floor.toNat
  ({ negative := false, digits := below, exponent },
    { negative := false, digits := below + 1, exponent })

/-- The better neighbour that reads back, if one does. -/
def candidate? (x : Binary64) (digitCount : Nat) : Option Decimal :=
  let (below, above) := neighbours x.size digitCount
  match x.roundsTo below, x.roundsTo above with
  | true, true => some (if x.size - below.size < above.size - x.size then below else above)
  | true, false => some below
  | false, true => some above
  | false, false => none

/-- The exact decimal expansion of the size of a finite datum. -/
def exactDecimal (x : Binary64) : Decimal :=
  if 0 ≤ x.scale then
    { negative := false, digits := x.significand * Nat.pow 2 x.scale.toNat, exponent := 0 }
  else
    { negative := false, digits := x.significand * Nat.pow 5 (-x.scale).toNat, exponent := x.scale }

/-- The size of a finite datum in the fewest digits that read back. -/
def shortest (x : Binary64) : Decimal :=
  ((List.range' 1 17).findSome? x.candidate?).getD x.exactDecimal

end Binary64
end Number
end LoopLesson

import Mathlib.Data.Int.Log
import Mathlib.Data.Rat.Floor
import Mathlib.Tactic.GCongr
import Mathlib.Tactic.Linarith
import Mathlib.Tactic.NormNum
import Mathlib.Tactic.Positivity
import LoopLesson.Number.Shortest

/-!
Rounding a size to binary64.

A size that a datum represents exactly is rounded to that datum, a size of `2 ^ 1024` or more to
infinity, and one below `2 ^ (-1075)` to zero.  So the bounds beyond which no power of ten is
computed do not change what a decimal number is rounded to, and the shortest decimal number of a
finite datum is rounded to it.
-/

namespace LoopLesson
namespace Number

theorem zpow_two_pos (exponent : Int) : (0 : Rat) < 2 ^ exponent := zpow_pos (by norm_num) exponent

theorem zpow_ten_pos (exponent : Int) : (0 : Rat) < 10 ^ exponent := zpow_pos (by norm_num) exponent

theorem zpow_two_add (first second : Int) : (2 : Rat) ^ (first + second) = 2 ^ first * 2 ^ second :=
  zpow_add₀ (by norm_num) first second

theorem zpow_ten_add (first second : Int) :
    (10 : Rat) ^ (first + second) = 10 ^ first * 10 ^ second :=
  zpow_add₀ (by norm_num) first second

namespace Binary64

section LeadingExponent

theorem zpow_log2_le {n : Nat} (nonzero : n ≠ 0) : (2 : Rat) ^ (n.log2 : Int) ≤ n := by
  rw [zpow_natCast]
  exact_mod_cast Nat.log2_self_le nonzero

theorem lt_zpow_log2_succ (n : Nat) : (n : Rat) < 2 ^ ((n.log2 : Int) + 1) := by
  rw [← Nat.cast_succ, zpow_natCast]
  exact_mod_cast Nat.lt_log2_self

/-- The bits of numerator and denominator give the exponent of a quotient up to one. -/
theorem zpow_le_quotient {a b : Nat} (numerator : a ≠ 0) (denominator : b ≠ 0) :
    (2 : Rat) ^ ((a.log2 : Int) - b.log2 - 1) ≤ a / b := by
  have positive : (0 : Rat) < b := by exact_mod_cast Nat.pos_of_ne_zero denominator
  rw [le_div_iff₀ positive]
  calc (2 : Rat) ^ ((a.log2 : Int) - b.log2 - 1) * b
      ≤ 2 ^ ((a.log2 : Int) - b.log2 - 1) * 2 ^ ((b.log2 : Int) + 1) :=
        mul_le_mul_of_nonneg_left (lt_zpow_log2_succ b).le (zpow_two_pos _).le
    _ = 2 ^ (a.log2 : Int) := by
        rw [← zpow_two_add]
        congr 1
        omega
    _ ≤ a := zpow_log2_le numerator

theorem quotient_lt_zpow (a : Nat) {b : Nat} (denominator : b ≠ 0) :
    (a : Rat) / b < 2 ^ ((a.log2 : Int) - b.log2 + 1) := by
  have positive : (0 : Rat) < b := by exact_mod_cast Nat.pos_of_ne_zero denominator
  rw [div_lt_iff₀ positive]
  calc (a : Rat) < 2 ^ ((a.log2 : Int) + 1) := lt_zpow_log2_succ a
    _ = 2 ^ ((a.log2 : Int) - b.log2 + 1) * 2 ^ (b.log2 : Int) := by
        rw [← zpow_two_add]
        congr 1
        omega
    _ ≤ 2 ^ ((a.log2 : Int) - b.log2 + 1) * b :=
        mul_le_mul_of_nonneg_left (zpow_log2_le denominator) (zpow_two_pos _).le

theorem eq_natAbs_num_div_den {r : Rat} (positive : 0 < r) : (r.num.natAbs : Rat) / r.den = r := by
  have whole : ((r.num.natAbs : Int) : Rat) = r.num :=
    congrArg Int.cast (Int.natAbs_of_nonneg (Rat.num_pos.mpr positive).le)
  rw [Int.cast_natCast] at whole
  rw [whole, Rat.num_div_den]

theorem leadingExponent_eq_log {r : Rat} (positive : 0 < r) : leadingExponent r = Int.log 2 r := by
  have numerator : r.num.natAbs ≠ 0 := Int.natAbs_ne_zero.mpr (Rat.num_pos.mpr positive).ne'
  have low := zpow_le_quotient numerator r.den_nz
  have high := quotient_lt_zpow r.num.natAbs r.den_nz
  rw [eq_natAbs_num_div_den positive] at low high
  have exponentLow := (Int.zpow_le_iff_le_log (b := 2) (by decide) positive).mp low
  have exponentHigh := (Int.lt_zpow_iff_log_lt (b := 2) (by decide) positive).mp high
  have decided := Int.zpow_le_iff_le_log (b := 2) (x := (r.num.natAbs.log2 : Int) - r.den.log2)
    (by decide) positive
  unfold leadingExponent
  dsimp only
  split
  · rename_i reached
    have atLeast := decided.mp reached
    omega
  · rename_i missed
    have below := mt decided.mpr missed
    omega

end LeadingExponent

section WholeNumbers

theorem roundHalfEven_natCast (n : Nat) : roundHalfEven (n : Rat) = n := by
  have floored : (n : Rat).floor.toNat = n := by
    rw [← Int.cast_natCast, Rat.floor_intCast, Int.toNat_natCast]
  unfold roundHalfEven
  simp only [floored, sub_self]
  rw [if_pos (by norm_num)]

theorem roundHalfEven_of_lt_half {r : Rat} (small : r < 1 / 2) : roundHalfEven r = 0 := by
  have floored : r.floor.toNat = 0 := by
    have below : r.floor < 1 := Rat.floor_lt_iff.mpr (by push_cast; linarith)
    omega
  unfold roundHalfEven
  simp only [floored, Nat.cast_zero, sub_zero]
  rw [if_pos small]

theorem le_roundHalfEven {r : Rat} {n : Nat} (low : (n : Rat) ≤ r) : n ≤ roundHalfEven r := by
  have floored : n ≤ r.floor.toNat := by
    have below : (n : Int) ≤ r.floor := Rat.le_floor_iff.mpr (by exact_mod_cast low)
    omega
  unfold roundHalfEven
  dsimp only
  split
  · exact floored
  · split
    · omega
    · split <;> omega

end WholeNumbers

section Sizes

theorem ofSize_eq_of_false (negative : Bool) (r : Rat) :
    ofSize negative r = { ofSize false r with negative } := by
  unfold ofSize
  split <;> rfl

theorem ofSize_of_pos (negative : Bool) {r : Rat} (positive : 0 < r) :
    ofSize negative r =
      ofMagnitude negative ((roundingScale r + 1074).toNat * fractionCount +
        roundHalfEven (r / 2 ^ roundingScale r)) := by
  unfold ofSize
  rw [if_neg positive.ne']

theorem cast_fractionCount : (fractionCount : Rat) = 2 ^ (52 : Int) := by norm_num [fractionCount]

/-- A significand that fills its fifty-three bits, or has the least scale, is in place. -/
theorem roundingScale_eq {significand : Nat} {scale : Int} (positive : 0 < significand)
    (bits : significand < 2 * fractionCount)
    (inPlace : fractionCount ≤ significand ∧ -1074 ≤ scale ∨ scale = -1074) :
    roundingScale ((significand : Rat) * 2 ^ scale) = scale := by
  have size : (0 : Rat) < significand * 2 ^ scale :=
    mul_pos (by exact_mod_cast positive) (zpow_two_pos scale)
  have high : (significand : Rat) * 2 ^ scale < 2 ^ (scale + 53) := by
    have cast : (significand : Rat) < 2 ^ (53 : Int) := by
      have bound : (significand : Rat) < 2 * fractionCount := by exact_mod_cast bits
      rw [cast_fractionCount] at bound
      norm_num at bound ⊢
      exact bound
    rw [add_comm, zpow_two_add]
    exact mul_lt_mul_of_pos_right cast (zpow_two_pos scale)
  have exponentHigh := (Int.lt_zpow_iff_log_lt (b := 2) (by decide) size).mp high
  unfold roundingScale
  rw [leadingExponent_eq_log size]
  rcases inPlace with ⟨full, least⟩ | least
  · have low : (2 : Rat) ^ (scale + 52) ≤ significand * 2 ^ scale := by
      have cast : (2 : Rat) ^ (52 : Int) ≤ significand := by
        rw [← cast_fractionCount]
        exact_mod_cast full
      rw [add_comm, zpow_two_add]
      exact mul_le_mul_of_nonneg_right cast (zpow_two_pos scale).le
    have exponentLow := (Int.zpow_le_iff_le_log (b := 2) (by decide) size).mp low
    omega
  · omega

theorem ofSize_exact (negative : Bool) {significand : Nat} {scale : Int}
    (positive : 0 < significand) (bits : significand < 2 * fractionCount)
    (inPlace : fractionCount ≤ significand ∧ -1074 ≤ scale ∨ scale = -1074) :
    ofSize negative ((significand : Rat) * 2 ^ scale) =
      ofMagnitude negative ((scale + 1074).toNat * fractionCount + significand) := by
  have size : (0 : Rat) < significand * 2 ^ scale :=
    mul_pos (by exact_mod_cast positive) (zpow_two_pos scale)
  rw [ofSize_of_pos negative size, roundingScale_eq positive bits inPlace, mul_div_assoc,
    div_self (zpow_two_pos scale).ne', mul_one, roundHalfEven_natCast]

theorem ofMagnitude_of_isFinite {x : Binary64} (finite : x.isFinite = true) (negative : Bool) :
    ofMagnitude negative x.magnitude = { x with negative } := by
  have below : x.magnitude.val < infinityMagnitude := of_decide_eq_true finite
  unfold ofMagnitude
  congr 1
  apply Fin.ext
  exact Nat.min_eq_left below.le

theorem ofMagnitude_of_infinite {magnitude : Nat} (high : infinityMagnitude ≤ magnitude)
    (negative : Bool) : ofMagnitude negative magnitude = infinity negative := by
  unfold infinity ofMagnitude
  congr 2
  omega

section Fields

variable (x : Binary64)

theorem fraction_lt : x.fraction < fractionCount := Nat.mod_lt _ (by decide)

theorem significand_lt : x.significand < 2 * fractionCount := by
  have small := x.fraction_lt
  unfold significand
  split <;> omega

theorem significand_inPlace :
    fractionCount ≤ x.significand ∧ -1074 ≤ x.scale ∨ x.scale = -1074 := by
  unfold significand scale
  split <;> omega

theorem encode_significand :
    (x.scale + 1074).toNat * fractionCount + x.significand = x.magnitude := by
  have fields : x.exponentField * fractionCount + x.fraction = x.magnitude :=
    Nat.div_add_mod' x.magnitude fractionCount
  unfold significand scale
  by_cases least : x.exponentField = 0
  · have place : ((max x.exponentField 1 : Nat) - 1075 + 1074 : Int).toNat = 0 := by omega
    rw [if_pos least, place, ← fields, least]
  · have place :
        ((max x.exponentField 1 : Nat) - 1075 + 1074 : Int).toNat + 1 = x.exponentField := by
      omega
    -- The leading bit of the significand is the unit by which the exponent field is larger.
    rw [if_neg least, ← fields]
    generalize ((max x.exponentField 1 : Nat) - 1075 + 1074 : Int).toNat = below at place ⊢
    rw [← place, Nat.add_mul, Nat.one_mul, Nat.add_assoc]

end Fields

/-- Rounding keeps what it can represent. -/
theorem ofSize_size {x : Binary64} (finite : x.isFinite = true) : ofSize false x.size = x.abs := by
  have kept := ofMagnitude_of_isFinite finite false
  have encoded := x.encode_significand
  unfold size
  rcases Nat.eq_zero_or_pos x.significand with zero | positive
  · have least : x.scale = -1074 := by
      have inPlace := x.significand_inPlace
      have counted : 0 < fractionCount := by decide
      omega
    rw [zero, least, Nat.add_zero] at encoded
    rw [zero, Nat.cast_zero, zero_mul]
    unfold ofSize
    rw [if_pos rfl]
    rw [← encoded] at kept
    exact kept
  · rw [ofSize_exact false positive x.significand_lt x.significand_inPlace, encoded]
    exact kept

theorem ofSize_of_huge (negative : Bool) {r : Rat} (huge : (2 : Rat) ^ (1024 : Int) ≤ r) :
    ofSize negative r = infinity negative := by
  have positive : 0 < r := (zpow_two_pos 1024).trans_le huge
  have exponent := (Int.zpow_le_iff_le_log (b := 2) (by decide) positive).mp huge
  have scaled : roundingScale r = Int.log 2 r - 52 := by
    unfold roundingScale
    rw [leadingExponent_eq_log positive]
    omega
  -- At this scale the leading bit alone is already a whole `fractionCount`.
  have bits : fractionCount ≤ roundHalfEven (r / 2 ^ roundingScale r) := by
    apply le_roundHalfEven
    rw [cast_fractionCount, le_div_iff₀ (zpow_two_pos _), ← zpow_two_add, scaled]
    have leading := Int.zpow_log_le_self (b := 2) (by decide) positive
    have same : (52 : Int) + (Int.log 2 r - 52) = Int.log 2 r := by omega
    rw [same]
    exact leading
  rw [ofSize_of_pos negative positive]
  apply ofMagnitude_of_infinite
  have place : 2046 ≤ (roundingScale r + 1074).toNat := by omega
  calc infinityMagnitude = 2046 * fractionCount + fractionCount := by decide
    _ ≤ (roundingScale r + 1074).toNat * fractionCount +
        roundHalfEven (r / 2 ^ roundingScale r) :=
      Nat.add_le_add (Nat.mul_le_mul_right fractionCount place) bits

theorem ofSize_of_tiny (negative : Bool) {r : Rat} (positive : 0 < r)
    (tiny : r < (2 : Rat) ^ (-1075 : Int)) : ofSize negative r = ofMagnitude negative 0 := by
  have exponent := (Int.lt_zpow_iff_log_lt (b := 2) (by decide) positive).mp tiny
  have scaled : roundingScale r = -1074 := by
    unfold roundingScale
    rw [leadingExponent_eq_log positive]
    omega
  have half : r / (2 : Rat) ^ (-1074 : Int) < 1 / 2 := by
    have next : (2 : Rat) ^ (-1075 : Int) = 1 / 2 * 2 ^ (-1074 : Int) := by
      have parts := zpow_two_add (-1) (-1074)
      norm_num at parts ⊢
      exact parts
    rw [div_lt_iff₀ (zpow_two_pos _), ← next]
    exact tiny
  rw [ofSize_of_pos negative positive, scaled, roundHalfEven_of_lt_half half]
  rfl

end Sizes

section Decimals

theorem width_pos (n : Nat) : 0 < Decimal.width n := Nat.length_toDigits_pos

theorem lt_pow_width (n : Nat) : n < 10 ^ Decimal.width n :=
  (Nat.length_toDigits_le_iff (by decide) (width_pos n)).mp (Nat.le_refl _)

theorem pow_width_le {n : Nat} (nonzero : n ≠ 0) : 10 ^ (Decimal.width n - 1) ≤ n := by
  by_contra less
  have small : n < 10 ^ (Decimal.width n - 1) := Nat.lt_of_not_le less
  have positive := width_pos n
  rcases Nat.eq_zero_or_pos (Decimal.width n - 1) with single | several
  · rw [single, Nat.pow_zero] at small
    omega
  · have short := (Nat.length_toDigits_le_iff (b := 10) (by decide) several).mpr small
    change Decimal.width n ≤ Decimal.width n - 1 at short
    omega

/-- The digits and the exponent of a decimal number enclose its size between two powers of ten. -/
theorem size_bounds {decimal : Decimal} (nonzero : decimal.digits ≠ 0) :
    (10 : Rat) ^ ((Decimal.width decimal.digits : Int) + decimal.exponent - 1) ≤ decimal.size ∧
      decimal.size < 10 ^ ((Decimal.width decimal.digits : Int) + decimal.exponent) := by
  have positive := width_pos decimal.digits
  have low : (10 : Rat) ^ ((Decimal.width decimal.digits : Int) - 1) ≤ decimal.digits := by
    have place :
        (Decimal.width decimal.digits : Int) - 1 = (Decimal.width decimal.digits - 1 : Nat) := by
      omega
    rw [place, zpow_natCast]
    exact_mod_cast pow_width_le nonzero
  have high : (decimal.digits : Rat) < 10 ^ (Decimal.width decimal.digits : Int) := by
    rw [zpow_natCast]
    exact_mod_cast lt_pow_width decimal.digits
  unfold Decimal.size
  constructor
  · rw [add_sub_right_comm, zpow_ten_add]
    exact mul_le_mul_of_nonneg_right low (zpow_ten_pos _).le
  · rw [zpow_ten_add]
    exact mul_lt_mul_of_pos_right high (zpow_ten_pos _)

theorem zpow_two_le_zpow_ten : (2 : Rat) ^ (1024 : Int) ≤ 10 ^ (310 : Int) := by
  have powers : 2 ^ 1024 ≤ 10 ^ 310 := by decide +kernel
  rw [zpow_ofNat, zpow_ofNat]
  exact_mod_cast powers

theorem zpow_ten_lt_zpow_two : (10 : Rat) ^ (-331 : Int) < 2 ^ (-1075 : Int) := by
  have powers : 2 ^ 1075 < 10 ^ 331 := by decide +kernel
  rw [zpow_neg, zpow_neg, zpow_ofNat, zpow_ofNat]
  exact inv_strictAnti₀ (by positivity) (by exact_mod_cast powers)

/-- Whether or not its power of ten is computed, a decimal number is rounded by its size. -/
theorem ofDecimal_eq_ofSize (decimal : Decimal) :
    ofDecimal decimal = ofSize decimal.negative decimal.size := by
  unfold ofDecimal
  dsimp only
  by_cases zero : decimal.digits = 0
  · rw [if_pos zero]
    unfold ofSize Decimal.size
    rw [zero, Nat.cast_zero, zero_mul, if_pos rfl]
  · obtain ⟨low, high⟩ := size_bounds zero
    rw [if_neg zero]
    split
    · rename_i huge
      have far : (10 : Rat) ^ (310 : Int) ≤
          10 ^ ((Decimal.width decimal.digits : Int) + decimal.exponent - 1) :=
        zpow_le_zpow_right₀ (by norm_num) (by omega)
      exact (ofSize_of_huge _ (zpow_two_le_zpow_ten.trans (far.trans low))).symm
    · split
      · rename_i tiny
        have near : (10 : Rat) ^ ((Decimal.width decimal.digits : Int) + decimal.exponent) ≤
            10 ^ (-331 : Int) :=
          zpow_le_zpow_right₀ (by norm_num) (by omega)
        have positive : 0 < decimal.size := (zpow_ten_pos _).trans_le low
        exact (ofSize_of_tiny _ positive ((high.trans_le near).trans zpow_ten_lt_zpow_two)).symm
      · rfl

theorem size_exactDecimal (x : Binary64) : x.exactDecimal.size = x.size := by
  unfold exactDecimal size
  split
  · rename_i whole
    have power : (2 : Rat) ^ x.scale = (Nat.pow 2 x.scale.toNat : Nat) := by
      conv_lhs => rw [← Int.toNat_of_nonneg whole]
      rw [zpow_natCast]
      norm_cast
    unfold Decimal.size
    rw [power, zpow_zero, mul_one, Nat.cast_mul]
  · rename_i broken
    have opposite : x.scale = -((-x.scale).toNat : Int) := by omega
    have power : ((Nat.pow 5 (-x.scale).toNat : Nat) : Rat) * 10 ^ x.scale = 2 ^ x.scale := by
      generalize (-x.scale).toNat = places at opposite ⊢
      rw [opposite, zpow_neg, zpow_neg, zpow_natCast, zpow_natCast]
      have ten : (10 : Rat) ^ places = 2 ^ places * 5 ^ places := by
        rw [← mul_pow]
        norm_num
      have five : (5 : Rat) ^ places ≠ 0 := by positivity
      rw [ten, mul_inv, mul_comm (((2 : Rat) ^ places)⁻¹), ← mul_assoc]
      have cast : ((Nat.pow 5 places : Nat) : Rat) = 5 ^ places := by norm_cast
      rw [cast, mul_inv_cancel₀ five, one_mul]
    unfold Decimal.size
    rw [Nat.cast_mul, mul_assoc, power]

theorem roundsTo_of_candidate? {x : Binary64} {digitCount : Nat} {decimal : Decimal}
    (found : x.candidate? digitCount = some decimal) : x.roundsTo decimal = true := by
  unfold candidate? at found
  dsimp only at found
  split at found
  · rename_i belowFits aboveFits
    cases found
    split
    · exact belowFits
    · exact aboveFits
  · rename_i belowFits _
    cases found
    exact belowFits
  · rename_i _ aboveFits
    cases found
    exact aboveFits
  · cases found

/-- The shortest decimal number of a finite datum is rounded to the datum. -/
theorem ofSize_size_shortest {x : Binary64} (finite : x.isFinite = true) :
    ofSize false x.shortest.size = x.abs := by
  unfold shortest
  cases found : (List.range' 1 17).findSome? x.candidate? with
  | none =>
      rw [Option.getD_none, size_exactDecimal]
      exact ofSize_size finite
  | some decimal =>
      obtain ⟨digitCount, _listed, fits⟩ := List.exists_of_findSome?_eq_some found
      exact of_decide_eq_true (roundsTo_of_candidate? fits)

theorem digits_shortest_ne_zero {x : Binary64} (finite : x.isFinite = true)
    (nonzero : x.isZero = false) : x.shortest.digits ≠ 0 := by
  intro noDigits
  have rounded := ofSize_size_shortest finite
  unfold Decimal.size ofSize at rounded
  rw [noDigits, Nat.cast_zero, zero_mul, if_pos rfl] at rounded
  have magnitude : x.magnitude.val = 0 :=
    (congrArg (fun datum : Binary64 => datum.magnitude.val) rounded).symm
  exact absurd (decide_eq_true magnitude) (Bool.eq_false_iff.mp nonzero)

end Decimals

end Binary64
end Number
end LoopLesson

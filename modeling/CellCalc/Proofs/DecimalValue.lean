import CellCalc.Double.Decimal
import CellCalc.Proofs.Rounding

/-!
# DecimalValue — the nearest double depends on the value alone

The double of a decimal is the one nearest to its exact value. The limits that keep huge and tiny
exponents from being worked out change nothing, so decimals of one value have one double, and a
larger value never has a lower rank.

* `Decimal.AtMost` — the order of the values.
* `Decimal.rank` — the rank nearest to the value.
* `Decimal.toDouble_eq` — the double is the one of this rank.
* `Decimal.rank_mono`, `Decimal.rank_shift` — the rank follows the value.
-/

namespace CellCalc
namespace Decimal

/-! ## Values -/

/-- The magnitude of a decimal in units, as a quotient. -/
def inUnits (d : Decimal) : Nat × Nat :=
  (d.coefficient * 10 ^ d.exponent.toNat * Double.unitsInOne, 10 ^ (-d.exponent).toNat)

/-- The rank whose magnitude is nearest to the one of a decimal. -/
def rank (d : Decimal) : Nat :=
  Double.nearestRank d.inUnits.1 d.inUnits.2

/-- The magnitude of one decimal is at most the one of another. -/
def AtMost (d d' : Decimal) : Prop :=
  d.coefficient * 10 ^ (d.exponent.toNat + (-d'.exponent).toNat) ≤
    d'.coefficient * 10 ^ (d'.exponent.toNat + (-d.exponent).toNat)

theorem inUnits_pos (d : Decimal) : 0 < d.inUnits.2 :=
  Nat.pow_pos (by decide)

theorem inUnits_cross (d d' : Decimal) :
    d.inUnits.1 * d'.inUnits.2 =
      d.coefficient * 10 ^ (d.exponent.toNat + (-d'.exponent).toNat) * Double.unitsInOne := by
  simp only [inUnits, Nat.pow_add]
  -- what one unit is does not matter here
  generalize Double.unitsInOne = unit
  ac_rfl

theorem rank_mono {d d' : Decimal} (h : d.AtMost d') : d.rank ≤ d'.rank := by
  refine Double.nearestRank_mono d.inUnits_pos d'.inUnits_pos ?_
  -- the units in one are a factor on both sides
  rw [inUnits_cross, inUnits_cross]
  exact Nat.mul_le_mul_right _ h

theorem rank_zero (negative : Bool) (exponent : Int) :
    (Decimal.mk negative 0 exponent).rank = 0 := by
  have hzero : (Decimal.mk negative 0 exponent).inUnits.1 = 0 := by
    unfold inUnits
    rw [Nat.zero_mul, Nat.zero_mul]
  rw [rank, hzero, Double.nearestRank_zero]

/-- A whole number of units has its exact decimal. -/
theorem rank_of_units {negative : Bool} {fives places : Nat} (n : Nat)
    (h : fives * Double.unitsInOne = 10 ^ places) :
    (Decimal.mk negative (n * fives) (-places)).rank = Double.nearestRank n 1 := by
  have hwhole : (-(places : Int)).toNat = 0 := by omega
  have hpart : (-(-(places : Int))).toNat = places := by omega
  refine Double.nearestRank_congr (inUnits_pos _) Nat.zero_lt_one ?_
  unfold inUnits
  dsimp only
  rw [hwhole, hpart, Nat.pow_zero, Nat.mul_one, Nat.mul_one, Nat.mul_assoc, h]

/-- Zeros may move from the coefficient to the exponent. -/
theorem rank_shift (negative : Bool) (coefficient zeros : Nat) (exponent : Int) :
    (Decimal.mk negative (coefficient * 10 ^ zeros) exponent).rank =
      (Decimal.mk negative coefficient (exponent + zeros)).rank := by
  refine Double.nearestRank_congr (inUnits_pos _) (inUnits_pos _) ?_
  have hexponents : zeros + (exponent.toNat + (-(exponent + zeros)).toNat) =
      (exponent + zeros).toNat + (-exponent).toNat := by omega
  rw [inUnits_cross, inUnits_cross, Nat.mul_assoc coefficient, ← Nat.pow_add, hexponents]

/-! ## Powers of ten -/

theorem atMost_of_pow_le {negative negative' : Bool} {coefficient digits : Nat}
    {exponent power : Int} (h : 10 ^ digits ≤ coefficient) (hpower : power ≤ digits + exponent) :
    (Decimal.mk negative 1 power).AtMost (Decimal.mk negative' coefficient exponent) := by
  have hexponents : power.toNat + (-exponent).toNat ≤
      digits + (exponent.toNat + (-power).toNat) := by omega
  calc
    1 * 10 ^ (power.toNat + (-exponent).toNat) = 10 ^ (power.toNat + (-exponent).toNat) :=
      Nat.one_mul _
    _ ≤ 10 ^ (digits + (exponent.toNat + (-power).toNat)) :=
      Nat.pow_le_pow_right (by decide) hexponents
    _ = 10 ^ digits * 10 ^ (exponent.toNat + (-power).toNat) := Nat.pow_add _ _ _
    _ ≤ coefficient * 10 ^ (exponent.toNat + (-power).toNat) := Nat.mul_le_mul_right _ h

theorem atMost_of_lt_pow {negative negative' : Bool} {coefficient digits : Nat}
    {exponent power : Int} (h : coefficient < 10 ^ digits) (hpower : digits + exponent ≤ power) :
    (Decimal.mk negative coefficient exponent).AtMost (Decimal.mk negative' 1 power) := by
  have hexponents : digits + (exponent.toNat + (-power).toNat) ≤
      power.toNat + (-exponent).toNat := by omega
  calc
    coefficient * 10 ^ (exponent.toNat + (-power).toNat) ≤
        10 ^ digits * 10 ^ (exponent.toNat + (-power).toNat) := Nat.mul_le_mul_right _ (Nat.le_of_lt h)
    _ = 10 ^ (digits + (exponent.toNat + (-power).toNat)) := (Nat.pow_add _ _ _).symm
    _ ≤ 10 ^ (power.toNat + (-exponent).toNat) := Nat.pow_le_pow_right (by decide) hexponents
    _ = 1 * 10 ^ (power.toNat + (-exponent).toNat) := (Nat.one_mul _).symm

/-! ## The limits -/

theorem finiteRanks_le_rank_of_large {negative : Bool} {coefficient exponent : Nat}
    (hne : coefficient ≠ 0) (hlarge : largeExponent ≤ exponent) :
    finiteRanks ≤ (Decimal.mk negative coefficient (Int.ofNat exponent)).rank := by
  -- the least coefficient at the limit is beyond already
  have hborder : finiteRanks ≤ (Decimal.mk false 1 largeExponent).rank := by decide +kernel
  have hcoefficient : 10 ^ 0 ≤ coefficient := Nat.one_le_iff_ne_zero.2 hne
  refine Nat.le_trans hborder (rank_mono (atMost_of_pow_le hcoefficient ?_))
  simpa using hlarge

theorem rank_eq_zero_of_isTiny {negative : Bool} {coefficient exponent : Nat}
    (htiny : isTiny coefficient (exponent + 1) = true) :
    (Decimal.mk negative coefficient (Int.negSucc exponent)).rank = 0 := by
  have hlt : Nat.log2 coefficient + 1077 < 3 * (exponent + 1) := by simpa [isTiny] using htiny
  have height : ∃ bits, Double.unitsInOne * 8 = 2 ^ bits ∧ bits ≤ 1077 :=
    ⟨1077, by decide +kernel, Nat.le_refl 1077⟩
  rcases height with ⟨bits, height, hbits⟩
  -- the value is under an eighth of a unit
  have hcross : coefficient * 10 ^ 0 * Double.unitsInOne * 8 ≤ 1 * 10 ^ (exponent + 1) := by
    calc
      coefficient * 10 ^ 0 * Double.unitsInOne * 8 = coefficient * (Double.unitsInOne * 8) := by
        rw [Nat.pow_zero, Nat.mul_one, Nat.mul_assoc]
      _ ≤ 2 ^ (Nat.log2 coefficient + 1) * (Double.unitsInOne * 8) :=
        Nat.mul_le_mul_right _ (Nat.le_of_lt Nat.lt_log2_self)
      _ = 2 ^ (Nat.log2 coefficient + 1 + bits) := by rw [height, ← Nat.pow_add]
      _ ≤ 2 ^ (3 * (exponent + 1)) := Nat.pow_le_pow_right (by decide) (by omega)
      _ = 8 ^ (exponent + 1) := Nat.pow_mul 2 3 (exponent + 1)
      _ ≤ 10 ^ (exponent + 1) := Nat.pow_le_pow_left (by decide) _
      _ = 1 * 10 ^ (exponent + 1) := (Nat.one_mul _).symm
  have heighth : Double.nearestRank 1 8 = 0 := by decide
  refine Nat.le_zero.1 (heighth ▸ ?_)
  exact Double.nearestRank_mono (Nat.pow_pos (by decide)) (by decide) hcross

/-! ## The nearest double -/

theorem toDouble_eq (d : Decimal) : d.toDouble = Double.ofRank d.negative d.rank := by
  rcases d with ⟨negative, coefficient, exponent⟩
  unfold toDouble
  dsimp only
  split
  · next hzero =>
      rw [hzero, rank_zero]
      rfl
  · next hne =>
      split
      · next e =>
          split
          -- both limits give the rank that would have been worked out
          · next hlarge =>
              have hbeyond : finiteRanks ≤ (Decimal.mk negative coefficient (Int.ofNat e)).rank :=
                finiteRanks_le_rank_of_large hne hlarge
              rw [Double.ofRank, dif_neg (Nat.not_lt.2 hbeyond)]
          · simp [Double.ofUnits, rank, inUnits]
      · next e =>
          split
          · next htiny =>
              rw [rank_eq_zero_of_isTiny htiny]
              rfl
          · simp [Double.ofUnits, rank, inUnits, Int.toNat_negSucc]

end Decimal
end CellCalc

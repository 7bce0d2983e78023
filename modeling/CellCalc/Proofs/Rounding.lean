import CellCalc.Double.Basic

/-!
# Rounding — the nearest magnitude follows the order of the quotients

A larger quotient of units never has a lower rank, whatever whole numbers the quotients are written
with, and a magnitude is its own nearest rank.

* `Double.roundHalfEven_mono` — rounding to whole numbers keeps the order.
* `Double.nearestRank_mono` — so does the nearest rank.
* `Double.nearestRank_congr` — equal quotients have one nearest rank.
* `Double.nearestRank_units` — the magnitude of a rank is nearest to itself.
* `Double.nearestRank_ones_eq_zero_iff` — the integers that are rounded to zero.
-/

namespace CellCalc
namespace Double

variable {num den num' den' : Nat}

/-! ## Whole numbers -/

theorem div_le_div_of_cross (hden : 0 < den) (hden' : 0 < den') (h : num * den' ≤ num' * den) :
    num / den ≤ num' / den' := by
  rw [Nat.le_div_iff_mul_le hden']
  -- the denominators are cleared on both sides
  refine Nat.le_of_mul_le_mul_right ?_ hden
  calc
    num / den * den' * den = num / den * den * den' := Nat.mul_right_comm _ _ _
    _ ≤ num * den' := Nat.mul_le_mul_right den' (Nat.div_mul_le_self num den)
    _ ≤ num' * den := h

theorem le_roundHalfEven (num den : Nat) : num / den ≤ roundHalfEven num den := by
  unfold roundHalfEven
  dsimp only
  split
  · exact Nat.le_refl _
  split
  · exact Nat.le_succ _
  · exact Nat.le_add_right _ _

theorem roundHalfEven_le (num den : Nat) : roundHalfEven num den ≤ num / den + 1 := by
  unfold roundHalfEven
  dsimp only
  split
  · exact Nat.le_succ _
  split
  · exact Nat.le_refl _
  · omega

theorem mod_cross_of_div_eq (h : num * den' ≤ num' * den) (hsame : num / den = num' / den') :
    num % den * den' ≤ num' % den' * den := by
  have hnum := Nat.div_add_mod num den
  have hnum' := Nat.div_add_mod num' den'
  rw [hsame] at hnum
  refine Nat.le_of_add_le_add_left (a := num' / den' * (den * den')) ?_
  calc
    num' / den' * (den * den') + num % den * den' =
        (den * (num' / den') + num % den) * den' := by
      rw [Nat.add_mul]
      ac_rfl
    _ = num * den' := by rw [hnum]
    _ ≤ num' * den := h
    _ = (den' * (num' / den') + num' % den') * den := by rw [hnum']
    _ = num' / den' * (den * den') + num' % den' * den := by
      rw [Nat.add_mul]
      ac_rfl

/-- Between one whole number and the next, the part left over decides. -/
theorem roundHalfEven_mono_of_div_eq (hden : 0 < den) (hden' : 0 < den')
    (h : num * den' ≤ num' * den) (hsame : num / den = num' / den') :
    roundHalfEven num den ≤ roundHalfEven num' den' := by
  have hcross := mod_cross_of_div_eq h hsame
  by_cases hless : 2 * (num % den) < den
  · -- the smaller quotient is rounded down
    calc
      roundHalfEven num den = num / den := by simp [roundHalfEven, hless]
      _ = num' / den' := hsame
      _ ≤ roundHalfEven num' den' := le_roundHalfEven num' den'
  · -- the larger quotient has at least a half left over, as the smaller one has
    have hleast : den * den' ≤ 2 * (num' % den') * den := by
      calc
        den * den' ≤ 2 * (num % den) * den' := Nat.mul_le_mul_right den' (by omega)
        _ = 2 * (num % den * den') := Nat.mul_assoc _ _ _
        _ ≤ 2 * (num' % den' * den) := Nat.mul_le_mul_left 2 hcross
        _ = 2 * (num' % den') * den := (Nat.mul_assoc _ _ _).symm
    have hhalf : den' ≤ 2 * (num' % den') := by
      rw [Nat.mul_comm den] at hleast
      exact Nat.le_of_mul_le_mul_right hleast hden
    by_cases htie : den' = 2 * (num' % den')
    · -- if the larger one has just a half, so has the smaller one: both go to the even neighbour
      have hmore : ¬den < 2 * (num % den) := by
        intro hlt
        have hlarger : den * den' < 2 * (num' % den') * den := by
          calc
            den * den' < 2 * (num % den) * den' := Nat.mul_lt_mul_of_pos_right hlt hden'
            _ = 2 * (num % den * den') := Nat.mul_assoc _ _ _
            _ ≤ 2 * (num' % den' * den) := Nat.mul_le_mul_left 2 hcross
            _ = 2 * (num' % den') * den := (Nat.mul_assoc _ _ _).symm
        rw [← htie, Nat.mul_comm den'] at hlarger
        exact Nat.lt_irrefl _ hlarger
      have hless' : ¬2 * (num' % den') < den' := by omega
      have hmore' : ¬den' < 2 * (num' % den') := by omega
      simp only [roundHalfEven, if_neg hless, if_neg hmore, if_neg hless', if_neg hmore', hsame]
      exact Nat.le_refl _
    · -- if it has more, it is rounded up
      have hless' : ¬2 * (num' % den') < den' := by omega
      have hmore' : den' < 2 * (num' % den') := by omega
      calc
        roundHalfEven num den ≤ num / den + 1 := roundHalfEven_le num den
        _ = num' / den' + 1 := by rw [hsame]
        _ = roundHalfEven num' den' := by
          simp only [roundHalfEven, if_neg hless', if_pos hmore']

theorem roundHalfEven_mono (hden : 0 < den) (hden' : 0 < den') (h : num * den' ≤ num' * den) :
    roundHalfEven num den ≤ roundHalfEven num' den' := by
  rcases Nat.lt_or_eq_of_le (div_le_div_of_cross hden hden' h) with hlt | hsame
  · -- with a whole number between them, any rounding keeps the order
    calc
      roundHalfEven num den ≤ num / den + 1 := roundHalfEven_le num den
      _ ≤ num' / den' := hlt
      _ ≤ roundHalfEven num' den' := le_roundHalfEven num' den'
  · exact roundHalfEven_mono_of_div_eq hden hden' h hsame

/-! ## Ranks -/

/-- In steps of its spacing a quotient of units has no more bits than the precision. -/
theorem lt_two_pow_of_width (hden : 0 < den) :
    num < 2 ^ 53 * (den * 2 ^ (Nat.log2 (num / den) - 52)) := by
  have hquotient : num / den < 2 ^ (Nat.log2 (num / den) + 1) := Nat.lt_log2_self
  have hbits : Nat.log2 (num / den) + 1 ≤ 53 + (Nat.log2 (num / den) - 52) := by omega
  calc
    num < 2 ^ (Nat.log2 (num / den) + 1) * den := (Nat.div_lt_iff_lt_mul hden).1 hquotient
    _ ≤ 2 ^ (53 + (Nat.log2 (num / den) - 52)) * den :=
      Nat.mul_le_mul_right den (Nat.pow_le_pow_right (by decide) hbits)
    _ = 2 ^ 53 * (den * 2 ^ (Nat.log2 (num / den) - 52)) := by
      rw [Nat.pow_add]
      ac_rfl

theorem nearestRank_le (hden : 0 < den) :
    nearestRank num den ≤ (Nat.log2 (num / den) - 52) * 2 ^ 52 + 2 ^ 53 := by
  have hpos : 0 < den * 2 ^ (Nat.log2 (num / den) - 52) := Nat.mul_pos hden (Nat.two_pow_pos _)
  have hcross : num * 1 ≤ 2 ^ 53 * (den * 2 ^ (Nat.log2 (num / den) - 52)) := by
    rw [Nat.mul_one]
    exact Nat.le_of_lt (lt_two_pow_of_width hden)
  have hround := roundHalfEven_mono hpos Nat.zero_lt_one hcross
  have hwhole : roundHalfEven (2 ^ 53) 1 = 2 ^ 53 := by decide
  rw [hwhole] at hround
  exact Nat.add_le_add_left hround _

theorem le_nearestRank (hwide : 52 < Nat.log2 (num / den)) :
    (Nat.log2 (num / den) - 52) * 2 ^ 52 + 2 ^ 52 ≤ nearestRank num den := by
  refine Nat.add_le_add_left (Nat.le_trans ?_ (le_roundHalfEven _ _)) _
  have hne : num / den ≠ 0 := by
    intro hzero
    rw [hzero] at hwide
    exact absurd hwide (by decide)
  have hleast : 2 ^ Nat.log2 (num / den) ≤ num / den := Nat.log2_self_le hne
  have hbits : 52 + (Nat.log2 (num / den) - 52) = Nat.log2 (num / den) := by omega
  rw [← Nat.div_div_eq_div_mul, Nat.le_div_iff_mul_le (Nat.two_pow_pos _), ← Nat.pow_add, hbits]
  exact hleast

theorem log2_mono {n m : Nat} (h : n ≤ m) : Nat.log2 n ≤ Nat.log2 m := by
  by_cases hzero : n = 0
  · rw [hzero]
    exact Nat.zero_le _
  · have hpos : m ≠ 0 := by omega
    exact (Nat.le_log2 hpos).2 (Nat.le_trans (Nat.log2_self_le hzero) h)

theorem nearestRank_mono (hden : 0 < den) (hden' : 0 < den') (h : num * den' ≤ num' * den) :
    nearestRank num den ≤ nearestRank num' den' := by
  have hquotient := div_le_div_of_cross hden hden' h
  have hbits : Nat.log2 (num / den) ≤ Nat.log2 (num' / den') := log2_mono hquotient
  by_cases hsame : Nat.log2 (num / den) - 52 = Nat.log2 (num' / den') - 52
  · -- one spacing for both
    unfold nearestRank
    dsimp only
    rw [hsame]
    refine Nat.add_le_add_left (roundHalfEven_mono ?_ ?_ ?_) _
    · exact Nat.mul_pos hden (Nat.two_pow_pos _)
    · exact Nat.mul_pos hden' (Nat.two_pow_pos _)
    · rw [← Nat.mul_assoc, ← Nat.mul_assoc]
      exact Nat.mul_le_mul_right _ h
  · -- the finer spacing ends where the coarser one starts
    have hwide : 52 < Nat.log2 (num' / den') := by omega
    calc
      nearestRank num den ≤ (Nat.log2 (num / den) - 52) * 2 ^ 52 + 2 ^ 53 := nearestRank_le hden
      _ ≤ (Nat.log2 (num' / den') - 52) * 2 ^ 52 + 2 ^ 52 := by omega
      _ ≤ nearestRank num' den' := le_nearestRank hwide

theorem nearestRank_congr (hden : 0 < den) (hden' : 0 < den') (h : num * den' = num' * den) :
    nearestRank num den = nearestRank num' den' :=
  Nat.le_antisymm (nearestRank_mono hden hden' (Nat.le_of_eq h)) (nearestRank_mono hden' hden (Nat.le_of_eq h.symm))

theorem nearestRank_zero (den : Nat) : nearestRank 0 den = 0 := by
  simp [nearestRank, roundHalfEven]

/-- The magnitude of a rank has one more bit than the precision, unless its spacing is least. -/
theorem units_eq {rank : Nat} (h : 2 ^ 53 ≤ rank) :
    units rank = (2 ^ 52 + rank % 2 ^ 52) * 2 ^ spacing rank := by
  unfold units
  congr 1
  unfold spacing
  omega

theorem nearestRank_units (rank : Nat) : nearestRank (units rank) 1 = rank := by
  by_cases hsmall : rank < 2 ^ 53
  · -- with the least spacing a magnitude is its own rank
    have hspacing : spacing rank = 0 := by
      unfold spacing
      omega
    have hunits : units rank = rank := by simp [units, hspacing]
    have hwidth : Nat.log2 rank - 52 = 0 := by
      by_cases hzero : rank = 0
      · simp [hzero]
      · have hlog := (Nat.log2_lt hzero).2 hsmall
        omega
    have hround := roundHalfEven_mul rank Nat.zero_lt_one
    simpa [nearestRank, hunits, hwidth] using hround
  · -- the leading bit of a magnitude tells its spacing
    have hunits := units_eq (Nat.le_of_not_lt hsmall)
    have hbound : rank % 2 ^ 52 < 2 ^ 52 := Nat.mod_lt rank (by decide)
    have hlog : Nat.log2 (units rank) = 52 + spacing rank := by
      rw [hunits]
      have hpos : 0 < (2 ^ 52 + rank % 2 ^ 52) * 2 ^ spacing rank :=
        Nat.mul_pos (by omega) (Nat.two_pow_pos _)
      refine (Nat.log2_eq_iff (Nat.ne_of_gt hpos)).2 ⟨?_, ?_⟩
      · rw [Nat.pow_add]
        exact Nat.mul_le_mul_right _ (Nat.le_add_right _ _)
      · rw [Nat.add_right_comm, Nat.pow_add]
        exact Nat.mul_lt_mul_of_pos_right (by omega) (Nat.two_pow_pos _)
    have hwidth : Nat.log2 (units rank) - 52 = spacing rank := by omega
    unfold nearestRank
    dsimp only
    rw [Nat.div_one, hwidth, hunits, Nat.one_mul, roundHalfEven_mul _ (Nat.two_pow_pos _)]
    unfold spacing
    omega

/-- A whole number of ones is rounded to zero only if it is zero. -/
theorem nearestRank_ones_eq_zero_iff {n : Nat} : nearestRank (n * unitsInOne) 1 = 0 ↔ n = 0 := by
  constructor
  · intro hzero
    cases n with
    | zero => rfl
    | succ n =>
        -- the magnitude of rank one is one unit, and there are more units in one
        have hunit : nearestRank 1 1 = 1 := nearestRank_units 1
        have hone : 0 < unitsInOne := by decide +kernel
        have hpositive : 1 ≤ (n + 1) * unitsInOne := Nat.mul_pos (Nat.succ_pos n) hone
        have hrank := nearestRank_mono Nat.one_pos Nat.one_pos (Nat.mul_le_mul_right 1 hpositive)
        rw [hzero, hunit] at hrank
        exact absurd hrank (by decide)
  · rintro rfl
    rw [Nat.zero_mul, nearestRank_zero]

end Double
end CellCalc

import CellCalc.Double.Shortest
import CellCalc.Proofs.DecimalValue
import CellCalc.Proofs.PlainNumerals

/-!
# ShortestReads — the text of a double and what it reads back as

The decimal chosen for a double reads back as it. How it is laid out depends on the magnitude: from
0.0001 up to 10000000000000000 the text has digits and a point alone, and its decimal still has the
chosen value. Farther from one the text has an exponent.

* `Double.Plain` — zero, or a magnitude that is written without an exponent.
* `Double.rank_shortest` — the chosen decimal reads back.
* `Double.le_leadingPower_iff` — where the leading digit stands tells which magnitudes are plain.
* `Double.magnitudeText_of_plain`, `Double.magnitudeText_of_not_plain` — the two layouts.
-/

namespace CellCalc
namespace Double

variable {rank : Nat}

/-! ## The chosen decimal -/

theorem ofRank_eq_iff {negative : Bool} {other : Nat} (h : rank < finiteRanks) :
    ofRank negative other = ofRank negative rank ↔ other = rank := by
  rw [ofRank, ofRank, dif_pos h]
  split
  · simp
  · next hbeyond =>
      -- an infinity is no finite double
      have hne : other ≠ rank := by
        rintro rfl
        exact hbeyond h
      simp [hne]

theorem readsBack_iff {coefficient : Nat} {exponent : Int} (h : rank < finiteRanks) :
    readsBack rank coefficient exponent = true ↔
      (Decimal.mk false coefficient exponent).rank = rank := by
  rw [readsBack, Decimal.toDouble_eq, beq_iff_eq]
  exact ofRank_eq_iff h

theorem roundHalfEven_eq_or (num den : Nat) :
    roundHalfEven num den = num / den ∨ roundHalfEven num den = num / den + 1 := by
  have hleast := le_roundHalfEven num den
  have hmost := roundHalfEven_le num den
  omega

theorem rank_candidate? {exponent : Int} {chosen : Nat × Int} (h : rank < finiteRanks)
    (hchosen : candidate? rank exponent = some chosen) :
    (Decimal.mk false chosen.1 chosen.2).rank = rank := by
  rcases hscaled : scaled rank exponent with ⟨num, den⟩
  simp only [candidate?, hscaled] at hchosen
  cases hbelow : readsBack rank (num / den) exponent with
  | true =>
      cases habove : readsBack rank (num / den + 1) exponent with
      | true =>
          -- the nearer of the two, and either reads back
          simp only [hbelow, habove, Option.some.injEq] at hchosen
          subst hchosen
          rcases roundHalfEven_eq_or num den with heq | heq
          · rw [heq]
            exact (readsBack_iff h).1 hbelow
          · rw [heq]
            exact (readsBack_iff h).1 habove
      | false =>
          simp only [hbelow, habove, Option.some.injEq] at hchosen
          subst hchosen
          exact (readsBack_iff h).1 hbelow
  | false =>
      cases habove : readsBack rank (num / den + 1) exponent with
      | true =>
          simp only [hbelow, habove, Option.some.injEq] at hchosen
          subst hchosen
          exact (readsBack_iff h).1 habove
      | false => simp [hbelow, habove] at hchosen

theorem rank_inFull (rank : Nat) : (Decimal.mk false (inFull rank).1 (inFull rank).2).rank = rank := by
  have hunit : 5 ^ 1074 * unitsInOne = 10 ^ 1074 := by decide +kernel
  have hfull : inFull rank = (units rank * 5 ^ 1074, -((1074 : Nat) : Int)) := rfl
  rw [hfull, Decimal.rank_of_units (units rank) hunit, nearestRank_units]

theorem shortest_eq_or (rank : Nat) :
    shortest rank = inFull rank ∨ ∃ exponent, candidate? rank exponent = some (shortest rank) := by
  unfold shortest
  dsimp only
  -- the fewest digits with a candidate, or all digits if there is none
  cases hfound : (List.range maxDigits).findSome? fun n : Nat =>
      candidate? rank (decimalPoint rank - (n + 1)) with
  | none => exact Or.inl Option.getD_none
  | some chosen =>
      rcases List.exists_of_findSome?_eq_some hfound with ⟨n, -, hchosen⟩
      exact Or.inr ⟨_, hchosen⟩

theorem rank_shortest (h : rank < finiteRanks) :
    (Decimal.mk false (shortest rank).1 (shortest rank).2).rank = rank := by
  rcases shortest_eq_or rank with hfull | ⟨exponent, hchosen⟩
  · rw [hfull, rank_inFull]
  · exact rank_candidate? h hchosen

theorem shortest_ne_zero (h : rank < finiteRanks) (hne : rank ≠ 0) : (shortest rank).1 ≠ 0 := by
  intro hzero
  have hrank := rank_shortest h
  rw [hzero, Decimal.rank_zero] at hrank
  exact hne hrank.symm

/-! ## The leading digit -/

/-- The power of ten of the leading digit that is written. -/
def leadingPower (rank : Nat) : Int :=
  (Nat.toDigits 10 (shortest rank).1).length + (shortest rank).2 - 1

theorem pow_le_of_length_toDigits {n : Nat} (hne : n ≠ 0) :
    10 ^ ((Nat.toDigits 10 n).length - 1) ≤ n := by
  by_cases hone : (Nat.toDigits 10 n).length - 1 = 0
  · rw [hone]
    exact Nat.one_le_iff_ne_zero.2 hne
  · refine Nat.le_of_not_lt fun hlt => ?_
    have hle := (Nat.length_toDigits_le_iff (by decide) (Nat.pos_of_ne_zero hone)).2 hlt
    omega

theorem lt_pow_length_toDigits (n : Nat) : n < 10 ^ (Nat.toDigits 10 n).length :=
  (Nat.length_toDigits_le_iff (by decide) Nat.length_toDigits_pos).1 (Nat.le_refl _)

/-- A power of ten that is its own leading digit divides the ranks by theirs. -/
theorem le_leadingPower_iff {power : Int} (h : rank < finiteRanks) (hne : rank ≠ 0)
    (hborder : leadingPower (Decimal.mk false 1 power).rank = power) :
    power ≤ leadingPower rank ↔ (Decimal.mk false 1 power).rank ≤ rank := by
  have hpos : 0 < (Nat.toDigits 10 (shortest rank).1).length := Nat.length_toDigits_pos
  have hrank := rank_shortest h
  constructor
  · intro hle
    -- the value is at least the power of its leading digit
    calc
      (Decimal.mk false 1 power).rank ≤
          (Decimal.mk false (shortest rank).1 (shortest rank).2).rank := by
        refine Decimal.rank_mono (Decimal.atMost_of_pow_le
          (pow_le_of_length_toDigits (shortest_ne_zero h hne)) ?_)
        unfold leadingPower at hle
        omega
      _ = rank := hrank
  · intro hle
    refine Int.not_lt.1 fun hlt => ?_
    -- otherwise the value is under the power
    have hother : rank ≤ (Decimal.mk false 1 power).rank := by
      calc
        rank = (Decimal.mk false (shortest rank).1 (shortest rank).2).rank := hrank.symm
        _ ≤ (Decimal.mk false 1 power).rank := by
          refine Decimal.rank_mono (Decimal.atMost_of_lt_pow (lt_pow_length_toDigits _) ?_)
          unfold leadingPower at hlt
          omega
    -- then the rank is the one of the power itself
    rw [Nat.le_antisymm hother hle, hborder] at hlt
    exact Int.lt_irrefl power hlt

/-! ## Plain magnitudes -/

/-- The magnitude is at least a power of ten. -/
def ReachesPower (rank : Nat) (power : Int) : Prop :=
  10 ^ power.toNat * unitsInOne ≤ units rank * 10 ^ (-power).toNat

instance (rank : Nat) (power : Int) : Decidable (ReachesPower rank power) :=
  inferInstanceAs (Decidable (_ ≤ _))

theorem reachesPower_iff {power : Int} (hborder : ReachesPower (Decimal.mk false 1 power).rank power) :
    ReachesPower rank power ↔ (Decimal.mk false 1 power).rank ≤ rank := by
  constructor
  · intro h
    have hcross : 1 * 10 ^ power.toNat * unitsInOne * 1 ≤ units rank * 10 ^ (-power).toNat := by
      simpa [ReachesPower] using h
    -- the magnitude of the rank is nearest to itself
    have hmono := nearestRank_mono (Nat.pow_pos (by decide)) Nat.zero_lt_one hcross
    rwa [nearestRank_units] at hmono
  · intro hle
    refine Classical.byContradiction fun hnot => ?_
    have hcross : units rank * 10 ^ (-power).toNat ≤ 1 * 10 ^ power.toNat * unitsInOne * 1 := by
      simpa [ReachesPower] using Nat.le_of_not_le hnot
    have hmono := nearestRank_mono Nat.zero_lt_one (Nat.pow_pos (by decide)) hcross
    rw [nearestRank_units] at hmono
    -- the ranks would be the same one, which does reach the power
    have hsame : rank = (Decimal.mk false 1 power).rank := Nat.le_antisymm hmono hle
    rw [hsame] at hnot
    exact hnot hborder

/-- Zero, or a magnitude from 0.0001 up to but not including 10000000000000000. -/
def Plain : Double → Prop
  | finite _ rank => rank.val = 0 ∨ (ReachesPower rank (-4) ∧ ¬ReachesPower rank 16)
  | infinite _ => False
  | nan => False

instance : DecidablePred Plain
  | finite _ rank =>
      inferInstanceAs (Decidable (rank.val = 0 ∨ (ReachesPower rank (-4) ∧ ¬ReachesPower rank 16)))
  | infinite _ => inferInstanceAs (Decidable False)
  | nan => inferInstanceAs (Decidable False)

theorem reachesPower_iff_leadingPower {power : Int} (h : rank < finiteRanks) (hne : rank ≠ 0)
    (hpower : power = -4 ∨ power = 16) :
    ReachesPower rank power ↔ power ≤ leadingPower rank := by
  rcases hpower with rfl | rfl
  · rw [reachesPower_iff (by decide +kernel), le_leadingPower_iff h hne (by decide +kernel)]
  · rw [reachesPower_iff (by decide +kernel), le_leadingPower_iff h hne (by decide +kernel)]

/-! ## Digits without zeros at the end -/

/-- A text without the zeros at its end. -/
def significant (t : Text) : Text :=
  (t.reverse.dropWhile (· == '0')).reverse

theorem exists_zeros (t : Text) : ∃ zeros, t = significant t ++ List.replicate zeros '0' := by
  have hsplit := List.takeWhile_append_dropWhile (p := (· == '0')) (l := t.reverse)
  have hzeros : ∀ c ∈ t.reverse.takeWhile (· == '0'), c = '0' := by
    intro c hc
    simpa using Text.of_mem_takeWhile hc
  refine ⟨(t.reverse.takeWhile (· == '0')).length, ?_⟩
  calc
    t = t.reverse.reverse := t.reverse_reverse.symm
    _ = (t.reverse.takeWhile (· == '0') ++ t.reverse.dropWhile (· == '0')).reverse := by
      rw [hsplit]
    _ = significant t ++ (t.reverse.takeWhile (· == '0')).reverse := List.reverse_append
    _ = significant t ++ List.replicate (t.reverse.takeWhile (· == '0')).length '0' := by
      rw [List.eq_replicate_of_mem hzeros, List.reverse_replicate, List.length_replicate]

/-- The significant digits of a coefficient have its value but for a power of ten. -/
theorem significant_toDigits {n : Nat} (hne : n ≠ 0) :
    ∃ zeros, n = Decimal.digitsValue (significant (Nat.toDigits 10 n)) * 10 ^ zeros ∧
      (Nat.toDigits 10 n).length = (significant (Nat.toDigits 10 n)).length + zeros ∧
      significant (Nat.toDigits 10 n) ≠ [] ∧
      ∀ c ∈ significant (Nat.toDigits 10 n), c.isDigit = true := by
  rcases exists_zeros (Nat.toDigits 10 n) with ⟨zeros, hsplit⟩
  have hvalue : n = Decimal.digitsValue (significant (Nat.toDigits 10 n)) * 10 ^ zeros := by
    have hread := Decimal.digitsValue_toDigits n
    rw [hsplit, Decimal.digitsValue_append, Decimal.digitsValue_zeros, List.length_replicate,
      Nat.add_zero] at hread
    exact hread.symm
  refine ⟨zeros, hvalue, ?_, ?_, ?_⟩
  · have hlength := congrArg List.length hsplit
    rwa [List.length_append, List.length_replicate] at hlength
  · intro hnil
    rw [hnil] at hvalue
    refine hne (hvalue.trans ?_)
    exact Nat.zero_mul _
  · intro c hc
    refine Nat.isDigit_of_mem_toDigits (by decide) (by decide) (b := 10) (n := n) ?_
    rw [hsplit]
    exact List.mem_append_left _ hc

/-! ## Without an exponent -/

/-- Digits with a point among them, of a value that is nearest to the magnitude of a rank. -/
def WithPoint (t : Text) (rank : Nat) : Prop :=
  ∃ whole part : Text, t = whole ++ '.' :: part ∧ whole ≠ [] ∧
    (∀ c ∈ whole, c.isDigit = true) ∧ (∀ c ∈ part, c.isDigit = true) ∧
    (Decimal.mk false (Decimal.digitsValue (whole ++ part)) (-part.length)).rank = rank

section Positional

variable {digits : Text} {point : Int}

theorem isDigit_of_mem_zeros {count : Nat} {c : Char} (h : c ∈ List.replicate count '0') :
    c.isDigit = true := by
  rw [List.eq_of_mem_replicate h]
  rfl

/-- All digits stand after the point, with zeros in front of them. -/
theorem positional_of_nonpos (h : ∀ c ∈ digits, c.isDigit = true) (hpoint : point ≤ 0) :
    WithPoint (positional digits point)
      (Decimal.mk false (Decimal.digitsValue digits) (point - digits.length)).rank := by
  have hvalue : Decimal.digitsValue (['0'] ++ (List.replicate point.natAbs '0' ++ digits)) =
      Decimal.digitsValue digits := by
    have hzeros := Decimal.digitsValue_zeros (point.natAbs + 1)
    rw [List.replicate_succ] at hzeros
    rw [← List.append_assoc, Decimal.digitsValue_append, List.singleton_append, hzeros,
      Nat.zero_mul, Nat.zero_add]
  have hexponent : -((List.replicate point.natAbs '0' ++ digits).length : Int) =
      point - digits.length := by
    rw [List.length_append, List.length_replicate]
    omega
  rw [positional, if_pos hpoint]
  refine ⟨['0'], List.replicate point.natAbs '0' ++ digits, rfl, by simp, by simp, ?_, ?_⟩
  · intro c hc
    rcases List.mem_append.1 hc with hc | hc
    · exact isDigit_of_mem_zeros hc
    · exact h c hc
  · rw [hvalue, hexponent]

/-- All digits stand before the point, with zeros after them. -/
theorem positional_of_length_le (hne : digits ≠ []) (h : ∀ c ∈ digits, c.isDigit = true)
    (hpoint : (digits.length : Int) ≤ point) :
    WithPoint (positional digits point)
      (Decimal.mk false (Decimal.digitsValue digits) (point - digits.length)).rank := by
  have hpos : 0 < digits.length := List.length_pos_iff.2 hne
  have hleft : ¬point ≤ 0 := by omega
  have hvalue : Decimal.digitsValue
      (digits ++ List.replicate (point.toNat - digits.length) '0' ++ ['0']) =
        Decimal.digitsValue digits * 10 ^ (point.toNat - digits.length + 1) := by
    have hzeros : List.replicate (point.toNat - digits.length) '0' ++ ['0'] =
        List.replicate (point.toNat - digits.length + 1) '0' := List.replicate_succ'.symm
    rw [List.append_assoc, hzeros, Decimal.digitsValue_append, Decimal.digitsValue_zeros,
      List.length_replicate, Nat.add_zero]
  have hexponent : -((['0'] : Text).length : Int) + (point.toNat - digits.length + 1 : Nat) =
      point - digits.length := by
    rw [List.length_singleton]
    omega
  rw [positional, if_neg hleft, if_pos hpoint]
  refine ⟨digits ++ List.replicate (point.toNat - digits.length) '0', ['0'], by simp, by simp [hne],
    ?_, by simp, ?_⟩
  · intro c hc
    rcases List.mem_append.1 hc with hc | hc
    · exact h c hc
    · exact isDigit_of_mem_zeros hc
  · rw [hvalue, Decimal.rank_shift, hexponent]

/-- The point stands among the digits. -/
theorem positional_of_lt_length (h : ∀ c ∈ digits, c.isDigit = true) (hleft : 0 < point)
    (hright : point < digits.length) :
    WithPoint (positional digits point)
      (Decimal.mk false (Decimal.digitsValue digits) (point - digits.length)).rank := by
  have hexponent : -((digits.drop point.toNat).length : Int) = point - digits.length := by
    rw [List.length_drop]
    omega
  rw [positional, if_neg (by omega), if_neg (by omega)]
  refine ⟨digits.take point.toNat, digits.drop point.toNat, rfl, ?_, ?_, ?_, ?_⟩
  · intro hnil
    have hlength := congrArg List.length hnil
    rw [List.length_take, List.length_nil] at hlength
    omega
  · exact fun c hc => h c (List.mem_of_mem_take hc)
  · exact fun c hc => h c (List.mem_of_mem_drop hc)
  · rw [List.take_append_drop, hexponent]

/-- Digits laid out without an exponent keep their value. -/
theorem withPoint_positional (hne : digits ≠ []) (h : ∀ c ∈ digits, c.isDigit = true)
    (point : Int) :
    WithPoint (positional digits point)
      (Decimal.mk false (Decimal.digitsValue digits) (point - digits.length)).rank := by
  by_cases hleft : point ≤ 0
  · exact positional_of_nonpos h hleft
  by_cases hright : (digits.length : Int) ≤ point
  · exact positional_of_length_le hne h hright
  · exact positional_of_lt_length h (by omega) (by omega)

end Positional

/-! ## The two layouts -/

theorem plain_iff {negative : Bool} {rank : Fin finiteRanks} (hne : rank.val ≠ 0) :
    Plain (finite negative rank) ↔
      leastPositional ≤ leadingPower rank ∧ leadingPower rank ≤ greatestPositional := by
  have hleast := reachesPower_iff_leadingPower rank.isLt hne (Or.inl rfl)
  have hmost := reachesPower_iff_leadingPower rank.isLt hne (Or.inr rfl)
  have hborder : ¬16 ≤ leadingPower rank ↔ leadingPower rank ≤ greatestPositional := by
    unfold greatestPositional
    omega
  simp only [Plain, hne, false_or, hleast, hmost, hborder]
  exact Iff.rfl

theorem magnitudeText_eq (hne : rank ≠ 0) :
    magnitudeText rank =
      if leastPositional ≤ leadingPower rank ∧ leadingPower rank ≤ greatestPositional then
        positional (significant (Nat.toDigits 10 (shortest rank).1)) (leadingPower rank + 1)
      else scientific (significant (Nat.toDigits 10 (shortest rank).1)) (leadingPower rank) := by
  have hpoint : (Nat.toDigits 10 (shortest rank).1).length + (shortest rank).2 =
      leadingPower rank + 1 := by
    unfold leadingPower
    omega
  have hpower : leadingPower rank + 1 - 1 = leadingPower rank := by omega
  rw [magnitudeText, if_neg hne, layout]
  simp only [hpoint, hpower]
  rfl

/-- A plain magnitude is written with a point and no exponent, and reads back. -/
theorem magnitudeText_of_plain {negative : Bool} {rank : Fin finiteRanks}
    (h : Plain (finite negative rank)) : WithPoint (magnitudeText rank) rank := by
  by_cases hzero : rank.val = 0
  · -- zero is written as it is read
    rw [magnitudeText, if_pos hzero, hzero]
    exact ⟨['0'], ['0'], rfl, by simp, by simp, by simp, Decimal.rank_zero false (-1)⟩
  · rcases significant_toDigits (shortest_ne_zero rank.isLt hzero) with
      ⟨zeros, hvalue, hlength, hne, hdigits⟩
    -- the zeros that are left out have moved into the exponent
    have hread : (Decimal.mk false
        (Decimal.digitsValue (significant (Nat.toDigits 10 (shortest rank).1)))
          (leadingPower rank + 1 -
            (significant (Nat.toDigits 10 (shortest rank).1)).length)).rank = rank := by
      have hexponent : leadingPower rank + 1 -
          (significant (Nat.toDigits 10 (shortest rank).1)).length =
            (shortest rank).2 + zeros := by
        unfold leadingPower
        omega
      rw [hexponent, ← Decimal.rank_shift, ← hvalue]
      exact rank_shortest rank.isLt
    have hlayout := withPoint_positional hne hdigits (leadingPower rank + 1)
    rw [hread] at hlayout
    rwa [magnitudeText_eq hzero, if_pos ((plain_iff hzero).1 h)]

/-- Digits with at most one point among them, an exponent sign and more after it. -/
def WithExponent (t : Text) : Prop :=
  ∃ (first : Char) (part : Text) (sign : Char) (after : Text),
    t = first :: part ++ 'e' :: sign :: after ∧ first.isDigit = true ∧
    (part = [] ∨ ∃ digits : Text, part = '.' :: digits ∧ ∀ c ∈ digits, c.isDigit = true) ∧
    (sign = '-' ∨ sign = '+')

theorem withExponent_scientific {digits : Text} (hne : digits ≠ [])
    (h : ∀ c ∈ digits, c.isDigit = true) (exponent : Int) :
    WithExponent (scientific digits exponent) := by
  obtain ⟨first, others, rfl⟩ := List.exists_cons_of_ne_nil hne
  refine ⟨first, if others = [] then [] else '.' :: others, if exponent < 0 then '-' else '+', _,
    rfl, h first (by simp), ?_, ?_⟩
  · by_cases hothers : others = []
    · exact Or.inl (if_pos hothers)
    · exact Or.inr ⟨others, if_neg hothers, fun c hc => h c (by simp [hc])⟩
  · by_cases hsign : exponent < 0
    · exact Or.inl (if_pos hsign)
    · exact Or.inr (if_neg hsign)

/-- Any other magnitude is written with an exponent. -/
theorem magnitudeText_of_not_plain {negative : Bool} {rank : Fin finiteRanks}
    (h : ¬Plain (finite negative rank)) : WithExponent (magnitudeText rank) := by
  by_cases hzero : rank.val = 0
  · exact absurd (Or.inl hzero) h
  · rcases significant_toDigits (shortest_ne_zero rank.isLt hzero) with ⟨zeros, -, -, hne, hdigits⟩
    rw [magnitudeText_eq hzero, if_neg (mt (plain_iff hzero).2 h)]
    exact withExponent_scientific hne hdigits (leadingPower rank)

end Double
end CellCalc

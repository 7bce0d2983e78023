import CellCalc.Number.Numeral
import CellCalc.Proofs.Characters

/-!
# PlainNumerals — the numerals of ASCII digits and a point

A numeral of formulas has no spaces around it, no sign, no underscores and no digits beyond ASCII,
so it is read as it stands: its digits give an integer, or with a point a decimal.

* `Decimal.digitsValue_toDigits`, `Decimal.digitsValue_append` — the value of a run of digits.
* `Decimal.scan_whole`, `Decimal.scan_pointed` — digits before an exponent, if there is one.
* `Numeral.readInteger_digits` — digits alone are read as their value, unless there are too many.
* `Numeral.readDecimal_pointed` — digits with a point are read as the double of their decimal.
-/

namespace CellCalc

/-! ## Runs of digits -/

namespace Decimal

theorem digitsValue_toDigits (n : Nat) : digitsValue (Nat.toDigits 10 n) = n :=
  Nat.ofDigitChars_ten_toDigits

theorem digitsValue_append (t u : Text) :
    digitsValue (t ++ u) = digitsValue t * 10 ^ u.length + digitsValue u := by
  unfold digitsValue
  rw [Nat.ofDigitChars_append, Nat.ofDigitChars_eq_ofDigitChars_zero, Nat.mul_comm]

theorem digitsValue_zeros (count : Nat) : digitsValue (List.replicate count '0') = 0 := by
  simp [digitsValue]

theorem digitsValue_lt {t : Text} (h : ∀ c ∈ t, c.isDigit = true) :
    digitsValue t < 10 ^ t.length := by
  induction t with
  | nil => decide
  | cons c t ih =>
      have hfirst : digitsValue [c] ≤ 9 := by
        have hbounds := Text.isDigit_iff.1 (h c (by simp))
        have hvalue : digitsValue [c] = c.toNat - 48 := by
          simp [digitsValue, Nat.ofDigitChars_cons]
        omega
      have hrest := ih fun d hd => h d (by simp [hd])
      -- the first digit counts a power of ten that the rest stay under
      calc
        digitsValue (c :: t) = digitsValue [c] * 10 ^ t.length + digitsValue t :=
          digitsValue_append [c] t
        _ < digitsValue [c] * 10 ^ t.length + 10 ^ t.length := Nat.add_lt_add_left hrest _
        _ = (digitsValue [c] + 1) * 10 ^ t.length := (Nat.succ_mul _ _).symm
        _ ≤ 10 * 10 ^ t.length := Nat.mul_le_mul_right _ (by omega)
        _ = 10 ^ (c :: t).length := by rw [List.length_cons, Nat.pow_succ, Nat.mul_comm]

theorem length_toDigits_digitsValue_le {t : Text} (hne : t ≠ [])
    (h : ∀ c ∈ t, c.isDigit = true) : (Nat.toDigits 10 (digitsValue t)).length ≤ t.length :=
  (Nat.length_toDigits_le_iff (by decide) (List.length_pos_iff.2 hne)).2 (digitsValue_lt h)

/-! ## Digits before an exponent -/

theorem digits_append_of_digit {run rest : Text} (hrun : ∀ c ∈ run, c.isDigit = true)
    (hrest : ∀ c ∈ rest.head?, c.isDigit = false) : digits (run ++ rest) = (run, rest) := by
  rw [digits, Text.takeWhile_append hrun hrest, Text.dropWhile_append hrun hrest]

theorem scan_whole {whole rest : Text} (negative : Bool) (hne : whole ≠ [])
    (hwhole : ∀ c ∈ whole, c.isDigit = true)
    (hrest : ∀ c ∈ rest.head?, c.isDigit = false ∧ c ≠ '.') :
    scan negative (whole ++ rest) =
      some (⟨negative, digitsValue whole, (exponentPart rest).1⟩, (exponentPart rest).2) := by
  -- no point follows the digits
  have hfraction : fraction rest = ([], rest) := by
    unfold fraction
    split
    · exact absurd rfl (hrest '.' rfl).2
    · rfl
  simp [scan, digits_append_of_digit hwhole fun c hc => (hrest c hc).1, hfraction, hne]

theorem scan_pointed {whole part rest : Text} (negative : Bool) (hne : whole ≠ [] ∨ part ≠ [])
    (hwhole : ∀ c ∈ whole, c.isDigit = true) (hpart : ∀ c ∈ part, c.isDigit = true)
    (hrest : ∀ c ∈ rest.head?, c.isDigit = false) :
    scan negative (whole ++ '.' :: (part ++ rest)) =
      some (⟨negative, digitsValue (whole ++ part), (exponentPart rest).1 - part.length⟩,
        (exponentPart rest).2) := by
  have hpoint : ∀ c ∈ ('.' :: (part ++ rest)).head?, c.isDigit = false := by
    intro c hc
    obtain rfl : '.' = c := by simpa using hc
    rfl
  have hsome : ¬(whole = [] ∧ part = []) := by
    rintro ⟨hw, hp⟩
    exact hne.elim (fun h => h hw) fun h => h hp
  -- the digits up to the point, and those after it
  simp [scan, digits_append_of_digit hwhole hpoint, fraction, digits_append_of_digit hpart hrest,
    hsome]

end Decimal

namespace Numeral

/-- The integers that can be written are those below the power of ten of so many digits. -/
theorem writable_iff {n : Int} : Writable n ↔ n.natAbs < 10 ^ digitLimit :=
  Nat.length_toDigits_le_iff (by decide) (by decide)

/-! ## Nothing to take away -/

/-- A digit or a point. -/
def IsPlain (t : Text) : Prop :=
  ∀ c ∈ t, c.isDigit = true ∨ c = '.'

theorem IsPlain.of_digits {t : Text} (h : ∀ c ∈ t, c.isDigit = true) : IsPlain t :=
  fun c hc => Or.inl (h c hc)

theorem IsPlain.bounds {t : Text} (h : IsPlain t) :
    ∀ c ∈ t, 46 ≤ c.toNat ∧ c.toNat < 58 := by
  intro c hc
  rcases h c hc with hdigit | rfl
  · have hbounds := Text.isDigit_iff.1 hdigit
    omega
  · decide

theorem IsPlain.ne {t : Text} (h : IsPlain t) {c : Char} (hc : c.toNat < 46 ∨ 58 ≤ c.toNat) :
    c ∉ t := by
  intro hmem
  have hbounds := h.bounds c hmem
  omega

theorem strip_eq_self {t : Text} (h : ∀ c ∈ t, isSpace c = false) : strip t = t := by
  have hnone : ∀ u : Text, (∀ c ∈ u, isSpace c = false) → u.dropWhile isSpace = u := fun u hu =>
    Text.dropWhile_eq_self fun c hc => hu c (List.mem_of_mem_head? hc)
  unfold strip
  rw [hnone t h, hnone t.reverse fun c hc => h c (List.mem_reverse.1 hc), List.reverse_reverse]

/-- Within ASCII and beyond the spaces every character stays as it is. -/
theorem plain_of_ascii {t : Text} (h : ∀ c ∈ t, 32 < c.toNat ∧ c.toNat < 128) : plain t = t := by
  have hchars : t.map plainChar = t := by
    have hfixed : ∀ c ∈ t, plainChar c = c := fun c hc => by rw [plainChar, if_pos (h c hc).2]
    calc
      t.map plainChar = t.map id := List.map_congr_left hfixed
      _ = t := List.map_id t
  rw [plain, hchars]
  -- and no space stands at either end
  refine strip_eq_self ?_
  intro c hc
  have hbound := (h c hc).1
  have hspace : c ≠ ' ' := by
    rintro rfl
    exact absurd hbound (by decide)
  simp only [isSpace, Bool.or_eq_false_iff, beq_eq_false_iff_ne, Bool.and_eq_false_iff,
    decide_eq_false_iff_not]
  exact ⟨hspace, Or.inr (by omega)⟩

theorem plain_eq_self {t : Text} (h : IsPlain t) : plain t = t := by
  refine plain_of_ascii fun c hc => ?_
  have hbounds := h.bounds c hc
  omega

theorem sign_eq_self {t : Text} (h : IsPlain t) : Decimal.sign t = (false, t) := by
  unfold Decimal.sign
  split
  · exact absurd (List.mem_cons_self ..) (h.ne (c := '-') (by decide))
  · exact absurd (List.mem_cons_self ..) (h.ne (c := '+') (by decide))
  · rfl

theorem separatorsInside_of_notMem {t : Text} (h : '_' ∉ t) (afterDigit : Bool) :
    separatorsInside afterDigit t = true := by
  induction t generalizing afterDigit with
  | nil => rfl
  | cons c t ih =>
      have hc : c ≠ '_' := by
        rintro rfl
        exact h (List.mem_cons_self ..)
      rw [separatorsInside, if_neg hc]
      exact ih (fun hmem => h (List.mem_cons_of_mem c hmem)) c.isDigit

theorem dropSeparators_eq_self {t : Text} (h : '_' ∉ t) : dropSeparators t = t := by
  refine List.filter_eq_self.2 ?_
  intro c hc
  refine decide_eq_true ?_
  rintro rfl
  exact h hc

/-! ## Reading -/

theorem readInteger_digits {digits : Text} (hne : digits ≠ [])
    (h : ∀ c ∈ digits, c.isDigit = true) :
    readInteger digits =
      if digitLimit < digits.length then .error (.tooManyDigits digits.length)
      else .ok (Decimal.digitsValue digits) := by
  have hplain := IsPlain.of_digits h
  have hseparator : '_' ∉ digits := hplain.ne (by decide)
  -- the run of digits is the whole text
  have hrun : digits.takeWhile (fun c => c.isDigit || c == '_') = digits := by
    have hall : ∀ c ∈ digits, (c.isDigit || c == '_') = true := by
      intro c hc
      rw [h c hc, Bool.true_or]
    exact Text.takeWhile_eq_self hall
  unfold readInteger
  rw [plain_eq_self hplain, sign_eq_self hplain]
  dsimp only
  rw [hrun, dropSeparators_eq_self hseparator, separatorsInside_of_notMem hseparator]
  simp [hne]

theorem readDecimal_pointed {whole part : Text} (hne : whole ≠ [] ∨ part ≠ [])
    (hwhole : ∀ c ∈ whole, c.isDigit = true) (hpart : ∀ c ∈ part, c.isDigit = true) :
    readDecimal (whole ++ '.' :: part) =
      .ok (Decimal.toDouble ⟨false, Decimal.digitsValue (whole ++ part), -part.length⟩) := by
  have hplain : IsPlain (whole ++ '.' :: part) := by
    intro c hc
    rcases List.mem_append.1 hc with hc | hc
    · exact Or.inl (hwhole c hc)
    · rcases List.mem_cons.1 hc with rfl | hc
      · exact Or.inr rfl
      · exact Or.inl (hpart c hc)
  have hseparator : '_' ∉ whole ++ '.' :: part := hplain.ne (by decide)
  -- the digits up to the point, those after it, and nothing for an exponent
  have hscan : Decimal.scan false (whole ++ '.' :: part) =
      some (⟨false, Decimal.digitsValue (whole ++ part), -part.length⟩, []) := by
    have hpointed := @Decimal.scan_pointed whole part [] false hne hwhole hpart (by simp)
    rwa [List.append_nil, Decimal.exponentPart, Int.zero_sub] at hpointed
  unfold readDecimal
  rw [plain_eq_self hplain]
  dsimp only
  rw [dropSeparators_eq_self hseparator, sign_eq_self hplain]
  dsimp only
  rw [separatorsInside_of_notMem hseparator, hscan]

end Numeral
end CellCalc

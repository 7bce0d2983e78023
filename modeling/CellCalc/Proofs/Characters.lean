import CellCalc.Text.Blank
import CellCalc.Text.Letter
import CellCalc.Text.UpperCase

/-!
# Characters — the ASCII classes as bounds on code points

Letters and digits are told apart, and kept apart from blanks and marks, by their code points.

* `Text.isUpper_iff`, `Text.isAlpha_iff`, `Text.isDigit_iff` — the classes as bounds.
* `Text.not_isBlank_of_isWordChar` — no character of a name is blank.
* `Text.IsGap` — blanks between two lexemes.
* `Text.upper_eq_self`, `Text.isUpper_of_mem_upper` — what upper-casing leaves, and what it gives.
* `Text.takeWhile_append`, `Text.dropWhile_append` — a run ends where its class does.
* `Text.eq_of_toUpper_eq`, `Text.upper_map_toUpper` — letters in either case.
-/

namespace CellCalc
namespace Text

variable {c : Char}

/-! ## Bounds -/

theorem isUpper_iff : c.isUpper = true ↔ 65 ≤ c.toNat ∧ c.toNat ≤ 90 := by
  have hdef : c.isUpper = decide ((65 : UInt32) ≤ c.val ∧ c.val ≤ 90) := rfl
  simp [hdef, UInt32.le_iff_toNat_le, ← Char.toNat_val]

theorem isLower_iff : c.isLower = true ↔ 97 ≤ c.toNat ∧ c.toNat ≤ 122 := by
  have hdef : c.isLower = (decide ((97 : UInt32) ≤ c.val) && decide (c.val ≤ 122)) := rfl
  simp [hdef, UInt32.le_iff_toNat_le, ← Char.toNat_val]

theorem isDigit_iff : c.isDigit = true ↔ 48 ≤ c.toNat ∧ c.toNat ≤ 57 := by
  simp [Char.isDigit, UInt32.le_iff_toNat_le, ← Char.toNat_val]

theorem isAlpha_iff :
    c.isAlpha = true ↔ (65 ≤ c.toNat ∧ c.toNat ≤ 90) ∨ (97 ≤ c.toNat ∧ c.toNat ≤ 122) := by
  have hdef : c.isAlpha = (c.isUpper || c.isLower) := rfl
  rw [hdef, Bool.or_eq_true, isUpper_iff, isLower_iff]

theorem isAlpha_of_isUpper (h : c.isUpper = true) : c.isAlpha = true := by
  rw [isAlpha_iff]
  exact Or.inl (isUpper_iff.1 h)

theorem isAlpha_eq_false_of_isDigit (h : c.isDigit = true) : c.isAlpha = false := by
  rw [← Bool.not_eq_true, isAlpha_iff]
  have hbounds := isDigit_iff.1 h
  omega

theorem isDigit_eq_false_of_isAlpha (h : c.isAlpha = true) : c.isDigit = false := by
  rw [← Bool.not_eq_true, isDigit_iff]
  have hbounds := isAlpha_iff.1 h
  omega

theorem isWordChar_iff :
    isWordChar c = true ↔ c.isAlpha = true ∨ c.isDigit = true ∨ c = '_' := by
  simp [isWordChar, Char.isAlphanum, or_assoc]

theorem isBlank_iff_of_ascii (h : c.toNat < 128) :
    isBlank c = true ↔ (9 ≤ c.toNat ∧ c.toNat ≤ 13) ∨ (28 ≤ c.toNat ∧ c.toNat ≤ 32) := by
  -- all other ranges of the table lie beyond ASCII
  simp only [isBlank, CodeRange.covers_iff, blankTable, List.mem_cons, List.not_mem_nil, or_false,
    exists_eq_or_imp, exists_eq_left]
  omega

theorem not_isBlank_of_isWordChar (h : isWordChar c = true) : isBlank c = false := by
  -- the blanks of ASCII all stand before the digits
  have hascii : c.toNat < 128 ∧ 48 ≤ c.toNat := by
    rcases isWordChar_iff.1 h with h | h | rfl
    · rcases isAlpha_iff.1 h with h | h <;> omega
    · have hbounds := isDigit_iff.1 h
      omega
    · decide
  rw [← Bool.not_eq_true, isBlank_iff_of_ascii hascii.1]
  omega

theorem not_isWordChar_of_isBlank (h : isBlank c = true) : isWordChar c = false := by
  rw [← Bool.not_eq_true]
  intro hword
  rw [not_isBlank_of_isWordChar hword] at h
  cases h

/-- Blanks, or nothing at all. -/
def IsGap (t : Text) : Prop :=
  ∀ c ∈ t, isBlank c = true

theorem IsGap.nil : IsGap [] := by simp [IsGap]

theorem IsGap.space : IsGap [' '] := List.all_eq_true.1 rfl

/-! ## Runs -/

section Runs

variable {p : Char → Bool} {run rest : Text}

theorem takeWhile_append (hrun : ∀ c ∈ run, p c = true) (hrest : ∀ c ∈ rest.head?, p c = false) :
    (run ++ rest).takeWhile p = run := by
  have hstop : rest.takeWhile p = [] := by
    cases rest with
    | nil => rfl
    | cons c rest => simp [hrest c rfl]
  rw [List.takeWhile_append_of_pos hrun, hstop, List.append_nil]

theorem dropWhile_append (hrun : ∀ c ∈ run, p c = true) (hrest : ∀ c ∈ rest.head?, p c = false) :
    (run ++ rest).dropWhile p = rest := by
  have hsplit := List.takeWhile_append_dropWhile (p := p) (l := run ++ rest)
  rw [takeWhile_append hrun hrest] at hsplit
  exact List.append_cancel_left hsplit

theorem takeWhile_eq_self (h : ∀ c ∈ run, p c = true) : run.takeWhile p = run := by
  have hend : ∀ c ∈ ([] : Text).head?, p c = false := by simp
  have hwhole := takeWhile_append h hend
  rwa [List.append_nil] at hwhole

theorem dropWhile_eq_nil (h : ∀ c ∈ run, p c = true) : run.dropWhile p = [] := by
  have hend : ∀ c ∈ ([] : Text).head?, p c = false := by simp
  have hwhole := dropWhile_append h hend
  rwa [List.append_nil] at hwhole

theorem dropWhile_eq_self (h : ∀ c ∈ rest.head?, p c = false) : rest.dropWhile p = rest := by
  have hnone : ∀ c ∈ ([] : Text), p c = true := by simp
  exact dropWhile_append hnone h

theorem of_mem_takeWhile {t : Text} (h : c ∈ t.takeWhile p) : p c = true :=
  List.all_eq_true.1 List.all_takeWhile c h

theorem eq_false_of_takeWhile_eq_nil {t : Text} (h : (c :: t).takeWhile p = []) : p c = false := by
  cases hc : p c with
  | true => simp [hc] at h
  | false => rfl

theorem of_mem_head?_dropWhile {t : Text} (h : c ∈ (t.dropWhile p).head?) : p c = false := by
  have hnot := List.head?_dropWhile_not p t
  rw [Option.mem_def.1 h] at hnot
  exact hnot

end Runs

/-! ## Upper case -/

theorem toUpper_of_lt (h : c.toNat < 97) : c.toUpper = c := by
  have hnot : ¬(97 : UInt32) ≤ c.val := by
    rw [UInt32.le_iff_toNat_le]
    change ¬97 ≤ c.toNat
    omega
  exact dif_neg fun hrange => hnot hrange.1

/-- Upper-casing moves nothing that stands before the lower-case letters. -/
theorem upper_eq_self {t : Text} (h : ∀ c ∈ t, c.toNat < 97) : upper t = t := by
  have hascii : ∀ c ∈ t, c.toNat < 128 := by
    intro c hc
    have hbound := h c hc
    omega
  have hfixed : ∀ c ∈ t, c.toUpper = c := fun c hc => toUpper_of_lt (h c hc)
  calc
    upper t = t.map Char.toUpper := upper_of_ascii hascii
    _ = t.map id := List.map_congr_left hfixed
    _ = t := List.map_id t

theorem upper_of_isUpper {t : Text} (h : ∀ c ∈ t, c.isUpper = true) : upper t = t := by
  refine upper_eq_self fun c hc => ?_
  have hbounds := isUpper_iff.1 (h c hc)
  omega

theorem upper_of_isDigit {t : Text} (h : ∀ c ∈ t, c.isDigit = true) : upper t = t := by
  refine upper_eq_self fun c hc => ?_
  have hbounds := isDigit_iff.1 (h c hc)
  omega

theorem isUpper_toUpper (h : c.isAlpha = true) : c.toUpper.isUpper = true := by
  have hall : ∀ n ∈ List.range 128, (Char.ofNat n).isAlpha = true →
      (Char.ofNat n).toUpper.isUpper = true := by decide +kernel
  have hascii : c.toNat < 128 := by
    rcases isAlpha_iff.1 h with hbounds | hbounds <;> omega
  have hchar := hall c.toNat (List.mem_range.2 hascii)
  rw [Char.ofNat_toNat] at hchar
  exact hchar h

/-- Letters are upper-cased one by one. -/
theorem upper_of_isAlpha {t : Text} (h : ∀ c ∈ t, c.isAlpha = true) :
    upper t = t.map Char.toUpper := by
  refine upper_of_ascii fun c hc => ?_
  rcases isAlpha_iff.1 (h c hc) with hbounds | hbounds <;> omega

theorem isUpper_of_mem_upper {t : Text} (h : ∀ c ∈ t, c.isAlpha = true) :
    ∀ c ∈ upper t, c.isUpper = true := by
  rw [upper_of_isAlpha h]
  intro u hu
  obtain ⟨c, hc, rfl⟩ := List.mem_map.1 hu
  exact isUpper_toUpper (h c hc)

/-! ## Letters in either case -/

theorem toUpper_of_not_isAlpha (h : c.isAlpha = false) : c.toUpper = c := by
  refine dif_neg fun hrange => ?_
  have hbounds : 97 ≤ c.toNat ∧ c.toNat ≤ 122 :=
    ⟨UInt32.le_iff_toNat_le.1 hrange.1, UInt32.le_iff_toNat_le.1 hrange.2⟩
  rw [isAlpha_iff.2 (Or.inr hbounds)] at h
  cases h

/-- Characters with one upper case are the same, or letters. -/
theorem eq_or_isAlpha_of_toUpper_eq {d : Char} (h : c.toUpper = d.toUpper) :
    c = d ∨ c.isAlpha = true ∧ d.isAlpha = true := by
  have hletter : ∀ {a b : Char}, a.isAlpha = true → b.isAlpha = false → a.toUpper ≠ b.toUpper := by
    intro a b ha hb hsame
    have hupper := isAlpha_of_isUpper (isUpper_toUpper ha)
    rw [hsame, toUpper_of_not_isAlpha hb, hb] at hupper
    cases hupper
  cases hc : c.isAlpha <;> cases hd : d.isAlpha
  · rw [toUpper_of_not_isAlpha hc, toUpper_of_not_isAlpha hd] at h
    exact Or.inl h
  · exact absurd h.symm (hletter hd hc)
  · exact absurd h (hletter hc hd)
  · exact Or.inr ⟨rfl, rfl⟩

/-- What is the same for all letters is the same for characters with one upper case. -/
theorem eq_of_toUpper_eq {α : Type} {p : Char → α} {a : α}
    (hletters : ∀ c : Char, c.isAlpha = true → p c = a) {d : Char} (h : c.toUpper = d.toUpper) :
    p c = p d := by
  rcases eq_or_isAlpha_of_toUpper_eq h with rfl | ⟨hc, hd⟩
  · rfl
  · rw [hletters c hc, hletters d hd]

theorem toUpper_toUpper (c : Char) : c.toUpper.toUpper = c.toUpper := by
  cases hc : c.isAlpha with
  | false => rw [toUpper_of_not_isAlpha hc, toUpper_of_not_isAlpha hc]
  | true =>
      have hbounds := isUpper_iff.1 (isUpper_toUpper hc)
      exact toUpper_of_lt (by omega)

/-- The case of letters does not matter to the upper case. -/
theorem upper_map_toUpper (t : Text) : upper (t.map Char.toUpper) = upper t := by
  have hchar : ∀ c : Char, upperChar c.toUpper = upperChar c := by
    intro c
    cases hc : c.isAlpha with
    | false => rw [toUpper_of_not_isAlpha hc]
    | true =>
        have hbounds := isAlpha_iff.1 hc
        have hupper := isUpper_iff.1 (isUpper_toUpper hc)
        rw [upperChar, upperChar, if_pos (by omega), if_pos (by omega), toUpper_toUpper]
  rw [upper, List.flatMap_map, upper]
  simp only [hchar]

end Text
end CellCalc

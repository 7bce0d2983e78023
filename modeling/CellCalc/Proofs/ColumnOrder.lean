import CellCalc.Proofs.ColumnCodes

/-!
# ColumnOrder — columns stand in the order of their labels

Numbers and labels of columns are in one-to-one correspondence, and it keeps the order: of two
columns the one with the shorter label comes first, and of two labels of one length the one that is
first in the alphabet. A label has no digit zero, so the last letter and the letters in front of it
are the two parts of one division, for both codes and on both sides of the place where a code of the
first columns ends.

* `Column.Precedes` — the order of labels; `Column.precedes_concat_iff` splits off the last letters.
* `Column.lt_iff_precedes_letters` — the order of numbers is the order of labels.
* `ColumnCode.labels_in_order` — the correspondence and its order, by a code that ends somewhere.
-/

namespace CellCalc
namespace Column

/-! ## The order of labels -/

/-- A label comes before another one: it is shorter, or as long and before it in the alphabet. -/
def Precedes (label other : Text) : Prop :=
  label.length < other.length ∨ label.length = other.length ∧ label < other

theorem concat_lt_concat_iff {front front' : Text} (h : front.length = front'.length)
    {c c' : Char} : front ++ [c] < front' ++ [c'] ↔ front < front' ∨ front = front' ∧ c < c' := by
  induction front generalizing front' with
  | nil =>
      obtain rfl : front' = [] := List.eq_nil_of_length_eq_zero h.symm
      simp [List.cons_lt_cons_iff]
  | cons a front ih =>
      cases front' with
      | nil => cases h
      | cons b front' =>
          have hlength : front.length = front'.length := Nat.succ.inj h
          simp only [List.cons_append, List.cons_lt_cons_iff, ih hlength, List.cons.injEq,
            and_or_left, or_assoc, and_assoc]

/-- The letters in front decide, and where they agree the last ones do. -/
theorem precedes_concat_iff {front front' : Text} {c c' : Char} :
    Precedes (front ++ [c]) (front' ++ [c']) ↔
      Precedes front front' ∨ front = front' ∧ c < c' := by
  unfold Precedes
  rw [List.length_append, List.length_append, List.length_singleton, List.length_singleton,
    Nat.add_lt_add_iff_right, Nat.add_right_cancel_iff]
  by_cases hlength : front.length = front'.length
  · rw [concat_lt_concat_iff hlength]
    simp only [hlength, Nat.lt_irrefl, true_and, false_or]
  · -- neither are the fronts equal
    have hne : front ≠ front' := fun hsame => hlength (congrArg List.length hsame)
    simp only [hlength, hne, false_and, or_false]

/-! ## The order of numbers -/

theorem letter_lt_letter_iff {digit digit' : Nat} (h : digit < 26) (h' : digit' < 26) :
    letter digit < letter digit' ↔ digit < digit' := by
  have hcode : ∀ d ∈ List.range 26, (letter d).toNat = 65 + d := by decide
  have hdigit := hcode digit (List.mem_range.2 h)
  have hdigit' := hcode digit' (List.mem_range.2 h')
  rw [Char.lt_def, UInt32.lt_iff_toNat_lt, Char.toNat_val, Char.toNat_val]
  omega

theorem letters_inj {n m : Nat} : letters n = letters m ↔ n = m := by
  constructor
  · intro hsame
    rw [← ordinal_letters n, hsame, ordinal_letters]
  · exact congrArg letters

/-- The order of numbers is the order of labels. -/
theorem lt_iff_precedes_letters (n m : Nat) : n < m ↔ Precedes (letters n) (letters m) := by
  induction n using Nat.strongRecOn generalizing m with
  | ind n ih =>
      cases n with
      | zero =>
          cases m with
          | zero => simp [letters, Precedes]
          | succ m => simp [letters, Precedes]
      | succ n =>
          cases m with
          | zero => simp [letters, Precedes]
          | succ m =>
              have hn : n % 26 < 26 := Nat.mod_lt n (by decide)
              have hm : m % 26 < 26 := Nat.mod_lt m (by decide)
              -- quotients and remainders decide about the numbers as fronts and last letters do
              rw [letters_succ, letters_succ, precedes_concat_iff, ← ih (n / 26) (by omega),
                letters_inj, letter_lt_letter_iff hn hm]
              omega

end Column

/-! ## Numbers and labels -/

namespace ColumnCode

open Column

variable {code : ColumnCode}

theorem toLabel_of_pos (h : code.Sound) {n : Int} (hn : 1 ≤ n) :
    code.toLabel (.byNumber n) = .ok (letters n.toNat) := by
  rw [toLabel_eq h, Column.toLabel, if_pos hn]

theorem toNumber_of_letters (h : code.Sound) {label : Text} (hne : label ≠ [])
    (halpha : ∀ c ∈ label, c.isAlpha = true) :
    code.toNumber (.byLabel label) = .ok (ordinal (Text.upper label)) := by
  rw [toNumber_eq h, Column.toNumber, if_pos (isLabel_upper hne halpha)]

/-- Columns by a code that is right as far as it goes: the label of a number from one on has that
number, the number of letters in either case has these letters in upper case for its label, and of
two numbers the one with the label that comes first is the smaller one. Where the code ends makes no
difference. -/
theorem labels_in_order (h : code.Sound) :
    (∀ column : Column,
      code.toNumber column = column.toNumber ∧ code.toLabel column = column.toLabel) ∧
    (∀ n : Int, 1 ≤ n → ∃ label, code.toLabel (.byNumber n) = .ok label ∧
      code.toNumber (.byLabel label) = .ok n) ∧
    (∀ label : Text, label ≠ [] → (∀ c ∈ label, c.isAlpha = true) →
      ∃ n, 1 ≤ n ∧ code.toNumber (.byLabel label) = .ok n ∧
        code.toLabel (.byNumber n) = .ok (Text.upper label)) ∧
    ∀ n m : Int, 1 ≤ n → 1 ≤ m → ∃ label other,
      code.toLabel (.byNumber n) = .ok label ∧ code.toLabel (.byNumber m) = .ok other ∧
        (n < m ↔ Precedes label other) := by
  refine ⟨fun column => ⟨toNumber_eq h column, toLabel_eq h column⟩, ?_, ?_, ?_⟩
  · intro n hn
    have hupper : ∀ c ∈ letters n.toNat, c.isUpper = true := fun c hc => isUpper_of_mem_letters hc
    have halpha : ∀ c ∈ letters n.toNat, c.isAlpha = true := fun c hc =>
      Text.isAlpha_of_isUpper (hupper c hc)
    have hnumber : (n.toNat : Int) = n := Int.toNat_of_nonneg (by omega)
    refine ⟨_, toLabel_of_pos h hn, ?_⟩
    rw [toNumber_of_letters h (letters_ne_nil (by omega)) halpha, Text.upper_of_isUpper hupper,
      ordinal_letters, hnumber]
  · intro label hne halpha
    have hpos : (1 : Int) ≤ ordinal (Text.upper label) := by
      have hle := one_le_ordinal (isLabel_upper hne halpha)
      omega
    refine ⟨_, hpos, toNumber_of_letters h hne halpha, ?_⟩
    rw [toLabel_of_pos h hpos, Int.toNat_natCast,
      letters_ordinal (Text.isUpper_of_mem_upper halpha)]
  · intro n m hn hm
    refine ⟨_, _, toLabel_of_pos h hn, toLabel_of_pos h hm, ?_⟩
    rw [← lt_iff_precedes_letters]
    omega

/-- The last column of the code of three letters and the first one after it. -/
theorem labels_in_order_after_three_letters :
    short.Sound ∧ short.label? 18278 = some "ZZZ" ∧ short.label? 18279 = none ∧
      short.toLabel (.byNumber 18278) = .ok "ZZZ" ∧ short.toLabel (.byNumber 18279) = .ok "AAAA" ∧
      short.toNumber (.byLabel "AAAA") = .ok 18279 ∧
      (∃ n, short.toNumber (.byLabel "aAaA") = .ok n ∧
        short.toLabel (.byNumber n) = .ok (Text.upper "aAaA")) ∧
      Precedes "ZZZ" "AAAA" := by
  have hlast : short.toLabel (.byNumber 18278) = .ok "ZZZ" := by decide +kernel
  have hnext : short.toLabel (.byNumber 18279) = .ok "AAAA" := by decide +kernel
  obtain ⟨-, hnumbers, hletters, horder⟩ := labels_in_order short_sound
  obtain ⟨label, hlabel, hnumber⟩ := hnumbers 18279 (by decide)
  obtain rfl : "AAAA".toList = label := Except.ok.inj (hnext.symm.trans hlabel)
  obtain ⟨n, -, hn, hupper⟩ := hletters "aAaA" (by decide) (List.all_eq_true.1 rfl)
  obtain ⟨before, after, hbefore, hafter, hiff⟩ := horder 18278 18279 (by decide) (by decide)
  obtain rfl : "ZZZ".toList = before := Except.ok.inj (hlast.symm.trans hbefore)
  obtain rfl : "AAAA".toList = after := Except.ok.inj (hnext.symm.trans hafter)
  exact ⟨short_sound, by decide +kernel, by decide +kernel, hlast, hnext, hnumber, ⟨n, hn, hupper⟩,
    hiff.1 (by decide)⟩

end ColumnCode
end CellCalc

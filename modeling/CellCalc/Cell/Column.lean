import CellCalc.Failure
import CellCalc.Number.Numeral
import CellCalc.Text.UpperCase

/-!
# Columns — labels and numbers of columns

Columns are labelled `A` to `Z`, then `AA`, and so on without end: the label of a column is its
number, counted from one, in base 26 with the digits one to twenty-six.

* `Column.letters` — the label of a number.
* `Column.ordinal` — the number of a label; `ordinal_letters` and `letters_ordinal` say that the two
  codes undo one another.
* `Column` — a column named either way, with its number and its label.
-/

namespace CellCalc

/-- A column, named by its number or by its label. -/
inductive Column
  | byNumber (n : Int)
  | byLabel (label : Text)
  deriving DecidableEq, Repr

namespace Column

/-! ## The two codes -/

/-- The letter of a digit counted from zero. -/
def letter (digit : Nat) : Char :=
  Char.ofNat ('A'.toNat + digit)

/-- The label of a column number counted from one. -/
def letters : Nat → Text
  | 0 => []
  | n + 1 => letters (n / 26) ++ [letter (n % 26)]
decreasing_by omega

/-- The digit of a letter, from one to twenty-six. -/
def letterValue (c : Char) : Nat :=
  c.toNat - 'A'.toNat + 1

/-- The number of a label of upper-case letters. -/
def ordinal (label : Text) : Nat :=
  label.foldl (fun n c => n * 26 + letterValue c) 0

/-! ## Laws of the codes -/

theorem letters_succ (n : Nat) : letters (n + 1) = letters (n / 26) ++ [letter (n % 26)] := by
  rw [letters]

theorem ordinal_concat (label : Text) (c : Char) :
    ordinal (label ++ [c]) = ordinal label * 26 + letterValue c := by
  simp [ordinal]

theorem letterValue_letter {digit : Nat} (h : digit < 26) :
    letterValue (letter digit) = digit + 1 := by
  have hall : ∀ d ∈ List.range 26, letterValue (letter d) = d + 1 := by decide
  exact hall digit (List.mem_range.mpr h)

/-- The digit of an upper-case letter leads back to it. -/
theorem letter_letterValue {c : Char} (h : c.isUpper = true) :
    letterValue c - 1 < 26 ∧ letter (letterValue c - 1) = c := by
  have hbounds : 65 ≤ c.toNat ∧ c.toNat ≤ 90 := by
    have hval : (65 : UInt32) ≤ c.val ∧ c.val ≤ 90 := of_decide_eq_true h
    simpa [UInt32.le_iff_toNat_le] using hval
  have hA : 'A'.toNat = 65 := rfl
  have hvalue : letterValue c - 1 = c.toNat - 65 := by
    unfold letterValue
    omega
  rw [hvalue]
  refine ⟨by omega, ?_⟩
  have hsum : 'A'.toNat + (c.toNat - 65) = c.toNat := by omega
  rw [letter, hsum, Char.ofNat_toNat]

/-- The label of a number has that number. -/
theorem ordinal_letters (n : Nat) : ordinal (letters n) = n := by
  induction n using Nat.strongRecOn with
  | ind n ih =>
      cases n with
      | zero => rw [letters]; rfl
      | succ n =>
          have hlt : n / 26 < n + 1 := by omega
          rw [letters_succ, ordinal_concat, ih (n / 26) hlt,
            letterValue_letter (Nat.mod_lt n (by decide))]
          omega

/-- The number of an upper-case label has that label. -/
theorem letters_ordinal {label : Text} (h : ∀ c ∈ label, c.isUpper = true) :
    letters (ordinal label) = label := by
  induction hn : label.length generalizing label with
  | zero =>
      have hnil : label = [] := List.eq_nil_of_length_eq_zero hn
      subst hnil
      rw [show ordinal [] = 0 from rfl, letters]
  | succ n ih =>
      rcases List.eq_nil_or_concat label with hnil | ⟨front, c, hlabel⟩
      · subst hnil
        cases hn
      · subst hlabel
        have hc := letter_letterValue (h c (by simp))
        have hpos : 1 ≤ letterValue c := by simp [letterValue]
        have hfront : letters (ordinal front) = front :=
          ih (fun d hd => h d (by simp [hd])) (by simpa using hn)
        -- the last letter is the remainder, the letters before it are the quotient
        have hnumber :
            ordinal (front ++ [c]) = ordinal front * 26 + (letterValue c - 1) + 1 := by
          rw [ordinal_concat]
          omega
        have hdiv : (ordinal front * 26 + (letterValue c - 1)) / 26 = ordinal front := by omega
        have hmod : (ordinal front * 26 + (letterValue c - 1)) % 26 = letterValue c - 1 := by omega
        rw [List.concat_eq_append, hnumber, letters_succ, hdiv, hmod, hfront, hc.2]

/-! ## Columns by number or label -/

/-- The text labels a column: it has letters, and they are upper-case ASCII letters. -/
def isLabel (t : Text) : Bool :=
  !t.isEmpty && t.all Char.isUpper

theorem isLabel_iff {t : Text} :
    isLabel t = true ↔ t ≠ [] ∧ ∀ c ∈ t, c.isUpper = true := by
  simp [isLabel]

/-- Columns with a label are counted from one. -/
theorem one_le_ordinal {label : Text} (h : isLabel label = true) : 1 ≤ ordinal label := by
  obtain ⟨hne, hupper⟩ := isLabel_iff.1 h
  refine Nat.pos_of_ne_zero fun hzero => hne ?_
  rw [← letters_ordinal hupper, hzero, letters]

/-- The number of a column. A label may be in either case. -/
def toNumber : Column → Except Failure Int
  | byNumber n => .ok n
  | byLabel label =>
      if isLabel (Text.upper label) then .ok (ordinal (Text.upper label))
      else .error (.unknownColumn (Text.upper label))

/-- The label of a column. One that is given stays as it is. -/
def toLabel : Column → Except Failure Text
  | byLabel label => .ok label
  | byNumber n =>
      if 1 ≤ n then .ok (letters n.toNat)
      else do throw (.unknownColumnNumber (← Numeral.writeInteger n))

end Column

end CellCalc

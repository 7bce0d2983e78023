import CellCalc.Cell.Address
import CellCalc.Proofs.PlainNumerals

/-!
# CellIds — the written form of ids and the addresses they stand for

A cell id is a run of letters followed by a run of digits. Both runs are recovered from the text,
so that an id composed of a column number and a row is read as just that column and row.

* `isCellId_iff` — the written form as a split of the text.
* `Address.ofText_append`, `Address.ofText_eq_some_iff` — the address of letters followed by digits.
* `Address.ofText_text` — the address of a plain id.
* `cellId_eq_text` — the id of a column and a row within bounds is the plain one.
-/

namespace CellCalc

/-! ## The written form -/

theorem isAlpha_head?_of_isDigit {digits : Text} (h : ∀ c ∈ digits, c.isDigit = true) :
    ∀ c ∈ digits.head?, c.isAlpha = false := by
  intro c hc
  exact Text.isAlpha_eq_false_of_isDigit (h c (List.mem_of_mem_head? hc))

theorem isCellId_iff {t : Text} :
    isCellId t = true ↔
      ∃ label digits : Text, t = label ++ digits ∧ label ≠ [] ∧ digits ≠ [] ∧
        (∀ c ∈ label, c.isAlpha = true) ∧ ∀ c ∈ digits, c.isDigit = true := by
  constructor
  · intro h
    -- the letters at the front are the label, and all that is left has to be digits
    have hparts : (t.takeWhile Char.isAlpha ≠ [] ∧ t.dropWhile Char.isAlpha ≠ []) ∧
        ∀ c ∈ t.dropWhile Char.isAlpha, c.isDigit = true := by
      simpa [isCellId] using h
    rcases hparts with ⟨⟨hlabel, hdigits⟩, hall⟩
    refine ⟨t.takeWhile Char.isAlpha, t.dropWhile Char.isAlpha,
      List.takeWhile_append_dropWhile.symm, hlabel, hdigits, ?_, hall⟩
    intro c hc
    exact Text.of_mem_takeWhile hc
  · rintro ⟨label, digits, rfl, hlabel, hdigits, halpha, hdigit⟩
    -- no digit is a letter, so the letters end where the label does
    have hstop := isAlpha_head?_of_isDigit hdigit
    unfold isCellId
    rw [Text.takeWhile_append halpha hstop, Text.dropWhile_append halpha hstop]
    simpa [hlabel, hdigits] using hdigit

namespace Address

theorem ofText_append {label digits : Text} (hlabel : label ≠ []) (hdigits : digits ≠ [])
    (halpha : ∀ c ∈ label, c.isAlpha = true) (hdigit : ∀ c ∈ digits, c.isDigit = true)
    (hshort : digits.length ≤ Numeral.digitLimit) :
    ofText (label ++ digits) = .ok (some ⟨Text.upper label, Decimal.digitsValue digits⟩) := by
  have hid : isCellId (label ++ digits) = true :=
    isCellId_iff.2 ⟨label, digits, rfl, hlabel, hdigits, halpha, hdigit⟩
  have hlimit : ¬Numeral.digitLimit < digits.length := by omega
  have hstop := isAlpha_head?_of_isDigit hdigit
  simp [ofText, hid, Text.takeWhile_append halpha hstop, Text.dropWhile_append halpha hstop,
    hlimit]

theorem ofText_eq_some_iff {id : Text} {a : Address} :
    ofText id = .ok (some a) ↔
      ∃ label digits : Text, id = label ++ digits ∧ label ≠ [] ∧ digits ≠ [] ∧
        (∀ c ∈ label, c.isAlpha = true) ∧ (∀ c ∈ digits, c.isDigit = true) ∧
          digits.length ≤ Numeral.digitLimit ∧
            a = ⟨Text.upper label, Decimal.digitsValue digits⟩ := by
  constructor
  · intro h
    cases hid : isCellId id with
    | false => simp [ofText, hid] at h
    | true =>
        obtain ⟨label, digits, rfl, hlabel, hdigits, halpha, hdigit⟩ := isCellId_iff.1 hid
        have hstop := isAlpha_head?_of_isDigit hdigit
        by_cases hlimit : Numeral.digitLimit < digits.length
        · simp [ofText, hid, Text.dropWhile_append halpha hstop, hlimit] at h
        · have hshort : digits.length ≤ Numeral.digitLimit := by omega
          have hread := ofText_append hlabel hdigits halpha hdigit hshort
          refine ⟨label, digits, rfl, hlabel, hdigits, halpha, hdigit, hshort, ?_⟩
          exact Option.some.inj (Except.ok.inj (h.symm.trans hread))
  · rintro ⟨label, digits, rfl, hlabel, hdigits, halpha, hdigit, hshort, rfl⟩
    exact ofText_append hlabel hdigits halpha hdigit hshort

end Address

/-! ## Plain ids -/

namespace Column

theorem letter_isUpper {digit : Nat} (h : digit < 26) : (letter digit).isUpper = true := by
  have hall : ∀ d ∈ List.range 26, (letter d).isUpper = true := by decide
  exact hall digit (List.mem_range.mpr h)

theorem isUpper_of_mem_letters {n : Nat} {c : Char} (h : c ∈ letters n) : c.isUpper = true := by
  induction n using Nat.strongRecOn with
  | ind n ih =>
      cases n with
      | zero =>
          rw [letters] at h
          cases h
      | succ n =>
          rw [letters_succ] at h
          -- the last letter is one digit, those in front are the rest of the number
          rcases List.mem_append.1 h with hfront | hlast
          · exact ih (n / 26) (by omega) hfront
          · rw [List.mem_singleton.1 hlast]
            exact letter_isUpper (Nat.mod_lt n (by decide))

theorem isLabel_upper {label : Text} (hne : label ≠ []) (h : ∀ c ∈ label, c.isAlpha = true) :
    isLabel (Text.upper label) = true := by
  refine isLabel_iff.2 ⟨?_, Text.isUpper_of_mem_upper h⟩
  rwa [Text.upper_of_isAlpha h, Ne, List.map_eq_nil_iff]

theorem letters_ne_nil {n : Nat} (h : 1 ≤ n) : letters n ≠ [] := by
  cases n with
  | zero => cases h
  | succ n =>
      rw [letters_succ]
      simp

end Column

theorem Address.ofText_text {column row : Nat} (hcolumn : 1 ≤ column)
    (hshort : (Nat.toDigits 10 row).length ≤ Numeral.digitLimit) :
    ofText (text column row) = .ok (some ⟨Column.letters column, row⟩) := by
  have hupper : ∀ c ∈ Column.letters column, c.isUpper = true := fun c hc =>
    Column.isUpper_of_mem_letters hc
  have halpha : ∀ c ∈ Column.letters column, c.isAlpha = true := fun c hc =>
    Text.isAlpha_of_isUpper (hupper c hc)
  have hdigit : ∀ c ∈ Nat.toDigits 10 row, c.isDigit = true := fun c hc =>
    Nat.isDigit_of_mem_toDigits (by decide) (by decide) hc
  rw [text, ofText_append (Column.letters_ne_nil hcolumn) Nat.toDigits_ne_nil halpha hdigit hshort,
    Text.upper_of_isUpper hupper, Decimal.digitsValue_toDigits]

theorem cellId_eq_text {column row : Nat} (hcolumn : 1 ≤ column) (hrow : Numeral.Writable row) :
    cellId (.byNumber column) row = .ok (Address.text column row) := by
  have hlabel : (Column.byNumber column).toLabel = .ok (Column.letters column) := by
    have hle : (1 : Int) ≤ column := by omega
    rw [Column.toLabel, if_pos hle, Int.toNat_natCast]
  have hdigits : Numeral.writeInteger row = .ok (Nat.toDigits 10 row) :=
    Numeral.writeInteger_eq_ok_iff.2 ⟨hrow, rfl⟩
  rw [cellId, hlabel, hdigits]
  rfl

end CellCalc

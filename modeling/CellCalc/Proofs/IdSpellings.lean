import CellCalc.Evaluation.Basic
import CellCalc.Proofs.CellIds
import CellCalc.Proofs.EvaluationFailures
import CellCalc.Source.Table

/-!
# IdSpellings — the spellings of an id, and the plain one among them

An id may be written in either case and with zeros in front of its row. Its plain spelling is in
upper case and has no such zeros, and it is the one under which a range looks up its cells. A table
keeps its values under the upper case of ids and takes no zeros away, so there a cell and the range
from it to itself have the same value unless its id is written with zeros in front of the row.

* `Decimal.withoutZeros`, `Decimal.toDigits_digitsValue` — digits without the zeros in front.
* `Address.plain`, `Address.text_of_ofText` — the plain spelling of an id.
* `CellSource.readRange_self` — the range from a cell to itself.
* `Table.range_of_one_cell` — the same in a table; `Table.zeros_before_row_not_read` — a cell whose
  range has another value.
-/

namespace CellCalc

/-! ## Zeros in front -/

namespace Decimal

/-- Digits without the zeros in front of them; of zeros alone one is left. -/
def withoutZeros (digits : Text) : Text :=
  if digits.all (· == '0') then ['0'] else digits.dropWhile (· == '0')

theorem withoutZeros_zero_cons (digits : Text) :
    withoutZeros ('0' :: digits) = withoutZeros digits := by
  simp [withoutZeros]

theorem withoutZeros_cons {c : Char} (hc : c ≠ '0') (digits : Text) :
    withoutZeros (c :: digits) = c :: digits := by
  simp [withoutZeros, hc]

theorem digitChar_sub {c : Char} (h : c.isDigit = true) : Nat.digitChar (c.toNat - 48) = c := by
  have hbounds := Text.isDigit_iff.1 h
  apply Char.toNat_inj.1
  rw [Nat.toNat_digitChar_of_lt_ten (by omega)]
  omega

/-- Digits after a number that is not zero go on its digits. -/
theorem toDigits_append {n : Nat} (hn : 0 < n) {digits : Text}
    (h : ∀ c ∈ digits, c.isDigit = true) :
    Nat.toDigits 10 n ++ digits = Nat.toDigits 10 (Nat.ofDigitChars 10 digits n) := by
  induction digits generalizing n with
  | nil => simp
  | cons c digits ih =>
      have hc := h c (by simp)
      have hbounds := Text.isDigit_iff.1 hc
      have hlast : c.toNat - 48 < 10 := by omega
      have hpositive : 0 < 10 * n + (c.toNat - 48) := by omega
      have hdigit : Nat.toDigits 10 n ++ [c] = Nat.toDigits 10 (10 * n + (c.toNat - 48)) := by
        rw [← Nat.toDigits_append_toDigits (by decide) hn hlast, Nat.toDigits_of_lt_base hlast,
          digitChar_sub hc]
      calc
        Nat.toDigits 10 n ++ c :: digits = Nat.toDigits 10 n ++ [c] ++ digits := by simp
        _ = Nat.toDigits 10 (10 * n + (c.toNat - 48)) ++ digits := by rw [hdigit]
        _ = Nat.toDigits 10 (Nat.ofDigitChars 10 digits (10 * n + (c.toNat - 48))) :=
          ih hpositive fun d hd => h d (by simp [hd])
        _ = Nat.toDigits 10 (Nat.ofDigitChars 10 (c :: digits) n) := by
          rw [Nat.ofDigitChars_cons]
          rfl

/-- A number is written with the digits it was read from, without the zeros in front. -/
theorem toDigits_digitsValue {digits : Text} (h : ∀ c ∈ digits, c.isDigit = true) :
    Nat.toDigits 10 (digitsValue digits) = withoutZeros digits := by
  induction digits with
  | nil => rfl
  | cons c digits ih =>
      have hdigits : ∀ d ∈ digits, d.isDigit = true := fun d hd => h d (by simp [hd])
      by_cases hc : c = '0'
      · subst hc
        have hvalue : digitsValue ('0' :: digits) = digitsValue digits := by
          simp [digitsValue, Nat.ofDigitChars_cons]
        rw [hvalue, ih hdigits, withoutZeros_zero_cons]
      · have hdigit := h c (by simp)
        have hbounds := Text.isDigit_iff.1 hdigit
        have hpositive : 0 < c.toNat - 48 := by
          have hne : c.toNat ≠ 48 := fun hzero => hc (Char.toNat_inj.1 hzero)
          omega
        have hvalue : digitsValue (c :: digits) = Nat.ofDigitChars 10 digits (c.toNat - 48) := by
          simp [digitsValue, Nat.ofDigitChars_cons]
        rw [hvalue, ← toDigits_append hpositive hdigits, Nat.toDigits_of_lt_base (by omega),
          digitChar_sub hdigit, withoutZeros_cons hc]
        rfl

end Decimal

/-! ## Plain spellings -/

namespace Address

/-- The plain spelling of an id: upper case, and no zeros in front of the row. -/
def plain (id : Text) : Text :=
  Text.upper (id.takeWhile Char.isAlpha) ++ Decimal.withoutZeros (id.dropWhile Char.isAlpha)

/-- No zeros stand in front of the row; the row zero is written as one zero. -/
def PlainRow (id : Text) : Prop :=
  (id.dropWhile Char.isAlpha).head? = some '0' → id.dropWhile Char.isAlpha = ['0']

instance (id : Text) : Decidable (PlainRow id) :=
  inferInstanceAs (Decidable (_ → _))

theorem plain_append {label digits : Text} (halpha : ∀ c ∈ label, c.isAlpha = true)
    (hdigit : ∀ c ∈ digits, c.isDigit = true) :
    plain (label ++ digits) = Text.upper label ++ Decimal.withoutZeros digits := by
  have hstop := isAlpha_head?_of_isDigit hdigit
  rw [plain, Text.takeWhile_append halpha hstop, Text.dropWhile_append halpha hstop]

/-- An id without zeros in front of its row is plain but for the case of its letters. -/
theorem plain_eq_upper {id : Text} (hid : isCellId id = true) (hrow : PlainRow id) :
    plain id = Text.upper id := by
  obtain ⟨label, digits, rfl, -, hne, halpha, hdigit⟩ := isCellId_iff.1 hid
  have hzeros : Decimal.withoutZeros digits = digits := by
    rw [PlainRow, Text.dropWhile_append halpha (isAlpha_head?_of_isDigit hdigit)] at hrow
    obtain ⟨c, rest, rfl⟩ := List.exists_cons_of_ne_nil hne
    by_cases hc : c = '0'
    · subst hc
      rw [hrow rfl]
      rfl
    · exact Decimal.withoutZeros_cons hc rest
  rw [plain_append halpha hdigit, hzeros, Text.upper_append, Text.upper_of_isDigit hdigit]

/-- Upper-casing leaves the plain spelling as it is. -/
theorem upper_plain {id : Text} (hid : isCellId id = true) : Text.upper (plain id) = plain id := by
  obtain ⟨label, digits, rfl, -, -, halpha, hdigit⟩ := isCellId_iff.1 hid
  have hrow : ∀ c ∈ Decimal.withoutZeros digits, c.isDigit = true := by
    rw [← Decimal.toDigits_digitsValue hdigit]
    exact fun c hc => Nat.isDigit_of_mem_toDigits (by decide) (by decide) hc
  rw [plain_append halpha hdigit, Text.upper_append,
    Text.upper_of_isUpper (Text.isUpper_of_mem_upper halpha), Text.upper_of_isDigit hrow]

/-- The id of an address is the plain spelling of every id that has the address. -/
theorem text_of_ofText {id : Text} {a : Address} (h : ofText id = .ok (some a)) :
    text a.columnNumber a.row = plain id := by
  obtain ⟨label, digits, rfl, -, -, halpha, hdigit, -, rfl⟩ := ofText_eq_some_iff.1 h
  rw [text, columnNumber, plain_append halpha hdigit, Decimal.toDigits_digitsValue hdigit,
    Column.letters_ordinal (Text.isUpper_of_mem_upper halpha)]

theorem isCellId_of_ofText {id : Text} {a : Address} (h : ofText id = .ok (some a)) :
    isCellId id = true := by
  obtain ⟨label, digits, hid, hlabel, hdigits, halpha, hdigit, -, -⟩ := ofText_eq_some_iff.1 h
  exact isCellId_iff.2 ⟨label, digits, hid, hlabel, hdigits, halpha, hdigit⟩

/-- The column of an address is a label in upper case. -/
theorem isLabel_column {id : Text} {a : Address} (h : ofText id = .ok (some a)) :
    Column.isLabel a.column = true := by
  obtain ⟨label, digits, -, hlabel, -, halpha, -, -, rfl⟩ := ofText_eq_some_iff.1 h
  exact Column.isLabel_upper hlabel halpha

theorem one_le_columnNumber {id : Text} {a : Address} (h : ofText id = .ok (some a)) :
    1 ≤ a.columnNumber :=
  Column.one_le_ordinal (isLabel_column h)

/-- The row of an address is short enough to be written. -/
theorem length_toDigits_row_le {id : Text} {a : Address} (h : ofText id = .ok (some a)) :
    (Nat.toDigits 10 a.row).length ≤ Numeral.digitLimit := by
  obtain ⟨label, digits, -, -, hdigits, -, hdigit, hshort, rfl⟩ := ofText_eq_some_iff.1 h
  exact Nat.le_trans (Decimal.length_toDigits_digitsValue_le hdigits hdigit) hshort

/-- The plain spelling of an id has the same address. -/
theorem ofText_plain {id : Text} {a : Address} (h : ofText id = .ok (some a)) :
    ofText (plain id) = .ok (some a) := by
  have hletters := Column.letters_ordinal (Column.isLabel_iff.1 (isLabel_column h)).2
  rw [← text_of_ofText h, ofText_text (one_le_columnNumber h) (length_toDigits_row_le h),
    columnNumber, hletters]

/-- A cell id has an address unless its row has more digits than are read. -/
theorem exists_of_not_longRow {id : Text} (hid : isCellId id = true) (hshort : ¬LongRow id) :
    ∃ a, ofText id = .ok (some a) := by
  cases hread : ofText id with
  | error cause => exact absurd (ofText_failsOnly id cause hread).1 hshort
  | ok found =>
      obtain ⟨a, rfl⟩ := exists_of_isCellId hid hread
      exact ⟨a, rfl⟩

end Address

/-! ## The range from a cell to itself -/

theorem between_self (n : Nat) : between n n = [n] := by
  simp [between]

theorem rangeIds_self {id : Text} {a : Address} (h : Address.ofText id = .ok (some a)) :
    rangeIds id id = .ok [[Address.plain id]] := by
  have hids : (Rectangle.mk a a).ids = [[Address.plain id]] := by
    rw [Rectangle.ids, Rectangle.rows, Rectangle.columns, between_self, between_self,
      List.map_singleton, List.map_singleton, Address.text_of_ofText h]
  rw [rangeIds, h, ← hids]
  rfl

/-- The range from a cell to itself is read under the plain spelling of its id. -/
theorem CellSource.readRange_self (cell : Text → Except Failure Value) {id : Text} {v : Value}
    (hid : isCellId id = true) (hshort : ¬Address.LongRow id)
    (hcell : cell (Address.plain id) = .ok v) : readRange cell id id = .ok [[v]] := by
  obtain ⟨a, ha⟩ := Address.exists_of_not_longRow hid hshort
  simp only [readRange, rangeIds_self ha, List.mapM_cons, List.mapM_nil, hcell]
  rfl

namespace Table

/-- In a table the range from a cell to itself has one value, that of the plain spelling of the id.
It is the value of the cell if no zeros stand in front of the row, so that a formula sees the same
value whether it refers to the cell or to the range. -/
theorem range_of_one_cell (t : Table) {id : Text} (hid : isCellId id = true)
    (hshort : ¬Address.LongRow id) :
    t.source.range id id = .ok [[t.get (Address.plain id)]] ∧
      (Address.PlainRow id → t.source.range id id = .ok [[t.get id]] ∧
        ∀ functions, Environment.eval ⟨functions, t.source⟩ (.cell id) = pure (t.get id) ∧
          Environment.eval ⟨functions, t.source⟩ (.range id id) =
            pure (.ofRows [[t.get id]])) := by
  have hrange : t.source.range id id = .ok [[t.get (Address.plain id)]] :=
    CellSource.readRange_self _ hid hshort rfl
  refine ⟨hrange, fun hrow => ?_⟩
  -- the table looks up both spellings under the upper case of the id
  have hsame : t.get (Address.plain id) = t.get id := by
    rw [get, get, Address.upper_plain hid, Address.plain_eq_upper hid hrow]
  rw [hsame] at hrange
  refine ⟨hrange, fun functions => ⟨?_, ?_⟩⟩
  · rw [Environment.eval]
    rfl
  · rw [Environment.eval, hrange]
    rfl

theorem range_of_one_cell_written_twice :
    isCellId "aB10" = true ∧ ¬Address.LongRow "aB10" ∧ Address.PlainRow "aB10" ∧
      (ofList [("ab10", .blank), ("AB10", .text "x")]).source.range "aB10" "aB10" =
        .ok [[.text "x"]] := by
  have hid : isCellId "aB10" = true := by decide
  have hshort : ¬Address.LongRow "aB10" := by decide
  have hrow : Address.PlainRow "aB10" := by decide
  have hvalue : (ofList [("ab10", .blank), ("AB10", .text "x")]).get "aB10" = .text "x" := by
    decide +kernel
  refine ⟨hid, hshort, hrow, ?_⟩
  rw [← hvalue]
  exact ((range_of_one_cell _ hid hshort).2 hrow).1

/-- A value set for `A01` is read there and nowhere else, and no range looks there. -/
theorem zeros_before_row_not_read :
    ¬∀ (cells : List (Text × Value)) (id : Text), isCellId id = true → ¬Address.LongRow id →
      (ofList cells).source.range id id = .ok [[(ofList cells).get id]] := by
  intro h
  have hid : isCellId "A01" = true := by decide
  have hshort : ¬Address.LongRow "A01" := by decide
  have hagree := h [("A01", .text "x")] "A01" hid hshort
  have hplain : (ofList [("A01", .text "x")]).get (Address.plain "A01") = .blank := by
    decide +kernel
  have hrange : (ofList [("A01", .text "x")]).source.range "A01" "A01" = .ok [[.blank]] :=
    CellSource.readRange_self (fun id => .ok ((ofList [("A01", .text "x")]).get id)) hid hshort
      (congrArg Except.ok hplain)
  rw [hrange] at hagree
  exact absurd hagree (by decide +kernel)

end Table
end CellCalc

import CellCalc.Proofs.ColumnOrder
import CellCalc.Proofs.Rectangles

/-!
# Respelling — ids taken apart and put together again

An id names one column and one row, and of the ids that name them one is put together from the
column and the row: the plain one. Taking an id apart and putting its parts together again therefore
leads to its plain spelling, and a plain spelling stays as it is. This holds for all columns and for
every row that is short enough to be written, and wherever a code of the first columns ends.

* `Address.Parts` — the letters and the digits that an id is made of.
* `Address.ofText_eq_some_iff_parts` — the address of an id, by its parts.
* `ColumnCode.idOf`, `ColumnCode.respell` — an address put together, an id respelled.
* `ColumnCode.respell_eq_self_iff` — the ids that stay as they are.
* `ColumnCode.ids_exact` — both codes between ids and places of cells.
-/

namespace CellCalc

/-! ## The parts of an id -/

namespace Address

/-- The id is made of these letters and these digits, and there are not more digits than are
read. -/
structure Parts (id letters digits : Text) : Prop where
  whole : id = letters ++ digits
  letters_ne_nil : letters ≠ []
  digits_ne_nil : digits ≠ []
  isAlpha : ∀ c ∈ letters, c.isAlpha = true
  isDigit : ∀ c ∈ digits, c.isDigit = true
  short : digits.length ≤ Numeral.digitLimit

variable {id letters digits : Text}

/-- An id has an address if it has parts, and the address is their upper case and their value. -/
theorem ofText_eq_some_iff_parts {a : Address} :
    ofText id = .ok (some a) ↔
      ∃ letters digits, Parts id letters digits ∧
        a = ⟨Text.upper letters, Decimal.digitsValue digits⟩ := by
  rw [ofText_eq_some_iff]
  constructor
  · rintro ⟨letters, digits, hid, hletters, hdigits, halpha, hdigit, hshort, ha⟩
    exact ⟨letters, digits, ⟨hid, hletters, hdigits, halpha, hdigit, hshort⟩, ha⟩
  · rintro ⟨letters, digits, h, ha⟩
    exact ⟨letters, digits, h.whole, h.letters_ne_nil, h.digits_ne_nil, h.isAlpha, h.isDigit,
      h.short, ha⟩

theorem Parts.ofText_eq (h : Parts id letters digits) :
    ofText id = .ok (some ⟨Text.upper letters, Decimal.digitsValue digits⟩) :=
  ofText_eq_some_iff_parts.2 ⟨letters, digits, h, rfl⟩

/-- The plain spelling has the letters in upper case and no zeros in front of the digits. -/
theorem Parts.plain_eq (h : Parts id letters digits) :
    plain id = Text.upper letters ++ Decimal.withoutZeros digits := by
  rw [h.whole, plain_append h.isAlpha h.isDigit]

/-- The column and the row are read back from their id. -/
theorem ofText_text_of_writable {n row : Nat} (hn : 1 ≤ n) (hrow : Numeral.Writable row) :
    ofText (text n row) = .ok (some ⟨Column.letters n, row⟩) :=
  ofText_text hn hrow

end Address

namespace ColumnCode

open Column

variable {code : ColumnCode}

/-! ## Ids put together from a place -/

theorem cellId_of_pos (h : code.Sound) {n row : Nat} (hn : 1 ≤ n) (hrow : Numeral.Writable row) :
    code.cellId (.byNumber n) row = .ok (Address.text n row) := by
  rw [cellId_eq h, cellId_eq_text hn hrow]

/-- Different cells have different ids. -/
theorem cellId_inj (h : code.Sound) {n row n' row' : Nat} (hn : 1 ≤ n)
    (hrow : Numeral.Writable row) (hn' : 1 ≤ n') (hrow' : Numeral.Writable row')
    (hsame : code.cellId (.byNumber n) row = code.cellId (.byNumber n') row') :
    n = n' ∧ row = row' := by
  rw [cellId_of_pos h hn hrow, cellId_of_pos h hn' hrow'] at hsame
  have hnames' := Address.names_text hn' hrow'
  rw [← Except.ok.inj hsame] at hnames'
  exact (Address.names_text hn hrow).unique hnames'

/-! ## Ids taken apart first -/

/-- The id of an address, put together from the number of its column and its row. -/
def idOf (code : ColumnCode) (a : Address) : Except Failure Text := do
  let number ← code.toNumber (.byLabel a.column)
  code.cellId (.byNumber number) a.row

/-- An id taken apart and put together again, if the text is written as one. -/
def respell (code : ColumnCode) (id : Text) : Except Failure (Option Text) := do
  match ← Address.ofText id with
  | some a => some <$> code.idOf a
  | none => return none

variable {id : Text} {a : Address}

theorem toNumber_column (h : code.Sound) (ha : Address.ofText id = .ok (some a)) :
    code.toNumber (.byLabel a.column) = .ok a.columnNumber := by
  rw [toNumber_eq h, Address.toNumber_column ha]

/-- The address of an id is put together to the plain spelling of the id. -/
theorem idOf_eq_plain (h : code.Sound) (ha : Address.ofText id = .ok (some a)) :
    code.idOf a = .ok (Address.plain id) := by
  have hcolumn := Address.one_le_columnNumber ha
  have hrow : Numeral.Writable a.row := Address.length_toDigits_row_le ha
  calc
    code.idOf a = code.cellId (.byNumber a.columnNumber) a.row := by
      rw [idOf, toNumber_column h ha]
      rfl
    _ = .ok (Address.text a.columnNumber a.row) := cellId_of_pos h hcolumn hrow
    _ = .ok (Address.plain id) := by rw [Address.text_of_ofText ha]

theorem respell_eq_plain (h : code.Sound) (ha : Address.ofText id = .ok (some a)) :
    code.respell id = .ok (some (Address.plain id)) := by
  have hput : code.respell id = some <$> code.idOf a := by
    rw [respell, ha]
    rfl
  rw [hput, idOf_eq_plain h ha]
  rfl

/-- The plain spelling stays as it is. -/
theorem respell_plain (h : code.Sound) (ha : Address.ofText id = .ok (some a)) :
    code.respell (Address.plain id) = .ok (some (Address.plain id)) := by
  have hplain := Address.ofText_plain ha
  -- the id and its plain spelling have one address, and the plain spelling of both is its id
  have hsame : Address.plain (Address.plain id) = Address.plain id := by
    rw [← Address.text_of_ofText hplain, Address.text_of_ofText ha]
  rw [respell_eq_plain h hplain, hsame]

/-- Only what has an address is respelled. -/
theorem exists_of_respell {id' : Text} (hid : code.respell id = .ok (some id')) :
    ∃ a, Address.ofText id = .ok (some a) := by
  cases hread : Address.ofText id with
  | error cause =>
      rw [respell, hread] at hid
      cases hid
  | ok found =>
      cases found with
      | none =>
          rw [respell, hread] at hid
          cases hid
      | some a => exact ⟨a, rfl⟩

/-- The ids that stay as they are when they are respelled are those put together from a column and a
row. -/
theorem respell_eq_self_iff (h : code.Sound) :
    code.respell id = .ok (some id) ↔
      ∃ n row : Nat, 1 ≤ n ∧ Numeral.Writable row ∧ code.cellId (.byNumber n) row = .ok id := by
  constructor
  · intro hid
    obtain ⟨a, ha⟩ := exists_of_respell hid
    have hcolumn := Address.one_le_columnNumber ha
    have hrow : Numeral.Writable a.row := Address.length_toDigits_row_le ha
    have hplain : Address.plain id = id :=
      Option.some.inj (Except.ok.inj ((respell_eq_plain h ha).symm.trans hid))
    refine ⟨a.columnNumber, a.row, hcolumn, hrow, ?_⟩
    rw [cellId_of_pos h hcolumn hrow, Address.text_of_ofText ha, hplain]
  · rintro ⟨n, row, hn, hrow, hid⟩
    rw [cellId_of_pos h hn hrow] at hid
    obtain rfl := Except.ok.inj hid
    have hread := Address.ofText_text_of_writable hn hrow
    rw [respell_eq_plain h hread, (Address.names_text hn hrow).plain]

/-! ## Ids and places -/

/-- Ids by a code of columns that is right as far as it goes. Columns counted from one and rows that
are short enough to be written are read back from their ids, which therefore differ. A text has an
address exactly if it is made of letters and digits, and put together again it is in upper case and
without zeros in front of the row. Nothing changes after that, and the ids that do not change are
the ones put together from a column and a row. -/
theorem ids_exact (h : code.Sound) :
    (∀ (column : Column) (row : Int), code.toNumber column = column.toNumber ∧
      code.toLabel column = column.toLabel ∧
        code.cellId column row = CellCalc.cellId column row) ∧
    (∀ n row : Nat, 1 ≤ n → Numeral.Writable row → ∃ label id,
      code.cellId (.byNumber n) row = .ok id ∧ code.toLabel (.byNumber n) = .ok label ∧
        Address.ofText id = .ok (some ⟨label, row⟩) ∧ code.toNumber (.byLabel label) = .ok n) ∧
    (∀ n row n' row' : Nat, 1 ≤ n → Numeral.Writable row → 1 ≤ n' → Numeral.Writable row' →
      code.cellId (.byNumber n) row = code.cellId (.byNumber n') row' → n = n' ∧ row = row') ∧
    (∀ (id : Text) (a : Address), Address.ofText id = .ok (some a) ↔
      ∃ letters digits, Address.Parts id letters digits ∧
        a = ⟨Text.upper letters, Decimal.digitsValue digits⟩) ∧
    (∀ id letters digits : Text, Address.Parts id letters digits →
      Address.plain id = Text.upper letters ++ Decimal.withoutZeros digits ∧
        code.respell id = .ok (some (Address.plain id)) ∧
          code.respell (Address.plain id) = .ok (some (Address.plain id))) ∧
    ∀ id : Text, code.respell id = .ok (some id) ↔
      ∃ n row : Nat, 1 ≤ n ∧ Numeral.Writable row ∧ code.cellId (.byNumber n) row = .ok id := by
  refine ⟨fun column row => ⟨toNumber_eq h column, toLabel_eq h column, cellId_eq h column row⟩,
    ?_, ?_, fun id a => Address.ofText_eq_some_iff_parts, ?_, fun id => respell_eq_self_iff h⟩
  · intro n row hn hrow
    have hlabel : code.toLabel (.byNumber n) = .ok (letters n) := by
      have hle : (1 : Int) ≤ n := by omega
      rw [toLabel_of_pos h hle, Int.toNat_natCast]
    have hread := Address.ofText_text_of_writable hn hrow
    have hnumber := toNumber_column h hread
    rw [Address.columnNumber, ordinal_letters] at hnumber
    exact ⟨_, _, cellId_of_pos h hn hrow, hlabel, hread, hnumber⟩
  · intro n row n' row' hn hrow hn' hrow' hsame
    exact cellId_inj h hn hrow hn' hrow' hsame
  · intro id letters digits hparts
    exact ⟨hparts.plain_eq, respell_eq_plain h hparts.ofText_eq, respell_plain h hparts.ofText_eq⟩

/-- The row zero in the first column after the code of three letters, and in the last one of it. -/
theorem ids_exact_after_three_letters :
    short.Sound ∧ Numeral.Writable 0 ∧ short.cellId (.byNumber 18279) 0 = .ok "AAAA0" ∧
      Address.ofText "AAAA0" = .ok (some ⟨"AAAA", 0⟩) ∧
      short.toNumber (.byLabel "AAAA") = .ok 18279 ∧
      short.cellId (.byNumber 18279) 0 ≠ short.cellId (.byNumber 18278) 0 ∧
      Address.Parts "aAaA000" "aAaA" "000" ∧ short.respell "aAaA000" = .ok (some "AAAA0") ∧
      short.respell "AAAA0" = .ok (some "AAAA0") := by
  have hrow : Numeral.Writable (0 : Nat) := by decide
  have hid : short.cellId (.byNumber 18279) 0 = .ok "AAAA0" := by decide +kernel
  have hlabel : short.toLabel (.byNumber 18279) = .ok "AAAA" := by decide +kernel
  have hparts : Address.Parts "aAaA000" "aAaA" "000" :=
    ⟨by decide, by decide, by decide, List.all_eq_true.1 rfl, List.all_eq_true.1 rfl, by decide⟩
  obtain ⟨-, hcells, hinjective, -, hrespell, hfixed⟩ := ids_exact short_sound
  obtain ⟨label, id, hput, hcolumn, hread, hnumber⟩ := hcells 18279 0 (by decide) hrow
  obtain rfl : "AAAA0".toList = id := Except.ok.inj (hid.symm.trans hput)
  obtain rfl : "AAAA".toList = label := Except.ok.inj (hlabel.symm.trans hcolumn)
  have hplain : Address.plain "aAaA000" = "AAAA0".toList := by decide +kernel
  obtain ⟨-, hagain, -⟩ := hrespell _ _ _ hparts
  rw [hplain] at hagain
  refine ⟨short_sound, hrow, hid, hread, hnumber, fun hsame => ?_, hparts, hagain,
    (hfixed _).2 ⟨18279, 0, by decide, hrow, hid⟩⟩
  have hcolumns := (hinjective 18279 0 18278 0 (by decide) hrow (by decide) hrow hsame).1
  exact absurd hcolumns (by decide)

end ColumnCode
end CellCalc

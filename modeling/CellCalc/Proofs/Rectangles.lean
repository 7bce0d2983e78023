import CellCalc.Proofs.CellOutcomes
import CellCalc.Proofs.ColumnCodes
import CellCalc.Proofs.FailureKinds
import CellCalc.Proofs.Footprint
import CellCalc.Proofs.IdSpellings

/-!
# Rectangles — the ids between two corners, each of them once

Two corners span a rectangle whatever the order in which they are given, whichever diagonal they
stand on, and however their ids are spelled. Its cells are listed in a grid that has one entry for
each row and each column, and an entry leads back to its own row and column, so that no id occurs
twice. Only a corner that is not written as an address can go wrong.

* `Address.Written` — the texts that have an address.
* `Rectangle.Grid`, `Rectangle.grid_map` — one entry for each row and each column.
* `Address.Names` — the id of a column and a row in its plain form.
* `Rectangle.grid_ids`, `Rectangle.nodup_ids` — the ids of a rectangle.
* `ColumnCode.rangeIds_eq` — the same ids by a code for columns that ends somewhere.
* `rangeIds_exact` — all of it together.
-/

namespace CellCalc

/-! ## Texts that have an address -/

namespace Address

/-- The text is written as an address: letters, then digits, and no more of them than are read. -/
def Written (id : Text) : Prop :=
  isCellId id = true ∧ ¬LongRow id

instance : DecidablePred Written :=
  fun _ => inferInstanceAs (Decidable (_ ∧ _))

theorem written_iff {id : Text} : Written id ↔ ∃ a, ofText id = .ok (some a) := by
  constructor
  · rintro ⟨hid, hshort⟩
    exact exists_of_not_longRow hid hshort
  · rintro ⟨a, ha⟩
    refine ⟨isCellId_of_ofText ha, fun hlong => ?_⟩
    rw [ofText_of_unreadable ⟨isCellId_of_ofText ha, hlong⟩] at ha
    cases ha

/-- Spellings that differ in case and in zeros before the row have one address. -/
theorem ofText_eq_of_plain_eq {id id' : Text} {a : Address} (h : ofText id = .ok (some a))
    (hid' : Written id') (hplain : plain id' = plain id) : ofText id' = .ok (some a) := by
  obtain ⟨a', ha'⟩ := written_iff.1 hid'
  have hread := ofText_plain ha'
  rw [hplain, ofText_plain h] at hread
  rw [ha', hread]

/-- The number of the column is read from its label. -/
theorem toNumber_column {id : Text} {a : Address} (h : ofText id = .ok (some a)) :
    (Column.byLabel a.column).toNumber = .ok a.columnNumber := by
  have hlabel := isLabel_column h
  rw [Column.toNumber, Text.upper_of_isUpper (Column.isLabel_iff.1 hlabel).2, if_pos hlabel]
  rfl

/-- The id of a column and a row in its plain form, from which both are read back. -/
structure Names (column row : Nat) (id : Text) : Prop where
  place : ∃ a, ofText id = .ok (some a) ∧ a.columnNumber = column ∧ a.row = row
  plain : plain id = id
  written : cellId (.byNumber column) row = .ok id

theorem names_text {column row : Nat} (hcolumn : 1 ≤ column) (hrow : Numeral.Writable row) :
    Names column row (text column row) := by
  have hread : ofText (text column row) = .ok (some ⟨Column.letters column, row⟩) :=
    ofText_text hcolumn hrow
  have hnumber : columnNumber ⟨Column.letters column, row⟩ = column :=
    Column.ordinal_letters column
  refine ⟨⟨_, hread, hnumber, rfl⟩, ?_, cellId_eq_text hcolumn hrow⟩
  rw [← text_of_ofText hread, hnumber]

/-- An id names one column and one row. -/
theorem Names.unique {column row column' row' : Nat} {id : Text} (h : Names column row id)
    (h' : Names column' row' id) : column = column' ∧ row = row' := by
  obtain ⟨a, ha, rfl, rfl⟩ := h.place
  obtain ⟨a', ha', rfl, rfl⟩ := h'.place
  obtain rfl := Option.some.inj (Except.ok.inj (ha.symm.trans ha'))
  exact ⟨rfl, rfl⟩

end Address

/-! ## Grids over a rectangle -/

theorem length_between_eq (a b : Nat) : (between a b).length = ((a : Int) - b).natAbs + 1 := by
  rw [length_between]
  omega

theorem eq_of_getElem?_between {a b i n : Nat} (h : (between a b)[i]? = some n) :
    n = min a b + i := by
  have hi : i < max a b - min a b + 1 := by
    rw [← length_between]
    exact (List.getElem?_eq_some_iff.1 h).1
  rw [between, List.getElem?_range' hi, Nat.one_mul] at h
  exact (Option.some.inj h).symm

theorem between_pairwise_lt (a b : Nat) : (between a b).Pairwise (· < ·) :=
  List.pairwise_lt_range' 1

namespace Rectangle

variable {α : Type}

/-- One row for each row of the rectangle and in it one entry for each column, both in increasing
order; the entry in a column and a row is of the kind that belongs there. -/
structure Grid (r : Rectangle) (Entry : Nat → Nat → α → Prop) (grid : List (List α)) : Prop where
  height : grid.length = ((r.start.row : Int) - r.stop.row).natAbs + 1
  width : ∀ row ∈ grid,
    row.length = ((r.start.columnNumber : Int) - r.stop.columnNumber).natAbs + 1
  entry : ∀ (i j : Nat) (row : List α) (x : α), grid[i]? = some row → row[j]? = some x →
    Entry (min r.start.columnNumber r.stop.columnNumber + j) (min r.start.row r.stop.row + i) x

/-- A grid made entry by entry. -/
theorem grid_map {r : Rectangle} {Entry : Nat → Nat → α → Prop} {f : Nat → Nat → α}
    (h : ∀ row ∈ r.rows, ∀ column ∈ r.columns, Entry column row (f column row)) :
    r.Grid Entry (r.rows.map fun row => r.columns.map fun column => f column row) where
  height := by
    rw [List.length_map, rows, length_between_eq]
  width := by
    intro line hline
    obtain ⟨row, -, rfl⟩ := List.mem_map.1 hline
    rw [List.length_map, columns, length_between_eq]
  entry := by
    intro i j line x hline hx
    rw [List.getElem?_map, Option.map_eq_some_iff] at hline
    obtain ⟨row, hrow, rfl⟩ := hline
    rw [List.getElem?_map, Option.map_eq_some_iff] at hx
    obtain ⟨column, hcolumn, rfl⟩ := hx
    rw [← eq_of_getElem?_between hrow, ← eq_of_getElem?_between hcolumn]
    exact h row (List.mem_of_getElem? hrow) column (List.mem_of_getElem? hcolumn)

/-! ## The ids of a rectangle -/

section Corners

variable {start stop : Text} {a b : Address}

/-- Every cell between two corners has an id. -/
theorem names_of_mem (hstart : Address.ofText start = .ok (some a))
    (hstop : Address.ofText stop = .ok (some b)) {column row : Nat}
    (hrow : row ∈ (mk a b).rows) (hcolumn : column ∈ (mk a b).columns) :
    Address.Names column row (Address.text column row) := by
  have hrow : row ≤ max a.row b.row := (mem_between.1 hrow).2
  have hcolumn : min a.columnNumber b.columnNumber ≤ column := (mem_between.1 hcolumn).1
  have hfirst := Address.one_le_columnNumber hstart
  have hlast := Address.one_le_columnNumber hstop
  have hfirstRow : Numeral.Writable a.row := Address.length_toDigits_row_le hstart
  have hlastRow : Numeral.Writable b.row := Address.length_toDigits_row_le hstop
  -- a row with too many digits would lie beyond both corners
  have hshort : Numeral.Writable row := by
    rw [Numeral.writable_iff] at hfirstRow hlastRow ⊢
    omega
  exact Address.names_text (by omega) hshort

theorem grid_ids (hstart : Address.ofText start = .ok (some a))
    (hstop : Address.ofText stop = .ok (some b)) :
    (mk a b).Grid Address.Names (mk a b).ids :=
  grid_map fun _ hrow _ hcolumn => names_of_mem hstart hstop hrow hcolumn

theorem nodup_ids (hstart : Address.ofText start = .ok (some a))
    (hstop : Address.ofText stop = .ok (some b)) : (mk a b).ids.flatten.Nodup := by
  have hnames : ∀ {row column}, row ∈ (mk a b).rows → column ∈ (mk a b).columns →
      Address.Names column row (Address.text column row) := names_of_mem hstart hstop
  refine List.pairwise_flatten.2 ⟨fun line hline => ?_, ?_⟩
  · -- within a row the columns differ
    obtain ⟨row, hrow, rfl⟩ := List.mem_map.1 hline
    refine List.pairwise_map.2 ((between_pairwise_lt _ _).imp_of_mem ?_)
    intro c d hc hd hlt hsame
    have hnamed := hnames hrow hd
    rw [← hsame] at hnamed
    have hcolumns := ((hnames hrow hc).unique hnamed).1
    omega
  · -- and between two rows the rows do
    refine List.pairwise_map.2 ((between_pairwise_lt _ _).imp_of_mem ?_)
    intro row row' hrow hrow' hlt id hid id' hid' hsame
    obtain ⟨c, hc, rfl⟩ := List.mem_map.1 hid
    obtain ⟨d, hd, rfl⟩ := List.mem_map.1 hid'
    have hnamed := hnames hrow' hd
    rw [← hsame] at hnamed
    have hrows := ((hnames hrow hc).unique hnamed).2
    omega

end Corners

end Rectangle

/-! ## The ids between two corners -/

section Range

variable {start stop : Text} {a b : Address}

theorem rangeIds_of_ofText (hstart : Address.ofText start = .ok (some a))
    (hstop : Address.ofText stop = .ok (some b)) :
    rangeIds start stop = .ok (Rectangle.mk a b).ids :=
  rangeIds_eq_ok_iff.2 ⟨a, b, hstart, hstop, rfl⟩

theorem exists_rangeIds_iff :
    (∃ rows, rangeIds start stop = .ok rows) ↔ Address.Written start ∧ Address.Written stop := by
  rw [Address.written_iff, Address.written_iff]
  constructor
  · rintro ⟨rows, hrows⟩
    obtain ⟨a, b, hstart, hstop, -⟩ := rangeIds_eq_ok_iff.1 hrows
    exact ⟨⟨a, hstart⟩, b, hstop⟩
  · rintro ⟨⟨a, hstart⟩, b, hstop⟩
    exact ⟨_, rangeIds_of_ofText hstart hstop⟩

/-- A corner that is not written as an address is a value that is not allowed. -/
theorem rangeIds_failsOnly_value (start stop : Text) :
    FailsOnly (·.kind = .value) (rangeIds start stop) := by
  have hcorner : ∀ id, FailsOnly (·.kind = .value) (Address.ofText id) := fun id =>
    (Address.ofText_failsOnly id).mono fun _ h => h.2.kind
  refine (hcorner start).bind fun first _ => (hcorner stop).bind fun last _ => ?_
  cases first with
  | none => exact .error rfl
  | some a =>
      cases last with
      | none => exact .error rfl
      | some b => exact .ok

theorem rangeIds_fails_iff :
    (∃ cause, rangeIds start stop = .error cause ∧ cause.kind = .value) ↔
      ¬(Address.Written start ∧ Address.Written stop) := by
  rw [← exists_rangeIds_iff]
  cases hids : rangeIds start stop with
  | ok rows => simp
  | error cause => simpa using rangeIds_failsOnly_value start stop cause hids

/-- A source that reads a range cell by cell says that it cannot resolve it just if a corner is not
written as an address. -/
theorem range_ofCells_fails_iff {cell : Text → Except Failure Value}
    (hcell : ∀ id, cell id ≠ .error .unresolvedRange) :
    (CellSource.ofCells cell).range start stop = .error .unresolvedRange ↔
      ¬(Address.Written start ∧ Address.Written stop) := by
  rw [← exists_rangeIds_iff]
  change CellSource.readRange cell start stop = _ ↔ _
  rw [CellSource.readRange]
  cases hids : rangeIds start stop with
  | error cause => simp
  | ok rows =>
      have hread : FailsOnly (· ≠ .unresolvedRange) (rows.mapM fun row => row.mapM cell) := by
        refine .mapM fun row _ => .mapM fun id _ => ?_
        rintro cause hfailed rfl
        exact hcell id hfailed
      have hother : rows.mapM (fun row => row.mapM cell) ≠ .error .unresolvedRange :=
        fun hfailed => hread _ hfailed rfl
      simpa using hother

/-- The corners may be given in either order. -/
theorem Rectangle.ids_swap (a b : Address) : (mk b a).ids = (mk a b).ids := by
  simp only [ids, rows, columns, between_comm b.row, between_comm b.columnNumber]

/-- The corners may stand on either diagonal. -/
theorem Rectangle.ids_diagonal (a b : Address) :
    (mk ⟨a.column, b.row⟩ ⟨b.column, a.row⟩).ids = (mk a b).ids := by
  simp only [ids, rows, columns, between_comm b.row, Address.columnNumber]

end Range

/-! ## By a code for columns -/

theorem mapM_eq_ok_map {α β : Type} {f : α → Except Failure β} {g : α → β} {xs : List α}
    (h : ∀ x ∈ xs, f x = .ok (g x)) : xs.mapM f = .ok (xs.map g) :=
  (CellSource.mapM_congr h).trans List.mapM_pure

namespace ColumnCode

/-- The ids of the cells between two corners, each of them written by a code for columns. -/
def rangeIds (code : ColumnCode) (start stop : Text) : Except Failure (List (List Text)) := do
  let first ← Address.ofText start
  let last ← Address.ofText stop
  match first, last with
  | some a, some b =>
      let c ← code.toNumber (.byLabel a.column)
      let d ← code.toNumber (.byLabel b.column)
      (between a.row b.row).mapM fun (row : Nat) =>
        (between c.toNat d.toNat).mapM fun (column : Nat) => code.cellId (.byNumber column) row
  | _, _ => throw (.malformedRange start stop)

theorem rangeIds_eq {code : ColumnCode} (h : code.Sound) (start stop : Text) :
    code.rangeIds start stop = CellCalc.rangeIds start stop := by
  rw [rangeIds, CellCalc.rangeIds]
  cases hstart : Address.ofText start with
  | error cause => rfl
  | ok first =>
      cases hstop : Address.ofText stop with
      | error cause => rfl
      | ok last =>
          cases first with
          | none => rfl
          | some a =>
              cases last with
              | none => rfl
              | some b =>
                  -- the code gives each cell the id that the rectangle has for it
                  have hcell : ∀ row ∈ (Rectangle.mk a b).rows,
                      ∀ column ∈ (Rectangle.mk a b).columns,
                        code.cellId (.byNumber column) row = .ok (Address.text column row) := by
                    intro row hrow column hcolumn
                    rw [cellId_eq h]
                    exact (Rectangle.names_of_mem hstart hstop hrow hcolumn).written
                  have hids := mapM_eq_ok_map fun row hrow => mapM_eq_ok_map (hcell row hrow)
                  change ((code.toNumber (.byLabel a.column)).bind fun c =>
                    (code.toNumber (.byLabel b.column)).bind fun d => _) = _
                  rw [toNumber_eq h, toNumber_eq h, Address.toNumber_column hstart,
                    Address.toNumber_column hstop]
                  exact hids

end ColumnCode

/-! ## All of it -/

/-- Two texts span a range just if both are written as addresses; otherwise a value is not allowed,
and a source that reads its ranges cell by cell says that it cannot resolve this one. The ids of the
range form a grid over the rectangle between the two places: each names its own column and row in
its plain form, and no id occurs twice. The grid is the same for the corners in the other order, for
those on the other diagonal, and for any other spelling of them, and a code for columns that is
right as far as it goes finds the same ids. -/
theorem rangeIds_exact (start stop : Text) :
    ((∃ cause, rangeIds start stop = .error cause ∧ cause.kind = .value) ↔
      ¬(Address.Written start ∧ Address.Written stop)) ∧
    (∀ cell, (∀ id, cell id ≠ .error .unresolvedRange) →
      ((CellSource.ofCells cell).range start stop = .error .unresolvedRange ↔
        ¬(Address.Written start ∧ Address.Written stop))) ∧
    (∀ code : ColumnCode, code.Sound → code.rangeIds start stop = rangeIds start stop) ∧
    (Address.Written start ∧ Address.Written stop → ∃ a b rows,
      Address.ofText start = .ok (some a) ∧ Address.ofText stop = .ok (some b) ∧
      rangeIds start stop = .ok rows ∧ (Rectangle.mk a b).Grid Address.Names rows ∧
      rows.flatten.Nodup ∧ rangeIds stop start = .ok rows ∧
      (∀ p q, Address.ofText p = .ok (some ⟨a.column, b.row⟩) →
        Address.ofText q = .ok (some ⟨b.column, a.row⟩) → rangeIds p q = .ok rows) ∧
      ∀ p q, Address.Written p → Address.plain p = Address.plain start →
        Address.Written q → Address.plain q = Address.plain stop → rangeIds p q = .ok rows) := by
  refine ⟨rangeIds_fails_iff, fun cell hcell => range_ofCells_fails_iff hcell,
    fun code hcode => ColumnCode.rangeIds_eq hcode start stop, ?_⟩
  rintro ⟨hwritten, hwritten'⟩
  obtain ⟨a, hstart⟩ := Address.written_iff.1 hwritten
  obtain ⟨b, hstop⟩ := Address.written_iff.1 hwritten'
  refine ⟨a, b, _, hstart, hstop, rangeIds_of_ofText hstart hstop,
    Rectangle.grid_ids hstart hstop, Rectangle.nodup_ids hstart hstop, ?_, ?_, ?_⟩
  · rw [rangeIds_of_ofText hstop hstart, Rectangle.ids_swap]
  · intro p q hp hq
    rw [rangeIds_of_ofText hp hq, Rectangle.ids_diagonal]
  · intro p q hp hplain hq hplain'
    exact rangeIds_of_ofText (Address.ofText_eq_of_plain_eq hstart hp hplain)
      (Address.ofText_eq_of_plain_eq hstop hq hplain')

/-- The last column with three letters and the first one with four, by a code that ends between
them, and the same two columns from the other diagonal. -/
theorem rangeIds_exact_four_letters :
    let rows : List (List Text) := [["ZZZ1", "AAAA1"], ["ZZZ2", "AAAA2"]]
    Address.Written "aaaa01" ∧ Address.Written "ZZZ2" ∧ ColumnCode.short.Sound ∧
      ColumnCode.short.rangeIds "aaaa01" "ZZZ2" = .ok rows ∧ rangeIds "aaaa01" "ZZZ2" = .ok rows ∧
      Address.ofText "Aaaa2" = .ok (some ⟨"AAAA", 2⟩) ∧
      Address.ofText "zZz001" = .ok (some ⟨"ZZZ", 1⟩) ∧ rangeIds "Aaaa2" "zZz001" = .ok rows ∧
      (CellSource.ofCells fun _ => .ok .blank).range "aaaa01" "ZZZ2" ≠ .error .unresolvedRange := by
  intro rows
  have hwritten : Address.Written "aaaa01" ∧ Address.Written "ZZZ2" := by decide
  have hids : rangeIds "aaaa01" "ZZZ2" = .ok rows := by decide +kernel
  have hp : Address.ofText "Aaaa2" = .ok (some ⟨"AAAA", 2⟩) := by decide +kernel
  have hq : Address.ofText "zZz001" = .ok (some ⟨"ZZZ", 1⟩) := by decide +kernel
  obtain ⟨-, hrange, hcode, hgrid⟩ := rangeIds_exact "aaaa01" "ZZZ2"
  obtain ⟨a, b, rows', ha, hb, hrows, -, -, -, hdiagonal, -⟩ := hgrid hwritten
  obtain rfl := Except.ok.inj (hids.symm.trans hrows)
  have hstart : Address.ofText "aaaa01" = .ok (some ⟨"AAAA", 1⟩) := by decide +kernel
  have hstop : Address.ofText "ZZZ2" = .ok (some ⟨"ZZZ", 2⟩) := by decide +kernel
  obtain rfl := Option.some.inj (Except.ok.inj (ha.symm.trans hstart))
  obtain rfl := Option.some.inj (Except.ok.inj (hb.symm.trans hstop))
  have hblank : ∀ id : Text, (.ok .blank : Except Failure Value) ≠ .error .unresolvedRange := by
    simp
  refine ⟨hwritten.1, hwritten.2, ColumnCode.short_sound, ?_, hids, hp, hq, hdiagonal _ _ hp hq, ?_⟩
  · rw [hcode _ ColumnCode.short_sound, hids]
  · exact fun hfailed => (hrange _ hblank).1 hfailed hwritten

end CellCalc

import CellCalc.Proofs.EditHistory
import CellCalc.Proofs.Rectangles

/-!
# SheetReadings — ids and ranges over a sheet

A sheet counts columns and rows from zero and may have several cells at a position, or cells left of
and above the first one; an id counts both from one. An id reads the last cell at the place it
stands for, however it is spelled, a range reads each place of its rectangle in the same way, and
the id of a position leads back there.

* `Sheet.Has` — what a sheet has at a position; `has_iff` — reading a position finds just that.
* `CellSource.readRange_of_ofText` — a range is read place by place.
* `Sheet.reads_places` — readings by id, by range, and by the id of a position.
-/

namespace CellCalc

/-! ## What a sheet has at a position -/

namespace Sheet

/-- What a sheet has at a position: the text of the last cell there, where an empty text is a blank,
and a blank without any cell. -/
inductive Has (s : Sheet) (p : Position) : Value → Prop
  | lastCell {before after : List SheetCell} {text : Text} :
      s.cells = before ++ ⟨p, text⟩ :: after → (∀ cell ∈ after, cell.position ≠ p) →
        Has s p (.ofEntry (some text))
  | noCell : (∀ cell ∈ s.cells, cell.position ≠ p) → Has s p .blank

theorem exists_has (cells : List SheetCell) (p : Position) : ∃ v, Has ⟨cells⟩ p v := by
  induction cells with
  | nil => exact ⟨_, .noCell (by simp)⟩
  | cons first rest ih =>
      obtain ⟨v, hv⟩ := ih
      cases hv with
      | @lastCell before after text hrest hafter =>
          have hcells : first :: rest = (first :: before) ++ ⟨p, text⟩ :: after :=
            congrArg (first :: ·) hrest
          exact ⟨_, .lastCell hcells hafter⟩
      | noCell hnone =>
          by_cases hfirst : first.position = p
          · have hcells : first :: rest = [] ++ ⟨p, first.text⟩ :: rest := by
              rw [← hfirst, List.nil_append]
            exact ⟨_, .lastCell hcells hnone⟩
          · exact ⟨_, .noCell (List.forall_mem_cons.2 ⟨hfirst, hnone⟩)⟩

theorem Has.valueAt_eq {s : Sheet} {p : Position} {v : Value} (h : s.Has p v) :
    s.valueAt p = v := by
  cases h with
  | @lastCell before after text hcells hafter =>
      have hvalues : s.valuesAt p = valuesAt ⟨before⟩ p ++ [text] := by
        have hnone := valuesAt_of_noText hafter
        rw [valuesAt] at hnone ⊢
        simp [hcells, valuesAt, hnone]
      rw [valueAt_eq_ofEntry, textAt?, hvalues, List.getLast?_concat]
  | noCell hnone => exact valueAt_of_noText hnone

/-- Reading a position finds what the sheet has there, and nothing else. -/
theorem has_iff {s : Sheet} {p : Position} {v : Value} : s.Has p v ↔ s.valueAt p = v := by
  refine ⟨Has.valueAt_eq, ?_⟩
  rintro rfl
  obtain ⟨v, hv⟩ := exists_has s.cells p
  rwa [Has.valueAt_eq hv]

end Sheet

/-! ## Ranges place by place -/

theorem CellSource.readRange_of_ofText {cell : Text → Except Failure Value} {f : Nat → Nat → Value}
    {start stop : Text} {a b : Address} (hstart : Address.ofText start = .ok (some a))
    (hstop : Address.ofText stop = .ok (some b))
    (h : ∀ row ∈ (Rectangle.mk a b).rows, ∀ column ∈ (Rectangle.mk a b).columns,
      cell (Address.text column row) = .ok (f column row)) :
    readRange cell start stop = .ok ((Rectangle.mk a b).rows.map fun row =>
      (Rectangle.mk a b).columns.map fun column => f column row) := by
  rw [readRange, rangeIds_of_ofText hstart hstop]
  dsimp only [Rectangle.ids]
  rw [List.mapM_map]
  refine mapM_eq_ok_map fun row hrow => ?_
  rw [Function.comp_apply, List.mapM_map]
  exact mapM_eq_ok_map fun column hcolumn => h row hrow column hcolumn

namespace Sheet

theorem range_of_ofText (s : Sheet) {start stop : Text} {a b : Address}
    (hstart : Address.ofText start = .ok (some a)) (hstop : Address.ofText stop = .ok (some b)) :
    ∃ grid, s.source.range start stop = .ok grid ∧
      (Rectangle.mk a b).Grid (fun column row v => s.Has ⟨column - 1, row - 1⟩ v) grid := by
  let value (column row : Nat) : Value := s.valueAt ⟨column - 1, row - 1⟩
  refine ⟨_, CellSource.readRange_of_ofText (f := value) hstart hstop ?_, ?_⟩
  · intro row hrow column hcolumn
    have hnames := Rectangle.names_of_mem hstart hstop hrow hcolumn
    obtain ⟨place, hplace, rfl, rfl⟩ := hnames.place
    exact get_of_address hplace s
  · exact Rectangle.grid_map fun _ _ _ _ => has_iff.2 rfl

theorem range_self (s : Sheet) {id : Text} {a : Address} (ha : Address.ofText id = .ok (some a)) :
    s.source.range id id = .ok [[s.valueAt (.ofAddress a)]] := by
  obtain ⟨hid, hshort⟩ := Address.written_iff.2 ⟨a, ha⟩
  exact CellSource.readRange_self s.get hid hshort (get_of_address (Address.ofText_plain ha) s)

/-! ## All of it -/

/-- Letters followed by digits, not more than are read, find what the sheet has at the place one
column and one row before the numbers they stand for; a text of any other form finds a blank. A
range finds what the sheet has at each place of the rectangle between its corners, and the range
from a cell to itself the value of the cell. The id of a position that is right of and below the
first cell finds what the sheet has at that position. -/
theorem reads_places (s : Sheet) :
    (∀ label digits : Text, label ≠ [] → digits ≠ [] → (∀ c ∈ label, c.isAlpha = true) →
      (∀ c ∈ digits, c.isDigit = true) → digits.length ≤ Numeral.digitLimit →
        ∃ v, s.source.cell (label ++ digits) = .ok v ∧
          s.Has ⟨Column.ordinal (Text.upper label) - 1, Decimal.digitsValue digits - 1⟩ v) ∧
    (∀ id, isCellId id = false → s.source.cell id = .ok .blank) ∧
    (∀ start stop, Address.Written start → Address.Written stop → ∃ a b grid,
      Address.ofText start = .ok (some a) ∧ Address.ofText stop = .ok (some b) ∧
      s.source.range start stop = .ok grid ∧
      (Rectangle.mk a b).Grid (fun column row v => s.Has ⟨column - 1, row - 1⟩ v) grid) ∧
    (∀ id, Address.Written id → ∃ v, s.source.cell id = .ok v ∧
      s.source.range id id = .ok [[v]]) ∧
    (∀ p : Position, 0 ≤ p.column → 0 ≤ p.row → Numeral.Writable (p.row + 1) →
      ∃ id v, p.id = .ok id ∧ s.source.cell id = .ok v ∧ s.Has p v) := by
  refine ⟨?_, fun id hid => get_of_malformed hid s, ?_, ?_, ?_⟩
  · intro label digits hlabel hdigits halpha hdigit hshort
    have hread := Address.ofText_append hlabel hdigits halpha hdigit hshort
    exact ⟨_, get_of_address hread s, has_iff.2 rfl⟩
  · intro start stop hwritten hwritten'
    obtain ⟨a, hstart⟩ := Address.written_iff.1 hwritten
    obtain ⟨b, hstop⟩ := Address.written_iff.1 hwritten'
    obtain ⟨grid, hgrid, hhas⟩ := s.range_of_ofText hstart hstop
    exact ⟨a, b, grid, hstart, hstop, hgrid, hhas⟩
  · intro id hwritten
    obtain ⟨a, ha⟩ := Address.written_iff.1 hwritten
    exact ⟨_, get_of_address ha s, s.range_self ha⟩
  · intro p hcolumn hrow hshort
    obtain ⟨id, hid, hvalue⟩ := (s.reads_valueAt p).byOwnId hcolumn hrow hshort
    exact ⟨id, _, hid, hvalue, has_iff.2 rfl⟩

/-- Two cells at one position, a cell emptied later, and a cell above the first row, which has an
id but is not the position of one. -/
theorem reads_places_above_first_row :
    let s : Sheet := ⟨[⟨⟨1, 0⟩, "a"⟩, ⟨⟨26, 0⟩, "x"⟩, ⟨⟨1, 0⟩, "b"⟩, ⟨⟨26, 0⟩, ""⟩, ⟨⟨26, -1⟩, "up"⟩]⟩
    (∃ v, s.source.cell ("b".toList ++ "01".toList) = .ok v ∧
      s.Has ⟨Column.ordinal (Text.upper "b") - 1, Decimal.digitsValue "01" - 1⟩ v) ∧
    isCellId "1b" = false ∧ s.source.cell "1b" = .ok .blank ∧
    Address.Written "aa0" ∧ Address.Written "AA001" ∧
    s.source.range "aa0" "AA001" = .ok [[.text "up"], [.blank]] ∧
    (∃ r : Rectangle, r.Grid (fun column row v => s.Has ⟨column - 1, row - 1⟩ v)
      [[.text "up"], [.blank]]) ∧
    s.source.range "aa0" "aa0" = .ok [[.text "up"]] ∧
    Numeral.Writable (0 + 1) ∧ ∃ id v, Position.id ⟨1, 0⟩ = .ok id ∧ s.source.cell id = .ok v ∧
      s.Has ⟨1, 0⟩ v := by
  intro s
  obtain ⟨hcell, hmalformed, hrange, hself, hown⟩ := reads_places s
  have hwritten : Address.Written "aa0" ∧ Address.Written "AA001" := by decide
  have hid : isCellId "1b" = false := by decide
  have hletter : ∀ c ∈ "b".toList, c.isAlpha = true := List.all_eq_true.1 rfl
  have hdigit : ∀ c ∈ "01".toList, c.isDigit = true := List.all_eq_true.1 rfl
  have hread : s.source.range "aa0" "AA001" = .ok [[.text "up"], [.blank]] := by decide +kernel
  have hvalue : s.source.cell "aa0" = .ok (.text "up") := by decide +kernel
  obtain ⟨a, b, grid, -, -, hgrid, hhas⟩ := hrange _ _ hwritten.1 hwritten.2
  obtain rfl := Except.ok.inj (hread.symm.trans hgrid)
  obtain ⟨v, hv, hone⟩ := hself _ hwritten.1
  obtain rfl := Except.ok.inj (hvalue.symm.trans hv)
  exact ⟨hcell "b" "01" (by decide) (by decide) hletter hdigit (by decide), hid,
    hmalformed _ hid, hwritten.1, hwritten.2, hread, ⟨_, hhas⟩, hone, by decide,
    hown ⟨1, 0⟩ (by decide) (by decide) (by decide)⟩

end Sheet
end CellCalc

import CellCalc.Cell.Area
import CellCalc.Source.Worksheet
import CellCalc.Value.Display

/-!
# FilledCells — worksheets put together from entries

A worksheet that is read in a run is put together from the entries of its cells, each under a
reference. The checks are those of a workbook: rows end at 1048576, a text keeps its first 32767
characters, and a reference has to name a single cell. Areas, drafts and checks only build
worksheets for runs, and all that is stated is that the worksheet is sound and holds nothing but its
entries. What is read from it follows from the laws for the worksheets of every host.

* `Draft` — an entry as it is handed over; `Draft.entry` checks its parts.
* `Entry.stored` — the entry as it is kept.
* `FilledCells.put` — the cells with an entry under a reference.
* `FilledCells.worksheet` — the worksheet with these cells; `worksheet_sound` and `mem_of_cell` are
  its laws.
-/

namespace CellCalc

/-! ## Entries that are handed over -/

namespace Entry

/-- The most characters of a stored text. -/
def textLimit : Nat := 32767

/-- A control character that no stored text may have: any but a tab and the two line breaks. -/
def isForbidden (c : Char) : Bool :=
  decide (c.toNat < 32) && !(c == '\t' || c == '\n' || c == '\r')

/-- The entry as it is stored. -/
def stored : Entry → Except Failure Entry
  | plain (.text t) =>
      let kept := t.take textLimit
      if kept.any isForbidden then .error (.controlCharacter kept) else .ok (plain (.text kept))
  | plain (.list items) => do
      let shown ← Value.display (.list items)
      throw (.notStorable shown)
  | e => .ok e

end Entry

/-- An entry as it is handed over, its parts not yet checked. -/
inductive Draft
  | value (v : Value)
  | decimal (written : Text)
  | moment (year month day hour minute second microsecond : Int)
  | date (year month day : Int)
  | time (hour minute second microsecond : Int)
  | duration (days seconds microseconds : Int)
  deriving DecidableEq, Repr

/-- The entry that was handed over, if its parts are in order. -/
def Draft.entry : Draft → Except Failure Entry
  | value v => .ok (.plain v)
  | decimal written => Entry.decimal <$> StoredDecimal.ofText written
  | moment year month day hour minute second microsecond => do
      let d ← Date.ofParts year month day
      let c ← Clock.ofParts hour minute second microsecond
      return .moment d c
  | date year month day => Entry.date <$> Date.ofParts year month day
  | time hour minute second microsecond =>
      Entry.time <$> Clock.ofParts hour minute second microsecond
  | duration days seconds microseconds =>
      Entry.duration <$> Duration.ofParts days seconds microseconds

/-! ## Cells -/

/-- The cells that hold something, by column and row, the latest first. -/
structure FilledCells where
  entries : List ((Nat × Nat) × Entry)
  deriving DecidableEq, Repr

namespace FilledCells

/-- The last row. -/
def lastRow : Nat := 1048576

/-- There is a row of this number. -/
def hasRow (row : Nat) : Bool :=
  decide (1 ≤ row) && decide (row ≤ lastRow)

/-- No cells that hold anything. -/
def empty : FilledCells := ⟨[]⟩

/-- The column and row of the single cell that an area has to be. Rows of a larger area are looked
at one after the other, so that the first one that does not exist is reported. -/
def target (reference : Text) (area : Area) : Except Failure (Nat × Nat) := do
  match area.columns, ← area.rows, area.last? with
  | none, none, _ | none, some (0, 0), _ => throw (.emptyReference reference)
  | some (column, _), some (row, _), none =>
      if hasRow row then return (column, row) else throw (.noSuchRow row)
  | columns, some (first, last), _ =>
      let beyond := max first (lastRow + 1)
      let someColumn := columns.all fun (a, b) => decide (a ≤ b)
      if someColumn ∧ beyond ≤ last then throw (.noSuchRow beyond) else throw .notOneCell
  | _, none, _ => throw .notOneCell

/-- The cells with an entry under a reference. -/
def put (cells : FilledCells) (reference : Text) (e : Entry) : Except Failure FilledCells := do
  match Area.ofText? reference with
  | some area =>
      let place ← target reference area
      let kept ← e.stored
      return ⟨(place, kept) :: cells.entries⟩
  | none => throw (.malformedReference reference)

/-- The worksheet with these cells. -/
def worksheet (cells : FilledCells) : Worksheet where
  lastRow := lastRow
  cell column row :=
    if hasRow row then .ok (cells.entries.lookup (column, row)) else .error (.noSuchRow row)

theorem worksheet_sound (cells : FilledCells) : cells.worksheet.Sound where
  refused := by
    intro column row hbeyond
    have hnot : ¬row ≤ lastRow := Nat.not_le.2 hbeyond
    exact ⟨.noSuchRow row, by simp [worksheet, hasRow, hnot]⟩
  kind := by
    intro column row cause hcell
    dsimp only [worksheet] at hcell
    split at hcell
    · cases hcell
    · obtain rfl := Except.error.inj hcell
      rfl

/-- What the worksheet holds is one of the entries. -/
theorem mem_of_cell {cells : FilledCells} {column row : Nat} {e : Entry}
    (h : cells.worksheet.cell column row = .ok (some e)) : ((column, row), e) ∈ cells.entries := by
  dsimp only [worksheet] at h
  split at h
  · obtain ⟨before, after, hentries, -⟩ := List.lookup_eq_some_iff.1 (Except.ok.inj h)
    simp [hentries]
  · cases h

end FilledCells

/-- The worksheet with these entries, checked and put under their references one after the other. -/
def Worksheet.ofList (cells : List (Text × Draft)) : Except Failure Worksheet :=
  FilledCells.worksheet <$>
    cells.foldlM (fun filled (reference, d) => do filled.put reference (← d.entry)) .empty

end CellCalc

import CellCalc.Source.Basic
import CellCalc.Source.Calendar
import CellCalc.Source.StoredDecimal

/-!
# Worksheets — cells of a workbook that a host keeps

A workbook holds more kinds of entries than formulas know values. A decimal is read as the nearest
double, dates, times and durations are read as text, and all else as it is. The worksheet itself
belongs to a host and is known by its answers alone. Its rows end somewhere, and a cell that it
refuses to look up is read as blank.

* `Entry` — what a cell of a worksheet holds; `Entry.read` is its value.
* `Worksheet` — a worksheet by its answers; `Worksheet.Sound` — what is known of them.
* `Worksheet.held` — what is held at an address; `held_of_beyond` and `Sound.exists_held` are
  its laws.
* `Worksheet.source` — the worksheet as a source of cells.
-/

namespace CellCalc

/-! ## Entries -/

/-- What a cell of a worksheet holds. -/
inductive Entry
  | plain (v : Value)
  | decimal (d : StoredDecimal)
  | moment (date : Date) (clock : Clock)
  | date (date : Date)
  | time (clock : Clock)
  | duration (d : Duration)
  deriving DecidableEq, Repr

/-- The value of an entry. -/
def Entry.read : Entry → Except Failure Value
  | plain v => .ok v
  | decimal d => (Value.number ∘ Number.double) <$> d.toDouble
  | moment d c => .ok (.text (d.text ++ ' ' :: c.text))
  | date d => .ok (.text d.text)
  | time c => .ok (.text c.text)
  | duration d => .ok (.text d.text)

/-! ## Worksheets -/

/-- A worksheet of a host, by its last row and by what it answers for a column and a row: what the
cell holds, if it holds anything, or why there is no such cell. -/
structure Worksheet where
  lastRow : Nat
  cell : Nat → Nat → Except Failure (Option Entry)

namespace Worksheet

/-- The worksheet refuses rows beyond its last one, and whatever it refuses is refused as a wrong
value. -/
structure Sound (w : Worksheet) : Prop where
  refused {column row : Nat} : w.lastRow < row → ∃ cause, w.cell column row = .error cause
  kind {column row : Nat} {cause : Failure} : w.cell column row = .error cause →
    cause.kind = .value

/-! ## Reading -/

/-- What is held at an address. Rows are counted from one, and a cell that is refused as a wrong
value holds nothing. -/
def held (w : Worksheet) (a : Address) : Except Failure (Option Entry) :=
  if a.row < 1 then .ok none
  else
    match w.cell a.columnNumber a.row with
    | .ok found => .ok found
    | .error cause => if cause.kind = .value then .ok none else .error cause

/-- The value of the cell with an id. -/
def get (w : Worksheet) (id : Text) : Except Failure Value := do
  match ← Address.ofText id with
  | some a =>
      let found ← w.held a
      found.elim (.ok .blank) Entry.read
  | none => return .blank

/-- The worksheet as a source of cells. -/
def source (w : Worksheet) : CellSource :=
  CellSource.ofCells w.get

/-! ## Laws of reading -/

variable {w : Worksheet} {a : Address}

/-- What is refused holds nothing. -/
theorem held_of_error {cause : Failure} (h : w.Sound)
    (hcell : w.cell a.columnNumber a.row = .error cause) : w.held a = .ok none := by
  simp [held, hcell, h.kind hcell]

theorem held_of_empty (h : w.cell a.columnNumber a.row = .ok none) : w.held a = .ok none := by
  simp [held, h]

/-- Nothing is held in a row that the worksheet does not have. -/
theorem held_of_beyond (h : w.Sound) (hrow : ¬(1 ≤ a.row ∧ a.row ≤ w.lastRow)) :
    w.held a = .ok none := by
  by_cases hfirst : a.row < 1
  · rw [held, if_pos hfirst]
  · have hbeyond : w.lastRow < a.row := by omega
    have hrefused : ∃ cause, w.cell a.columnNumber a.row = .error cause := h.refused hbeyond
    obtain ⟨cause, hcell⟩ := hrefused
    exact held_of_error h hcell

/-- An entry that is found is held in its cell. -/
theorem cell_of_held {e : Entry} (h : w.held a = .ok (some e)) :
    w.cell a.columnNumber a.row = .ok (some e) := by
  unfold held at h
  split at h
  · cases h
  · cases hcell : w.cell a.columnNumber a.row with
    | ok found =>
        rw [hcell] at h
        exact h
    | error cause =>
        rw [hcell] at h
        dsimp only at h
        split at h <;> cases h

/-- Looking up an address does not fail. -/
theorem Sound.exists_held (h : w.Sound) (a : Address) : ∃ found, w.held a = .ok found := by
  cases hcell : w.cell a.columnNumber a.row with
  | error cause => exact ⟨none, held_of_error h hcell⟩
  | ok found =>
      rw [held, hcell]
      split <;> exact ⟨_, rfl⟩

end Worksheet

end CellCalc

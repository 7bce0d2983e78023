import CellCalc.Source.Basic

/-!
# Sheets — cells held by position, and their edits

A sheet lists cells by column and row, both counted from zero, with the texts typed into them. A
position may occur more than once: an edit changes the first cell there that no earlier edit of the
same batch has changed, and reading takes the last one.

* `Sheet.edit` — the sheet after a batch of edits.
* `Sheet.textAt?`, `Sheet.valuesAt` — the text that counts at a position, and all texts there.
* `Sheet.source` — the sheet as a source of cells.
-/

namespace CellCalc

/-- A place on a sheet: column and row, counted from zero. -/
structure Position where
  column : Int
  row : Int
  deriving DecidableEq, Repr

namespace Position

/-- The id of the cell at a position. -/
def id (p : Position) : Except Failure Text :=
  cellId (.byNumber (p.column + 1)) (p.row + 1)

/-- The position of an address. -/
def ofAddress (a : Address) : Position :=
  ⟨a.columnNumber - 1, a.row - 1⟩

end Position

/-- A cell of a sheet with the text typed into it. -/
structure SheetCell where
  position : Position
  text : Text
  deriving DecidableEq, Repr

/-- An edit of a cell, from one text to another. -/
structure Change where
  position : Position
  before : Text
  after : Text
  deriving DecidableEq, Repr

namespace Change

/-- The change is about this cell. -/
def touches (change : Change) (cell : SheetCell) : Bool :=
  change.position == cell.position

/-- The cell that a change leaves at a position where there was none. -/
def newCell (change : Change) : SheetCell :=
  ⟨change.position, change.after⟩

end Change

/-- The cells of a sheet, in the order in which they were entered. -/
structure Sheet where
  cells : List SheetCell
  deriving DecidableEq, Repr

namespace Sheet

/-! ## Editing -/

/-- Cells after the changes still pending: each cell takes the first change about it, and the
changes that no cell takes become cells at the end. -/
def editCells : List SheetCell → List Change → List SheetCell
  | [], pending => pending.map Change.newCell
  | cell :: rest, pending =>
      match pending.find? (·.touches cell) with
      | some change =>
          { cell with text := change.after } :: editCells rest (pending.eraseP (·.touches cell))
      | none => cell :: editCells rest pending

/-- The sheet after a batch of edits. -/
def edit (s : Sheet) (changes : List Change) : Sheet :=
  ⟨editCells s.cells changes⟩

/-- The sheets after each of several batches, every one applied to the sheet before it. -/
def history (s : Sheet) : List (List Change) → List Sheet
  | [] => []
  | batch :: rest => s.edit batch :: history (s.edit batch) rest

/-! ## Reading -/

/-- The texts at a position, in order. -/
def valuesAt (s : Sheet) (p : Position) : List Text :=
  (s.cells.filter (·.position == p)).map (·.text)

@[simp] theorem valuesAt_cons (cell : SheetCell) (cells : List SheetCell) (p : Position) :
    valuesAt ⟨cell :: cells⟩ p =
      if cell.position = p then cell.text :: valuesAt ⟨cells⟩ p else valuesAt ⟨cells⟩ p := by
  by_cases h : cell.position = p <;> simp [valuesAt, h]

/-- The text that counts at a position: the last one there. -/
def textAt? (s : Sheet) (p : Position) : Option Text :=
  (s.valuesAt p).getLast?

/-- The value at a position. An empty text is a blank. -/
def valueAt (s : Sheet) (p : Position) : Value :=
  match s.textAt? p with
  | some (c :: t) => .text (c :: t)
  | _ => .blank

/-- The value of the cell with an id. -/
def get (s : Sheet) (id : Text) : Except Failure Value := do
  match ← Address.ofText id with
  | some a => return s.valueAt (.ofAddress a)
  | none => return .blank

theorem get_of_address {id : Text} {a : Address} (h : Address.ofText id = .ok (some a))
    (s : Sheet) : s.get id = .ok (s.valueAt (.ofAddress a)) := by
  rw [get, h]
  rfl

/-- The sheet as a source of cells. -/
def source (s : Sheet) : CellSource :=
  CellSource.ofCells s.get

end Sheet

end CellCalc

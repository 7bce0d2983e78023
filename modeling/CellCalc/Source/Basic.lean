import CellCalc.Cell.Rectangle
import CellCalc.Value.Basic

/-!
# Sources — where expressions find the values of cells

* `CellSource` — reads single cells and ranges.
* `CellSource.ofCells` — the source that reads a range cell by cell.
-/

namespace CellCalc

/-- A source of cell values. -/
structure CellSource where
  /-- The value of a cell. -/
  cell : Text → Except Failure Value
  /-- The values of a range, row by row. -/
  range : Text → Text → Except Failure (List (List Value))

namespace CellSource

/-- The values of a range, read cell by cell, row by row. -/
def readRange (cell : Text → Except Failure Value) (start stop : Text) :
    Except Failure (List (List Value)) :=
  match rangeIds start stop with
  | .ok ids => ids.mapM fun row => row.mapM cell
  | .error _ => .error .unresolvedRange

/-- The source that reads single cells in this way, and ranges cell by cell. -/
def ofCells (cell : Text → Except Failure Value) : CellSource :=
  ⟨cell, readRange cell⟩

/-- A source whose every cell fails, with these words unless there are none. -/
def failing (message : Text) : CellSource :=
  ofCells fun _ => .error (.host (if message = [] then none else some message))

end CellSource

end CellCalc

import CellCalc.Source.Basic

/-!
# Tables — cells held by id

A table keeps values under ids in upper case, whatever the ids look like.

* `Table.set`, `Table.get` — writing and reading; `get_set` is their law.
* `Table.source` — the table as a source of cells.
-/

namespace CellCalc

/-- Values by upper-case id, the latest first. -/
structure Table where
  entries : List (Text × Value)
  deriving DecidableEq, Repr

namespace Table

/-- The table without values. -/
def empty : Table := ⟨[]⟩

/-- The table with a value under an id. -/
def set (t : Table) (id : Text) (v : Value) : Table :=
  ⟨(Text.upper id, v) :: t.entries⟩

/-- The table with these values, set one after the other. -/
def ofList (cells : List (Text × Value)) : Table :=
  cells.foldl (fun t (id, v) => t.set id v) empty

/-- The value under an id, blank where nothing was set. -/
def get (t : Table) (id : Text) : Value :=
  (t.entries.lookup (Text.upper id)).getD .blank

/-- The table as a source of cells. -/
def source (t : Table) : CellSource :=
  CellSource.ofCells fun id => .ok (t.get id)

/-- A value is read under every spelling of its id, and under no other id. -/
theorem get_set (t : Table) (id query : Text) (v : Value) :
    (t.set id v).get query = if Text.upper query = Text.upper id then v else t.get query := by
  by_cases h : Text.upper query = Text.upper id
  · simp [get, set, h]
  · have hne : (Text.upper query == Text.upper id) = false := by simpa using h
    simp [get, set, List.lookup_cons, hne, h]

end Table

end CellCalc

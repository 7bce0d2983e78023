import CellCalc.Cell.Address

/-!
# Rectangles — the cells between two corners

Any two opposite corners span a rectangle. Its cells are listed row by row, rows and columns in
increasing order.

* `between` — the numbers from one bound to another, given in either order.
* `Rectangle.ids` — the ids of the cells of a rectangle.
* `rangeIds` — the ids of the cells between two corners given by their ids; `rangeIds_eq_ok_iff` is
  its law.
-/

namespace CellCalc

/-- The numbers between two bounds, both included, in increasing order. -/
def between (a b : Nat) : List Nat :=
  List.range' (min a b) (max a b - min a b + 1)

theorem mem_between {a b n : Nat} : n ∈ between a b ↔ min a b ≤ n ∧ n ≤ max a b := by
  rw [between, List.mem_range'_1]
  omega

theorem length_between (a b : Nat) : (between a b).length = max a b - min a b + 1 := by
  simp [between]

/-- The order of the bounds does not matter. -/
theorem between_comm (a b : Nat) : between a b = between b a := by
  simp [between, Nat.min_comm, Nat.max_comm]

/-- A rectangle, by two opposite corners. -/
structure Rectangle where
  start : Address
  stop : Address
  deriving DecidableEq, Repr

namespace Rectangle

/-- The numbers of the rows. -/
def rows (r : Rectangle) : List Nat :=
  between r.start.row r.stop.row

/-- The numbers of the columns. -/
def columns (r : Rectangle) : List Nat :=
  between r.start.columnNumber r.stop.columnNumber

/-- The ids of the cells, row by row. -/
def ids (r : Rectangle) : List (List Text) :=
  r.rows.map fun row => r.columns.map fun column => Address.text column row

end Rectangle

/-- The ids of the cells between two corners, row by row. -/
def rangeIds (start stop : Text) : Except Failure (List (List Text)) := do
  let first ← Address.ofText start
  let last ← Address.ofText stop
  match first, last with
  | some a, some b => return (Rectangle.mk a b).ids
  | _, _ => throw (.malformedRange start stop)

theorem rangeIds_eq_ok_iff {start stop : Text} {rows : List (List Text)} :
    rangeIds start stop = .ok rows ↔
      ∃ a b, Address.ofText start = .ok (some a) ∧ Address.ofText stop = .ok (some b) ∧
        rows = (Rectangle.mk a b).ids := by
  unfold rangeIds
  constructor
  · intro h
    cases hstart : Address.ofText start with
    | error cause =>
        rw [hstart] at h
        cases h
    | ok first =>
        cases hstop : Address.ofText stop with
        | error cause =>
            rw [hstart, hstop] at h
            cases h
        | ok last =>
            rw [hstart, hstop] at h
            match first, last with
            | some a, some b => exact ⟨a, b, rfl, rfl, (Except.ok.inj h).symm⟩
            | some _, none | none, _ => cases h
  · rintro ⟨a, b, hstart, hstop, rfl⟩
    rw [hstart, hstop]
    rfl

end CellCalc

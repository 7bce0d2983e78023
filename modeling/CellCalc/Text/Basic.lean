/-!
# Text — what formulas and cells are written in

A text is the sequence of its code points, so lengths and positions count code points. Tables of
code points, which several character classes need, are lists of closed ranges.

* `Text` — a list of characters; a literal in quotes may stand for one.
* `CodeRange.covers` — membership in a table of ranges.
* `Text.commaSeparated` — a list of texts as one.
-/

namespace CellCalc

/-- Text, one entry per code point. -/
abbrev Text := List Char

instance : Coe String Text := ⟨String.toList⟩

/-- The code points from `first` to `last`, both included. -/
structure CodeRange where
  first : Nat
  last : Nat
  deriving DecidableEq, Repr

namespace CodeRange

/-- The code point lies in the range. -/
def contains (r : CodeRange) (code : Nat) : Bool :=
  decide (r.first ≤ code) && decide (code ≤ r.last)

/-- The code point lies in one of the ranges of a table. -/
def covers (table : List CodeRange) (code : Nat) : Bool :=
  table.any (·.contains code)

theorem covers_iff {table : List CodeRange} {code : Nat} :
    covers table code = true ↔ ∃ r ∈ table, r.first ≤ code ∧ code ≤ r.last := by
  simp [covers, contains, List.any_eq_true]

end CodeRange

namespace Text

/-- Texts one after the other with a comma and a space between them. -/
def commaSeparated : List Text → Text
  | [] => []
  | [t] => t
  | t :: rest => t ++ ',' :: ' ' :: commaSeparated rest

end Text

end CellCalc

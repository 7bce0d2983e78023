import CellCalc.Cell.Column
import CellCalc.Text.Letter

/-!
# Areas — references to parts of a worksheet

A reference names a cell, a whole column or a whole row, or with a colon everything between two of
one kind. Its column labels have at most three ASCII letters, its row numbers have digits of any
script, and a `$` may stand before each of them. A line break may end it. References only serve to
build worksheets for runs, so no law is stated of them.

* `Corner` — one end of an area as it is written.
* `Area.ofText?` — the area that a reference names.
* `Area.columns`, `Area.rows` — its first and last column, and its first and last row.
-/

namespace CellCalc

/-- One end of an area as it is written: a column label and a row number, each of which may be
missing. -/
structure Corner where
  label : Text
  digits : Text
  deriving DecidableEq, Repr

namespace Corner

/-- The most letters of a column label. -/
def labelLimit : Nat := 3

/-- A text without the mark in front of it, if there is one. -/
def dropMark : Text → Text
  | '$' :: rest => rest
  | t => t

/-- The corner at the front of a text, and the rest. -/
def scan (t : Text) : Corner × Text :=
  let atLabel := dropMark t
  let label := (atLabel.take labelLimit).takeWhile Char.isAlpha
  let atDigits := dropMark (atLabel.drop label.length)
  let isDigit := fun c => (Text.decimalDigit? c).isSome
  (⟨label, atDigits.takeWhile isDigit⟩, atDigits.dropWhile isDigit)

/-- The number of the column, if there is one. -/
def column? (c : Corner) : Option Nat :=
  if c.label = [] then none else some (Column.ordinal (Text.upper c.label))

/-- The number of the row, if there is one. -/
def row? (c : Corner) : Except Failure (Option Nat) :=
  if c.digits = [] then .ok none
  else if Numeral.digitLimit < c.digits.length then .error (.tooManyDigits c.digits.length)
  else .ok (some (Decimal.digitsValue (c.digits.map Numeral.plainChar)))

/-- Both corners have a column or neither, and both a row or neither, and they have something. -/
def matching (c d : Corner) : Bool :=
  c.label.isEmpty == d.label.isEmpty && c.digits.isEmpty == d.digits.isEmpty
    && !(c.label.isEmpty && c.digits.isEmpty)

end Corner

/-- An area, by one corner or by two. -/
structure Area where
  first : Corner
  last? : Option Corner
  deriving DecidableEq, Repr

namespace Area

/-- What may follow a reference: nothing, or a line break. -/
def isEnd (t : Text) : Bool :=
  t.isEmpty || t == ['\n']

/-- The area that a reference names, if it is written as one. -/
def ofText? (t : Text) : Option Area :=
  match Corner.scan t with
  | (first, ':' :: rest) =>
      let (last, after) := Corner.scan rest
      if isEnd after && first.matching last then some ⟨first, some last⟩ else none
  | (first, after) => if isEnd after then some ⟨first, none⟩ else none

/-- The numbers of the first and the last column, unless the area has whole rows. -/
def columns (a : Area) : Option (Nat × Nat) := do
  let first ← a.first.column?
  return (first, (a.last?.bind Corner.column?).getD first)

/-- The numbers of the first and the last row, unless the area has whole columns. -/
def rows (a : Area) : Except Failure (Option (Nat × Nat)) := do
  let first ← a.first.row?
  let last ← (a.last?.getD a.first).row?
  match first, last with
  | some f, some l => return some (f, l)
  | _, _ => return none

end Area

end CellCalc

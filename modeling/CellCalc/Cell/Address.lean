import CellCalc.Cell.Column

/-!
# Addresses — the ids of cells

A cell id is written as a column label and a row number: ASCII letters in either case, then ASCII
digits. A row number may have leading zeros, but not more than 4300 digits.

* `isCellId` — the written form of an id.
* `Address.ofText` — the column label, in upper case, and the row of an id.
* `Address.text` — the id in its plain form: upper case, no leading zeros.
* `cellId` — the id of a column and a row that may be out of bounds.
-/

namespace CellCalc

/-- The text is written as a cell id: ASCII letters, then ASCII digits, neither empty. -/
def isCellId (t : Text) : Bool :=
  !(t.takeWhile Char.isAlpha).isEmpty && !(t.dropWhile Char.isAlpha).isEmpty
    && (t.dropWhile Char.isAlpha).all Char.isDigit

/-- The place of a cell: the label of its column and the number of its row. -/
structure Address where
  column : Text
  row : Nat
  deriving DecidableEq, Repr

namespace Address

/-- The address that an id stands for, if the text is written as one. -/
def ofText (id : Text) : Except Failure (Option Address) :=
  let column := id.takeWhile Char.isAlpha
  let digits := id.dropWhile Char.isAlpha
  if !isCellId id then .ok none
  else if Numeral.digitLimit < digits.length then .error (.tooManyDigits digits.length)
  else .ok (some ⟨Text.upper column, Decimal.digitsValue digits⟩)

/-- The number of the column. -/
def columnNumber (a : Address) : Nat :=
  Column.ordinal a.column

/-- The id of a column number and a row, in its plain form. -/
def text (column row : Nat) : Text :=
  Column.letters column ++ Nat.toDigits 10 row

end Address

/-- The id of the cell in a column and a row, neither of which needs to be within bounds. -/
def cellId (column : Column) (row : Int) : Except Failure Text := do
  let label ← column.toLabel
  let digits ← Numeral.writeInteger row
  return label ++ digits

end CellCalc

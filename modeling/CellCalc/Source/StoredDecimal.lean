import CellCalc.Number.Numeral

/-!
# Stored decimals — the decimals of a workbook

A workbook keeps decimals exactly, among them infinities and two kinds of NaN. A decimal is read
from decimal notation with digits of any script, in which underscores do not count, or from a word.
Its exponent is bounded, so that the first digit and the last one both stay within reach.

* `StoredDecimal` — the decimals.
* `StoredDecimal.ofText` — the decimal that a text denotes.
* `StoredDecimal.toDouble` — the nearest double.
-/

namespace CellCalc

/-- A decimal of a workbook, or one of the special ones. -/
inductive StoredDecimal
  | finite (d : Decimal)
  | infinite (negative : Bool)
  | quietNaN
  | signalingNaN
  deriving DecidableEq, Repr

namespace StoredDecimal

/-! ## Bounds -/

/-- The greatest exponent of a first digit. -/
def highestExponent : Int := 999999999999999999

/-- The least exponent of a last digit. -/
def lowestExponent : Int := -1999999999999999997

/-- The exponent of the first digit that counts; a zero has the exponent it is written with. -/
def leadingExponent (d : Decimal) : Int :=
  if d.coefficient = 0 then d.exponent
  else d.exponent + (Nat.toDigits 10 d.coefficient).length - 1

/-- The decimal lies within the bounds of a workbook. -/
def inBounds (d : Decimal) : Bool :=
  decide (lowestExponent ≤ d.exponent) && decide (leadingExponent d ≤ highestExponent)

/-! ## Reading -/

/-- The words that stand for an infinite decimal, in lower case. -/
def infinityWords : List Text := ["inf", "infinity"]

/-- A text without the blanks around it and without underscores, in ASCII digits. -/
def plain (t : Text) : Text :=
  Numeral.dropSeparators ((Text.trim t).map Numeral.plainChar)

/-- The decimal that a text denotes. The case of a word does not matter, and digits may follow
`nan`. -/
def ofText (t : Text) : Except Failure StoredDecimal :=
  let (negative, unsigned) := Decimal.sign (plain t)
  let word := unsigned.map Char.toLower
  if infinityWords.contains word then .ok (.infinite negative)
  else if List.isPrefixOf "nan".toList word && (word.drop 3).all Char.isDigit then .ok .quietNaN
  else if List.isPrefixOf "snan".toList word && (word.drop 4).all Char.isDigit then
    .ok .signalingNaN
  else
    match Decimal.scan negative unsigned with
    | some (d, []) => if inBounds d then .ok (.finite d) else .error .decimalOutOfBounds
    | _ => .error .malformedDecimal

/-! ## Doubles -/

/-- The nearest double. -/
def toDouble : StoredDecimal → Except Failure Double
  | finite d => .ok d.toDouble
  | infinite negative => .ok (Double.infinite negative)
  | quietNaN => .ok Double.nan
  | signalingNaN => .error .signalingNaN

end StoredDecimal

end CellCalc

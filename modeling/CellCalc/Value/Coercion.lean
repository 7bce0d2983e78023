import CellCalc.Value.Display

/-!
# Coercion — values where numbers or truth values are needed

A blank counts as zero, a truth value as one or zero, and a text by the number at its front. A list
has no number. As a condition, zero, what is not a number, and everything empty count as false.

* `leadingNumber?` — the longest number at the front of a text.
* `Value.toNumber` — the number of a value.
* `Value.numbers` — the numbers of the values that have one.
* `Value.truthy` — the truth of a value.
-/

namespace CellCalc

/-! ## Numbers at the front of a text -/

/-- The word for an infinity. -/
def infinityWord : Text := "Infinity"

/-- The longest number at the front of a text: a sign, then the word for an infinity or decimal
notation. Blanks may stand before it and anything after it. -/
def leadingNumber? (t : Text) : Option Double :=
  let (negative, unsigned) := Decimal.sign (Text.dropBlanks t)
  if infinityWord.isPrefixOf unsigned then some (Double.infinite negative)
  else (Decimal.scan negative unsigned).map (·.1.toDouble)

/-- The number at the front of a text, which has to have one. -/
def readLeadingNumber (t : Text) : Except Failure Double :=
  (leadingNumber? t).elim (.error (.notNumericText t)) .ok

namespace Value

/-! ## Numbers -/

/-- The number of a value. The value is shown in the failure, so one that cannot be shown fails
for that reason. -/
def toNumber : Value → Except Failure Number
  | blank => .ok Number.zero
  | bool b => .ok (.int (if b then 1 else 0))
  | number n => .ok n
  | text [] => .ok Number.zero
  | text t => Number.double <$> readLeadingNumber t
  | list items => do
      let shown ← display (list items)
      throw (.notNumeric shown)

/-- The numbers of the values that have one. Any failure but a missing number stands. -/
def numbers : List Value → Except Failure (List Number)
  | [] => .ok []
  | v :: rest =>
      match v.toNumber with
      | .ok n => (n :: ·) <$> numbers rest
      | .error cause => if cause.kind = .coercion then numbers rest else .error cause

/-! ## Truth -/

/-- The truth of a value. -/
def truthy : Value → Bool
  | blank => false
  | bool b => b
  | number n => !n.isZero && !n.isNaN
  | text t => !t.isEmpty
  | list _ => true

end Value

end CellCalc

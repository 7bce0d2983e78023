import CellCalc.Double.Basic
import CellCalc.Text.Basic

/-!
# Decimals — decimal notation and the doubles it denotes

A decimal is a sign, a whole coefficient and a power of ten. Decimal notation is a run of digits
with at most one point and an optional exponent; at least one digit stands before the exponent.

* `Decimal` — the numbers of decimal notation.
* `Decimal.scan` — the longest notation at the front of a text, and what follows it.
* `Decimal.toDouble` — the nearest double.
-/

namespace CellCalc

/-- The number `± coefficient * 10 ^ exponent`. -/
structure Decimal where
  negative : Bool
  coefficient : Nat
  exponent : Int
  deriving DecidableEq, Repr

namespace Decimal

/-! ## The nearest double -/

/-- From this exponent on a coefficient other than zero is beyond the largest double. -/
def largeExponent : Nat := 310

/-- A coefficient of so many bits over ten to this power lies under half the least double. -/
def isTiny (coefficient exponent : Nat) : Bool :=
  Nat.log2 coefficient + 1077 < 3 * exponent

/-- The double nearest to a decimal, a half going to the even one. -/
def toDouble (d : Decimal) : Double :=
  if d.coefficient = 0 then Double.signedZero d.negative
  else
    match d.exponent with
    | .ofNat e =>
        if largeExponent ≤ e then Double.infinite d.negative
        else Double.ofUnits d.negative (d.coefficient * 10 ^ e * Double.unitsInOne) 1
    | .negSucc e =>
        if isTiny d.coefficient (e + 1) then Double.signedZero d.negative
        else Double.ofUnits d.negative (d.coefficient * Double.unitsInOne) (10 ^ (e + 1))

/-! ## Notation -/

/-- The digits at the front of a text, and the rest. -/
def digits (t : Text) : Text × Text :=
  (t.takeWhile Char.isDigit, t.dropWhile Char.isDigit)

/-- The value of a run of digits. -/
def digitsValue (t : Text) : Nat :=
  Nat.ofDigitChars 10 t 0

/-- A sign at the front of a text, and the rest. -/
def sign : Text → Bool × Text
  | '-' :: rest => (true, rest)
  | '+' :: rest => (false, rest)
  | t => (false, t)

/-- The digits after a point at the front of a text, and the rest. -/
def fraction : Text → Text × Text
  | '.' :: rest => digits rest
  | t => ([], t)

/-- The exponent at the front of a text, and the rest. An `e` that no digit follows, perhaps after
a sign, is no exponent. -/
def exponentPart (t : Text) : Int × Text :=
  match t with
  | [] => (0, t)
  | c :: rest =>
      let (negative, unsigned) := sign rest
      let (written, after) := digits unsigned
      if (c = 'e' ∨ c = 'E') ∧ written ≠ [] then
        (if negative then -(digitsValue written : Int) else (digitsValue written : Int), after)
      else (0, t)

/-- The longest unsigned decimal notation at the front of a text, and the rest. -/
def scan (negative : Bool) (t : Text) : Option (Decimal × Text) :=
  let (whole, afterWhole) := digits t
  let (part, afterPart) := fraction afterWhole
  if whole = [] ∧ part = [] then none
  else
    let (exponent, rest) := exponentPart afterPart
    some (⟨negative, digitsValue (whole ++ part), exponent - part.length⟩, rest)

end Decimal

end CellCalc

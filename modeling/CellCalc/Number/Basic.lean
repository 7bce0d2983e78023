import CellCalc.Double.Arithmetic
import CellCalc.Double.Shortest
import CellCalc.Number.Numeral

/-!
# Numbers — exact integers and doubles

A number is an integer of any size or a double. Integers add, subtract and multiply exactly; where
an integer meets a double it is first rounded to the nearest one; a quotient is always a double.

* `Number` — the numbers.
* `add`, `sub`, `mul`, `div` — arithmetic; it fails only where an integer or a quotient of integers
  lies beyond the largest double, and where the divisor is zero.
* `ofText`, `write` — numbers as literals.
-/

namespace CellCalc

/-- A number: an integer of any size, or a double. -/
inductive Number
  | int (n : Int)
  | double (x : Double)
  deriving DecidableEq, Repr

namespace Number

/-- The integer zero. -/
abbrev zero : Number := .int 0

/-! ## Arithmetic -/

/-- The double that stands for a number among doubles. -/
def toDouble : Number → Except Failure Double
  | int n => (Double.ofInt? n).elim (.error .integerBeyondDouble) .ok
  | double x => .ok x

/-- An operation that is exact on integers and rounds otherwise. -/
def combine (exact : Int → Int → Int) (rounded : Double → Double → Double) :
    Number → Number → Except Failure Number
  | int a, int b => .ok (int (exact a b))
  | a, b => do
      let x ← a.toDouble
      let y ← b.toDouble
      return double (rounded x y)

/-- The sum. -/
def add : Number → Number → Except Failure Number := combine (· + ·) Double.add

/-- The difference. -/
def sub : Number → Number → Except Failure Number := combine (· - ·) Double.sub

/-- The product. -/
def mul : Number → Number → Except Failure Number := combine (· * ·) Double.mul

/-- The quotient, a double even where the division comes out even. There is none by zero. -/
def div : Number → Number → Except Failure Number
  | int a, int b =>
      if b = 0 then .error .integerByZero
      else (Double.quotient? a b).elim (.error .quotientBeyondDouble) (.ok ∘ double)
  | a, b => do
      let x ← a.toDouble
      let y ← b.toDouble
      if y.isZero then throw .doubleByZero
      return double (x.div y)

/-- The integer zero or a zero double of either sign. -/
def isZero : Number → Bool
  | int n => n == 0
  | double x => x.isZero

/-- Not a number. -/
def isNaN : Number → Bool
  | int _ => false
  | double x => x.isNaN

/-! ## Notation -/

/-- The number that a literal denotes: a double if it has a point, else an integer. -/
def ofText (t : Text) : Except Failure Number :=
  if '.' ∈ t then double <$> Numeral.readDecimal t else int <$> Numeral.readInteger t

/-- A number as text. -/
def write : Number → Except Failure Text
  | int n => Numeral.writeInteger n
  | double x => .ok x.text

end Number

end CellCalc

import CellCalc.Double.Basic

/-!
# Arithmetic of doubles — the exact result, rounded once

Each operation takes the exact value of its operands and rounds the exact result to the nearest
double, a half going to the even one. Zero results and infinities follow the usual rules of signs.

* `add`, `sub`, `mul`, `div` — the four operations.
* `ofInt?` — the double nearest to an integer, unless that lies beyond the largest one.
* `quotient?` — the double nearest to a quotient of integers, under the same condition.
-/

namespace CellCalc
namespace Double

/-- The number with the other sign. -/
def neg : Double → Double
  | finite negative rank => finite (!negative) rank
  | infinite negative => infinite (!negative)
  | nan => nan

/-- The sum. A sum of zero is positive, unless both operands are negative zeros. -/
def add : Double → Double → Double
  | finite s a, finite t b =>
      let sum := signedUnits s a + signedUnits t b
      if sum = 0 then signedZero (s && t) else ofUnits (sum < 0) sum.natAbs 1
  | infinite s, infinite t => if s = t then infinite s else nan
  | infinite s, finite _ _ => infinite s
  | finite _ _, infinite t => infinite t
  | nan, _ | _, nan => nan

/-- The difference. -/
def sub (x y : Double) : Double :=
  add x (neg y)

/-- The product. Zero times an infinity is not a number. -/
def mul : Double → Double → Double
  | finite s a, finite t b => ofUnits (s != t) (units a * units b) unitsInOne
  | infinite s, infinite t => infinite (s != t)
  | infinite s, finite t b => if b.val = 0 then nan else infinite (s != t)
  | finite s a, infinite t => if a.val = 0 then nan else infinite (s != t)
  | nan, _ | _, nan => nan

/-- The quotient. Zero over zero and an infinity over an infinity are not a number. -/
def div : Double → Double → Double
  | finite s a, finite t b =>
      if b.val = 0 then (if a.val = 0 then nan else infinite (s != t))
      else ofUnits (s != t) (units a * unitsInOne) (units b)
  | infinite _, infinite _ => nan
  | infinite s, finite t _ => infinite (s != t)
  | finite s _, infinite t => signedZero (s != t)
  | nan, _ | _, nan => nan

/-- A finite double of a sign and a rank, `none` beyond the largest one. -/
def finite? (negative : Bool) (rank : Nat) : Option Double :=
  if h : rank < finiteRanks then some (finite negative ⟨rank, h⟩) else none

/-- The double nearest to an integer. -/
def ofInt? (n : Int) : Option Double :=
  finite? (n < 0) (nearestRank (n.natAbs * unitsInOne) 1)

/-- The double nearest to a quotient of integers. The sign of a zero is that of its operands. -/
def quotient? (a b : Int) : Option Double :=
  finite? (decide (a < 0) != decide (b < 0)) (nearestRank (a.natAbs * unitsInOne) b.natAbs)

end Double
end CellCalc

import CellCalc.Number.Basic

/-!
# Order of numbers — comparison by exact value

Numbers of both kinds are compared by their exact values, whatever their size. What is not a number
is neither less nor greater than anything.

* `Extent` — an exact value: a whole number of units, or beyond all of them.
* `Number.extent?` — the exact value of a number.
* `Number.lt` — the order.
-/

namespace CellCalc

/-- An exact value, in units of the least positive double. -/
inductive Extent
  | below
  | units (n : Int)
  | above
  deriving DecidableEq, Repr

/-- The order of exact values. -/
def Extent.lt : Extent → Extent → Bool
  | below, below => false
  | below, _ => true
  | units a, units b => a < b
  | units _, above => true
  | _, _ => false

/-- The exact value of a double. -/
def Double.extent? : Double → Option Extent
  | .finite negative rank => some (.units (signedUnits negative rank))
  | .infinite negative => some (if negative then .below else .above)
  | .nan => none

namespace Number

/-- The exact value of a number. -/
def extent? : Number → Option Extent
  | int n => some (.units (n * Double.unitsInOne))
  | double x => x.extent?

/-- One number is less than another. -/
def lt (a b : Number) : Bool :=
  match a.extent?, b.extent? with
  | some x, some y => x.lt y
  | _, _ => false

end Number

end CellCalc

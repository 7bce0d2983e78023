/-!
# Doubles — the floating-point numbers of formulas

A double is a sign and a magnitude, an infinity, or not a number. The finite magnitudes are
numbered upwards from zero: the *rank* of a magnitude is its place in that order. Every finite
magnitude is a whole number of *units*, the unit being the least positive one, 2^-1074, so exact
arithmetic on doubles is arithmetic on integers.

* `Double` — the numbers.
* `units` — the magnitude of a rank, in units.
* `nearestRank` — the rank nearest to a quotient of units; of two equally near ones the even one.
* `ofUnits` — the double nearest to a signed quotient of units; too large a one is infinite.
* `bits`, `ofBits` — the interchange format.
-/

namespace CellCalc

-- Powers of whole numbers are the plain ones, also next to a library that has powers of its own.
attribute [instance (1100), default_instance 10001] instPowNat

/-- The number of finite magnitudes. -/
abbrev finiteRanks : Nat := 2047 * 2 ^ 52

/-- A double-precision number. All that are not a number count as one. -/
inductive Double
  | finite (negative : Bool) (rank : Fin finiteRanks)
  | infinite (negative : Bool)
  | nan
  deriving DecidableEq, Repr

namespace Double

/-! ## Magnitudes -/

/-- Neighbouring magnitudes of this rank are `2 ^ spacing` units apart. -/
def spacing (rank : Nat) : Nat :=
  rank / 2 ^ 52 - 1

/-- The magnitude of a rank, in units. -/
def units (rank : Nat) : Nat :=
  (rank - spacing rank * 2 ^ 52) * 2 ^ spacing rank

/-- The units in one. -/
def unitsInOne : Nat := 2 ^ 1074

/-! ## Rounding -/

/-- The whole number nearest to a quotient, a half going to the even neighbour. -/
def roundHalfEven (num den : Nat) : Nat :=
  let whole := num / den
  let left := num % den
  if 2 * left < den then whole
  else if den < 2 * left then whole + 1
  else whole + whole % 2

/-- A whole quotient is not changed by rounding. -/
theorem roundHalfEven_mul {den : Nat} (n : Nat) (h : 0 < den) :
    roundHalfEven (n * den) den = n := by
  have hdiv : n * den / den = n := Nat.mul_div_cancel n h
  have hmod : n * den % den = 0 := Nat.mul_mod_left n den
  simp [roundHalfEven, hdiv, hmod, h]

/-- The rank whose magnitude is nearest to `num / den` units, a half going to the even rank. It
may lie beyond the finite ranks. -/
def nearestRank (num den : Nat) : Nat :=
  let width := Nat.log2 (num / den) - 52
  width * 2 ^ 52 + roundHalfEven num (den * 2 ^ width)

/-- The double of a sign and a rank. -/
def ofRank (negative : Bool) (rank : Nat) : Double :=
  if h : rank < finiteRanks then finite negative ⟨rank, h⟩ else infinite negative

/-- The double nearest to `num / den` units. -/
def ofUnits (negative : Bool) (num den : Nat) : Double :=
  ofRank negative (nearestRank num den)

/-! ## Particular values -/

/-- Zero, which keeps its sign. -/
def signedZero (negative : Bool) : Double :=
  finite negative ⟨0, by decide⟩

/-- Either zero. -/
def isZero : Double → Bool
  | finite _ rank => rank.val == 0
  | _ => false

/-- Not a number. -/
def isNaN : Double → Bool
  | nan => true
  | _ => false

/-- The sign bit; what is not a number shows none. -/
def isNegative : Double → Bool
  | finite negative _ | infinite negative => negative
  | nan => false

/-- The exact value of a finite double, in units. -/
def signedUnits (negative : Bool) (rank : Nat) : Int :=
  if negative then -(units rank : Int) else (units rank : Int)

/-! ## The interchange format -/

/-- The 64 bits: the sign, then the rank. -/
def bits : Double → Nat
  | finite negative rank => (if negative then 2 ^ 63 else 0) + rank.val
  | infinite negative => (if negative then 2 ^ 63 else 0) + finiteRanks
  | nan => finiteRanks + 2 ^ 51

/-- The double with these 64 bits. -/
def ofBits (bits : Nat) : Double :=
  if bits % 2 ^ 63 ≤ finiteRanks then ofRank (2 ^ 63 ≤ bits) (bits % 2 ^ 63) else nan

end Double

end CellCalc

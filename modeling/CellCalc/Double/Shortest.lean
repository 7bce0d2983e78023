import CellCalc.Double.Decimal

/-!
# Shortest decimals — the text of a double

A double is written with the fewest digits that read back to it. Of the decimals with that many
digits the nearest one is taken, and of two equally near ones the one with the even last digit.

* `decimalPoint` — the power of ten just above a magnitude.
* `candidate?` — the decimal that reads back and ends at a given power of ten, if there is one.
* `shortest` — the decimal to write.
* `layout` — digits with a point, or in scientific notation far from one.
* `Double.text` — a double as written.
-/

namespace CellCalc
namespace Double

/-! ## Choosing the digits -/

/-- The magnitude of a rank as a quotient of whole numbers. -/
def ratio (rank : Nat) : Nat × Nat :=
  (units rank, unitsInOne)

/-- The number of decimal digits of a whole number. -/
def digitCount (n : Nat) : Nat :=
  (Nat.toDigits 10 n).length

/-- The least power of ten above the magnitude of a rank other than zero. -/
def decimalPoint (rank : Nat) : Int :=
  let (num, den) := ratio rank
  if den ≤ num then digitCount (num / den)
  else 1 - (digitCount ((den - 1) / num) : Int)

/-- The decimal reads back as the magnitude of a rank. -/
def readsBack (rank coefficient : Nat) (exponent : Int) : Bool :=
  (Decimal.mk false coefficient exponent).toDouble == ofRank false rank

/-- The magnitude of a rank as a quotient of multiples of ten to a power. -/
def scaled (rank : Nat) (exponent : Int) : Nat × Nat :=
  let (num, den) := ratio rank
  match exponent with
  | .ofNat e => (num, den * 10 ^ e)
  | .negSucc e => (num * 10 ^ (e + 1), den)

/-- The nearest of the decimals with a last digit at this power of ten that read back as the
magnitude of a rank. Only the two neighbours of the magnitude can. -/
def candidate? (rank : Nat) (exponent : Int) : Option (Nat × Int) :=
  let (num, den) := scaled rank exponent
  let below := num / den
  match readsBack rank below exponent, readsBack rank (below + 1) exponent with
  | true, true => some (roundHalfEven num den, exponent)
  | true, false => some (below, exponent)
  | false, true => some (below + 1, exponent)
  | false, false => none

/-- The magnitude of a rank in full. -/
def inFull (rank : Nat) : Nat × Int :=
  (units rank * 5 ^ 1074, -1074)

/-- The most digits that a double can need. -/
def maxDigits : Nat := 17

/-- The coefficient and exponent with which the magnitude of a rank is written. -/
def shortest (rank : Nat) : Nat × Int :=
  let point := decimalPoint rank
  ((List.range maxDigits).findSome? fun n : Nat => candidate? rank (point - (n + 1))).getD
    (inFull rank)

/-! ## Laying the digits out -/

/-- A leading digit from this power of ten on is written without an exponent. -/
def leastPositional : Int := -4

/-- A leading digit up to this power of ten is written without an exponent. -/
def greatestPositional : Int := 15

/-- An exponent with its sign and at least two digits. -/
def exponentText (exponent : Int) : Text :=
  let written := Nat.toDigits 10 exponent.natAbs
  (if exponent < 0 then '-' else '+') :: List.replicate (2 - written.length) '0' ++ written

/-- Digits whose first one stands just after the point moved right by `point` places. -/
def positional (digits : Text) (point : Int) : Text :=
  if point ≤ 0 then '0' :: '.' :: List.replicate point.natAbs '0' ++ digits
  else if (digits.length : Int) ≤ point then
    digits ++ List.replicate (point.toNat - digits.length) '0' ++ ['.', '0']
  else digits.take point.toNat ++ '.' :: digits.drop point.toNat

/-- Digits in scientific notation. -/
def scientific (digits : Text) (exponent : Int) : Text :=
  let after := digits.drop 1
  digits.take 1 ++ (if after = [] then [] else '.' :: after) ++ 'e' :: exponentText exponent

/-- A coefficient and exponent as text. -/
def layout (coefficient : Nat) (exponent : Int) : Text :=
  let written := Nat.toDigits 10 coefficient
  let point := written.length + exponent
  let digits := (written.reverse.dropWhile (· == '0')).reverse
  if leastPositional ≤ point - 1 ∧ point - 1 ≤ greatestPositional then positional digits point
  else scientific digits (point - 1)

/-- The text of a magnitude. -/
def magnitudeText (rank : Nat) : Text :=
  if rank = 0 then "0.0" else layout (shortest rank).1 (shortest rank).2

/-- The text of a double. -/
def text : Double → Text
  | finite negative rank => (if negative then ['-'] else []) ++ magnitudeText rank
  | infinite negative => (if negative then ['-'] else []) ++ "inf".toList
  | nan => "nan"

end Double
end CellCalc

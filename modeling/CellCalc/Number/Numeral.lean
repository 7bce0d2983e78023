import CellCalc.Double.Decimal
import CellCalc.Failure
import CellCalc.Text.Blank
import CellCalc.Text.Letter

/-!
# Numerals — numbers as literals write them

A numeral may stand among spaces, carry a sign, use the decimal digits of any script and separate
digits with single underscores. One with a point is read as a double; any other is an integer, and
an integer with more than 4300 digits is neither read nor written.

* `writeInteger` — an integer as text; `writeInteger_eq_ok_iff` says for which integers it succeeds.
* `plain` — a text as numerals read it: spaces, ASCII digits, and all else as it is.
* `readInteger`, `readDecimal` — the two kinds of numerals.
-/

namespace CellCalc
namespace Numeral

/-- The most digits of an integer that is read or written. -/
def digitLimit : Nat := 4300

/-! ## Integers as text -/

/-- The digits of an integer, with its sign. -/
def integerText : Int → Text
  | .ofNat n => Nat.toDigits 10 n
  | .negSucc n => '-' :: Nat.toDigits 10 (n + 1)

/-- The integer is short enough to be written. -/
def Writable (n : Int) : Prop :=
  (Nat.toDigits 10 n.natAbs).length ≤ digitLimit

instance (n : Int) : Decidable (Writable n) :=
  inferInstanceAs (Decidable (_ ≤ _))

/-- An integer as text. -/
def writeInteger (n : Int) : Except Failure Text :=
  if Writable n then .ok (integerText n) else .error .tooLongToWrite

theorem writeInteger_eq_ok_iff {n : Int} {t : Text} :
    writeInteger n = .ok t ↔ Writable n ∧ t = integerText n := by
  unfold writeInteger
  by_cases h : Writable n <;> simp [h, eq_comm]

/-! ## Text as numerals read it -/

/-- A space for a blank and an ASCII digit for a decimal digit beyond ASCII. A character beyond
ASCII of any other kind has no place in a numeral. -/
def plainChar (c : Char) : Char :=
  if c.toNat < 128 then c
  else if Text.isBlank c then ' '
  else
    match Text.decimalDigit? c with
    | some d => Nat.digitChar d
    | none => '?'

/-- The spaces that may stand around a numeral. -/
def isSpace (c : Char) : Bool :=
  c == ' ' || (9 ≤ c.toNat && c.toNat ≤ 13)

/-- A text without the spaces at both ends. -/
def strip (t : Text) : Text :=
  ((t.dropWhile isSpace).reverse.dropWhile isSpace).reverse

/-- A text as numerals read it, without the spaces around it. -/
def plain (t : Text) : Text :=
  strip (t.map plainChar)

/-- Every underscore stands between two digits; `afterDigit` tells whether a digit stands before
the text. -/
def separatorsInside (afterDigit : Bool) : Text → Bool
  | [] => true
  | c :: rest =>
      if c = '_' then afterDigit && rest.head?.any Char.isDigit && separatorsInside false rest
      else separatorsInside c.isDigit rest

/-- A text without its underscores. -/
def dropSeparators (t : Text) : Text :=
  t.filter (· ≠ '_')

/-! ## Reading -/

/-- An integer numeral. The count of digits is looked at before anything that follows them. -/
def readInteger (t : Text) : Except Failure Int :=
  let (negative, unsigned) := Decimal.sign (plain t)
  let run := unsigned.takeWhile fun c => c.isDigit || c == '_'
  let digits := dropSeparators run
  if !separatorsInside false run then .error (.notAnInteger t)
  else if digitLimit < digits.length then .error (.tooManyDigits digits.length)
  else if run.length < unsigned.length ∨ digits = [] then .error (.notAnInteger t)
  else if negative then .ok (-(Decimal.digitsValue digits : Int))
  else .ok (Decimal.digitsValue digits)

/-- A decimal numeral. -/
def readDecimal (t : Text) : Except Failure Double :=
  let body := plain t
  let (negative, unsigned) := Decimal.sign (dropSeparators body)
  match separatorsInside false body, Decimal.scan negative unsigned with
  | true, some (d, []) => .ok d.toDouble
  | _, _ => .error (.notADecimal t)

end Numeral
end CellCalc

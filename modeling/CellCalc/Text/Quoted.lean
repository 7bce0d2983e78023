import CellCalc.Text.Printable

/-!
# Quoted text — text as messages show it

Messages show a text between quotation marks, on one line and with every unprintable character
written as an escape. The mark is a single quote, unless the text holds single quotes and no
double ones.

* `quoteMark` — the mark a text is put between.
* `escape` — one character inside the marks.
* `quoted` — the text as shown.
-/

namespace CellCalc
namespace Text

/-- The mark around a quoted text. -/
def quoteMark (t : Text) : Char :=
  if '\'' ∈ t ∧ '"' ∉ t then '"' else '\''

/-- `width` lower-case hexadecimal digits of a code point, padded with zeros. -/
def hexDigits (width code : Nat) : Text :=
  let digits := Nat.toDigits 16 code
  List.replicate (width - digits.length) '0' ++ digits

/-- An unprintable character by its code point, in the shortest of three widths. -/
def escapeCode (code : Nat) : Text :=
  if code < 0x100 then '\\' :: 'x' :: hexDigits 2 code
  else if code < 0x10000 then '\\' :: 'u' :: hexDigits 4 code
  else '\\' :: 'U' :: hexDigits 8 code

/-- One character as it stands between marks. -/
def escape (mark c : Char) : Text :=
  if c = mark ∨ c = '\\' then ['\\', c]
  else if c = '\n' then ['\\', 'n']
  else if c = '\r' then ['\\', 'r']
  else if c = '\t' then ['\\', 't']
  else if isPrintable c then [c]
  else escapeCode c.toNat

/-- The text between its marks. -/
def quoted (t : Text) : Text :=
  quoteMark t :: t.flatMap (escape (quoteMark t)) ++ [quoteMark t]

end Text
end CellCalc

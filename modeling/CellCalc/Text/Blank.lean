import CellCalc.Text.Basic

/-!
# Blank characters — what separates lexemes and is trimmed

The blank characters are those of the Unicode property `White_Space` and the four information
separators U+001C to U+001F. A zero width space and a byte order mark are not blank.

* `dropBlanks` — a text without its leading blanks; `dropBlanks_append` says that a run of blanks
  in front of a text changes nothing.
* `trim` — a text without the blanks at both ends.
-/

namespace CellCalc
namespace Text

/-- The ranges of blank characters. -/
def blankTable : List CodeRange :=
  [⟨0x09, 0x0D⟩, ⟨0x1C, 0x20⟩, ⟨0x85, 0x85⟩, ⟨0xA0, 0xA0⟩, ⟨0x1680, 0x1680⟩, ⟨0x2000, 0x200A⟩,
    ⟨0x2028, 0x2029⟩, ⟨0x202F, 0x202F⟩, ⟨0x205F, 0x205F⟩, ⟨0x3000, 0x3000⟩]

/-- The character is blank. -/
def isBlank (c : Char) : Bool :=
  CodeRange.covers blankTable c.toNat

/-- The text without its leading blanks. -/
def dropBlanks (t : Text) : Text :=
  t.dropWhile isBlank

/-- The text without its trailing blanks. -/
def dropTrailingBlanks (t : Text) : Text :=
  (dropBlanks t.reverse).reverse

/-- The text without the blanks at both ends. -/
def trim (t : Text) : Text :=
  dropTrailingBlanks (dropBlanks t)

/-! ## Laws of the ends -/

theorem dropBlanks_append {w : Text} (hw : ∀ c ∈ w, isBlank c = true) (t : Text) :
    dropBlanks (w ++ t) = dropBlanks t := by
  induction w with
  | nil => rfl
  | cons c w ih =>
      have hc : isBlank c = true := hw c (by simp)
      have hrest : ∀ d ∈ w, isBlank d = true := fun d hd => hw d (by simp [hd])
      simpa [dropBlanks, List.dropWhile_cons, hc] using ih hrest

end Text
end CellCalc

import CellCalc.Proofs.CellIds

/-!
# ColumnCodes — columns by a code that ends somewhere

Columns go on without end, but a host may bring a code for them that knows only the first ones, say
those with labels of up to three letters. Where it does not know a label, the letters are counted
one by one; where it does not know a number, its letters are found from the last one to the first.
As long as the code is right in what it knows, it does not matter where it ends.

* `ColumnCode` — a code of columns; `ColumnCode.Sound` — it is base 26 as far as it goes.
* `Column.lettersBefore` — the letters of a number, found from the last one to the first.
* `ColumnCode.toNumber`, `ColumnCode.toLabel`, `ColumnCode.cellId` — columns and ids by a code;
  `toNumber_eq`, `toLabel_eq` and `cellId_eq` are their laws.
-/

namespace CellCalc

/-! ## Letters from the last to the first -/

namespace Column

/-- The letters of a number, put one after the other before those found already. -/
def lettersBefore : Nat → Text → Text
  | 0, found => found
  | n + 1, found => lettersBefore (n / 26) (letter (n % 26) :: found)
decreasing_by omega

theorem lettersBefore_eq (n : Nat) (found : Text) :
    lettersBefore n found = letters n ++ found := by
  induction n, found using lettersBefore.induct with
  | case1 found => rw [lettersBefore, letters, List.nil_append]
  | case2 n found ih =>
      rw [lettersBefore, ih, letters_succ, List.append_assoc, List.singleton_append]

end Column

/-! ## Codes -/

/-- A code of columns, by the numbers of labels and the labels of numbers that it knows. -/
structure ColumnCode where
  number? : Text → Option Nat
  label? : Int → Option Text

namespace ColumnCode

open Column

/-- As far as the code goes, it is base 26 with the digits one to twenty-six, in both directions. -/
structure Sound (code : ColumnCode) : Prop where
  number? {label : Text} {n : Nat} : code.number? label = some n →
    isLabel label = true ∧ n = ordinal label
  label? {n : Int} {label : Text} : code.label? n = some label →
    isLabel label = true ∧ n = ordinal label

/-- The code of the labels of up to three letters. -/
def short : ColumnCode where
  number? t := if isLabel t ∧ t.length ≤ 3 then some (ordinal t) else none
  label? n := if 1 ≤ n ∧ n ≤ ordinal "ZZZ" then some (letters n.toNat) else none

theorem short_sound : short.Sound where
  number? := by
    intro label n h
    obtain ⟨⟨hlabel, -⟩, hn⟩ := Option.ite_none_right_eq_some.1 h
    exact ⟨hlabel, (Option.some.inj hn).symm⟩
  label? := by
    intro n label h
    obtain ⟨⟨hpositive, -⟩, hlabel⟩ := Option.ite_none_right_eq_some.1 h
    obtain rfl := Option.some.inj hlabel
    refine ⟨isLabel_iff.2 ⟨letters_ne_nil (by omega), fun c => isUpper_of_mem_letters⟩, ?_⟩
    rw [ordinal_letters]
    omega

/-! ## Columns by a code -/

/-- The number of a column: the one that the code knows, or else the letters are counted. -/
def toNumber (code : ColumnCode) : Column → Except Failure Int
  | .byNumber n => .ok n
  | .byLabel label =>
      match code.number? (Text.upper label) with
      | some n => .ok n
      | none =>
          if isLabel (Text.upper label) then .ok (ordinal (Text.upper label))
          else .error (.unknownColumn (Text.upper label))

/-- The label of a column: the one that the code knows, or else its letters are found. -/
def toLabel (code : ColumnCode) : Column → Except Failure Text
  | .byLabel label => .ok label
  | .byNumber n =>
      match code.label? n with
      | some label => .ok label
      | none =>
          if n < 1 then do throw (.unknownColumnNumber (← Numeral.writeInteger n))
          else .ok (lettersBefore n.toNat [])

/-- The id of the cell in a column and a row, by the code. -/
def cellId (code : ColumnCode) (column : Column) (row : Int) : Except Failure Text := do
  let label ← code.toLabel column
  let digits ← Numeral.writeInteger row
  return label ++ digits

variable {code : ColumnCode}

theorem toNumber_eq (h : code.Sound) (column : Column) : code.toNumber column = column.toNumber := by
  cases column with
  | byNumber n => rfl
  | byLabel label =>
      rw [toNumber, Column.toNumber]
      cases hknown : code.number? (Text.upper label) with
      | none => rfl
      | some n =>
          obtain ⟨hlabel, rfl⟩ := h.number? hknown
          rw [if_pos hlabel]

theorem toLabel_eq (h : code.Sound) (column : Column) : code.toLabel column = column.toLabel := by
  cases column with
  | byLabel label => rfl
  | byNumber n =>
      rw [toLabel, Column.toLabel]
      cases hknown : code.label? n with
      | none =>
          by_cases hpositive : 1 ≤ n
          · simp only [if_pos hpositive, if_neg (Int.not_lt.2 hpositive), lettersBefore_eq,
              List.append_nil]
          · simp only [if_neg hpositive, if_pos (Int.not_le.1 hpositive)]
      | some label =>
          -- the label that the code knows is the only one with this number
          obtain ⟨hlabel, rfl⟩ := h.label? hknown
          have hpositive := one_le_ordinal hlabel
          have hcolumn : (1 : Int) ≤ ordinal label := by omega
          rw [if_pos hcolumn, Int.toNat_natCast, letters_ordinal (isLabel_iff.1 hlabel).2]

theorem cellId_eq (h : code.Sound) (column : Column) (row : Int) :
    code.cellId column row = CellCalc.cellId column row := by
  rw [cellId, CellCalc.cellId, toLabel_eq h]

end ColumnCode
end CellCalc

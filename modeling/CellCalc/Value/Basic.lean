import CellCalc.Number.Basic

/-!
# Values — what cells hold and expressions evaluate to

A value is blank, a truth value, a number, a text, or a list of values. A range of cells is a list
of rows, each of them a list.

* `Value` — the values.
* `Value.ofRows` — a grid of values as one value.
* `Value.flatten` — the values of a list of any depth that are not lists, in order.
* `Value.isError` — the in-band error values.
-/

namespace CellCalc

/-- A value of a cell or of an expression. -/
inductive Value
  | blank
  | bool (b : Bool)
  | number (n : Number)
  | text (t : Text)
  | list (items : List Value)
  deriving Repr

namespace Value

/-! ## Equality -/

mutual

/-- Equality of values is decided part by part. -/
def decEq : (v w : Value) → Decidable (v = w)
  | blank, blank => isTrue rfl
  | bool a, bool b => decidable_of_iff (a = b) (by simp)
  | number a, number b => decidable_of_iff (a = b) (by simp)
  | text a, text b => decidable_of_iff (a = b) (by simp)
  | list a, list b =>
      match decEqItems a b with
      | isTrue h => isTrue (by simp [h])
      | isFalse h => isFalse (by simp [h])
  | blank, bool _ | blank, number _ | blank, text _ | blank, list _
  | bool _, blank | bool _, number _ | bool _, text _ | bool _, list _
  | number _, blank | number _, bool _ | number _, text _ | number _, list _
  | text _, blank | text _, bool _ | text _, number _ | text _, list _
  | list _, blank | list _, bool _ | list _, number _ | list _, text _ => isFalse (by simp)

/-- Equality of lists of values is decided item by item. -/
def decEqItems : (v w : List Value) → Decidable (v = w)
  | [], [] => isTrue rfl
  | [], _ :: _ | _ :: _, [] => isFalse (by simp)
  | a :: v, b :: w =>
      match decEq a b, decEqItems v w with
      | isTrue h, isTrue k => isTrue (by simp [h, k])
      | isFalse h, _ => isFalse (by simp [h])
      | _, isFalse k => isFalse (by simp [k])

end

instance : DecidableEq Value := decEq

instance : Inhabited Value := ⟨blank⟩

/-! ## Lists -/

/-- A grid of values, row by row. -/
def ofRows (rows : List (List Value)) : Value :=
  list (rows.map list)

/-- The value is a list. -/
def isList : Value → Bool
  | list _ => true
  | _ => false

mutual

/-- The values inside a value that are not lists, in order. -/
def flatten : Value → List Value
  | list items => flattenAll items
  | v => [v]

/-- The values inside several values that are not lists, in order. -/
def flattenAll : List Value → List Value
  | [] => []
  | v :: rest => flatten v ++ flattenAll rest

end

/-! ## In-band errors -/

/-- The mark that every in-band error begins with. -/
def errorMark : Char := '#'

/-- The value is an in-band error: a text that begins with the mark. -/
def isError : Value → Bool
  | text t => t.head? == some errorMark
  | _ => false

/-- The in-band error without details. -/
def errorText : Text := "#ERROR"

/-- The in-band error with these details. -/
def errorWith (details : Text) : Value :=
  text (errorText ++ ": ".toList ++ details)

/-- The value of a division by zero. -/
def divisionByZero : Value := text "#DIV/0!"

/-- The value of arithmetic on something that has no number. -/
def notNumeric : Value := errorWith "无法执行数值运算"

/-- The value of something that is no formula node. -/
def unknownNode : Value := errorWith "未知节点类型"

end Value

end CellCalc

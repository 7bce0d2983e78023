import CellCalc.Value.Basic

/-!
# Expressions — the trees of formulas

* `Expr` — literals, references to cells and ranges, binary operations and function calls.
* `Expr.number` — the literal of a number.
* `Expr.calls` — the names of the calls of a tree, arguments before their call.
-/

namespace CellCalc

/-- The tree of a formula. A constant is a literal without quotes: a number in every formula that
was read, but a host may hand over any value. It may also hand over something that is no formula
node; of that only the name of its type is known. -/
inductive Expr
  | constant (v : Value)
  | text (t : Text)
  | cell (id : Text)
  | range (start stop : Text)
  | binary (operator : Text) (left right : Expr)
  | call (name : Text) (arguments : List Expr)
  | foreign (typeName : Text)
  deriving Repr

namespace Expr

/-- The literal of a number. -/
@[match_pattern] abbrev number (n : Number) : Expr := constant (.number n)

/-! ## Equality -/

mutual

/-- Equality of trees is decided part by part. -/
def decEq : (e f : Expr) → Decidable (e = f)
  | constant a, constant b => decidable_of_iff (a = b) (by simp)
  | text a, text b => decidable_of_iff (a = b) (by simp)
  | cell a, cell b => decidable_of_iff (a = b) (by simp)
  | range a b, range c d => decidable_of_iff (a = c ∧ b = d) (by simp)
  | foreign a, foreign b => decidable_of_iff (a = b) (by simp)
  | binary o a b, binary p c d =>
      match decEq a c, decEq b d with
      | isTrue h, isTrue k => decidable_of_iff (o = p) (by simp [h, k])
      | isFalse h, _ => isFalse (by simp [h])
      | _, isFalse k => isFalse (by simp [k])
  | call n a, call m b =>
      match decEqAll a b with
      | isTrue h => decidable_of_iff (n = m) (by simp [h])
      | isFalse h => isFalse (by simp [h])
  | constant _, text _ | constant _, cell _ | constant _, range _ _ | constant _, binary _ _ _
  | constant _, call _ _ | constant _, foreign _
  | text _, constant _ | text _, cell _ | text _, range _ _ | text _, binary _ _ _
  | text _, call _ _ | text _, foreign _
  | cell _, constant _ | cell _, text _ | cell _, range _ _ | cell _, binary _ _ _
  | cell _, call _ _ | cell _, foreign _
  | range _ _, constant _ | range _ _, text _ | range _ _, cell _ | range _ _, binary _ _ _
  | range _ _, call _ _ | range _ _, foreign _
  | binary _ _ _, constant _ | binary _ _ _, text _ | binary _ _ _, cell _
  | binary _ _ _, range _ _ | binary _ _ _, call _ _ | binary _ _ _, foreign _
  | call _ _, constant _ | call _ _, text _ | call _ _, cell _ | call _ _, range _ _
  | call _ _, binary _ _ _ | call _ _, foreign _
  | foreign _, constant _ | foreign _, text _ | foreign _, cell _ | foreign _, range _ _
  | foreign _, binary _ _ _ | foreign _, call _ _ => isFalse (by simp)

/-- Equality of lists of trees is decided one by one. -/
def decEqAll : (e f : List Expr) → Decidable (e = f)
  | [], [] => isTrue rfl
  | [], _ :: _ | _ :: _, [] => isFalse (by simp)
  | a :: e, b :: f =>
      match decEq a b, decEqAll e f with
      | isTrue h, isTrue k => isTrue (by simp [h, k])
      | isFalse h, _ => isFalse (by simp [h])
      | _, isFalse k => isFalse (by simp [k])

end

instance : DecidableEq Expr := decEq

/-! ## Calls -/

mutual

/-- The names of the calls of a tree, arguments before their call and from left to right. -/
def calls : Expr → List Text
  | binary _ left right => calls left ++ calls right
  | call name arguments => callsAll arguments ++ [name]
  | _ => []

/-- The names of the calls of several trees. -/
def callsAll : List Expr → List Text
  | [] => []
  | e :: rest => calls e ++ callsAll rest

end

end Expr

end CellCalc

import CellCalc.Number.Order
import CellCalc.Value.Coercion

/-!
# Functions — what formulas can call

A function takes the values of its arguments. The aggregates look through lists of any depth and
skip every value that has no number; a blank has the number zero and so takes part.

* `FormulaFunction` — the functions.
* `FormulaFunction.sum`, `average`, `count`, `maximum`, `minimum` — the aggregates.
* `FormulaFunction.choose` — one of two values by a condition.
* `FormulaFunction.builtins` — their names.
-/

namespace CellCalc

/-- A function callable from formulas. -/
abbrev FormulaFunction := List Value → Except Failure Value

namespace FormulaFunction

/-! ## Aggregates -/

/-- The numbers that an aggregate sees. -/
def numbers (args : List Value) : Except Failure (List Number) :=
  Value.numbers (Value.flattenAll args)

/-- The numbers added up from the left, beginning with the integer zero. -/
def total (ns : List Number) : Except Failure Number :=
  ns.foldlM Number.add Number.zero

/-- The sum of the numbers, zero without any. -/
def sum : FormulaFunction := fun args => do
  return .number (← total (← numbers args))

/-- The mean of the numbers, zero without any. -/
def average : FormulaFunction := fun args => do
  let ns ← numbers args
  if ns.isEmpty then return .number Number.zero
  return .number (← (← total ns).div (.int ns.length))

/-- How many numbers there are. -/
def count : FormulaFunction := fun args => do
  return .number (.int (← numbers args).length)

/-- Of two numbers the first, unless the second one is better. -/
def prefer (better : Number → Number → Bool) (best n : Number) : Number :=
  if better n best then n else best

/-- The first of the best numbers, `none` without any. -/
def best? (better : Number → Number → Bool) : List Number → Option Number
  | [] => none
  | n :: rest => some (rest.foldl (prefer better) n)

/-- The value of the best number, an in-band error without any. -/
def extremum (better : Number → Number → Bool) : FormulaFunction := fun args => do
  return ((best? better (← numbers args)).elim (.text Value.errorText) .number)

/-- The greatest number. -/
def maximum : FormulaFunction := extremum fun n best => best.lt n

/-- The least number. -/
def minimum : FormulaFunction := extremum fun n best => n.lt best

/-! ## Conditions -/

/-- The second argument if the first one is true, else the third, or a blank without a third. -/
def choose : FormulaFunction
  | condition :: yes :: rest => .ok (if condition.truthy then yes else rest.headD .blank)
  | _ => .ok (Value.errorWith "IF 函数需要至少 2 个参数")

/-! ## Names -/

/-- The functions that formulas can call from the start. -/
def builtins : List (Text × FormulaFunction) :=
  [("SUM", sum), ("AVERAGE", average), ("COUNT", count), ("MAX", maximum), ("MIN", minimum),
    ("IF", choose)]

end FormulaFunction

end CellCalc

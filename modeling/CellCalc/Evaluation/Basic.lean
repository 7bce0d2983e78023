import CellCalc.Evaluation.Trace
import CellCalc.Expr.Basic
import CellCalc.Function.Registry
import CellCalc.Source.Basic

/-!
# Evaluation — the value of an expression

Both operands of an operation and all arguments of a call are evaluated, from left to right, before
the operation or the call. Arithmetic on something without a number, a division by zero and a call
of an unknown function have in-band errors for their values.

* `Environment` — the functions and the cells that expressions refer to.
* `arithmetic` — an operation on two values.
* `Environment.eval` — the value of an expression, with the unknown functions it calls.
-/

namespace CellCalc

/-- The functions and the cells that expressions refer to. -/
structure Environment where
  functions : Registry FormulaFunction
  source : CellSource

/-! ## Operations -/

/-- The numbers of two operands, `none` if one of them has no number. The second one is not looked
at if the first one has none. -/
def operandNumbers (left right : Value) : Except Failure (Option (Number × Number)) :=
  let both := do
    let a ← left.toNumber
    let b ← right.toNumber
    return (a, b)
  match both with
  | .ok pair => .ok (some pair)
  | .error cause => if cause.kind = .coercion then .ok none else .error cause

/-- An operation on two numbers. -/
def calculate (operator : Text) (a b : Number) : Except Failure Value :=
  if operator = ['+'] then .number <$> a.add b
  else if operator = ['-'] then .number <$> a.sub b
  else if operator = ['*'] then .number <$> a.mul b
  else if operator = ['/'] then
    if b.isZero then .ok Value.divisionByZero else .number <$> a.div b
  else .error (.unknownOperator operator)

/-- An operation on two values. -/
def arithmetic (operator : Text) (left right : Value) : Except Failure Value := do
  match ← operandNumbers left right with
  | some (a, b) => calculate operator a b
  | none => return Value.notNumeric

namespace Environment

/-! ## Expressions -/

/-- The value of a call of an unknown function. -/
def unknownFunction (name : Text) : Value :=
  Value.errorWith ("未知函数 ".toList ++ name)

/-- Calls a function by name. -/
def apply (env : Environment) (name : Text) (args : List Value) : Trace Value :=
  match env.functions.find? name with
  | some f => Trace.ofOutcome (f args)
  | none => do
      Trace.note name
      return unknownFunction name

mutual

/-- The value of an expression. A range is a list of its rows. -/
def eval (env : Environment) : Expr → Trace Value
  | .constant v => return v
  | .text t => return .text t
  | .cell id => Trace.ofOutcome (env.source.cell id)
  | .range start stop => Trace.ofOutcome (Value.ofRows <$> env.source.range start stop)
  | .binary operator left right => do
      let a ← eval env left
      let b ← eval env right
      Trace.ofOutcome (arithmetic operator a b)
  | .call name arguments => do
      let args ← evalAll env arguments
      env.apply name args
  | .foreign _ => return Value.unknownNode

/-- The values of several expressions, from left to right. -/
def evalAll (env : Environment) : List Expr → Trace (List Value)
  | [] => return []
  | e :: rest => do
      let v ← eval env e
      let vs ← evalAll env rest
      return v :: vs

end

end Environment

end CellCalc

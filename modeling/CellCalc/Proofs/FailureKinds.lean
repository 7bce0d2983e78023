import CellCalc.Proofs.EvaluationFailures

/-!
# FailureKinds — the kinds of failure that leave an evaluation

Whatever values meet in an operation or in a function known from the start, blanks, truth values,
texts and lists among them, it fails only because of the size of its numbers or for its operator.
That a value has no number is never a failure, nor is a division by zero, a choice among too few
values, or an aggregate of nothing: all of them have values. Cells and ranges add ids and corners
that cannot be read.

* `Failure.OfNumbers.kind`, `OfOperation.kind`, `OfCells.kind`, `OfExpr.kind` — the kinds of the
  causes that are left.
* `Environment.eval_failureKinds` — the kinds of failure of operations, functions and expressions.
-/

namespace CellCalc

namespace Failure

variable {cause : Failure}

theorem OfNumbers.kind (h : cause.OfNumbers) : cause.kind = .overflow ∨ cause.kind = .value := by
  cases h with
  | integerBeyondDouble | quotientBeyondDouble => exact Or.inl rfl
  | tooLongToWrite => exact Or.inr rfl

theorem OfOperation.kind {operator : Text} (h : cause.OfOperation operator) :
    cause.kind = .overflow ∨ cause.kind = .value := by
  cases h with
  | numbers hnumbers => exact hnumbers.kind
  | operator => exact Or.inr rfl

theorem OfCells.kind (h : cause.OfCells) : cause.kind = .value := by
  cases h <;> rfl

theorem OfExpr.kind {e : Expr} (h : cause.OfExpr e) :
    cause.kind = .range ∨ cause.kind = .overflow ∨ cause.kind = .value := by
  cases h with
  | numbers hnumbers => exact Or.inr hnumbers.kind
  | cells hcells => exact Or.inr (Or.inr hcells.kind)
  | operator => exact Or.inr (Or.inr rfl)
  | corners => exact Or.inl rfl

end Failure

namespace Environment

/-- An operation on any two values and a function known from the start on any arguments fail only
with a number that is too large, or with a value that is not allowed. Every expression, whether it
can be written or not, adds just the ranges without valid corners to this, over every store of
cells. -/
theorem eval_failureKinds :
    (∀ operator v w, FailsOnly (fun cause => cause.kind = .overflow ∨ cause.kind = .value)
      (arithmetic operator v w)) ∧
    (∀ name f args, Registry.builtins.find? name = some f →
      FailsOnly (fun cause => cause.kind = .overflow ∨ cause.kind = .value) (f args)) ∧
    ∀ store : Store, store.HoldsCells → ∀ e,
      FailsOnly (fun cause => cause.kind = .range ∨ cause.kind = .overflow ∨ cause.kind = .value)
        (eval ⟨.builtins, store.source⟩ e).outcome := by
  refine ⟨fun operator v w => ?_, fun name f args hf => ?_, fun store hstore e => ?_⟩
  · exact (arithmetic_failsOnly operator v w).mono fun _ => Failure.OfOperation.kind
  · exact (Registry.builtins_failsOnly hf args).mono fun _ => Failure.OfNumbers.kind
  · exact (eval_failsOnly hstore e).mono fun _ => Failure.OfExpr.kind

/-- An integer too large for a double meets the double of an average. The operands are evaluated
first, so that the division by zero in the right one has its value already. -/
theorem eval_failureKinds_large_integer :
    let e : Expr := .binary "+" (.number (.int (10 ^ 400)))
      (.call "AVERAGE" [.constant (.bool true), .binary "/" (.text "7") (.constant .blank)])
    Registry.builtins.find? "average" = some FormulaFunction.average ∧
      FailsOnly (fun cause => cause.kind = .overflow ∨ cause.kind = .value)
        (FormulaFunction.average [.list [], .text "x", .blank]) ∧
      (Store.table .empty).HoldsCells ∧
      (eval ⟨.builtins, (Store.table .empty).source⟩ e).outcome = .error .integerBeyondDouble ∧
      (Failure.integerBeyondDouble.kind = .range ∨ Failure.integerBeyondDouble.kind = .overflow ∨
        Failure.integerBeyondDouble.kind = .value) := by
  intro e
  have hcause : (eval ⟨.builtins, (Store.table .empty).source⟩ e).outcome =
      .error .integerBeyondDouble := by
    decide +kernel
  obtain ⟨-, hfunctions, hexpressions⟩ := eval_failureKinds
  exact ⟨rfl, hfunctions "average" _ _ rfl, trivial, hcause,
    hexpressions (.table .empty) trivial e _ hcause⟩

end Environment
end CellCalc

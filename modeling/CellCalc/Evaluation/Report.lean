import CellCalc.Evaluation.Basic
import CellCalc.Expr.Parser

/-!
# Reports — the value of a formula, with a log

A text that begins with an equals sign is a formula; any other text is its own value. Whatever goes
wrong with a formula becomes an in-band error, so a report always has a value, and it is never a
range.

* `LogRecord` — a record of the log.
* `Report` — a value and the log of its evaluation.
* `Environment.evaluate` — the report on a text.
-/

namespace CellCalc

/-- The weight of a log record. -/
inductive LogLevel
  | debug
  | warning
  deriving DecidableEq, Repr

/-- A record of the log. -/
structure LogRecord where
  level : LogLevel
  message : Text
  deriving DecidableEq, Repr

namespace LogRecord

/-- The record at the start of an evaluation. -/
def started (body : Text) : LogRecord :=
  ⟨.debug, "Evaluating formula: ".toList ++ body⟩

/-- The record of a call of an unknown function. -/
def unknownFunction (name : Text) : LogRecord :=
  ⟨.warning, "Unknown function: ".toList ++ name⟩

/-- The record of a formula that failed. -/
def failed (formula : Text) (cause : Failure) : LogRecord :=
  ⟨.debug, "Formula ".toList ++ Text.quoted formula ++ " failed: ".toList ++ cause.shown⟩

end LogRecord

/-- The value of a text and the log of its evaluation. -/
structure Report where
  value : Value
  log : List LogRecord
  deriving DecidableEq, Repr

/-- The in-band error for a failure. -/
def Failure.value (cause : Failure) : Value :=
  if cause.message = [] then .text Value.errorText else Value.errorWith cause.message

theorem Failure.value_eq (cause : Failure) :
    cause.value =
      .text (if cause.message = [] then "#ERROR" else "#ERROR: ".toList ++ cause.message) := by
  rw [value]
  split <;> rfl

namespace Environment

/-- The value of the body of a formula, from its text. -/
def evalBody (env : Environment) (body : Text) : Trace Value := do
  let e ← Trace.ofOutcome (Expr.ofText body)
  env.eval e

theorem evalBody_of_ok (env : Environment) {body : Text} {e : Expr}
    (h : Expr.ofText body = .ok e) : env.evalBody body = env.eval e := by
  rw [evalBody, h]
  rfl

theorem evalBody_of_error (env : Environment) {body : Text} {cause : Failure}
    (h : Expr.ofText body = .error cause) : env.evalBody body = ⟨[], .error cause⟩ := by
  rw [evalBody, h]
  rfl

/-- The report on a text. -/
def evaluate (env : Environment) : Text → Report
  | '=' :: rest =>
      let body := Text.trim rest
      let trace := env.evalBody body
      let log := LogRecord.started body :: trace.notes.map LogRecord.unknownFunction
      match trace.outcome with
      | .ok (.list _) => ⟨.text Value.errorText, log⟩
      | .ok v => ⟨v, log⟩
      | .error cause => ⟨cause.value, log ++ [LogRecord.failed ('=' :: rest) cause]⟩
  | t => ⟨.text t, []⟩

end Environment

end CellCalc

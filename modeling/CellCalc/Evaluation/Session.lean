import CellCalc.Evaluation.Report
import CellCalc.Source.FilledCells
import CellCalc.Source.Sheet
import CellCalc.Source.Table

/-!
# Sessions — writes and reads one after the other

A session works on one store. Only a table takes writes; the other stores stay as they are.

* `Store` — the stores, each a source of cells.
* `Store.set?` — the store after a write, if it takes any.
* `Session.run` — the answers to a sequence of commands.
-/

namespace CellCalc

/-- The stores that a session can work on. -/
inductive Store
  | table (t : Table)
  | sheet (s : Sheet)
  | worksheet (w : Worksheet)
  | failing (message : Text)

namespace Store

/-- The store as a source of cells. -/
def source : Store → CellSource
  | table t => t.source
  | sheet s => s.source
  | worksheet w => w.source
  | failing message => CellSource.failing message

/-- The store after a write; only a table takes one. -/
def set? (id : Text) (v : Value) : Store → Option Store
  | table t => some (table (t.set id v))
  | _ => none

end Store

/-- A command of a session. -/
inductive Command
  | set (id : Text) (v : Value)
  | get (id : Text)
  | range (start stop : Text)
  | evaluate (formula : Text)

namespace Session

/-- What a session answers: a value or a failure, or nothing after a write, or that the store takes
no writes. -/
inductive Answer
  | outcome (result : Except Failure Value)
  | written
  | readOnly

/-- The answer to a command, and the store after it. -/
def step (functions : Registry FormulaFunction) (store : Store) : Command → Answer × Store
  | .set id v =>
      match store.set? id v with
      | some store' => (.written, store')
      | none => (.readOnly, store)
  | .get id => (.outcome (store.source.cell id), store)
  | .range start stop => (.outcome (Value.ofRows <$> store.source.range start stop), store)
  | .evaluate formula =>
      (.outcome (.ok ((Environment.mk functions store.source).evaluate formula).value), store)

/-- The answers to a sequence of commands. -/
def run (functions : Registry FormulaFunction) (store : Store) : List Command → List Answer
  | [] => []
  | c :: rest => (step functions store c).1 :: run functions (step functions store c).2 rest

end Session

end CellCalc

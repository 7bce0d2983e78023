import CellCalc.Evaluation.Basic
import CellCalc.Source.Table

/-!
# Footprint — a formula reads only the cells it mentions

The footprint of an expression lists the cells it mentions: those of its references, and for every
range that has valid corners those of the rectangle between them. Two sources that agree on these
cells give the expression one and the same evaluation, with its value or its failure and with every
note on the way. So writing any other cell of a table is not noticed.

* `Expr.footprint` — the ids of the cells that an expression mentions.
* `CellSource.readRange_congr` — a range depends on the cells of its rectangle.
* `Environment.eval_congr` — an expression depends on the cells of its footprint.
* `Environment.eval_reads_footprint` — the same for any two sources, and for a write to a table.
-/

namespace CellCalc

/-! ## The cells that are mentioned -/

namespace Expr

/-- The ids of the cells between two corners, none if a corner is not valid. -/
def cellsBetween (start stop : Text) : List Text :=
  match rangeIds start stop with
  | .ok rows => rows.flatten
  | .error _ => []

theorem cellsBetween_of_ok {start stop : Text} {rows : List (List Text)}
    (h : rangeIds start stop = .ok rows) : cellsBetween start stop = rows.flatten := by
  rw [cellsBetween, h]

mutual

/-- The ids of the cells that a tree mentions, from left to right. -/
def footprint : Expr → List Text
  | cell id => [id]
  | range start stop => cellsBetween start stop
  | binary _ left right => footprint left ++ footprint right
  | call _ arguments => footprintAll arguments
  | _ => []

/-- The ids of the cells that several trees mention. -/
def footprintAll : List Expr → List Text
  | [] => []
  | e :: rest => footprint e ++ footprintAll rest

end

theorem mem_footprintAll {id : Text} {es : List Expr} :
    id ∈ footprintAll es ↔ ∃ e ∈ es, id ∈ e.footprint := by
  induction es with
  | nil => simp [footprintAll]
  | cons e rest ih => simp [footprintAll, ih]

end Expr

/-! ## Sources that agree -/

namespace CellSource

variable {cell cell' : Text → Except Failure Value}

theorem mapM_congr {α β : Type} {f g : α → Except Failure β} {xs : List α}
    (h : ∀ x ∈ xs, f x = g x) : xs.mapM f = xs.mapM g := by
  induction xs with
  | nil => rfl
  | cons x xs ih =>
      have hrest := ih fun y hy => h y (List.mem_cons_of_mem x hy)
      rw [List.mapM_cons, List.mapM_cons, h x (List.mem_cons_self ..), hrest]

theorem readRange_congr {start stop : Text}
    (h : ∀ id ∈ Expr.cellsBetween start stop, cell id = cell' id) :
    readRange cell start stop = readRange cell' start stop := by
  unfold readRange
  cases hids : rangeIds start stop with
  | error cause => rfl
  | ok rows =>
      rw [Expr.cellsBetween_of_ok hids] at h
      -- row by row, and in each row cell by cell
      refine mapM_congr fun row hrow => mapM_congr fun id hid => ?_
      exact h id (List.mem_flatten_of_mem hrow hid)

end CellSource

namespace Environment

open CellSource

variable {functions : Registry FormulaFunction} {cell cell' : Text → Except Failure Value}

mutual

/-- An expression has the same evaluation wherever the cells it mentions have the same values. -/
theorem eval_congr : ∀ e : Expr, (∀ id ∈ e.footprint, cell id = cell' id) →
    eval ⟨functions, ofCells cell⟩ e = eval ⟨functions, ofCells cell'⟩ e
  | .constant v, _ => by rw [eval, eval]
  | .text t, _ => by rw [eval, eval]
  | .foreign name, _ => by rw [eval, eval]
  | .cell id, h => by
      have hid : cell id = cell' id := h id (by simp [Expr.footprint])
      rw [eval, eval]
      exact congrArg Trace.ofOutcome hid
  | .range start stop, h => by
      rw [Expr.footprint] at h
      have hrange : readRange cell start stop = readRange cell' start stop := readRange_congr h
      rw [eval, eval]
      exact congrArg (fun rows => Trace.ofOutcome (Value.ofRows <$> rows)) hrange
  | .binary operator left right, h => by
      rw [Expr.footprint] at h
      have hleft := eval_congr left fun id hid => h id (List.mem_append_left _ hid)
      have hright := eval_congr right fun id hid => h id (List.mem_append_right _ hid)
      rw [eval, eval, hleft, hright]
  | .call name arguments, h => by
      rw [Expr.footprint] at h
      rw [eval, eval, evalAll_congr arguments h]
      -- which function a name calls does not depend on the cells
      rfl

theorem evalAll_congr : ∀ es : List Expr, (∀ id ∈ Expr.footprintAll es, cell id = cell' id) →
    evalAll ⟨functions, ofCells cell⟩ es = evalAll ⟨functions, ofCells cell'⟩ es
  | [], _ => by rw [evalAll, evalAll]
  | e :: rest, h => by
      rw [Expr.footprintAll] at h
      have hfirst := eval_congr e fun id hid => h id (List.mem_append_left _ hid)
      have hrest := evalAll_congr rest fun id hid => h id (List.mem_append_right _ hid)
      rw [evalAll, evalAll, hfirst, hrest]

end

/-- Evaluation reads only the cells that the expression mentions, so it is the same over any two
sources that agree there. A table keeps its cells whatever the case of their ids, and a write to
any other cell of it changes nothing. -/
theorem eval_reads_footprint (functions : Registry FormulaFunction) (e : Expr) :
    (∀ cell cell' : Text → Except Failure Value, (∀ id ∈ e.footprint, cell id = cell' id) →
      eval ⟨functions, ofCells cell⟩ e = eval ⟨functions, ofCells cell'⟩ e) ∧
    ∀ (t : Table) (id : Text) (v : Value),
      (∀ mentioned ∈ e.footprint, Text.upper mentioned ≠ Text.upper id) →
        eval ⟨functions, (t.set id v).source⟩ e = eval ⟨functions, t.source⟩ e := by
  refine ⟨fun cell cell' h => eval_congr e h, ?_⟩
  intro t id v h
  have hsame : ∀ mentioned ∈ e.footprint, (t.set id v).get mentioned = t.get mentioned := by
    intro mentioned hmem
    rw [Table.get_set, if_neg (h mentioned hmem)]
  exact eval_congr e fun mentioned hmem => congrArg Except.ok (hsame mentioned hmem)

/-- The tree of `SUM(B1:a2)+c3`, which mentions five cells. -/
def rangeSum : Expr := .binary "+" (.call "SUM" [.range "B1" "a2"]) (.cell "c3")

/-- The tree does not notice that all other cells fail, nor a write to `D4`. -/
theorem eval_reads_footprint_sum :
    (∀ id ∈ rangeSum.footprint, (.ok .blank : Except Failure Value) =
        if id ∈ rangeSum.footprint then .ok .blank else .error (.host none)) ∧
      eval ⟨.builtins, ofCells fun _ => .ok .blank⟩ rangeSum =
        eval ⟨.builtins, ofCells fun id =>
          if id ∈ rangeSum.footprint then .ok .blank else .error (.host none)⟩ rangeSum ∧
      (∀ mentioned ∈ rangeSum.footprint, Text.upper mentioned ≠ Text.upper "d4") ∧
        eval ⟨.builtins, (Table.empty.set "d4" (.text "x")).source⟩ rangeSum =
          eval ⟨.builtins, Table.empty.source⟩ rangeSum := by
  have hagree : ∀ id ∈ rangeSum.footprint, (.ok .blank : Except Failure Value) =
      if id ∈ rangeSum.footprint then .ok .blank else .error (.host none) := by
    intro id hid
    rw [if_pos hid]
  have hother : ∀ mentioned ∈ rangeSum.footprint, Text.upper mentioned ≠ Text.upper "d4" := by
    decide +kernel
  exact ⟨hagree, (eval_reads_footprint .builtins rangeSum).1 _ _ hagree, hother,
    (eval_reads_footprint .builtins rangeSum).2 Table.empty "d4" (.text "x") hother⟩

end Environment
end CellCalc

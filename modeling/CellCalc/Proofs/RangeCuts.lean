import Mathlib.Algebra.BigOperators.Group.List.Basic
import Mathlib.Data.List.Perm.Basic
import CellCalc.Proofs.Aggregates
import CellCalc.Proofs.EvaluationLog
import CellCalc.Proofs.Extremes
import CellCalc.Proofs.Rectangles

/-!
# RangeCuts — aggregates over a range that is cut in two

A rectangle may be cut between two rows or between two columns. Between two rows the cells of one
part follow those of the other; between two columns each row is cut, so that the cells of the whole
are those of the parts in another order. An aggregate sees the numbers of these cells. Counting and
adding up integers do not depend on their order, and neither does the exact value of the greatest
and the least of them, as long as each of them is a number.

* `Rectangle.Cut` — two rectangles that make up a third one.
* `Rectangle.Cut.ids_perm` — the cells of the whole are those of the parts.
* `FormulaFunction.total_ints`, `Number.Tops.value?_eq` — sums and extremes in any order.
* `Environment.aggregates_of_cut` — formulas over the whole and over its parts.
-/

namespace CellCalc

/-! ## Cuts -/

namespace Rectangle

/-- The number of the first column. -/
def left (r : Rectangle) : Nat := min r.start.columnNumber r.stop.columnNumber

/-- The number of the last column. -/
def right (r : Rectangle) : Nat := max r.start.columnNumber r.stop.columnNumber

/-- The number of the first row. -/
def top (r : Rectangle) : Nat := min r.start.row r.stop.row

/-- The number of the last row. -/
def bottom (r : Rectangle) : Nat := max r.start.row r.stop.row

theorem left_le_right (r : Rectangle) : r.left ≤ r.right := min_le_max

theorem top_le_bottom (r : Rectangle) : r.top ≤ r.bottom := min_le_max

theorem columns_eq (r : Rectangle) : r.columns = List.range' r.left (r.right - r.left + 1) := rfl

theorem rows_eq (r : Rectangle) : r.rows = List.range' r.top (r.bottom - r.top + 1) := rfl

/-- Two rectangles make up a third one: they meet between two of its rows or between two of its
columns. It does not matter which corners they are given by, nor which of the two comes first. -/
inductive Cut (whole : Rectangle) : Rectangle → Rectangle → Prop
  | rows {p q : Rectangle} : p.left = whole.left → p.right = whole.right → q.left = whole.left →
      q.right = whole.right → p.top = whole.top → q.top = p.bottom + 1 →
      q.bottom = whole.bottom → Cut whole p q
  | columns {p q : Rectangle} : p.top = whole.top → p.bottom = whole.bottom → q.top = whole.top →
      q.bottom = whole.bottom → p.left = whole.left → q.left = p.right + 1 →
      q.right = whole.right → Cut whole p q
  | swap {p q : Rectangle} : Cut whole q p → Cut whole p q

theorem range'_cut {first middle last : Nat} (h : first ≤ middle) (h' : middle + 1 ≤ last) :
    List.range' first (last - first + 1) =
      List.range' first (middle - first + 1) ++
        List.range' (middle + 1) (last - (middle + 1) + 1) := by
  have hstart : middle + 1 = first + (middle - first + 1) := by omega
  have hlength : last - first + 1 = (middle - first + 1) + (last - (middle + 1) + 1) := by omega
  calc
    List.range' first (last - first + 1)
        = List.range' first ((middle - first + 1) + (last - (middle + 1) + 1)) := by rw [hlength]
    _ = List.range' first (middle - first + 1) ++
          List.range' (first + (middle - first + 1)) (last - (middle + 1) + 1) := by
        simp [List.range'_append_1]
    _ = _ := by rw [← hstart]

theorem flatten_ids (r : Rectangle) :
    r.ids.flatten = r.rows.flatMap fun row => r.columns.map fun column =>
      Address.text column row := by
  simp [ids, List.flatMap_def]

/-- The cells of the whole are those of its parts, in some order. -/
theorem Cut.ids_perm {whole p q : Rectangle} (h : whole.Cut p q) :
    whole.ids.flatten.Perm (p.ids.flatten ++ q.ids.flatten) := by
  induction h with
  | @rows p q hpl hpr hql hqr htop hmeet hbottom =>
      -- the rows of one part follow those of the other
      have hcolumns : p.columns = whole.columns ∧ q.columns = whole.columns := by
        simp [columns_eq, hpl, hpr, hql, hqr]
      have hrows : whole.rows = p.rows ++ q.rows := by
        have hp := p.top_le_bottom
        have hq := q.top_le_bottom
        simp only [rows_eq, ← htop, ← hbottom, hmeet]
        exact range'_cut hp (hmeet ▸ hq)
      simp [flatten_ids, hcolumns, hrows]
  | @columns p q hpt hpb hqt hqb hleft hmeet hright =>
      -- each row is cut, so the parts of the rows change places
      have hrows : p.rows = whole.rows ∧ q.rows = whole.rows := by
        simp [rows_eq, hpt, hpb, hqt, hqb]
      have hcolumns : whole.columns = p.columns ++ q.columns := by
        have hp := p.left_le_right
        have hq := q.left_le_right
        simp only [columns_eq, ← hleft, ← hright, hmeet]
        exact range'_cut hp (hmeet ▸ hq)
      simp only [flatten_ids, hrows, hcolumns, List.map_append]
      exact (List.flatMap_append_perm _ _ _).symm
  | swap _ ih => exact ih.trans List.perm_append_comm

/-- The corners of the rectangle are written like this, whichever two of them they are. -/
def HasCorners (r : Rectangle) (start stop : Text) : Prop :=
  Address.ofText start = .ok (some r.start) ∧ Address.ofText stop = .ok (some r.stop)

instance (r : Rectangle) (start stop : Text) : Decidable (r.HasCorners start stop) :=
  inferInstanceAs (Decidable (_ ∧ _))

theorem HasCorners.rangeIds_eq {r : Rectangle} {start stop : Text} (h : r.HasCorners start stop) :
    rangeIds start stop = .ok r.ids :=
  rangeIds_of_ofText h.1 h.2

theorem HasCorners.cellsBetween_eq {r : Rectangle} {start stop : Text}
    (h : r.HasCorners start stop) : Expr.cellsBetween start stop = r.ids.flatten :=
  Expr.cellsBetween_of_ok h.rangeIds_eq

end Rectangle

/-! ## Values of a range -/

namespace Value

/-- A blank, a truth value or an integer. -/
def IsWhole : Value → Prop
  | blank | bool _ | number (.int _) => True
  | _ => False

instance : DecidablePred IsWhole
  | blank | bool _ | number (.int _) => isTrue trivial
  | number (.double _) | text _ | list _ => isFalse id

theorem IsWhole.flatten_eq {v : Value} (h : v.IsWhole) : v.flatten = [v] := by
  cases v with
  | list items => exact h.elim
  | _ => rfl

theorem IsWhole.exists_int {v : Value} (h : v.IsWhole) : ∃ n, v.number? = some (.int n) := by
  cases v with
  | blank => exact ⟨0, rfl⟩
  | bool b => exact ⟨_, rfl⟩
  | number n =>
      cases n with
      | int n => exact ⟨n, rfl⟩
      | double x => exact h.elim
  | text t => exact h.elim
  | list items => exact h.elim

/-- The numbers in the values of several cells. -/
def numbersOf (value : Text → Value) (cells : List Text) : List Number :=
  (cells.flatMap fun id => (value id).flatten).filterMap number?

theorem numbersOf_append (value : Text → Value) (cells cells' : List Text) :
    numbersOf value (cells ++ cells') = numbersOf value cells ++ numbersOf value cells' := by
  simp [numbersOf]

theorem numbersOf_perm (value : Text → Value) {cells cells' : List Text}
    (h : cells.Perm cells') : (numbersOf value cells).Perm (numbersOf value cells') :=
  (h.flatMap_right _).filterMap _

theorem exists_ints_of_isWhole {value : Text → Value} {cells : List Text}
    (h : ∀ id ∈ cells, (value id).IsWhole) : ∃ ns : List Int, numbersOf value cells = ns.map .int := by
  induction cells with
  | nil => exact ⟨[], rfl⟩
  | cons id rest ih =>
      rcases List.forall_mem_cons.1 h with ⟨hid, hrest⟩
      rcases hid.exists_int with ⟨n, hn⟩
      rcases ih hrest with ⟨ns, hns⟩
      refine ⟨n :: ns, ?_⟩
      simpa [numbersOf, hid.flatten_eq, hn] using hns

theorem flatten_ofRows (rows : List (List Value)) :
    (ofRows rows).flatten = rows.flatten.flatMap flatten := by
  rw [ofRows, flatten]
  induction rows with
  | nil => rfl
  | cons row rest ih => simp [flattenAll, flatten, ih, flattenAll_eq_flatMap row]

theorem flatten_grid (value : Text → Value) (ids : List (List Text)) :
    (ofRows (ids.map (·.map value))).flatten = ids.flatten.flatMap fun id => (value id).flatten := by
  simp [flatten_ofRows, ← List.map_flatten, List.flatMap_map]

end Value

/-! ## Aggregates in any order -/

namespace Number

variable {le : ExactValue → ExactValue → Prop} {ns ms : List Number} {n m : Number}

theorem FirstTop.mem (h : FirstTop le ns n) : n ∈ ns := by
  rcases h with ⟨before, after, rfl, -⟩
  simp

/-- Of numbers in either order the best ones have one exact value. -/
theorem FirstTop.value?_eq (hantisymm : ∀ {x y}, le x y → le y x → x = y) (hperm : ns.Perm ms)
    (hn : FirstTop le ns n) (hm : FirstTop le ms m) :
    ∃ x, n.value? = some x ∧ m.value? = some x := by
  have hnMem : n ∈ ms := hperm.mem_iff.1 hn.mem
  have hmMem : m ∈ ns := hperm.mem_iff.2 hm.mem
  rcases hn with ⟨-, -, -, ⟨x, hx, hxTop⟩, -⟩
  rcases hm with ⟨-, -, -, ⟨y, hy, hyTop⟩, -⟩
  have hxy : x = y := hantisymm (hyTop n hnMem x hx) (hxTop m hmMem y hy)
  exact ⟨x, hx, hxy ▸ hy⟩

/-- If each of several numbers is one, there is a first of the best ones. -/
theorem exists_best {better : Number → Number → Bool} (h : Compares better le) (hne : ns ≠ [])
    (hnumbers : ∀ n ∈ ns, n.isNaN = false) :
    ∃ n, FormulaFunction.best? better ns = some n ∧ FirstTop le ns n := by
  cases ns with
  | nil => exact (hne rfl).elim
  | cons first rest =>
      have hvalue : ∃ x, first.value? = some x := by
        apply Option.ne_none_iff_exists'.1
        intro hnone
        have hnan := value?_eq_none_iff.1 hnone
        simp [hnumbers first (by simp)] at hnan
      rcases hvalue with ⟨x, hx⟩
      exact ⟨_, rfl, (firstTop_singleton h hx).foldl h rest⟩

end Number

namespace FormulaFunction

/-- Integers add up to their sum. -/
theorem foldlM_add_ints (ns : List Int) (start : Int) :
    (ns.map Number.int).foldlM Number.add (.int start) = .ok (.int (start + ns.sum)) := by
  induction ns generalizing start with
  | nil => simp [pure, Except.pure]
  | cons n rest ih =>
      have hstep : Number.add (.int start) (.int n) = .ok (.int (start + n)) := rfl
      simp [hstep, bind, Except.bind, ih, Int.add_assoc]

theorem total_ints (ns : List Int) : total (ns.map .int) = .ok (.int ns.sum) := by
  simpa [total] using foldlM_add_ints ns 0

theorem sum_of_ints {args : List Value} {ns : List Int} (h : numbers args = .ok (ns.map .int)) :
    sum args = .ok (.number (.int ns.sum)) := by
  simp [sum, h, total_ints, bind, Except.bind, pure, Except.pure]

theorem count_of_numbers {args : List Value} {ns : List Number} (h : numbers args = .ok ns) :
    count args = .ok (.number (.int ns.length)) := by
  simp [count, h, bind, Except.bind, pure, Except.pure]

theorem extremum_of_numbers {better : Number → Number → Bool} {args : List Value}
    {ns : List Number} (h : numbers args = .ok ns) :
    extremum better args = .ok ((best? better ns).elim (.text Value.errorText) .number) := by
  simp [extremum, h, bind, Except.bind, pure, Except.pure]

/-- Two extremes agree: both are numbers of one exact value, or both are the in-band error. -/
inductive Agree : Value → Value → Prop
  | numbers {n m : Number} {x : ExactValue} : n.value? = some x → m.value? = some x →
      Agree (.number n) (.number m)
  | errors : Agree (.text Value.errorText) (.text Value.errorText)

/-- The extremes of the same numbers in another order agree. -/
theorem extremum_agree {better : Number → Number → Bool} {le : ExactValue → ExactValue → Prop}
    (h : Number.Compares better le) (hantisymm : ∀ {x y}, le x y → le y x → x = y)
    {args args' : List Value} {ns ns' : List Number} (hargs : numbers args = .ok ns)
    (hargs' : numbers args' = .ok ns') (hperm : ns.Perm ns')
    (hnumbers : ∀ n ∈ ns, n.isNaN = false) :
    ∃ v w, extremum better args = .ok v ∧ extremum better args' = .ok w ∧ Agree v w := by
  refine ⟨_, _, extremum_of_numbers hargs, extremum_of_numbers hargs', ?_⟩
  by_cases hnone : ns = []
  · subst hnone
    rw [← hperm.nil_eq]
    exact .errors
  · have hnone' : ns' ≠ [] := fun h' => hnone (by simpa [h'] using hperm)
    rcases Number.exists_best h hnone hnumbers with ⟨n, hn, hfirst⟩
    rcases Number.exists_best h hnone' fun m hm => hnumbers m (hperm.mem_iff.2 hm) with
      ⟨m, hm, hfirst'⟩
    rcases hfirst.value?_eq hantisymm hperm hfirst' with ⟨x, hx, hx'⟩
    simp only [hn, hm]
    exact .numbers hx hx'

end FormulaFunction

/-! ## Aggregates over a cut -/

/-- The values of the cells of a rectangle, row by row. -/
def Rectangle.values (value : Text → Value) (r : Rectangle) : Value :=
  .ofRows (r.ids.map (·.map value))

namespace FormulaFunction

/-- The numbers that an aggregate sees in several rectangles are those of their cells. -/
theorem numbers_values (value : Text → Value) (rs : List Rectangle) :
    numbers (rs.map (·.values value)) =
      .ok (Value.numbersOf value (rs.flatMap (·.ids.flatten))) := by
  simp only [FormulaFunction.numbers_eq, Value.numbersOf, Value.flattenAll_eq_flatMap,
    List.flatMap_map, List.flatMap_assoc, Rectangle.values, Value.flatten_grid]

theorem numbers_one (value : Text → Value) (r : Rectangle) :
    numbers [r.values value] = .ok (Value.numbersOf value r.ids.flatten) := by
  simpa using numbers_values value [r]

theorem numbers_two (value : Text → Value) (p q : Rectangle) :
    numbers [p.values value, q.values value] =
      .ok (Value.numbersOf value (p.ids.flatten ++ q.ids.flatten)) := by
  simpa using numbers_values value [p, q]

section Cut

variable {whole p q : Rectangle} {value : Text → Value}

theorem count_of_cut (hcut : whole.Cut p q) (value : Text → Value) :
    ∃ m n : Nat, count [p.values value] = .ok (.number (.int m)) ∧
      count [q.values value] = .ok (.number (.int n)) ∧
      count [whole.values value] = .ok (.number (.int (m + n))) ∧
      count [p.values value, q.values value] = .ok (.number (.int (m + n))) := by
  have hlength : (Value.numbersOf value whole.ids.flatten).length =
      (Value.numbersOf value p.ids.flatten).length +
        (Value.numbersOf value q.ids.flatten).length := by
    simpa [Value.numbersOf_append] using (Value.numbersOf_perm value hcut.ids_perm).length_eq
  refine ⟨_, _, count_of_numbers (numbers_one value p), count_of_numbers (numbers_one value q),
    ?_, ?_⟩
  · simp [count_of_numbers (numbers_one value whole), hlength]
  · simp [count_of_numbers (numbers_two value p q), Value.numbersOf_append]

theorem sum_of_cut (hcut : whole.Cut p q)
    (hvalues : ∀ id ∈ whole.ids.flatten, (value id).IsWhole) :
    ∃ m n : Int, sum [p.values value] = .ok (.number (.int m)) ∧
      sum [q.values value] = .ok (.number (.int n)) ∧
      sum [whole.values value] = .ok (.number (.int (m + n))) := by
  have hcells := hcut.ids_perm
  rcases Value.exists_ints_of_isWhole hvalues with ⟨ns, hns⟩
  have hparts : ∀ id ∈ p.ids.flatten ++ q.ids.flatten, (value id).IsWhole :=
    fun id hid => hvalues id (hcells.mem_iff.2 hid)
  rcases Value.exists_ints_of_isWhole (List.forall_mem_append.1 hparts).1 with ⟨ps, hps⟩
  rcases Value.exists_ints_of_isWhole (List.forall_mem_append.1 hparts).2 with ⟨qs, hqs⟩
  -- the integers of the whole are those of the parts, in some order
  have hperm : (ns.map Number.int).Perm ((ps ++ qs).map Number.int) := by
    simpa [Value.numbersOf_append, hns, hps, hqs] using Value.numbersOf_perm value hcells
  have hsum : ns.sum = ps.sum + qs.sum := by
    have hints : ns.Perm (ps ++ qs) := (List.map_perm_map_iff fun _ _ => Number.int.inj).1 hperm
    simpa using hints.sum_eq
  refine ⟨ps.sum, qs.sum, sum_of_ints ?_, sum_of_ints ?_, hsum ▸ sum_of_ints ?_⟩
  · simp [numbers_one, hps]
  · simp [numbers_one, hqs]
  · simp [numbers_one, hns]

theorem extremum_of_cut {better : Number → Number → Bool} {le : ExactValue → ExactValue → Prop}
    (h : Number.Compares better le) (hantisymm : ∀ {x y}, le x y → le y x → x = y)
    (hcut : whole.Cut p q)
    (hvalues : ∀ id ∈ whole.ids.flatten, ∀ v ∈ (value id).flatten,
      v.number? ≠ some (.double .nan)) :
    ∃ v w, extremum better [whole.values value] = .ok v ∧
      extremum better [p.values value, q.values value] = .ok w ∧ Agree v w := by
  apply extremum_agree h hantisymm (numbers_one value whole) (numbers_two value p q)
  · exact Value.numbersOf_perm value hcut.ids_perm
  · intro n hn
    rcases List.mem_filterMap.1 hn with ⟨v, hv, hnumber⟩
    rcases List.mem_flatMap.1 hv with ⟨id, hid, hmem⟩
    have hother := hvalues id hid v hmem
    rw [hnumber] at hother
    cases n with
    | int n => rfl
    | double x => cases x <;> simp_all [Number.isNaN, Double.isNaN]

end Cut

end FormulaFunction

/-! ## Formulas over ranges -/

namespace Environment

open FormulaFunction

variable {env : Environment} {cell : Text → Except Failure Value} {value : Text → Value}

theorem outcome_eval_range {r : Rectangle} {start stop : Text} (h : r.HasCorners start stop)
    (hcells : ∀ id ∈ r.ids.flatten, cell id = .ok (value id)) (functions) :
    (eval ⟨functions, .ofCells cell⟩ (.range start stop)).outcome = .ok (r.values value) := by
  have hread : CellSource.readRange cell start stop = .ok (r.ids.map (·.map value)) := by
    rw [CellSource.readRange, h.rangeIds_eq]
    apply mapM_eq_ok_map
    intro row hrow
    apply mapM_eq_ok_map
    intro id hid
    exact hcells id (List.mem_flatten_of_mem hrow hid)
  rw [eval]
  change Value.ofRows <$> CellSource.readRange cell start stop = _
  rw [hread]
  rfl

/-- Expressions that have values one by one have them together. -/
theorem outcome_evalAll {es : List Expr} {vs : List Value}
    (h : List.Forall₂ (fun e v => (env.eval e).outcome = .ok v) es vs) :
    (env.evalAll es).outcome = .ok vs := by
  induction h with
  | nil => rfl
  | @cons e v es vs hv _ ih =>
      rw [evalAll, Trace.bind_def, Trace.outcome_bind, hv]
      change ((env.evalAll es).bind _).outcome = _
      rw [Trace.outcome_bind, ih]
      rfl

theorem outcome_eval_call_of_find? {name : Text} {f : FormulaFunction}
    (hname : env.functions.find? name = some f) {arguments : List Expr} {values : List Value}
    (h : List.Forall₂ (fun e v => (env.eval e).outcome = .ok v) arguments values) :
    (env.eval (.call name arguments)).outcome = f values := by
  rw [outcome_eval_call (outcome_evalAll h), apply, hname]
  rfl

/-- A range that is cut in two between rows or between columns, with any two opposite corners
written for each rectangle, and a source that reads ranges cell by cell and has a value for each
cell of this one. The count over the whole is the sum of the counts over the parts, and the count
over both parts together. If every cell is a blank, a truth value or an integer, the sum over the
whole is the exact sum of those over the parts. If no cell is read as something that is not a
number, the greatest and the least over the whole have the exact values of those over both parts
together, unless there is no number in either. -/
theorem aggregates_of_cut {whole p q : Rectangle} (hcut : whole.Cut p q)
    {start stop pStart pStop qStart qStop : Text} (hwhole : whole.HasCorners start stop)
    (hp : p.HasCorners pStart pStop) (hq : q.HasCorners qStart qStop)
    (hcells : ∀ id ∈ Expr.cellsBetween start stop, cell id = .ok (value id)) :
    let call (name : Text) (ranges : List Expr) : Except Failure Value :=
      (eval ⟨.builtins, .ofCells cell⟩ (.call name ranges)).outcome
    (∃ m n : Nat, call "COUNT" [.range pStart pStop] = .ok (.number (.int m)) ∧
      call "COUNT" [.range qStart qStop] = .ok (.number (.int n)) ∧
      call "COUNT" [.range start stop] = .ok (.number (.int (m + n))) ∧
      call "COUNT" [.range pStart pStop, .range qStart qStop] = .ok (.number (.int (m + n)))) ∧
    ((∀ id ∈ Expr.cellsBetween start stop, (value id).IsWhole) →
      ∃ m n : Int, call "SUM" [.range pStart pStop] = .ok (.number (.int m)) ∧
        call "SUM" [.range qStart qStop] = .ok (.number (.int n)) ∧
        call "SUM" [.range start stop] = .ok (.number (.int (m + n)))) ∧
    ((∀ id ∈ Expr.cellsBetween start stop, ∀ v ∈ (value id).flatten,
        v.number? ≠ some (.double .nan)) →
      ∀ name ∈ (["MAX", "MIN"] : List Text), ∃ v w, call name [.range start stop] = .ok v ∧
        call name [.range pStart pStop, .range qStart qStop] = .ok w ∧ Agree v w) := by
  intro call
  rw [hwhole.cellsBetween_eq] at hcells ⊢
  have hparts : ∀ id ∈ p.ids.flatten ++ q.ids.flatten, cell id = .ok (value id) :=
    fun id hid => hcells id (hcut.ids_perm.mem_iff.2 hid)
  -- each range has the values of its rectangle
  have hwholeValues := outcome_eval_range hwhole hcells .builtins
  have hpValues := outcome_eval_range hp (List.forall_mem_append.1 hparts).1 .builtins
  have hqValues := outcome_eval_range hq (List.forall_mem_append.1 hparts).2 .builtins
  have hoverWhole {name : Text} {f : FormulaFunction} (h : Registry.builtins.find? name = some f) :
      call name [.range start stop] = f [whole.values value] :=
    outcome_eval_call_of_find? h (.cons hwholeValues .nil)
  have hoverP {name : Text} {f : FormulaFunction} (h : Registry.builtins.find? name = some f) :
      call name [.range pStart pStop] = f [p.values value] :=
    outcome_eval_call_of_find? h (.cons hpValues .nil)
  have hoverQ {name : Text} {f : FormulaFunction} (h : Registry.builtins.find? name = some f) :
      call name [.range qStart qStop] = f [q.values value] :=
    outcome_eval_call_of_find? h (.cons hqValues .nil)
  have hoverBoth {name : Text} {f : FormulaFunction} (h : Registry.builtins.find? name = some f) :
      call name [.range pStart pStop, .range qStart qStop] = f [p.values value, q.values value] :=
    outcome_eval_call_of_find? h (.cons hpValues (.cons hqValues .nil))
  refine ⟨?_, fun hints => ?_, fun hnumbers name hname => ?_⟩
  · have hcount : Registry.builtins.find? "COUNT" = some count := rfl
    rw [hoverP hcount, hoverQ hcount, hoverWhole hcount, hoverBoth hcount]
    exact count_of_cut hcut value
  · have hsum : Registry.builtins.find? "SUM" = some sum := rfl
    rw [hoverP hsum, hoverQ hsum, hoverWhole hsum]
    exact sum_of_cut hcut hints
  · have hextremum : ∃ better le, Registry.builtins.find? name = some (extremum better) ∧
        Number.Compares better le ∧ ∀ {x y}, le x y → le y x → x = y := by
      simp only [List.mem_cons, List.not_mem_nil, or_false] at hname
      rcases hname with rfl | rfl
      · exact ⟨_, _, rfl, Number.compares_greatest, fun hxy hyx => le_antisymm hxy hyx⟩
      · exact ⟨_, _, rfl, Number.compares_least, fun hxy hyx => le_antisymm hyx hxy⟩
    rcases hextremum with ⟨better, le, hfind, hcompares, hantisymm⟩
    rw [hoverWhole hfind, hoverBoth hfind]
    exact extremum_of_cut hcompares hantisymm hcut hnumbers

/-- Three columns cut in front of the last one. Row by row the integer one is found before the
double of the same value, and part by part it is the other way. With a truth value in the place of
the double, the cells add up to the sum of both parts. -/
theorem aggregates_of_cut_before_last_column :
    let one : Number := .double (.finite false ⟨1023 * 2 ^ 52, by decide⟩)
    let value (second : Value) (id : Text) : Value :=
      if id = "C1" then .number (.int 1) else if id = "A2" then second else .blank
    let cell (second : Value) (id : Text) : Except Failure Value := .ok (value second id)
    let call (second : Value) (name : Text) (ranges : List Expr) : Except Failure Value :=
      (eval ⟨.builtins, .ofCells (cell second)⟩ (.call name ranges)).outcome
    let whole : Rectangle := ⟨⟨"C", 1⟩, ⟨"A", 2⟩⟩
    let p : Rectangle := ⟨⟨"B", 2⟩, ⟨"A", 1⟩⟩
    let q : Rectangle := ⟨⟨"C", 1⟩, ⟨"C", 2⟩⟩
    whole.Cut p q ∧ whole.HasCorners "c1" "A02" ∧ p.HasCorners "B2" "a1" ∧
      q.HasCorners "C1" "C2" ∧
      (∀ id ∈ Expr.cellsBetween "c1" "A02", (value (.bool true) id).IsWhole) ∧
      (∃ m n : Int, call (.bool true) "SUM" [.range "B2" "a1"] = .ok (.number (.int m)) ∧
        call (.bool true) "SUM" [.range "C1" "C2"] = .ok (.number (.int n)) ∧
        call (.bool true) "SUM" [.range "c1" "A02"] = .ok (.number (.int (m + n)))) ∧
      (∀ id ∈ Expr.cellsBetween "c1" "A02", ∀ v ∈ (value (.number one) id).flatten,
        v.number? ≠ some (.double .nan)) ∧
      call (.number one) "MAX" [.range "c1" "A02"] = .ok (.number (.int 1)) ∧
      call (.number one) "MAX" [.range "B2" "a1", .range "C1" "C2"] = .ok (.number one) ∧
      Agree (.number (.int 1)) (.number one) := by
  intro one value cell call whole p q
  have hcut : whole.Cut p q := by
    apply Rectangle.Cut.columns <;> decide
  have hwhole : whole.HasCorners "c1" "A02" := by decide +kernel
  have hp : p.HasCorners "B2" "a1" := by decide +kernel
  have hq : q.HasCorners "C1" "C2" := by decide +kernel
  have hints : ∀ id ∈ Expr.cellsBetween "c1" "A02", (value (.bool true) id).IsWhole := by
    decide +kernel
  have hnumbers : ∀ id ∈ Expr.cellsBetween "c1" "A02", ∀ v ∈ (value (.number one) id).flatten,
      v.number? ≠ some (.double .nan) := by
    decide +kernel
  have hmax : call (.number one) "MAX" [.range "c1" "A02"] = .ok (.number (.int 1)) := by
    decide +kernel
  have hmax' : call (.number one) "MAX" [.range "B2" "a1", .range "C1" "C2"] =
      .ok (.number one) := by
    decide +kernel
  have hcells (second : Value) : ∀ id ∈ Expr.cellsBetween "c1" "A02",
      cell second id = .ok (value second id) := fun _ _ => rfl
  rcases aggregates_of_cut hcut hwhole hp hq (hcells (.bool true)) with ⟨-, hsum, -⟩
  rcases aggregates_of_cut hcut hwhole hp hq (hcells (.number one)) with ⟨-, -, hextremes⟩
  rcases hextremes hnumbers "MAX" (by simp) with ⟨v, w, hv, hw, hagree⟩
  cases hmax.symm.trans hv
  cases hmax'.symm.trans hw
  exact ⟨hcut, hwhole, hp, hq, hints, hsum hints, hnumbers, hmax, hmax', hagree⟩

end Environment
end CellCalc

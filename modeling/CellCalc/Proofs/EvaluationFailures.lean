import CellCalc.Evaluation.Session
import CellCalc.Proofs.Failing
import CellCalc.Proofs.Rounding

/-!
# EvaluationFailures — where an evaluation fails, and why

An evaluation that fails does so at a part of its expression: a cell or a range that cannot be
read, an operation without a result, or a function that fails. Over the functions known from the
start and a store of cells only few causes are left: numbers that are too large, ids with too many
digits, a signaling NaN, an unknown operator and a range without valid corners.

* `Expr.Part` — the expressions inside an expression.
* `Environment.Fault`, `Environment.faulty_eval` — the part at which an evaluation fails.
* `Failure.OfNumbers`, `OfOperation`, `OfCells`, `OfRange` — what can be wrong with each kind of
  part; `arithmetic_failsOnly`, `Registry.builtins_failsOnly`, `Store.cell_failsOnly` and
  `Store.range_failsOnly` say that nothing else can.
* `Failure.OfExpr`, `Environment.eval_failsOnly` — the same for whole expressions.
-/

namespace CellCalc

/-! ## The part that fails -/

/-- The first expression is the second one or stands somewhere inside it. -/
inductive Expr.Part (part : Expr) : Expr → Prop
  | self : Part part part
  | left {operator : Text} {l r : Expr} : Part part l → Part part (.binary operator l r)
  | right {operator : Text} {l r : Expr} : Part part r → Part part (.binary operator l r)
  | argument {name : Text} {arguments : List Expr} {e : Expr} : e ∈ arguments → Part part e →
      Part part (.call name arguments)

namespace Environment

variable {env : Environment}

/-- The expression fails by itself, after its parts have been evaluated. -/
inductive Fault (env : Environment) (cause : Failure) : Expr → Prop
  | cell {id : Text} : env.source.cell id = .error cause → Fault env cause (.cell id)
  | range {start stop : Text} : env.source.range start stop = .error cause →
      Fault env cause (.range start stop)
  | operation {operator : Text} {left right : Expr} {v w : Value} :
      (env.eval left).outcome = .ok v → (env.eval right).outcome = .ok w →
        arithmetic operator v w = .error cause → Fault env cause (.binary operator left right)
  | function {name : Text} {f : FormulaFunction} {arguments : List Expr} {values : List Value} :
      env.functions.find? name = some f → (env.evalAll arguments).outcome = .ok values →
        f values = .error cause → Fault env cause (.call name arguments)

/-- Some part of the expression fails by itself for this cause. -/
def Faulty (env : Environment) (e : Expr) (cause : Failure) : Prop :=
  ∃ part : Expr, part.Part e ∧ env.Fault cause part

theorem Fault.faulty {e : Expr} {cause : Failure} (h : env.Fault cause e) : env.Faulty e cause :=
  ⟨e, .self, h⟩

mutual

/-- An evaluation fails only because some part of the expression fails by itself. -/
theorem faulty_eval : ∀ e : Expr, FailsOnly (env.Faulty e) (env.eval e).outcome
  | .constant v => by
      rw [eval]
      exact .ok
  | .text t => by
      rw [eval]
      exact .ok
  | .foreign name => by
      rw [eval]
      exact .ok
  | .cell id => by
      rw [eval]
      exact fun cause h => (Fault.cell h).faulty
  | .range start stop => by
      have hrange : FailsOnly (env.Faulty (.range start stop)) (env.source.range start stop) :=
        fun cause h => (Fault.range h).faulty
      rw [eval]
      exact hrange.map
  | .binary operator left right => by
      rw [eval]
      have hleft : FailsOnly (env.Faulty (.binary operator left right)) (env.eval left).outcome :=
        (faulty_eval left).mono fun cause ⟨part, hpart, h⟩ => ⟨part, .left hpart, h⟩
      have hright : FailsOnly (env.Faulty (.binary operator left right)) (env.eval right).outcome :=
        (faulty_eval right).mono fun cause ⟨part, hpart, h⟩ => ⟨part, .right hpart, h⟩
      -- with both operands at hand, what is left to fail is the operation
      refine hleft.bind_outcome fun v hv => hright.bind_outcome fun w hw => ?_
      exact fun cause h => (Fault.operation hv hw h).faulty
  | .call name arguments => by
      rw [eval]
      have hargs : FailsOnly (env.Faulty (.call name arguments)) (env.evalAll arguments).outcome :=
        (faulty_evalAll arguments).mono fun cause ⟨e, he, part, hpart, h⟩ =>
          ⟨part, .argument he hpart, h⟩
      refine hargs.bind_outcome fun values hvalues => ?_
      rw [apply]
      split
      · next f hf => exact fun cause h => (Fault.function hf hvalues h).faulty
      · exact .ok

theorem faulty_evalAll : ∀ es : List Expr,
    FailsOnly (fun cause => ∃ e ∈ es, env.Faulty e cause) (env.evalAll es).outcome
  | [] => by
      rw [evalAll]
      exact .ok
  | e :: rest => by
      rw [evalAll]
      have hfirst : FailsOnly (fun cause => ∃ e' ∈ e :: rest, env.Faulty e' cause)
          (env.eval e).outcome :=
        (faulty_eval e).mono fun cause h => ⟨e, List.mem_cons_self .., h⟩
      have hrest : FailsOnly (fun cause => ∃ e' ∈ e :: rest, env.Faulty e' cause)
          (env.evalAll rest).outcome :=
        (faulty_evalAll rest).mono fun cause ⟨e', he', h⟩ => ⟨e', List.mem_cons_of_mem e he', h⟩
      exact hfirst.bind_outcome fun _ _ => hrest.bind_outcome fun _ _ => .ok

end

end Environment

/-! ## Numbers -/

/-- What can be wrong with numbers: an integer or a quotient lies beyond the largest double, or an
integer is too long to be written. -/
inductive Failure.OfNumbers : Failure → Prop
  | integerBeyondDouble : OfNumbers .integerBeyondDouble
  | quotientBeyondDouble : OfNumbers .quotientBeyondDouble
  | tooLongToWrite : OfNumbers .tooLongToWrite

open Failure (OfNumbers)

namespace Number

theorem write_failsOnly (n : Number) : FailsOnly (· = .tooLongToWrite) n.write := by
  cases n with
  | double x => exact .ok
  | int i =>
      rw [write, Numeral.writeInteger]
      split
      · exact .ok
      · exact .error rfl

theorem toDouble_failsOnly (n : Number) : FailsOnly OfNumbers n.toDouble := by
  cases n with
  | double x => exact .ok
  | int i => exact .elim .integerBeyondDouble

/-- An operation on the doubles of two numbers fails only where one of them has none. -/
theorem doubles_failsOnly (rounded : Double → Double → Double) (a b : Number) :
    FailsOnly OfNumbers (do return double (rounded (← a.toDouble) (← b.toDouble))) :=
  a.toDouble_failsOnly.bind fun _ _ => b.toDouble_failsOnly.bind fun _ _ => .ok

theorem combine_failsOnly (onIntegers : Int → Int → Int) (rounded : Double → Double → Double)
    (a b : Number) : FailsOnly OfNumbers (combine onIntegers rounded a b) := by
  unfold combine
  split
  · exact .ok
  · exact doubles_failsOnly rounded a b

/-- The double of a number is zero just if the number is: no other integer is that small. -/
theorem isZero_of_toDouble {n : Number} {x : Double} (h : n.toDouble = .ok x) :
    x.isZero = n.isZero := by
  cases n with
  | double y =>
      obtain rfl := Except.ok.inj h
      rfl
  | int i =>
      rw [toDouble, Double.ofInt?, Double.finite?] at h
      split at h
      · next hrank =>
          obtain rfl := Except.ok.inj h
          rw [Bool.eq_iff_iff]
          simp [Double.isZero, isZero, Double.nearestRank_ones_eq_zero_iff]
      · cases h

theorem div_failsOnly (a : Number) {b : Number} (hb : b.isZero = false) :
    FailsOnly OfNumbers (a.div b) := by
  unfold div
  split
  · next i j =>
      have hj : j ≠ 0 := by
        rintro rfl
        cases hb
      rw [if_neg hj]
      cases Double.quotient? i j with
      | none => exact .error .quotientBeyondDouble
      | some x => exact .ok
  · refine (toDouble_failsOnly _).bind fun x _ => (toDouble_failsOnly _).bind fun y hy => ?_
    rw [isZero_of_toDouble hy, hb]
    exact .ok

end Number

/-! ## Values -/

namespace Value

mutual

theorem display_failsOnly : ∀ v : Value, FailsOnly (· = .tooLongToWrite) v.display
  | .blank => by
      rw [display]
      exact .ok
  | .bool true => by
      rw [display]
      exact .ok
  | .bool false => by
      rw [display]
      exact .ok
  | .number n => by
      rw [display]
      exact n.write_failsOnly
  | .text t => by
      rw [display]
      exact .ok
  | .list items => by
      rw [display]
      exact (displayAll_failsOnly items).bind fun _ _ => .ok

theorem displayAll_failsOnly : ∀ vs : List Value, FailsOnly (· = .tooLongToWrite) (displayAll vs)
  | [] => by
      rw [displayAll]
      exact .ok
  | v :: rest => by
      rw [displayAll]
      exact (display_failsOnly v).bind fun _ _ => (displayAll_failsOnly rest).bind fun _ _ => .ok

end

/-- A value without a number says so, unless it cannot be shown. -/
theorem toNumber_failsOnly (v : Value) :
    FailsOnly (fun cause => cause.kind = .coercion ∨ cause = .tooLongToWrite) v.toNumber := by
  unfold toNumber
  split
  · exact .ok
  · exact .ok
  · exact .ok
  · exact .ok
  · exact FailsOnly.map (.elim (Or.inl rfl))
  · next items =>
      have hshown : FailsOnly (fun cause => cause.kind = .coercion ∨ cause = .tooLongToWrite)
          (display (list items)) :=
        (display_failsOnly (list items)).mono fun cause h => Or.inr h
      exact hshown.bind fun shown _ => .error (Or.inl rfl)

theorem numbers_failsOnly (vs : List Value) : FailsOnly (· = .tooLongToWrite) (numbers vs) := by
  induction vs with
  | nil =>
      rw [numbers]
      exact .ok
  | cons v vs ih =>
      rw [numbers]
      split
      · exact ih.map
      · next cause hv =>
          -- a value without a number is skipped
          split
          · exact ih
          · next hkind => exact .error ((v.toNumber_failsOnly cause hv).resolve_left hkind)

end Value

/-! ## Operations -/

theorem operandNumbers_failsOnly (v w : Value) :
    FailsOnly (· = .tooLongToWrite) (operandNumbers v w) := by
  have hboth : FailsOnly (fun cause => cause.kind = .coercion ∨ cause = .tooLongToWrite)
      (do return (← v.toNumber, ← w.toNumber)) :=
    v.toNumber_failsOnly.bind fun _ _ => w.toNumber_failsOnly.bind fun _ _ => .ok
  unfold operandNumbers
  dsimp only
  split
  · exact .ok
  · next cause hfailed =>
      split
      · exact .ok
      · next hkind => exact .error ((hboth cause hfailed).resolve_left hkind)

/-- What can be wrong with an operation: its numbers are too large, or its operator is none of the
four. -/
inductive Failure.OfOperation (operator : Text) : Failure → Prop
  | numbers {cause : Failure} : cause.OfNumbers → OfOperation operator cause
  | operator : (∀ tier : Tier, operator ∉ tier.operators) →
      OfOperation operator (.unknownOperator operator)

open Failure (OfOperation)

theorem calculate_failsOnly (operator : Text) (a b : Number) :
    FailsOnly (OfOperation operator) (calculate operator a b) := by
  unfold calculate
  split
  · exact (Number.combine_failsOnly _ _ a b).map.mono fun _ => .numbers
  split
  · exact (Number.combine_failsOnly _ _ a b).map.mono fun _ => .numbers
  split
  · exact (Number.combine_failsOnly _ _ a b).map.mono fun _ => .numbers
  split
  · split
    · exact .ok
    · next hzero =>
        exact (a.div_failsOnly (by simpa using hzero)).map.mono fun _ => .numbers
  · next hplus hminus htimes hover =>
      refine .error (.operator ?_)
      intro tier
      cases tier with
      | sum => simp [Tier.operators, hplus, hminus]
      | product => simp [Tier.operators, htimes, hover]

theorem arithmetic_failsOnly (operator : Text) (v w : Value) :
    FailsOnly (OfOperation operator) (arithmetic operator v w) := by
  have hnumbers : FailsOnly (OfOperation operator) (operandNumbers v w) := by
    refine (operandNumbers_failsOnly v w).mono ?_
    rintro cause rfl
    exact .numbers .tooLongToWrite
  refine hnumbers.bind fun found _ => ?_
  cases found with
  | none => exact .ok
  | some pair => exact calculate_failsOnly operator pair.1 pair.2

/-! ## Functions -/

namespace FormulaFunction

theorem numbers_failsOnly (args : List Value) : FailsOnly OfNumbers (numbers args) := by
  refine (Value.numbers_failsOnly (Value.flattenAll args)).mono ?_
  rintro cause rfl
  exact .tooLongToWrite

theorem total_failsOnly (ns : List Number) : FailsOnly OfNumbers (total ns) :=
  FailsOnly.foldlM (Number.combine_failsOnly _ _) Number.zero ns

theorem sum_failsOnly (args : List Value) : FailsOnly OfNumbers (sum args) :=
  (numbers_failsOnly args).bind fun ns _ => (total_failsOnly ns).bind fun _ _ => .ok

theorem average_failsOnly (args : List Value) : FailsOnly OfNumbers (average args) := by
  refine (numbers_failsOnly args).bind fun ns _ => ?_
  split
  · exact .ok
  · next hsome =>
      -- there are numbers, so their count is not zero
      have hcount : (Number.int ns.length).isZero = false := by
        cases ns with
        | nil => exact absurd rfl hsome
        | cons n ns => rfl
      exact (total_failsOnly ns).bind fun n _ => (n.div_failsOnly hcount).bind fun _ _ => .ok

theorem count_failsOnly (args : List Value) : FailsOnly OfNumbers (count args) :=
  (numbers_failsOnly args).bind fun _ _ => .ok

theorem extremum_failsOnly (better : Number → Number → Bool) (args : List Value) :
    FailsOnly OfNumbers (extremum better args) :=
  (numbers_failsOnly args).bind fun _ _ => .ok

/-- The choice between two values never fails. -/
theorem choose_failsOnly (args : List Value) : FailsOnly (fun _ => False) (choose args) := by
  unfold choose
  split
  · exact .ok
  · exact .ok

end FormulaFunction

open FormulaFunction in
/-- A function known from the start fails only because its numbers are too large. -/
theorem Registry.builtins_failsOnly {name : Text} {f : FormulaFunction}
    (hf : builtins.find? name = some f) (args : List Value) : FailsOnly OfNumbers (f args) := by
  obtain ⟨own, hown⟩ : ∃ own, (own, f) ∈ FormulaFunction.builtins := by
    obtain ⟨before, after, hentries, -⟩ := List.lookup_eq_some_iff.1 hf
    have hmem : (Text.upper name, f) ∈ builtins.entries := by simp [hentries]
    simp only [builtins, ofList, List.mem_reverse, List.mem_map, Prod.mk.injEq] at hmem
    obtain ⟨⟨own, g⟩, hown, -, rfl⟩ := hmem
    exact ⟨own, hown⟩
  simp only [FormulaFunction.builtins, List.mem_cons, Prod.mk.injEq, List.not_mem_nil,
    or_false] at hown
  rcases hown with ⟨-, rfl⟩ | ⟨-, rfl⟩ | ⟨-, rfl⟩ | ⟨-, rfl⟩ | ⟨-, rfl⟩ | ⟨-, rfl⟩
  · exact sum_failsOnly args
  · exact average_failsOnly args
  · exact count_failsOnly args
  · exact extremum_failsOnly _ args
  · exact extremum_failsOnly _ args
  · exact (choose_failsOnly args).mono fun _ => False.elim

/-! ## Cells and ranges -/

/-- What can be wrong with a cell: its id has too many digits, or it holds a signaling NaN. -/
inductive Failure.OfCells : Failure → Prop
  | tooManyDigits (count : Nat) : OfCells (.tooManyDigits count)
  | signalingNaN : OfCells .signalingNaN

/-- What can be wrong with a range: one of its cells is not read, or its corners span none. -/
inductive Failure.OfRange (start stop : Text) : Failure → Prop
  | cells {cause : Failure} : cause.OfCells → OfRange start stop cause
  | corners {cause : Failure} : rangeIds start stop = .error cause →
      OfRange start stop .unresolvedRange

open Failure (OfCells OfRange)

namespace Address

/-- The row of a cell id has more digits than are read. -/
def LongRow (id : Text) : Prop :=
  Numeral.digitLimit < (id.dropWhile Char.isAlpha).length

instance (id : Text) : Decidable (LongRow id) :=
  inferInstanceAs (Decidable (_ < _))

theorem ofText_failsOnly (id : Text) :
    FailsOnly (fun cause => LongRow id ∧ cause.OfCells) (ofText id) := by
  unfold ofText
  dsimp only
  split
  · exact .ok
  split
  · next hlong => exact .error ⟨hlong, .tooManyDigits _⟩
  · exact .ok

theorem exists_of_isCellId {id : Text} {found : Option Address} (hid : isCellId id = true)
    (h : ofText id = .ok found) : ∃ a, found = some a := by
  unfold ofText at h
  rw [hid] at h
  dsimp only at h
  split at h
  · next hnot => cases hnot
  split at h
  · cases h
  · exact ⟨_, (Except.ok.inj h).symm⟩

end Address

/-- Two cell ids span a range unless the row of one has more digits than are read. -/
theorem rangeIds_failsOnly {start stop : Text} (hstart : isCellId start = true)
    (hstop : isCellId stop = true) :
    FailsOnly (fun _ => Address.LongRow start ∨ Address.LongRow stop) (rangeIds start stop) := by
  have hfirst : FailsOnly (fun _ => Address.LongRow start ∨ Address.LongRow stop)
      (Address.ofText start) :=
    (Address.ofText_failsOnly start).mono fun _ h => Or.inl h.1
  have hlast : FailsOnly (fun _ => Address.LongRow start ∨ Address.LongRow stop)
      (Address.ofText stop) :=
    (Address.ofText_failsOnly stop).mono fun _ h => Or.inr h.1
  refine hfirst.bind fun first hread => hlast.bind fun last hread' => ?_
  obtain ⟨a, rfl⟩ := Address.exists_of_isCellId hstart hread
  obtain ⟨b, rfl⟩ := Address.exists_of_isCellId hstop hread'
  exact .ok

theorem Entry.read_failsOnly (e : Entry) : FailsOnly OfCells e.read := by
  cases e with
  | decimal d =>
      cases d with
      | signalingNaN => exact .error .signalingNaN
      | finite d => exact .ok
      | infinite negative => exact .ok
      | quietNaN => exact .ok
  | plain v => exact .ok
  | moment date clock => exact .ok
  | date date => exact .ok
  | time clock => exact .ok
  | duration d => exact .ok

theorem Sheet.get_failsOnly (s : Sheet) (id : Text) : FailsOnly OfCells (s.get id) := by
  refine ((Address.ofText_failsOnly id).mono fun _ h => h.2).bind fun found _ => ?_
  cases found with
  | none => exact .ok
  | some a => exact .ok

theorem Worksheet.get_failsOnly {w : Worksheet} (h : w.Sound) (id : Text) :
    FailsOnly OfCells (w.get id) := by
  refine ((Address.ofText_failsOnly id).mono fun _ hcause => hcause.2).bind fun found _ => ?_
  cases found with
  | none => exact .ok
  | some a =>
      -- only the entry that is found can fail
      obtain ⟨found, hfound⟩ := h.exists_held a
      simp only [hfound]
      cases found with
      | none => exact .ok
      | some e => exact e.read_failsOnly

namespace Store

/-- The store holds cells: it is a table, a sheet or a sound worksheet. -/
def HoldsCells : Store → Prop
  | table _ | sheet _ => True
  | worksheet w => w.Sound
  | failing _ => False

/-- Every store reads a range cell by cell. -/
theorem range_eq (store : Store) (start stop : Text) :
    store.source.range start stop = CellSource.readRange store.source.cell start stop := by
  cases store <;> rfl

theorem cell_failsOnly {store : Store} (h : store.HoldsCells) (id : Text) :
    FailsOnly OfCells (store.source.cell id) := by
  cases store with
  | table t => exact .ok
  | sheet s => exact s.get_failsOnly id
  | worksheet w => exact Worksheet.get_failsOnly h id
  | failing message => cases h

theorem range_failsOnly {store : Store} (h : store.HoldsCells) (start stop : Text) :
    FailsOnly (OfRange start stop) (store.source.range start stop) := by
  rw [range_eq, CellSource.readRange]
  split
  · have hcells : ∀ id, FailsOnly (OfRange start stop) (store.source.cell id) := fun id =>
      (cell_failsOnly h id).mono fun _ => .cells
    exact .mapM fun row _ => .mapM fun id _ => hcells id
  · next cause hids => exact .error (.corners hids)

end Store

/-! ## Whole expressions -/

/-- What can be wrong with an expression over the functions known from the start and a store of
cells: numbers are too large, a cell is not read, the operator of an operation is none of the four,
or the corners of a range span none. -/
inductive Failure.OfExpr (e : Expr) : Failure → Prop
  | numbers {cause : Failure} : cause.OfNumbers → OfExpr e cause
  | cells {cause : Failure} : cause.OfCells → OfExpr e cause
  | operator {operator : Text} {left right : Expr} : (Expr.binary operator left right).Part e →
      (∀ tier : Tier, operator ∉ tier.operators) → OfExpr e (.unknownOperator operator)
  | corners {start stop : Text} {cause : Failure} : (Expr.range start stop).Part e →
      rangeIds start stop = .error cause → OfExpr e .unresolvedRange

theorem Environment.eval_failsOnly {store : Store} (hstore : store.HoldsCells) (e : Expr) :
    FailsOnly (Failure.OfExpr e) (eval ⟨.builtins, store.source⟩ e).outcome := by
  refine (faulty_eval e).mono ?_
  rintro cause ⟨part, hpart, hfault⟩
  cases hfault with
  | cell hcell => exact .cells (Store.cell_failsOnly hstore _ cause hcell)
  | range hrange =>
      cases Store.range_failsOnly hstore _ _ cause hrange with
      | cells hcells => exact .cells hcells
      | corners hids => exact .corners hpart hids
  | operation _ _ harithmetic =>
      cases arithmetic_failsOnly _ _ _ cause harithmetic with
      | numbers hnumbers => exact .numbers hnumbers
      | operator hnone => exact .operator hpart hnone
  | function hf _ hfailed => exact .numbers (Registry.builtins_failsOnly hf _ cause hfailed)

end CellCalc

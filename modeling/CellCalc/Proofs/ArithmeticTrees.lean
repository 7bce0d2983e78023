import CellCalc.Expr.Parser
import CellCalc.Proofs.Numberless

/-!
# ArithmeticTrees — what comes out of operations on operations

The in-band errors of arithmetic are texts without a number. So an operation on one of them has the
error for a missing number in turn, and no error is washed out further up in the tree: the value is
a number just if nothing went wrong anywhere below.

* `Expr.leaves`, `Expr.divisors` — the operands of a tree of operations, and what it divides by.
* `Value.CombinesTo`, `combinesTo_of_arithmetic` — the three values that an operation can have.
* `Environment.number?`, `Environment.IsZero` — the number of an expression.
* `Environment.isSome_number?_iff` — when the value of a tree has a number.
* `Environment.eval_arithmetic` — which of the three values a tree has.
-/

namespace CellCalc

/-! ## Trees of operations -/

namespace Expr

/-- The operators that have arithmetic. -/
def arithmeticOperators : List Text :=
  Tier.sum.operators ++ Tier.product.operators

/-- The operands of a tree of operations that are no operations themselves. -/
def leaves : Expr → List Expr
  | binary operator left right =>
      if operator ∈ arithmeticOperators then leaves left ++ leaves right
      else [binary operator left right]
  | e => [e]

/-- The right operands of the divisions in a tree of operations. -/
def divisors : Expr → List Expr
  | binary operator left right =>
      if operator ∈ arithmeticOperators then
        divisors left ++ divisors right ++ if operator = ['/'] then [right] else []
      else []
  | _ => []

end Expr

/-! ## One operation -/

namespace Value

/-- What an operation makes of two values: a number of their numbers, the error of a division by
zero, or the error for a missing number. -/
inductive CombinesTo (operator : Text) (v w : Value) : Value → Prop
  | number {m n : Number} (result : Number) : v.number? = some m → w.number? = some n →
      ¬(operator = ['/'] ∧ n.isZero = true) → CombinesTo operator v w (.number result)
  | byZero {m n : Number} : v.number? = some m → w.number? = some n → operator = ['/'] →
      n.isZero = true → CombinesTo operator v w divisionByZero
  | numberless : v.number? = none ∨ w.number? = none → CombinesTo operator v w notNumeric

/-- The in-band errors of arithmetic have no number. -/
theorem number?_divisionByZero : divisionByZero.number? = none := by decide +kernel

theorem number?_notNumeric : notNumeric.number? = none := by decide +kernel

theorem notNumeric_ne_divisionByZero : notNumeric ≠ divisionByZero := by decide

theorem exists_isZero_iff {w : Value} {n : Number} (h : w.number? = some n) :
    (∃ k, w.number? = some k ∧ k.isZero = true) ↔ n.isZero = true := by
  rw [h]
  simp

/-- What an operation makes has a number just if its operands have numbers and it does not divide
by zero. -/
theorem CombinesTo.isSome_number?_iff {operator : Text} {v w u : Value}
    (h : CombinesTo operator v w u) :
    u.number?.isSome = true ↔ v.number?.isSome = true ∧ w.number?.isSome = true ∧
      (operator = ['/'] → ¬∃ n, w.number? = some n ∧ n.isZero = true) := by
  cases h with
  | number result hm hn hnot =>
      refine iff_of_true rfl ⟨by simp [hm], by simp [hn], fun hover hzero => ?_⟩
      exact hnot ⟨hover, (exists_isZero_iff hn).1 hzero⟩
  | byZero hm hn hover hzero => simp [number?_divisionByZero, hm, hn, hover, hzero]
  | numberless hnone =>
      rcases hnone with hnone | hnone <;> simp [number?_notNumeric, hnone]

/-- The error of a division by zero is that of the operation itself. -/
theorem CombinesTo.eq_divisionByZero_iff {operator : Text} {v w u : Value}
    (h : CombinesTo operator v w u) :
    u = divisionByZero ↔ operator = ['/'] ∧ v.number?.isSome = true ∧
      ∃ n, w.number? = some n ∧ n.isZero = true := by
  cases h with
  | number result hm hn hnot =>
      refine iff_of_false (by simp [divisionByZero]) ?_
      rintro ⟨hover, -, hzero⟩
      exact hnot ⟨hover, (exists_isZero_iff hn).1 hzero⟩
  | byZero hm hn hover hzero => exact iff_of_true rfl ⟨hover, by simp [hm], _, hn, hzero⟩
  | numberless hnone =>
      refine iff_of_false notNumeric_ne_divisionByZero ?_
      rintro ⟨-, hv, n, hw, -⟩
      rcases hnone with hnone | hnone <;> simp [hnone] at hv hw

/-- Any other error is that for a missing number. -/
theorem CombinesTo.cases_value {operator : Text} {v w u : Value} (h : CombinesTo operator v w u) :
    (∃ n, u = .number n) ∧ u.number?.isSome = true ∨
      (u = divisionByZero ∨ u = notNumeric) ∧ u.number? = none := by
  cases h with
  | number result => exact Or.inl ⟨⟨result, rfl⟩, rfl⟩
  | byZero => exact Or.inr ⟨Or.inl rfl, number?_divisionByZero⟩
  | numberless => exact Or.inr ⟨Or.inr rfl, number?_notNumeric⟩

end Value

open Value (CombinesTo)

/-- An operation on two numbers has a number, unless it divides by zero. -/
theorem exists_number_of_calculate {operator : Text} {m n : Number} {u : Value}
    (h : calculate operator m n = .ok u) :
    (operator = ['/'] ∧ n.isZero = true ∧ u = Value.divisionByZero) ∨
      (¬(operator = ['/'] ∧ n.isZero = true) ∧ ∃ result, u = .number result) := by
  have hresult : ∀ x : Except Failure Number, Value.number <$> x = .ok u →
      ∃ result, u = .number result := by
    rintro (cause | result) hx
    · cases hx
    · exact ⟨result, (Except.ok.inj hx).symm⟩
  unfold calculate at h
  split at h
  · next hplus => exact Or.inr ⟨by simp [hplus], hresult _ h⟩
  split at h
  · next hminus => exact Or.inr ⟨by simp [hminus], hresult _ h⟩
  split at h
  · next htimes => exact Or.inr ⟨by simp [htimes], hresult _ h⟩
  split at h
  · next hover =>
      split at h
      · next hzero => exact Or.inl ⟨hover, hzero, (Except.ok.inj h).symm⟩
      · next hzero => exact Or.inr ⟨fun hboth => hzero hboth.2, hresult _ h⟩
  · cases h

theorem combinesTo_of_arithmetic {operator : Text} {v w u : Value}
    (h : arithmetic operator v w = .ok u) : CombinesTo operator v w u := by
  rw [arithmetic] at h
  cases hv : v.toNumber with
  | error cause =>
      rw [operandNumbers_of_left w hv] at h
      split at h
      · cases h
      · cases h
        exact .numberless (Or.inl (Value.number?_of_error hv))
  | ok m =>
      cases hw : w.toNumber with
      | error cause =>
          rw [operandNumbers_of_right hv hw] at h
          split at h
          · cases h
          · cases h
            exact .numberless (Or.inr (Value.number?_of_error hw))
      | ok n =>
          have hboth : operandNumbers v w = .ok (some (m, n)) := by
            rw [operandNumbers, hv, hw]
            rfl
          rw [hboth] at h
          have hm := Value.number?_of_ok hv
          have hn := Value.number?_of_ok hw
          rcases exists_number_of_calculate h with ⟨hover, hzero, rfl⟩ | ⟨hnot, result, rfl⟩
          · exact .byZero hm hn hover hzero
          · exact .number result hm hn hnot

/-! ## Trees of operations -/

namespace Environment

variable (env : Environment)

/-- The number of an expression, if it has a value with a number. -/
def number? (e : Expr) : Option Number :=
  (env.eval e).outcome.toOption.bind Value.number?

/-- The number of the expression is zero. -/
def IsZero (e : Expr) : Prop :=
  ∃ n, env.number? e = some n ∧ n.isZero = true

variable {env}

theorem number?_of_outcome {e : Expr} {v : Value} (h : (env.eval e).outcome = .ok v) :
    env.number? e = v.number? := by
  rw [number?, h]
  rfl

/-- An operation with a value has operands with values, and combines them. -/
theorem combinesTo_of_eval {operator : Text} {left right : Expr} {u : Value}
    (h : (env.eval (.binary operator left right)).outcome = .ok u) :
    ∃ v w, (env.eval left).outcome = .ok v ∧ (env.eval right).outcome = .ok w ∧
      CombinesTo operator v w u := by
  rw [outcome_eval_operation] at h
  cases hleft : (env.eval left).outcome with
  | error cause =>
      rw [hleft] at h
      cases h
  | ok v =>
      cases hright : (env.eval right).outcome with
      | error cause =>
          rw [hleft, hright] at h
          cases h
      | ok w =>
          rw [hleft, hright] at h
          exact ⟨v, w, rfl, rfl, combinesTo_of_arithmetic h⟩

/-- The value of a tree of operations has a number just if each of its leaves has one and it
nowhere divides by zero. -/
theorem isSome_number?_iff {e : Expr} {v : Value} (h : (env.eval e).outcome = .ok v) :
    v.number?.isSome = true ↔
      (∀ leaf ∈ e.leaves, (env.number? leaf).isSome = true) ∧ ∀ d ∈ e.divisors, ¬env.IsZero d := by
  fun_induction Expr.leaves e generalizing v with
  | case1 operator left right hop ihLeft ihRight =>
      obtain ⟨a, b, hleft, hright, hcombines⟩ := combinesTo_of_eval h
      have hdivisors : (Expr.binary operator left right).divisors = left.divisors ++
          right.divisors ++ if operator = ['/'] then [right] else [] := by
        rw [Expr.divisors, if_pos hop]
      have hzero : env.IsZero right ↔ ∃ n, b.number? = some n ∧ n.isZero = true := by
        rw [IsZero, number?_of_outcome hright]
      -- the node itself, and then its two sides
      rw [hcombines.isSome_number?_iff, ihLeft hleft, ihRight hright, hdivisors, ← hzero]
      have hown : (∀ d ∈ if operator = ['/'] then [right] else [], ¬env.IsZero d) ↔
          (operator = ['/'] → ¬env.IsZero right) := by
        split <;> simp [*]
      simp only [List.forall_mem_append, hown]
      constructor
      · rintro ⟨⟨hleaves, hdivs⟩, ⟨hleaves', hdivs'⟩, hnode⟩
        exact ⟨⟨hleaves, hleaves'⟩, ⟨hdivs, hdivs'⟩, hnode⟩
      · rintro ⟨⟨hleaves, hleaves'⟩, ⟨hdivs, hdivs'⟩, hnode⟩
        exact ⟨⟨hleaves, hdivs⟩, ⟨hleaves', hdivs'⟩, hnode⟩
  | case2 operator left right hop =>
      rw [← number?_of_outcome h]
      simp [Expr.divisors, hop]
  | case3 e hleaf =>
      have hdivisors : e.divisors = [] := by
        cases e with
        | binary operator left right => exact absurd rfl (hleaf operator left right)
        | _ => rfl
      rw [← number?_of_outcome h, hdivisors]
      simp

/-- The leaves of a tree with a value have values themselves. -/
theorem exists_value_of_mem_leaves {e : Expr} {v : Value} (h : (env.eval e).outcome = .ok v) :
    ∀ leaf ∈ e.leaves, ∃ w, (env.eval leaf).outcome = .ok w := by
  fun_induction Expr.leaves e generalizing v with
  | case1 operator left right hop ihLeft ihRight =>
      obtain ⟨a, b, hleft, hright, -⟩ := combinesTo_of_eval h
      intro leaf hleaf
      rcases List.mem_append.1 hleaf with hmem | hmem
      · exact ihLeft hleft leaf hmem
      · exact ihRight hright leaf hmem
  | case2 operator left right hop =>
      intro leaf hleaf
      rw [List.mem_singleton.1 hleaf]
      exact ⟨v, h⟩
  | case3 e hother =>
      intro leaf hleaf
      rw [List.mem_singleton.1 hleaf]
      exact ⟨v, h⟩

/-- A tree of operations that has a value has a number for it just if each of its leaves has a
number and no division in it is by zero. It has the error of a division by zero just if that is what
its own root is. In every other case it has the error for a missing number, whatever went wrong
below. -/
theorem eval_arithmetic {operator : Text} {left right : Expr} {v : Value}
    (h : (env.eval (.binary operator left right)).outcome = .ok v) :
    (∀ leaf ∈ (Expr.binary operator left right).leaves, ∃ w, (env.eval leaf).outcome = .ok w) ∧
    ((∃ n, v = .number n) ↔
      (∀ leaf ∈ (Expr.binary operator left right).leaves, (env.number? leaf).isSome = true) ∧
        ∀ d ∈ (Expr.binary operator left right).divisors, ¬env.IsZero d) ∧
    (v = Value.divisionByZero ↔
      operator = ['/'] ∧ (env.number? left).isSome = true ∧ env.IsZero right) ∧
    ((¬∃ n, v = .number n) → v ≠ Value.divisionByZero → v = Value.notNumeric) := by
  obtain ⟨a, b, hleft, hright, hcombines⟩ := combinesTo_of_eval h
  have hvalue := hcombines.cases_value
  have hnumber : (∃ n, v = .number n) ↔ v.number?.isSome = true := by
    constructor
    · rintro ⟨n, rfl⟩
      rfl
    · intro hsome
      rcases hvalue with ⟨hnumber, -⟩ | ⟨-, hnone⟩
      · exact hnumber
      · simp [hnone] at hsome
  refine ⟨exists_value_of_mem_leaves h, hnumber.trans (isSome_number?_iff h), ?_, ?_⟩
  · rw [hcombines.eq_divisionByZero_iff, IsZero, number?_of_outcome hleft,
      number?_of_outcome hright]
  · intro hnot hne
    rcases hvalue with ⟨hnumber, -⟩ | ⟨hzero | hnumberless, -⟩
    · exact absurd hnumber hnot
    · exact absurd hzero hne
    · exact hnumberless

/-- A cell whose text begins with a zero. -/
def zeroTextCell : Environment :=
  ⟨.builtins, (Table.ofList [("A1", .text "0x")]).source⟩

/-- The quotient of two by that cell. -/
def overZeroText : Expr :=
  .binary ['/'] (.number (.int 2)) (.cell "A1")

theorem eval_arithmetic_zero_text :
    (zeroTextCell.eval overZeroText).outcome = .ok Value.divisionByZero ∧
      zeroTextCell.IsZero (.cell "A1") ∧
    (zeroTextCell.eval (.binary ['+'] overZeroText (.number (.int 1)))).outcome =
      .ok Value.notNumeric ∧
      ¬((∀ leaf ∈ [.number (.int 2), .cell "A1", .number (.int 1)],
          (zeroTextCell.number? leaf).isSome = true) ∧
        ∀ d ∈ [Expr.cell "A1"], ¬zeroTextCell.IsZero d) := by
  have hquotient : (zeroTextCell.eval overZeroText).outcome = .ok Value.divisionByZero := by
    decide +kernel
  have hsum : (zeroTextCell.eval (.binary ['+'] overZeroText (.number (.int 1)))).outcome =
      .ok Value.notNumeric := by
    decide +kernel
  refine ⟨hquotient, ((eval_arithmetic hquotient).2.2.1.1 rfl).2.2, hsum, ?_⟩
  intro hsound
  obtain ⟨n, hn⟩ := (eval_arithmetic hsum).2.1.2 hsound
  cases hn

end Environment
end CellCalc

import CellCalc.Proofs.EvaluationFailures
import CellCalc.Proofs.PlainNumerals

/-!
# Numberless — values without a number, and what becomes of them

Lists have no number, and neither has a text without one at its front. The failure that says so
shows the value, so a list that cannot be shown fails with another one: an integer inside it is too
long to be written. Nothing else goes wrong. The aggregates look at what is inside lists and never
at a list, so they always find their numbers. Arithmetic on a list has the in-band error for its
value, unless it comes to a list that cannot be shown.

* `Value.LongInteger`, `Value.LongList` — the integers that are too long, and the lists with one.
* `Value.display_eq_error_iff` — the values that cannot be shown.
* `Value.toNumber_eq_tooLong_iff`, `Value.toNumber_signals` — how a value without a number fails.
* `Value.numbers_eq`, `FormulaFunction.numbers_eq` — the numbers of several values.
* `arithmetic_of_isList` — operations on lists.
* `signals_of_numberless` — all of it together; `range_with_long_integer_fails` — a range for which
  the in-band error is not the value.
-/

namespace CellCalc

/-! ## Integers too long to be written -/

theorem Numeral.exists_not_writable : ∃ n, ¬Writable n := by
  refine ⟨((10 ^ digitLimit : Nat) : Int), ?_⟩
  rw [writable_iff, Int.natAbs_natCast]
  exact Nat.lt_irrefl _

namespace Value

/-! ## Lists that cannot be shown -/

/-- An integer that is too long to be written. -/
def LongInteger : Value → Prop
  | number (.int n) => ¬Numeral.Writable n
  | _ => False

instance : DecidablePred LongInteger
  | number (.int n) => inferInstanceAs (Decidable (¬Numeral.Writable n))
  | number (.double _) | blank | bool _ | text _ | list _ => isFalse id

/-- A list with such an integer inside, at any depth. -/
def LongList (v : Value) : Prop :=
  v.isList = true ∧ ∃ w ∈ v.flatten, w.LongInteger

instance : DecidablePred LongList :=
  fun _ => inferInstanceAs (Decidable (_ ∧ _))

mutual

/-- Exactly the values with an integer inside that is too long to be written cannot be shown. -/
theorem display_eq_error_iff : ∀ v : Value,
    v.display = .error .tooLongToWrite ↔ ∃ w ∈ v.flatten, w.LongInteger
  | .blank | .bool true | .bool false | .text _ | .number (.double _) => by
      simp [display, flatten, LongInteger, Number.write]
  | .number (.int n) => by
      by_cases h : Numeral.Writable n <;>
        simp [display, flatten, LongInteger, Number.write, Numeral.writeInteger, h]
  | .list items => by
      rw [display, flatten, ← displayAll_eq_error_iff items]
      cases displayAll items with
      | ok shown => simp [bind, Except.bind, pure, Except.pure]
      | error cause => simp [bind, Except.bind]

theorem displayAll_eq_error_iff : ∀ vs : List Value,
    displayAll vs = .error .tooLongToWrite ↔ ∃ w ∈ flattenAll vs, w.LongInteger
  | [] => by simp [displayAll, flattenAll]
  | v :: rest => by
      have hinside : (∃ w ∈ flattenAll (v :: rest), w.LongInteger) ↔
          (∃ w ∈ v.flatten, w.LongInteger) ∨ ∃ w ∈ flattenAll rest, w.LongInteger := by
        rw [flattenAll]
        simp only [List.mem_append, or_and_right, exists_or]
      rw [hinside, ← display_eq_error_iff v, ← displayAll_eq_error_iff rest, displayAll]
      cases hv : v.display with
      | error cause =>
          rw [display_failsOnly v cause hv]
          simp [bind, Except.bind]
      | ok shown =>
          cases displayAll rest with
          | error cause => simp [bind, Except.bind]
          | ok others => simp [bind, Except.bind, pure, Except.pure]

end

/-! ## The number of a value -/

theorem not_longList_of_not_isList {v : Value} (h : v.isList = false) : ¬v.LongList := by
  intro hlong
  rw [hlong.1] at h
  cases h

/-- Exactly the lists that cannot be shown fail for that reason where a number is needed. -/
theorem toNumber_eq_tooLong_iff (v : Value) :
    v.toNumber = .error .tooLongToWrite ↔ v.LongList := by
  cases v with
  | blank | bool _ | number _ => simp [toNumber, LongList, isList]
  | text t =>
      cases t with
      | nil => simp [toNumber, LongList, isList]
      | cons c t =>
          cases hfound : leadingNumber? (c :: t) <;>
            simp [toNumber, readLeadingNumber, hfound, LongList, isList, Functor.map, Except.map]
  | list items =>
      have hlong : (list items).LongList ↔ ∃ w ∈ (list items).flatten, w.LongInteger := by
        simp [LongList, isList]
      rw [hlong, ← display_eq_error_iff, toNumber]
      cases (list items).display <;> simp [bind, Except.bind, throw, throwThe, MonadExceptOf.throw]

theorem toNumber_of_longList {v : Value} (h : v.LongList) :
    v.toNumber = .error .tooLongToWrite :=
  (toNumber_eq_tooLong_iff v).2 h

/-- Any other value has a number or says that it has none. -/
theorem toNumber_signals {v : Value} (h : ¬v.LongList) :
    FailsOnly (·.kind = .coercion) v.toNumber := by
  intro cause hfailed
  rcases v.toNumber_failsOnly cause hfailed with hkind | rfl
  · exact hkind
  · exact absurd ((toNumber_eq_tooLong_iff v).1 hfailed) h

/-- The number of a value, if it has one. -/
def number? (v : Value) : Option Number :=
  v.toNumber.toOption

theorem number?_of_ok {v : Value} {n : Number} (h : v.toNumber = .ok n) : v.number? = some n := by
  rw [number?, h]
  rfl

theorem number?_of_error {v : Value} {cause : Failure} (h : v.toNumber = .error cause) :
    v.number? = none := by
  rw [number?, h]
  rfl

theorem isList_eq_false_of_toNumber {v : Value} {n : Number} (h : v.toNumber = .ok n) :
    v.isList = false := by
  cases v with
  | list items =>
      rw [toNumber] at h
      cases hshown : (list items).display <;> rw [hshown] at h <;> cases h
  | _ => rfl

/-! ## The numbers of several values -/

/-- Values without a number are left out, unless one of them is a list that cannot be shown. -/
theorem numbers_eq (vs : List Value) :
    numbers vs = if ∃ v ∈ vs, v.LongList then .error .tooLongToWrite
      else .ok (vs.filterMap number?) := by
  induction vs with
  | nil => rfl
  | cons v vs ih =>
      rw [numbers]
      by_cases hlong : v.LongList
      · simp [toNumber_of_longList hlong, hlong, Failure.kind]
      · have hsplit : (∃ w ∈ v :: vs, w.LongList) ↔ ∃ w ∈ vs, w.LongList := by simp [hlong]
        simp only [hsplit]
        cases hread : v.toNumber with
        | ok n =>
            rw [List.filterMap_cons_some (number?_of_ok hread)]
            dsimp only
            rw [ih]
            split <;> rfl
        | error cause =>
            rw [List.filterMap_cons_none (number?_of_error hread)]
            dsimp only
            rw [if_pos (toNumber_signals hlong cause hread), ih]

mutual

theorem isList_eq_false_of_mem_flatten : ∀ (v : Value), ∀ w ∈ v.flatten, w.isList = false
  | .blank | .bool _ | .number _ | .text _ => by simp [flatten, isList]
  | .list items => by
      rw [flatten]
      exact isList_eq_false_of_mem_flattenAll items

theorem isList_eq_false_of_mem_flattenAll :
    ∀ (vs : List Value), ∀ w ∈ flattenAll vs, w.isList = false
  | [] => by simp [flattenAll]
  | v :: rest => by
      intro w hw
      rw [flattenAll, List.mem_append] at hw
      rcases hw with hfirst | hrest
      · exact isList_eq_false_of_mem_flatten v w hfirst
      · exact isList_eq_false_of_mem_flattenAll rest w hrest

end

end Value

/-- The aggregates never meet a list, so they always find their numbers. -/
theorem FormulaFunction.numbers_eq (args : List Value) :
    numbers args = .ok ((Value.flattenAll args).filterMap Value.number?) := by
  have hnone : ¬∃ v ∈ Value.flattenAll args, v.LongList := by
    rintro ⟨v, hv, hlong⟩
    exact Value.not_longList_of_not_isList
      (Value.isList_eq_false_of_mem_flattenAll args v hv) hlong
  rw [numbers, Value.numbers_eq, if_neg hnone]

/-! ## Operations on lists -/

/-- Both operands are evaluated, and then their values are combined. -/
theorem Environment.outcome_eval_operation (env : Environment) (operator : Text)
    (left right : Expr) :
    (env.eval (.binary operator left right)).outcome =
      (env.eval left).outcome.bind fun v =>
        (env.eval right).outcome.bind fun w => arithmetic operator v w := by
  rw [eval, Trace.bind_def, Trace.outcome_bind]
  congr 1
  funext v
  rw [Trace.bind_def, Trace.outcome_bind]
  rfl

theorem Environment.outcome_eval_binary {env : Environment} (operator : Text) {left right : Expr}
    {v w : Value} (hleft : (env.eval left).outcome = .ok v)
    (hright : (env.eval right).outcome = .ok w) :
    (env.eval (.binary operator left right)).outcome = arithmetic operator v w := by
  rw [outcome_eval_operation, hleft, hright]
  rfl

/-- Of a value without a number an operation makes no numbers, unless the value cannot be shown. -/
theorem operandNumbers_of_failed {v w x : Value} {cause : Failure} (hx : x.toNumber = .error cause)
    (h : operandNumbers v w = if cause.kind = .coercion then .ok none else .error cause) :
    operandNumbers v w = if x.LongList then .error .tooLongToWrite else .ok none := by
  rw [h]
  by_cases hlong : x.LongList
  · obtain rfl := Except.error.inj (hx.symm.trans (Value.toNumber_of_longList hlong))
    rw [if_pos hlong, if_neg (by decide)]
  · rw [if_neg hlong, if_pos (Value.toNumber_signals hlong cause hx)]

theorem operandNumbers_of_left {v : Value} (w : Value) {cause : Failure}
    (hv : v.toNumber = .error cause) :
    operandNumbers v w = if v.LongList then .error .tooLongToWrite else .ok none := by
  refine operandNumbers_of_failed hv ?_
  rw [operandNumbers, hv]
  rfl

theorem operandNumbers_of_right {v w : Value} {n : Number} {cause : Failure}
    (hv : v.toNumber = .ok n) (hw : w.toNumber = .error cause) :
    operandNumbers v w = if w.LongList then .error .tooLongToWrite else .ok none := by
  refine operandNumbers_of_failed hw ?_
  rw [operandNumbers, hv, hw]
  rfl

/-- An operation on a list has the in-band error for its value. It fails only where it comes to a
list that cannot be shown, and it comes to the second operand only if the first one has a number. -/
theorem arithmetic_of_isList (operator : Text) {v w : Value}
    (h : v.isList = true ∨ w.isList = true) :
    arithmetic operator v w =
      if v.LongList ∨ v.number?.isSome = true ∧ w.LongList then .error .tooLongToWrite
      else .ok Value.notNumeric := by
  rw [arithmetic]
  cases hv : v.toNumber with
  | error cause =>
      rw [operandNumbers_of_left w hv]
      simp only [Value.number?_of_error hv, Option.isSome_none, Bool.false_eq_true, false_and,
        or_false]
      split <;> rfl
  | ok n =>
      have hleft := Value.isList_eq_false_of_toNumber hv
      cases hw : w.toNumber with
      | ok m =>
          rw [hleft, Value.isList_eq_false_of_toNumber hw] at h
          simp at h
      | error cause =>
          rw [operandNumbers_of_right hv hw]
          simp only [Value.not_longList_of_not_isList hleft, Value.number?_of_ok hv,
            Option.isSome_some, true_and, false_or]
          split <;> rfl

/-! ## All of it -/

/-- A list that cannot be shown is the only value whose missing number is not signalled as such:
by itself it fails with the reason why it cannot be shown, and so do the numbers of several values
with such a list among them, and an operation that comes to one. Any other value has a number or
fails for want of one; among others it is left out, so that the aggregates always have their
numbers; and an operation on a list has the in-band error for its value. -/
theorem signals_of_numberless (env : Environment) (v : Value) (vs : List Value) :
    (v.LongList → v.toNumber = .error .tooLongToWrite) ∧
    (¬v.LongList → FailsOnly (·.kind = .coercion) v.toNumber) ∧
    (Value.numbers vs =
      if ∃ u ∈ vs, u.LongList then .error .tooLongToWrite
      else .ok (vs.filterMap Value.number?)) ∧
    (FormulaFunction.numbers vs = .ok ((Value.flattenAll vs).filterMap Value.number?)) ∧
    ∀ (operator : Text) (left right : Expr) (w : Value),
      (env.eval left).outcome = .ok v → (env.eval right).outcome = .ok w →
      v.isList = true ∨ w.isList = true →
      (env.eval (.binary operator left right)).outcome =
        if v.LongList ∨ v.number?.isSome = true ∧ w.LongList then .error .tooLongToWrite
        else .ok Value.notNumeric := by
  refine ⟨Value.toNumber_of_longList, Value.toNumber_signals, Value.numbers_eq vs,
    FormulaFunction.numbers_eq vs, ?_⟩
  intro operator left right w hleft hright hlist
  rw [Environment.outcome_eval_binary operator hleft hright]
  exact arithmetic_of_isList operator hlist

theorem signals_of_numberless_range :
    (Environment.eval ⟨.builtins, (Table.ofList [("A1", .text "7")]).source⟩
      (.binary ['*'] (.constant (.number (.int 2))) (.range "A1" "A1"))).outcome =
        .ok Value.notNumeric := by
  have hleft : (Environment.eval ⟨.builtins, (Table.ofList [("A1", .text "7")]).source⟩
      (.constant (.number (.int 2)))).outcome = .ok (.number (.int 2)) := by
    decide +kernel
  have hright : (Environment.eval ⟨.builtins, (Table.ofList [("A1", .text "7")]).source⟩
      (.range "A1" "A1")).outcome = .ok (.list [.list [.text "7"]]) := by
    decide +kernel
  have hsignals := (signals_of_numberless _ _ []).2.2.2.2 ['*'] _ _ _ hleft hright (Or.inr rfl)
  rw [hsignals, if_neg (by decide)]

/-- The range from the cell `A1` to itself is a list, but an operation on it fails if the cell holds
the least integer that is too long. -/
theorem range_with_long_integer_fails :
    ¬∀ (env : Environment) (left right : Expr) (v w : Value),
      (env.eval left).outcome = .ok v → (env.eval right).outcome = .ok w →
        v.isList = true ∨ w.isList = true →
          (env.eval (.binary ['+'] left right)).outcome = .ok Value.notNumeric := by
  intro h
  obtain ⟨n, hlong⟩ := Numeral.exists_not_writable
  have hids : rangeIds "A1" "A1" = .ok [["A1"]] := by decide +kernel
  have hleft : (Environment.eval ⟨.builtins, (Table.ofList [("A1", .number (.int n))]).source⟩
      (.range "A1" "A1")).outcome = .ok (.list [.list [.number (.int n)]]) := by
    rw [Environment.eval]
    change Value.ofRows <$> CellSource.readRange _ "A1" "A1" = _
    rw [CellSource.readRange, hids]
    rfl
  have hright : (Environment.eval ⟨.builtins, (Table.ofList [("A1", .number (.int n))]).source⟩
      (.constant .blank)).outcome = .ok .blank := by
    rw [Environment.eval]
    rfl
  have hlist : (Value.list [.list [.number (.int n)]]).LongList :=
    ⟨rfl, .number (.int n), by simp [Value.flatten, Value.flattenAll], hlong⟩
  have hsignalled := h _ _ _ _ _ hleft hright (Or.inl rfl)
  rw [Environment.outcome_eval_binary _ hleft hright, arithmetic_of_isList _ (Or.inl rfl),
    if_pos (Or.inl hlist)] at hsignalled
  cases hsignalled

end CellCalc

import CellCalc.Proofs.Numberless

/-!
# Aggregates — what the aggregates see of their arguments

The five aggregates take the numbers of their arguments in order and look at nothing else. How the
arguments are grouped into lists does not matter to them, and a value without a number may be put in
or taken away at any depth. They agree on whether there is any number: without one the greatest and
the least are an in-band error, and the sum and the mean are zero.

* `Value.Numberless` — a value without a number, or a list of such values.
* `Value.Padded` — one such value more, at any depth; `Value.Repadded` — several more or fewer.
* `FormulaFunction.aggregates` — the five; `eq_of_numbers_eq` — they see numbers alone.
* `FormulaFunction.numbers_of_repadded` — the numbers stay when values without one come and go.
* `FormulaFunction.aggregates_see_numbers` — all of it together.
-/

namespace CellCalc

namespace Value

/-! ## Flattening -/

theorem flattenAll_eq_flatMap (vs : List Value) : flattenAll vs = vs.flatMap flatten := by
  induction vs with
  | nil => rfl
  | cons v vs ih => rw [flattenAll, ih, List.flatMap_cons]

theorem flatten_of_not_isList {v : Value} (h : v.isList = false) : v.flatten = [v] := by
  cases v with
  | list items => cases h
  | _ => rfl

theorem flattenAll_eq_self {vs : List Value} (h : ∀ v ∈ vs, v.isList = false) :
    flattenAll vs = vs := by
  induction vs with
  | nil => rfl
  | cons v vs ih =>
      obtain ⟨hv, hvs⟩ := List.forall_mem_cons.1 h
      rw [flattenAll, flatten_of_not_isList hv, ih hvs, List.singleton_append]

/-- Flattening leaves nothing to flatten. -/
theorem flattenAll_flattenAll (vs : List Value) : flattenAll (flattenAll vs) = flattenAll vs :=
  flattenAll_eq_self (isList_eq_false_of_mem_flattenAll vs)

/-! ## Values without a number -/

/-- A value that is no list and has no number, or a list of such values, maybe of none at all. -/
inductive Numberless : Value → Prop
  | single {v : Value} : v.isList = false → v.number? = none → Numberless v
  | list {items : List Value} : (∀ v ∈ items, Numberless v) → Numberless (.list items)

theorem Numberless.filterMap_flatten {v : Value} (h : v.Numberless) :
    v.flatten.filterMap number? = [] := by
  induction h with
  | single hlist hnone =>
      rw [flatten_of_not_isList hlist, List.filterMap_cons_none hnone, List.filterMap_nil]
  | list _ ih =>
      rw [flatten, flattenAll_eq_flatMap, List.filterMap_flatMap, List.flatMap_eq_nil_iff]
      exact ih

/-- The second list is the first one with one value more, which has no number, at some depth. -/
inductive Padded : List Value → List Value → Prop
  | here {v : Value} {vs : List Value} : v.Numberless → Padded vs (v :: vs)
  | next {v : Value} {vs ws : List Value} : Padded vs ws → Padded (v :: vs) (v :: ws)
  | inside {items items' vs : List Value} : Padded items items' →
      Padded (.list items :: vs) (.list items' :: vs)

/-- The second list comes from the first one by putting in and taking away values without a number,
one after the other. -/
inductive Repadded (vs : List Value) : List Value → Prop
  | refl : Repadded vs vs
  | insert {ws us : List Value} : Repadded vs ws → Padded ws us → Repadded vs us
  | delete {ws us : List Value} : Repadded vs ws → Padded us ws → Repadded vs us

theorem Padded.filterMap_flattenAll {vs ws : List Value} (h : Padded vs ws) :
    (flattenAll ws).filterMap number? = (flattenAll vs).filterMap number? := by
  induction h with
  | here hv => rw [flattenAll, List.filterMap_append, hv.filterMap_flatten, List.nil_append]
  | next _ ih => rw [flattenAll, flattenAll, List.filterMap_append, List.filterMap_append, ih]
  | inside _ ih =>
      rw [flattenAll, flattenAll, List.filterMap_append, List.filterMap_append, flatten, flatten, ih]

end Value

open Value

namespace FormulaFunction

/-! ## The numbers of the arguments -/

/-- One value more without a number leaves the numbers as they are. -/
theorem numbers_of_padded {args args' : List Value} (h : Padded args args') :
    numbers args' = numbers args := by
  rw [numbers_eq, numbers_eq, h.filterMap_flattenAll]

theorem numbers_of_repadded {args args' : List Value} (h : Repadded args args') :
    numbers args' = numbers args := by
  induction h with
  | refl => rfl
  | insert _ hpadded ih => rw [numbers_of_padded hpadded, ih]
  | delete _ hpadded ih => rw [← numbers_of_padded hpadded, ih]

theorem numbers_flattenAll (args : List Value) : numbers (flattenAll args) = numbers args := by
  rw [numbers, flattenAll_flattenAll, numbers]

/-! ## The five -/

/-- The functions that look at the numbers of all their arguments. -/
def aggregates : List FormulaFunction := [sum, average, count, maximum, minimum]

/-- An aggregate sees the numbers of its arguments and nothing else. -/
theorem eq_of_numbers_eq {f : FormulaFunction} (hf : f ∈ aggregates) {args args' : List Value}
    (h : numbers args' = numbers args) : f args' = f args := by
  simp only [aggregates, List.mem_cons, List.not_mem_nil, or_false] at hf
  rcases hf with rfl | rfl | rfl | rfl | rfl
  · simp only [sum, h]
  · simp only [average, h]
  · simp only [count, h]
  · simp only [maximum, extremum, h]
  · simp only [minimum, extremum, h]

theorem count_eq (args : List Value) :
    count args = .ok (.number (.int ((flattenAll args).countP (·.number?.isSome)))) := by
  simp only [count, numbers_eq, ← List.length_filterMap_eq_countP]
  rfl

theorem count_eq_zero_iff {args : List Value} :
    count args = .ok (.number (.int 0)) ↔ numbers args = .ok [] := by
  rw [count_eq, numbers_eq]
  simp [← List.length_filterMap_eq_countP]

/-- The best number is an in-band error just if there is none. -/
theorem extremum_eq_error_iff (better : Number → Number → Bool) {args : List Value} :
    extremum better args = .ok (.text Value.errorText) ↔ count args = .ok (.number (.int 0)) := by
  rw [count_eq_zero_iff, extremum]
  cases hns : numbers args with
  | error cause => simp [bind, Except.bind]
  | ok ns =>
      cases ns with
      | nil => simp [bind, Except.bind, pure, Except.pure, best?]
      | cons n ns => simp [bind, Except.bind, pure, Except.pure, best?]

theorem sum_of_count_zero {args : List Value} (h : count args = .ok (.number (.int 0))) :
    sum args = .ok (.number Number.zero) := by
  rw [sum, count_eq_zero_iff.1 h]
  rfl

theorem average_of_count_zero {args : List Value} (h : count args = .ok (.number (.int 0))) :
    average args = .ok (.number Number.zero) := by
  rw [average, count_eq_zero_iff.1 h]
  rfl

/-! ## All of it -/

/-- Every aggregate has the same outcome on its arguments, on the values inside them that are not
lists, and on arguments with values put in or taken away at any depth that have no number. Counting
gives how many of the values inside have one. The greatest is the in-band error just if the least
is, and just if there is no number to count; the sum and the mean are then the integer zero. -/
theorem aggregates_see_numbers (args : List Value) :
    (∀ f ∈ aggregates, f (flattenAll args) = f args ∧
      ∀ args', Repadded args args' → f args' = f args) ∧
    count args = .ok (.number (.int ((flattenAll args).countP (·.number?.isSome)))) ∧
    (maximum args = .ok (.text Value.errorText) ↔ minimum args = .ok (.text Value.errorText)) ∧
    (minimum args = .ok (.text Value.errorText) ↔ count args = .ok (.number (.int 0))) ∧
    (count args = .ok (.number (.int 0)) →
      sum args = .ok (.number (.int 0)) ∧ average args = .ok (.number (.int 0))) := by
  refine ⟨fun f hf => ⟨?_, fun args' h => ?_⟩, count_eq args, ?_, extremum_eq_error_iff _, ?_⟩
  · exact eq_of_numbers_eq hf (numbers_flattenAll args)
  · exact eq_of_numbers_eq hf (numbers_of_repadded h)
  · exact (extremum_eq_error_iff _).trans (extremum_eq_error_iff _).symm
  · exact fun h => ⟨sum_of_count_zero h, average_of_count_zero h⟩

/-- An empty list is taken away inside a list, then a text without a number is put in two lists deep
and a list that holds nothing else after both. Two lists without any number have an average. -/
theorem aggregates_see_numbers_two_deep :
    let args : List Value :=
      [.list [.list [.text "2x", .blank], .list []], .number (.int 3)]
    let args' : List Value :=
      [.list [.list [.text "2x", .text "x2", .blank]], .list [.list [.text "-"]], .number (.int 3)]
    Repadded args args' ∧ sum ∈ aggregates ∧ sum args' = sum args ∧
      sum (flattenAll args) = sum args ∧ minimum ∈ aggregates ∧ minimum args' = minimum args ∧
      count [.list [.text "-"], .list []] = .ok (.number (.int 0)) ∧
      average [.list [.text "-"], .list []] = .ok (.number (.int 0)) := by
  intro args args'
  have htext : Numberless (.text "x2") := .single rfl (by decide)
  have hdash : Numberless (.text "-") := .single rfl (by decide)
  have hempty : Numberless (.list []) := .list (by simp)
  have hnested : Numberless (.list [.list [.text "-"]]) := by
    refine .list fun v hv => ?_
    rw [List.mem_singleton.1 hv]
    exact .list fun w hw => List.mem_singleton.1 hw ▸ hdash
  have hrepadded : Repadded args args' :=
    ((Repadded.refl.delete (.inside (.next (.here hempty)))).insert
      (.inside (.inside (.next (.here htext))))).insert (.next (.here hnested))
  have hsum : sum ∈ aggregates := by simp [aggregates]
  have hminimum : minimum ∈ aggregates := by simp [aggregates]
  obtain ⟨hsame, -⟩ := aggregates_see_numbers args
  have hnone : count [.list [.text "-"], .list []] = .ok (.number (.int 0)) := by decide
  obtain ⟨-, -, -, -, hzero⟩ := aggregates_see_numbers [.list [.text "-"], .list []]
  exact ⟨hrepadded, hsum, (hsame sum hsum).2 args' hrepadded, (hsame sum hsum).1, hminimum,
    (hsame minimum hminimum).2 args' hrepadded, hnone, (hzero hnone).2⟩

end FormulaFunction
end CellCalc

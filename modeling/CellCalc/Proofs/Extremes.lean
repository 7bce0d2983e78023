import Mathlib.Algebra.Order.Field.Basic
import Mathlib.Algebra.Order.Field.Rat
import Mathlib.Data.Rat.Cast.Order
import Mathlib.Order.WithBot
import CellCalc.Proofs.Numberless

/-!
# Extremes — the greatest and the least of any numbers

Integers of any size and doubles are compared by their exact values, rational numbers and two
infinities. The greatest number of several is the first one that no other exceeds, and it is given
back as it is, an integer or a double, with the sign that its zero has. What is not a number takes
no part, unless it comes first: then nothing is better than it. The least is the same the other way.

* `Number.value?` — the exact value of a number; `Number.lt_iff` — the order of numbers is that of
  their values.
* `Number.Tops`, `Number.FirstTop` — a number that none exceeds, and the first such one.
* `Compares`, `FirstTop.prefer`, `FirstTop.foldl` — what one more number preserves, and a run.
* `FormulaFunction.extremes_exact` — the greatest and the least of the arguments.
-/

namespace CellCalc

/-! ## Exact values -/

/-- An exact value: a rational number, or an infinity below or above all of them. -/
abbrev ExactValue := WithBot (WithTop ℚ)

namespace ExactValue

/-- A rational number as an exact value. -/
def rational (q : ℚ) : ExactValue := ((q : WithTop ℚ) : ExactValue)

/-- A whole number of units as an exact value. -/
def ofUnits (n : Int) : ExactValue := rational (n / Double.unitsInOne)

theorem unitsInOne_pos : (0 : ℚ) < Double.unitsInOne := by
  exact_mod_cast Nat.pow_pos (by decide : 0 < 2)

theorem bot_lt_ofUnits (n : Int) : ⊥ < ofUnits n :=
  WithBot.bot_lt_coe _

theorem ofUnits_lt_top (n : Int) : ofUnits n < ⊤ := by
  rw [ofUnits, rational, ← WithBot.coe_top, WithBot.coe_lt_coe]
  exact WithTop.coe_lt_top _

theorem ofUnits_lt_ofUnits {m n : Int} : ofUnits m < ofUnits n ↔ m < n := by
  rw [ofUnits, ofUnits, rational, rational, WithBot.coe_lt_coe, WithTop.coe_lt_coe,
    div_lt_div_iff_of_pos_right unitsInOne_pos, Int.cast_lt]

theorem ofUnits_mul_unitsInOne (n : Int) : ofUnits (n * Double.unitsInOne) = rational n := by
  have hunits : ((n * Double.unitsInOne : Int) : ℚ) = n * (Double.unitsInOne : ℚ) := by
    rw [Int.cast_mul, Int.cast_natCast]
  rw [ofUnits, hunits, mul_div_cancel_right₀ _ (ne_of_gt unitsInOne_pos)]

end ExactValue

/-- The exact value of a number; what is not a number has none. -/
def Number.value? : Number → Option ExactValue
  | int n => some (.rational n)
  | double (.finite negative rank) => some (.ofUnits (Double.signedUnits negative rank))
  | double (.infinite negative) => some (if negative then ⊥ else ⊤)
  | double .nan => none

/-- The exact value of a whole number of units, or of what is beyond all of them. -/
def Extent.value : Extent → ExactValue
  | below => ⊥
  | units n => .ofUnits n
  | above => ⊤

theorem Extent.lt_iff {x y : Extent} : x.lt y = true ↔ x.value < y.value := by
  cases x with
  | below => cases y <;> simp [lt, value, ExactValue.bot_lt_ofUnits]
  | above => cases y <;> simp [lt, value]
  | units m =>
      cases y with
      | below => simp [lt, value]
      | above => simp [lt, value, ExactValue.ofUnits_lt_top]
      | units n => simp [lt, value, ExactValue.ofUnits_lt_ofUnits]

namespace Number

theorem value?_eq (n : Number) : n.value? = n.extent?.map Extent.value := by
  cases n with
  | int n => rw [value?, extent?, Option.map_some, Extent.value, ExactValue.ofUnits_mul_unitsInOne]
  | double x =>
      cases x with
      | nan => rfl
      | finite negative rank => rfl
      | infinite negative => cases negative <;> rfl

theorem value?_eq_none_iff {n : Number} : n.value? = none ↔ n.isNaN = true := by
  cases n with
  | int n => simp [value?, isNaN]
  | double x => cases x <;> simp [value?, isNaN, Double.isNaN]

/-- One number is less than another just if its exact value is. -/
theorem lt_iff {m n : Number} :
    m.lt n = true ↔ ∃ x y, m.value? = some x ∧ n.value? = some y ∧ x < y := by
  rw [lt, value?_eq, value?_eq]
  cases m.extent? with
  | none => simp
  | some x =>
      cases n.extent? with
      | none => simp
      | some y => simp [Extent.lt_iff]

/-! ## The first of the best numbers -/

variable {le : ExactValue → ExactValue → Prop} {ns : List Number} {n : Number}

/-- The number has a value, and no value of several numbers goes beyond it. -/
def Tops (le : ExactValue → ExactValue → Prop) (ns : List Number) (n : Number) : Prop :=
  ∃ x, n.value? = some x ∧ ∀ m ∈ ns, ∀ y, m.value? = some y → le y x

/-- The number is the first one of several beyond whose value none of them goes. -/
def FirstTop (le : ExactValue → ExactValue → Prop) (ns : List Number) (n : Number) : Prop :=
  ∃ before after, ns = before ++ n :: after ∧ Tops le ns n ∧ ∀ m ∈ before, ¬Tops le ns m

/-- A test of which of two numbers is better goes by their values in this order. -/
structure Compares (better : Number → Number → Bool) (le : ExactValue → ExactValue → Prop) :
    Prop where
  total : ∀ x y, le x y ∨ le y x
  trans : ∀ {x y z}, le x y → le y z → le x z
  better_iff : ∀ n best, better n best = true ↔
    ∃ x y, best.value? = some x ∧ n.value? = some y ∧ ¬le y x

theorem compares_greatest : Compares (fun n best => best.lt n) (· ≤ ·) where
  total := le_total
  trans := le_trans
  better_iff n best := by simp only [lt_iff, not_le]

theorem compares_least : Compares (fun n best => n.lt best) (· ≥ ·) where
  total x y := le_total y x
  trans hxy hyz := le_trans hyz hxy
  better_iff n best := by
    simp only [lt_iff, ge_iff_le, not_le]
    constructor
    · rintro ⟨y, x, hy, hx, hlt⟩
      exact ⟨x, y, hx, hy, hlt⟩
    · rintro ⟨x, y, hx, hy, hlt⟩
      exact ⟨y, x, hy, hx, hlt⟩

section Compares

variable {better : Number → Number → Bool}

theorem Tops.of_append {m : Number} (h : Tops le (ns ++ [n]) m) : Tops le ns m := by
  obtain ⟨x, hx, htop⟩ := h
  exact ⟨x, hx, fun k hk => htop k (List.mem_append_left _ hk)⟩

theorem firstTop_singleton (h : Compares better le) {x : ExactValue} (hx : n.value? = some x) :
    FirstTop le [n] n := by
  refine ⟨[], [], rfl, ⟨x, hx, ?_⟩, by simp⟩
  intro m hm y hy
  obtain rfl := List.mem_singleton.1 hm
  obtain rfl := Option.some.inj (hx.symm.trans hy)
  exact (h.total x x).elim id id

/-- One more number is preferred to the first of the best ones only if it is better than it. -/
theorem FirstTop.prefer (h : Compares better le) {best : Number} (hbest : FirstTop le ns best)
    (n : Number) : FirstTop le (ns ++ [n]) (FormulaFunction.prefer better best n) := by
  obtain ⟨before, after, hsplit, ⟨x, hx, htop⟩, hfirst⟩ := hbest
  unfold FormulaFunction.prefer
  cases hbetter : better n best with
  | true =>
      obtain ⟨x', y, hx', hy, hbeyond⟩ := (h.better_iff n best).1 hbetter
      obtain rfl := Option.some.inj (hx.symm.trans hx')
      have hxy : le x y := (h.total x y).resolve_right hbeyond
      refine ⟨ns, [], rfl, ⟨y, hy, ?_⟩, ?_⟩
      · intro m hm z hz
        rcases List.mem_append.1 hm with hold | hnew
        · exact h.trans (htop m hold z hz) hxy
        · obtain rfl := List.mem_singleton.1 hnew
          obtain rfl := Option.some.inj (hy.symm.trans hz)
          exact (h.total y y).elim id id
      · -- whatever tops the new number as well would be beyond the best one before
        rintro m hm ⟨z, hz, htops⟩
        have hyz : le y z := htops n (by simp) y hy
        exact hbeyond (h.trans hyz (htop m hm z hz))
  | false =>
      refine ⟨before, after ++ [n], by simp [hsplit], ⟨x, hx, ?_⟩,
        fun m hm htops => hfirst m hm htops.of_append⟩
      intro m hm y hy
      rcases List.mem_append.1 hm with hold | hnew
      · exact htop m hold y hy
      · obtain rfl := List.mem_singleton.1 hnew
        refine Classical.byContradiction fun hbeyond => ?_
        rw [(h.better_iff m best).2 ⟨x, y, hx, hy, hbeyond⟩] at hbetter
        cases hbetter

/-- Number after number, the best one so far is the first of those that none exceeds. -/
theorem FirstTop.foldl (h : Compares better le) {best : Number} (hbest : FirstTop le ns best)
    (rest : List Number) :
    FirstTop le (ns ++ rest) (rest.foldl (FormulaFunction.prefer better) best) := by
  induction rest generalizing ns best with
  | nil => rwa [List.append_nil]
  | cons n rest ih =>
      have hsplit : ns ++ n :: rest = ns ++ [n] ++ rest := by simp
      rw [hsplit, List.foldl_cons]
      exact ih (hbest.prefer h n)

/-- Nothing is better than what is not a number. -/
theorem foldl_prefer_of_isNaN (h : Compares better le) (hnan : n.isNaN = true)
    (rest : List Number) : rest.foldl (FormulaFunction.prefer better) n = n := by
  induction rest with
  | nil => rfl
  | cons m rest ih =>
      have hnot : better m n = false := by
        rw [← Bool.not_eq_true, h.better_iff]
        rintro ⟨x, y, hx, -, -⟩
        rw [value?_eq_none_iff.2 hnan] at hx
        cases hx
      rw [List.foldl_cons, FormulaFunction.prefer, hnot]
      exact ih

end Compares

end Number

/-! ## The greatest and the least argument -/

namespace FormulaFunction

open Number

theorem extremum_eq {better : Number → Number → Bool} {args : List Value} {first : Number}
    {rest : List Number}
    (hargs : (Value.flattenAll args).filterMap Value.number? = first :: rest) :
    extremum better args = .ok (.number (rest.foldl (prefer better) first)) := by
  rw [extremum, numbers_eq, hargs]
  rfl

/-- If the arguments have any numbers, the greatest and the least of them are such numbers, as they
are. If the first number is not a number, it is both. Otherwise the greatest is the first one that
has a value not under any other, and the least the first one that has a value not over any other. -/
theorem extremes_exact (args : List Value) {first : Number} {rest : List Number}
    (hargs : (Value.flattenAll args).filterMap Value.number? = first :: rest) :
    ∃ greatest least, maximum args = .ok (.number greatest) ∧
      minimum args = .ok (.number least) ∧
      (first.isNaN = true → greatest = first ∧ least = first) ∧
      (first.isNaN = false → FirstTop (· ≤ ·) (first :: rest) greatest ∧
        FirstTop (· ≥ ·) (first :: rest) least) := by
  refine ⟨_, _, extremum_eq hargs, extremum_eq hargs, fun hnan => ⟨?_, ?_⟩, fun hnumber => ?_⟩
  · exact foldl_prefer_of_isNaN compares_greatest hnan rest
  · exact foldl_prefer_of_isNaN compares_least hnan rest
  · obtain ⟨x, hx⟩ : ∃ x, first.value? = some x := by
      cases hvalue : first.value? with
      | none => rw [value?_eq_none_iff.1 hvalue] at hnumber; cases hnumber
      | some x => exact ⟨x, rfl⟩
    exact ⟨(firstTop_singleton compares_greatest hx).foldl compares_greatest rest,
      (firstTop_singleton compares_least hx).foldl compares_least rest⟩

/-- Two to the power of 53 as an integer and, from a text, as a double, something that is not a
number, the next integer, which no double is, and two zeros. The first zero is the least number, an
integer. Before all of them, what is not a number is the greatest and the least. -/
theorem extremes_exact_beyond_doubles :
    let wide : Number := .double (.finite false ⟨1076 * 2 ^ 52, by decide⟩)
    let args : List Value := [.number (.int (2 ^ 53)), .list [.list [.text "9007199254740992 m"],
      .list [.number (.double .nan), .number (.int (2 ^ 53 + 1)), .text "x", .blank]], .text "-0"]
    let ns : List Number :=
      [.int (2 ^ 53), wide, .double .nan, .int (2 ^ 53 + 1), .int 0, .double (Double.signedZero true)]
    (Value.flattenAll args).filterMap Value.number? = ns ∧
      maximum args = .ok (.number (.int (2 ^ 53 + 1))) ∧ minimum args = .ok (.number (.int 0)) ∧
      FirstTop (· ≤ ·) ns (.int (2 ^ 53 + 1)) ∧ FirstTop (· ≥ ·) ns (.int 0) ∧
      (Value.flattenAll (.number (.double .nan) :: args)).filterMap Value.number? =
        .double .nan :: ns ∧
      maximum (.number (.double .nan) :: args) = .ok (.number (.double .nan)) ∧
      minimum (.number (.double .nan) :: args) = .ok (.number (.double .nan)) := by
  intro wide args ns
  have hargs : (Value.flattenAll args).filterMap Value.number? = ns := by decide +kernel
  have hnan : (Value.flattenAll (.number (.double .nan) :: args)).filterMap Value.number? =
      .double .nan :: ns := by
    decide +kernel
  have hmaximum : maximum args = .ok (.number (.int (2 ^ 53 + 1))) := by decide +kernel
  have hminimum : minimum args = .ok (.number (.int 0)) := by decide +kernel
  obtain ⟨greatest, least, hgreatest, hleast, -, htops⟩ := extremes_exact args hargs
  obtain rfl := Value.number.inj (Except.ok.inj (hmaximum.symm.trans hgreatest))
  obtain rfl := Value.number.inj (Except.ok.inj (hminimum.symm.trans hleast))
  obtain ⟨n, m, hn, hm, hboth, -⟩ := extremes_exact (.number (.double .nan) :: args) hnan
  obtain ⟨rfl, rfl⟩ := hboth rfl
  exact ⟨hargs, hmaximum, hminimum, (htops rfl).1, (htops rfl).2, hnan, hn, hm⟩

end FormulaFunction
end CellCalc

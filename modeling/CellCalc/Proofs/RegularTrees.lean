import CellCalc.Proofs.FormulaRoundTrip

/-!
# RegularTrees — the trees that formulas can write

A host may hand over any tree, with ids, names and operators that no formula has. A tree is
*regular* if all of these are written as formulas write them, no text holds a quote and no number
is negative. Every tree that was read from a formula is regular.

* `Number.NonNegative` — the numbers of literals.
* `Expr.Regular` — the trees whose every part a formula can write.
* `Expr.Formed.regular` — the tree of a formula is regular.
* `Expr.Native`, `Expr.Native.exists_body` — the trees of formula nodes, all of which print.
-/

namespace CellCalc

/-! ## Operators -/

namespace Tier

theorem exists_mem_operators {c : Char} (h : c ∈ ['+', '-', '*', '/']) :
    ∃ tier : Tier, [c] ∈ tier.operators := by
  simp only [List.mem_cons, List.not_mem_nil, or_false] at h
  rcases h with rfl | rfl | rfl | rfl
  · exact ⟨.sum, by decide⟩
  · exact ⟨.sum, by decide⟩
  · exact ⟨.product, by decide⟩
  · exact ⟨.product, by decide⟩

theorem exists_eq_of_mem_operators {tier : Tier} {operator : Text} (h : operator ∈ tier.operators) :
    ∃ c ∈ ['+', '-', '*', '/'], operator = [c] := by
  cases tier with
  | sum =>
      simp only [operators, List.mem_cons, List.not_mem_nil, or_false] at h
      rcases h with rfl | rfl
      · exact ⟨'+', by decide, rfl⟩
      · exact ⟨'-', by decide, rfl⟩
  | product =>
      simp only [operators, List.mem_cons, List.not_mem_nil, or_false] at h
      rcases h with rfl | rfl
      · exact ⟨'*', by decide, rfl⟩
      · exact ⟨'/', by decide, rfl⟩

end Tier

/-! ## Numbers -/

namespace Number

/-- An integer from zero on, or a double without a sign. -/
def NonNegative : Number → Prop
  | int n => 0 ≤ n
  | double x => x.isNaN = false ∧ x.isNegative = false

theorem nonNegative_of_literal {t : Text} {n : Number} (ht : Lexeme.IsNumeral t)
    (hn : ofText t = .ok n) : n.NonNegative := by
  rcases of_literal ht hn with ⟨v, -, rfl⟩ | ⟨rank, rfl⟩
  · exact Int.natCast_nonneg v
  · -- a rank beyond the finite ones stands for an infinity
    unfold Double.ofRank
    split
    · exact ⟨rfl, rfl⟩
    · exact ⟨rfl, rfl⟩

end Number

namespace Expr

/-! ## Regular trees -/

/-- Every id, name and operator of the tree is written as formulas write it, no text holds a quote,
and no number is negative. -/
inductive Regular : Expr → Prop
  | number {n : Number} : n.NonNegative → Regular (.number n)
  | text {t : Text} : '"' ∉ t → Regular (.text t)
  | cell {id : Text} : isCellId id = true → Regular (.cell id)
  | range {start stop : Text} : isCellId start = true → isCellId stop = true →
      Regular (.range start stop)
  | binary {tier : Tier} {operator : Text} {left right : Expr} : operator ∈ tier.operators →
      Regular left → Regular right → Regular (.binary operator left right)
  | call {name : Text} {arguments : List Expr} : Lexeme.IsName name →
      (∀ e ∈ arguments, Regular e) → Regular (.call name arguments)

theorem Formed.regular {e : Expr} (h : e.Formed) : e.Regular := by
  induction h with
  | number ht hn => exact .number (Number.nonNegative_of_literal ht hn)
  | text ht => exact .text ht
  | cell hid => exact .cell hid
  | range hstart hstop => exact .range hstart hstop
  | binary hc _ _ ihLeft ihRight =>
      obtain ⟨tier, htier⟩ := Tier.exists_mem_operators hc
      exact .binary htier ihLeft ihRight
  | call hname _ ih => exact .call hname ih

/-! ## Trees of formula nodes -/

/-- The tree is made of formula nodes alone, and its constants are numbers. -/
inductive Native : Expr → Prop
  | number (n : Number) : Native (.number n)
  | text (t : Text) : Native (.text t)
  | cell (id : Text) : Native (.cell id)
  | range (start stop : Text) : Native (.range start stop)
  | binary {operator : Text} {left right : Expr} : Native left → Native right →
      Native (.binary operator left right)
  | call {name : Text} {arguments : List Expr} : (∀ e ∈ arguments, Native e) →
      Native (.call name arguments)

theorem mem_numbersAll_of_mem {n : Number} {e : Expr} {es : List Expr} (hn : n ∈ e.numbers)
    (he : e ∈ es) : n ∈ numbersAll es := by
  induction es with
  | nil => cases he
  | cons f es ih =>
      rw [numbersAll, List.mem_append]
      rcases List.mem_cons.1 he with rfl | he
      · exact Or.inl hn
      · exact Or.inr (ih he)

theorem exists_bodies {es : List Expr} (h : ∀ e ∈ es, ∃ t, e.body false = .ok t) :
    ∃ ts, bodies es = .ok ts := by
  induction es with
  | nil => exact ⟨[], rfl⟩
  | cons e es ih =>
      obtain ⟨t, ht⟩ := h e (by simp)
      obtain ⟨ts, hts⟩ := ih fun f hf => h f (List.mem_cons_of_mem e hf)
      exact ⟨t :: ts, by rw [bodies, ht, hts]; rfl⟩

/-- A tree of formula nodes prints if its numbers do. -/
theorem Native.exists_body {e : Expr} (h : e.Native)
    (hnumbers : ∀ n ∈ e.numbers, ∃ t, n.write = .ok t) (nested : Bool) :
    ∃ t, e.body nested = .ok t := by
  induction h generalizing nested with
  | number n =>
      obtain ⟨t, ht⟩ := hnumbers n (by simp [numbers])
      exact ⟨t, by rw [body, Value.plainText_number, ht]⟩
  | text t => exact ⟨_, by rw [body]⟩
  | cell id => exact ⟨_, by rw [body]⟩
  | range start stop => exact ⟨_, by rw [body]⟩
  | binary _ _ ihLeft ihRight =>
      rw [numbers] at hnumbers
      obtain ⟨l, hl⟩ := ihLeft (fun n hn => hnumbers n (List.mem_append_left _ hn)) true
      obtain ⟨r, hr⟩ := ihRight (fun n hn => hnumbers n (List.mem_append_right _ hn)) true
      exact ⟨_, by rw [body, hl, hr]; rfl⟩
  | call _ ih =>
      rw [numbers] at hnumbers
      obtain ⟨ts, hts⟩ := exists_bodies fun a ha =>
        ih a ha (fun n hn => hnumbers n (mem_numbersAll_of_mem hn ha)) false
      exact ⟨_, by rw [body, hts]; rfl⟩

end Expr
end CellCalc

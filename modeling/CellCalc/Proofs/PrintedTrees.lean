import CellCalc.Proofs.Renderings

/-!
# PrintedTrees — which trees survive printing

The printed text of a regular tree is one of the texts that write the tree, so it is read as the
same tree again. No other tree is: what is read is always regular, so a tree with an odd id, name,
operator, text or number comes back as another tree or not at all.

* `Expr.IntegersOnly` — the numbers of a tree are integers that can be written.
* `Expr.Regular.exists_rendering` — the printed text of a regular tree writes it.
* `Expr.formula_reads_back_iff_regular` — a printed tree is read back just if it is regular.
-/

namespace CellCalc
namespace Expr

/-- The numbers of the tree are integers that are short enough to be written. -/
def IntegersOnly (e : Expr) : Prop :=
  ∀ n ∈ e.numbers, ∃ i : Int, n = .int i ∧ Numeral.Writable i

namespace IntegersOnly

variable {name operator : Text} {l r e : Expr} {args : List Expr}

theorem left (h : (binary operator l r).IntegersOnly) : l.IntegersOnly :=
  fun n hn => h n (by simp [numbers, hn])

theorem right (h : (binary operator l r).IntegersOnly) : r.IntegersOnly :=
  fun n hn => h n (by simp [numbers, hn])

theorem argument (h : (call name args).IntegersOnly) (he : e ∈ args) : e.IntegersOnly :=
  fun n hn => h n (by rw [numbers]; exact mem_numbersAll_of_mem hn he)

end IntegersOnly

/-! ## Printed texts -/

/-- The printed tree writes it: in parentheses anywhere, without them only alone. -/
def PrintsAs (nested : Bool) (e : Expr) : Prop :=
  ∃ t, e.body nested = .ok t ∧ ∀ slot : Slot, nested = true ∨ slot = .whole → Renders slot e t

theorem exists_integer {n : Number} (h : n.NonNegative)
    (hinteger : ∃ i : Int, n = .int i ∧ Numeral.Writable i) :
    ∃ t, n.write = .ok t ∧ ∀ slot, Renders slot (.number n) t := by
  obtain ⟨i, rfl, hwritable⟩ := hinteger
  obtain ⟨v, rfl⟩ := Int.eq_ofNat_of_zero_le h
  have hdigits : ∀ c ∈ Nat.toDigits 10 v, c.isDigit = true := fun c hc =>
    Nat.isDigit_of_mem_toDigits (by decide) (by decide) hc
  refine ⟨Nat.toDigits 10 v, Numeral.writeInteger_eq_ok_iff.2 ⟨hwritable, rfl⟩, fun slot => ?_⟩
  have hrenders := @Renders.integer slot _ Nat.toDigits_ne_nil hdigits hwritable
  rwa [Decimal.digitsValue_toDigits] at hrenders

/-- Parentheses make an operand of a tree, which may stand anywhere. -/
theorem renders_parenthesised {e : Expr} {t : Text} (h : Renders .whole e t) (slot : Slot) :
    Renders slot e ('(' :: t ++ [')']) := by
  have henclosed := @Renders.enclosed slot _ _ _ _ h Text.IsGap.nil Text.IsGap.nil
  rwa [List.nil_append, List.append_nil] at henclosed

/-- Each argument that follows is written after a comma and a space. -/
theorem renders_more {args : List Expr} (h : ∀ a ∈ args, PrintsAs false a) {before : List Expr}
    {t : Text} (ht : RendersList before t) :
    ∃ ts, bodies args = .ok ts ∧
      RendersList (before ++ args) (t ++ ts.flatMap ([',', ' '] ++ ·)) := by
  induction args generalizing before t with
  | nil => exact ⟨[], rfl, by simpa using ht⟩
  | cons a args ih =>
      obtain ⟨u, hbody, hrenders⟩ := h a (by simp)
      have hjoined : RendersList (before ++ [a]) (t ++ ([','] ++ ([' '] ++ (u ++ [])))) :=
        .more ht (hrenders .whole (Or.inr rfl)) Text.IsGap.space Text.IsGap.nil
      obtain ⟨ts, hbodies, hrest⟩ := ih (fun b hb => h b (List.mem_cons_of_mem a hb)) hjoined
      refine ⟨u :: ts, by rw [bodies, hbody, hbodies]; rfl, ?_⟩
      rw [List.flatMap_cons]
      simpa using hrest

theorem exists_rendersArguments {args : List Expr} (h : ∀ a ∈ args, PrintsAs false a) :
    ∃ ts, bodies args = .ok ts ∧ RendersArguments args (Text.commaSeparated ts) := by
  cases args with
  | nil => exact ⟨[], rfl, .none Text.IsGap.nil⟩
  | cons e args =>
      obtain ⟨t, hbody, hrenders⟩ := h e (by simp)
      have hfirst : RendersList [e] ([] ++ (t ++ [])) :=
        .first (hrenders .whole (Or.inr rfl)) Text.IsGap.nil Text.IsGap.nil
      rw [List.nil_append, List.append_nil] at hfirst
      obtain ⟨ts, hbodies, hrest⟩ := renders_more (fun a ha => h a (List.mem_cons_of_mem e ha)) hfirst
      refine ⟨t :: ts, by rw [bodies, hbody, hbodies]; rfl, ?_⟩
      rw [commaSeparated_cons]
      exact .some hrest

/-- The printed text of a regular tree of integers writes it. -/
theorem Regular.exists_rendering {e : Expr} (h : e.Regular) (hintegers : e.IntegersOnly) :
    ∀ nested, PrintsAs nested e := by
  induction h with
  | @number n hn =>
      intro nested
      obtain ⟨t, hwrite, hrenders⟩ := exists_integer hn (hintegers n (by simp [numbers]))
      exact ⟨t, by rw [body, Value.plainText_number, hwrite], fun slot _ => hrenders slot⟩
  | text ht => exact fun nested => ⟨_, by rw [body], fun _ _ => .text ht⟩
  | cell hid => exact fun nested => ⟨_, by rw [body], fun _ _ => .cell hid⟩
  | range hstart hstop =>
      exact fun nested => ⟨_, by rw [body]; rfl, fun _ _ =>
        .range hstart hstop Text.IsGap.nil Text.IsGap.nil⟩
  | @binary tier operator left right hoperator _ _ ihLeft ihRight =>
      intro nested
      obtain ⟨l, hl, hrendersLeft⟩ := ihLeft hintegers.left true
      obtain ⟨r, hr, hrendersRight⟩ := ihRight hintegers.right true
      have hbody : body nested (.binary operator left right) =
          .ok (parenthesised nested (l ++ (([' '] ++ (operator ++ [' '])) ++ r))) := by
        rw [body, hl, hr]
        simp only [List.append_assoc, List.cons_append, List.nil_append]
        rfl
      have halone : Renders .whole (.binary operator left right)
          (l ++ (([' '] ++ (operator ++ [' '])) ++ r)) :=
        .binary hoperator id (hrendersLeft _ (Or.inl rfl)) (hrendersRight _ (Or.inl rfl))
          Text.IsGap.space Text.IsGap.space
      refine ⟨_, hbody, ?_⟩
      rintro slot (rfl | rfl)
      · exact renders_parenthesised halone slot
      · cases nested with
        | false => exact halone
        | true => exact renders_parenthesised halone .whole
  | @call name args hname _ ih =>
      intro nested
      obtain ⟨ts, hbodies, hrenders⟩ := exists_rendersArguments fun a ha =>
        ih a ha (hintegers.argument ha) false
      exact ⟨_, by rw [body, hbodies]; rfl, fun _ _ => .call hname hrenders⟩

/-! ## Reading a printed tree -/

/-- A tree of formula nodes and integers prints, and its text is read as the same tree just if the
tree is regular. Otherwise reading fails or gives another tree. -/
theorem formula_reads_back_iff_regular {e : Expr} (hnative : e.Native)
    (hintegers : e.IntegersOnly) :
    ∃ t, e.formula = .ok ('=' :: t) ∧ (ofText t = .ok e ↔ e.Regular) ∧
      (¬e.Regular → (∃ cause, ofText t = .error cause) ∨ ∃ f, ofText t = .ok f ∧ f ≠ e) := by
  have hwrites : ∀ n ∈ e.numbers, ∃ t, n.write = .ok t := by
    intro n hn
    obtain ⟨i, rfl, hwritable⟩ := hintegers n hn
    exact ⟨_, Numeral.writeInteger_eq_ok_iff.2 ⟨hwritable, rfl⟩⟩
  obtain ⟨t, hbody⟩ := hnative.exists_body hwrites false
  have hiff : ofText t = .ok e ↔ e.Regular := by
    constructor
    · intro h
      exact (formed_of_ofText h).regular
    · intro hregular
      obtain ⟨u, hsame, hrenders⟩ := hregular.exists_rendering hintegers false
      obtain rfl : t = u := Except.ok.inj (hbody.symm.trans hsame)
      exact Rendering.ofText_eq
        ⟨[], t, [], Text.IsGap.nil, hrenders .whole (Or.inr rfl), Text.IsGap.nil, by simp⟩
  refine ⟨t, by rw [formula, hbody]; rfl, hiff, ?_⟩
  intro hnot
  cases hread : ofText t with
  | error cause => exact Or.inl ⟨cause, rfl⟩
  | ok f =>
      refine Or.inr ⟨f, rfl, ?_⟩
      rintro rfl
      exact hnot (hiff.1 hread)

/-- The id `A1*2` prints as a formula of its own, and is read as another tree. -/
theorem formula_reads_back_iff_regular_odd_id :
    (Expr.binary "+" (.cell "A1*2") (.number (.int 3))).Native ∧
      (Expr.binary "+" (.cell "A1*2") (.number (.int 3))).IntegersOnly ∧
        ∃ t, formula (.binary "+" (.cell "A1*2") (.number (.int 3))) = .ok ('=' :: t) ∧
          ofText t ≠ .ok (.binary "+" (.cell "A1*2") (.number (.int 3))) := by
  have hnative : (Expr.binary "+" (.cell "A1*2") (.number (.int 3))).Native :=
    .binary (.cell _) (.number _)
  have hintegers : (Expr.binary "+" (.cell "A1*2") (.number (.int 3))).IntegersOnly := by
    intro n hn
    obtain rfl : n = .int 3 := by simpa [numbers] using hn
    exact ⟨3, rfl, by decide⟩
  obtain ⟨t, hformula, hiff, -⟩ := formula_reads_back_iff_regular hnative hintegers
  refine ⟨hnative, hintegers, t, hformula, fun hsame => ?_⟩
  cases hiff.1 hsame with
  | binary _ hleft _ =>
      cases hleft with
      | cell hid => exact absurd hid (by decide)

end Expr
end CellCalc

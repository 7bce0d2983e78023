import CellCalc.Expr.Parser

/-!
# Finding — what a reading finds, rule by rule

A reading finds something and leaves the rest. For each rule of the parser one statement says what
it finds and leaves, so that nothing after this looks into the parser's definitions.

* `Reading.Finds` — a reading succeeds with this result and leaves these tokens.
* `Reading.finds_andThen` — what two readings one after the other find.
* `Reading.finds_chain` to `Reading.finds_argumentsRest_of_comma` — the rules.
-/

namespace CellCalc
namespace Reading

variable {α β : Type} {ts left : List Token}

/-- The reading succeeds with this result and leaves these tokens. -/
structure Finds (r : Reading α ts) (a : α) (left : List Token) : Prop where
  outcome : r.outcome = .ok a
  rest : r.rest = left

theorem Finds.suffix {r : Reading α ts} {a : α} (h : r.Finds a left) : left <:+ ts :=
  h.rest ▸ r.suffix

/-! ## Composition -/

theorem finds_done {a b : α} : (done a : Reading α ts).Finds b left ↔ b = a ∧ left = ts := by
  constructor
  · rintro ⟨houtcome, hrest⟩
    exact ⟨(Except.ok.inj houtcome).symm, hrest.symm⟩
  · rintro ⟨rfl, rfl⟩
    exact ⟨rfl, rfl⟩

theorem not_finds_fail {cause : Failure} {a : α} : ¬(fail cause : Reading α ts).Finds a left := by
  rintro ⟨houtcome, -⟩
  cases houtcome

theorem finds_after {t : Token} {r : Reading α ts} {a : α} :
    (r.after t).Finds a left ↔ r.Finds a left :=
  ⟨fun h => ⟨h.outcome, h.rest⟩, fun h => ⟨h.outcome, h.rest⟩⟩

theorem finds_andThen {r : Reading α ts}
    {next : (a : α) → (rest : List Token) → rest <:+ ts → Reading β rest} {b : β} :
    (r.andThen next).Finds b left ↔
      ∃ a mid, ∃ h : mid <:+ ts, r.Finds a mid ∧ (next a mid h).Finds b left := by
  constructor
  · rintro ⟨houtcome, hrest⟩
    -- the first reading succeeded too, and what it left went into the second one
    rcases andThen_eq_ok houtcome with ⟨a, ha, -⟩
    rcases andThen_ok ha next with ⟨hsame, hsameRest⟩
    rw [hsame] at houtcome
    rw [hsameRest] at hrest
    exact ⟨a, r.rest, r.suffix, ⟨ha, rfl⟩, houtcome, hrest⟩
  · rintro ⟨a, mid, hmid, ⟨ha, rfl⟩, houtcome, hrest⟩
    rcases andThen_ok ha next with ⟨hsame, hsameRest⟩
    exact ⟨hsame.trans houtcome, hsameRest.trans hrest⟩

/-- The form in which the rules use it: what follows does not depend on the suffix. -/
theorem finds_andThen_iff {r : Reading α ts} {next : α → (rest : List Token) → Reading β rest}
    {b : β} :
    (r.andThen fun a rest _ => next a rest).Finds b left ↔
      ∃ a mid, r.Finds a mid ∧ (next a mid).Finds b left := by
  rw [finds_andThen]
  constructor
  · rintro ⟨a, mid, -, hr, hnext⟩
    exact ⟨a, mid, hr, hnext⟩
  · rintro ⟨a, mid, hr, hnext⟩
    exact ⟨a, mid, hr.suffix, hr, hnext⟩

/-! ## Single tokens -/

theorem finds_readIf {kind : TokenKind} (hkind : kind ≠ .endOfFormula) {found : Option Token} :
    (readIf [kind] ts).Finds found left ↔
      (∃ t, t.kind = kind ∧ ts = t :: left ∧ found = some t) ∨
        (∀ t ∈ ts.head?, t.kind ≠ kind) ∧ left = ts ∧ found = none := by
  cases ts with
  | nil =>
      refine finds_done.trans ?_
      simp [and_comm]
  | cons t rest =>
      rw [readIf_cons]
      by_cases ht : t.kind = kind
      · -- the token is of the kind, and no end token is, so it is read
        have hread : (!t.isFinal && [kind].contains t.kind) = true := by
          simp [Token.isFinal, ht, hkind]
        rw [if_pos hread, finds_after, finds_done]
        constructor
        · rintro ⟨rfl, rfl⟩
          exact Or.inl ⟨t, ht, rfl, rfl⟩
        · rintro (⟨u, -, hts, rfl⟩ | ⟨hnot, -, -⟩)
          · obtain ⟨rfl, rfl⟩ := List.cons.inj hts
            exact ⟨rfl, rfl⟩
          · exact absurd ht (hnot t rfl)
      · -- any other token is left where it is
        have hread : ¬(!t.isFinal && [kind].contains t.kind) = true := by simp [ht]
        rw [if_neg hread, finds_done]
        constructor
        · rintro ⟨rfl, rfl⟩
          refine Or.inr ⟨?_, rfl, rfl⟩
          rintro u hu
          obtain rfl : t = u := by simpa using hu
          exact ht
        · rintro (⟨u, hu, hts, -⟩ | ⟨-, rfl, rfl⟩)
          · obtain ⟨rfl, -⟩ := List.cons.inj hts
            exact absurd hu ht
          · exact ⟨rfl, rfl⟩

theorem finds_expect {kind : TokenKind} (hkind : kind ≠ .endOfFormula) {cause : Failure}
    {t : Token} :
    (expect kind cause ts).Finds t left ↔ t.kind = kind ∧ ts = t :: left := by
  constructor
  · rintro ⟨houtcome, rfl⟩
    rcases expect_eq_ok houtcome with ⟨hts, ht⟩
    exact ⟨ht, hts⟩
  · rintro ⟨ht, rfl⟩
    exact finds_andThen_iff.2
      ⟨some t, left, (finds_readIf hkind).2 (Or.inl ⟨t, ht, rfl, rfl⟩), rfl, rfl⟩

/-! ## The rules -/

theorem finds_chain {tier : Tier} {e : Expr} :
    (chain tier ts).Finds e left ↔
      ∃ first mid, (tierOperand tier ts).Finds first mid ∧
        (chainRest tier first mid).Finds e left := by
  rw [chain.eq_1]
  exact finds_andThen_iff

theorem finds_chainRest_of_joins {tier : Tier} {before e : Expr} {t : Token}
    (ht : tier.joins t = true) :
    (chainRest tier before (t :: ts)).Finds e left ↔
      ∃ operand mid, (tierOperand tier ts).Finds operand mid ∧
        (chainRest tier (.binary t.text before operand) mid).Finds e left := by
  rw [chainRest.eq_2, if_pos ht, finds_after]
  exact finds_andThen_iff

theorem finds_chainRest_of_ends {tier : Tier} {before e : Expr}
    (hts : ∀ t ∈ ts.head?, tier.joins t = false) :
    (chainRest tier before ts).Finds e left ↔ e = before ∧ left = ts := by
  cases ts with
  | nil =>
      rw [chainRest.eq_1]
      exact finds_done
  | cons t rest =>
      have ht : ¬tier.joins t = true := by simp [hts t rfl]
      rw [chainRest.eq_2, if_neg ht]
      exact finds_done

theorem finds_tierOperand_sum {e : Expr} :
    (tierOperand .sum ts).Finds e left ↔ (chain .product ts).Finds e left := by
  rw [tierOperand.eq_1]

theorem finds_tierOperand_product {e : Expr} :
    (tierOperand .product ts).Finds e left ↔ (operand ts).Finds e left := by
  rw [tierOperand.eq_2]

theorem finds_operand {t : Token} {e : Expr} :
    (operand (t :: ts)).Finds e left ↔
      match t.kind with
      | .number => ∃ n, Number.ofText t.text = .ok n ∧ e = .number n ∧ left = ts
      | .string => e = .text t.text ∧ left = ts
      | .cell => (reference t.text ts).Finds e left
      | .function => (call t.text ts).Finds e left
      | .leftParen => (group ts).Finds e left
      | _ => False := by
  rw [operand.eq_2]
  -- the kind of the first token picks the rule
  cases t.kind with
  | number =>
      rw [finds_after]
      cases hn : Number.ofText t.text with
      | ok n =>
          refine finds_done.trans ?_
          simp
      | error cause =>
          refine iff_of_false not_finds_fail ?_
          simp
  | string => exact finds_after.trans finds_done
  | cell => exact finds_after
  | function => exact finds_after
  | leftParen => exact finds_after
  | operator => exact iff_of_false not_finds_fail id
  | rightParen => exact iff_of_false not_finds_fail id
  | comma => exact iff_of_false not_finds_fail id
  | colon => exact iff_of_false not_finds_fail id
  | endOfFormula => exact iff_of_false not_finds_fail id

/-- A reference ends before anything but a colon, after a colon that no cell follows, or after a
colon and a cell. -/
theorem finds_reference {id : Text} {e : Expr} :
    (reference id ts).Finds e left ↔
      ((∀ t ∈ ts.head?, t.kind ≠ .colon) ∧ e = .cell id ∧ left = ts) ∨
      (∃ colon, colon.kind = .colon ∧ ts = colon :: left ∧ (∀ t ∈ left.head?, t.kind ≠ .cell) ∧
        e = .cell id) ∨
      ∃ colon stop, colon.kind = .colon ∧ stop.kind = .cell ∧ ts = colon :: stop :: left ∧
        e = .range id stop.text := by
  unfold reference
  refine finds_andThen_iff.trans ?_
  constructor
  · rintro ⟨found, mid, hcolon, hnext⟩
    -- a colon or not, and after it a cell or not
    rcases (finds_readIf (by decide)).1 hcolon with ⟨colon, hkind, rfl, rfl⟩ | ⟨hno, rfl, rfl⟩
    · rcases finds_andThen_iff.1 hnext with ⟨found, mid', hstop, hdone⟩
      rcases (finds_readIf (by decide)).1 hstop with ⟨stop, hcell, rfl, rfl⟩ | ⟨hno, rfl, rfl⟩
      · rcases finds_done.1 hdone with ⟨rfl, rfl⟩
        exact Or.inr (Or.inr ⟨colon, stop, hkind, hcell, rfl, rfl⟩)
      · rcases finds_done.1 hdone with ⟨rfl, rfl⟩
        exact Or.inr (Or.inl ⟨colon, hkind, rfl, hno, rfl⟩)
    · exact Or.inl ⟨hno, finds_done.1 hnext⟩
  · rintro (⟨hno, rfl, rfl⟩ | ⟨colon, hkind, rfl, hno, rfl⟩ | ⟨colon, stop, hkind, hcell, rfl, rfl⟩)
    · exact ⟨none, left, (finds_readIf (by decide)).2 (Or.inr ⟨hno, rfl, rfl⟩),
        finds_done.2 ⟨rfl, rfl⟩⟩
    · refine ⟨some colon, left, (finds_readIf (by decide)).2 (Or.inl ⟨colon, hkind, rfl, rfl⟩), ?_⟩
      exact finds_andThen_iff.2 ⟨none, left,
        (finds_readIf (by decide)).2 (Or.inr ⟨hno, rfl, rfl⟩), finds_done.2 ⟨rfl, rfl⟩⟩
    · refine ⟨some colon, stop :: left,
        (finds_readIf (by decide)).2 (Or.inl ⟨colon, hkind, rfl, rfl⟩), ?_⟩
      exact finds_andThen_iff.2 ⟨some stop, left,
        (finds_readIf (by decide)).2 (Or.inl ⟨stop, hcell, rfl, rfl⟩), finds_done.2 ⟨rfl, rfl⟩⟩

theorem finds_group {e : Expr} :
    (group ts).Finds e left ↔
      ∃ closing, closing.kind = .rightParen ∧ (chain .sum ts).Finds e (closing :: left) := by
  rw [group.eq_1]
  refine finds_andThen_iff.trans ?_
  constructor
  · rintro ⟨inner, mid, hinner, hnext⟩
    rcases finds_andThen_iff.1 hnext with ⟨closing, mid', hclosing, hdone⟩
    rcases (finds_expect (by decide)).1 hclosing with ⟨hkind, rfl⟩
    rcases finds_done.1 hdone with ⟨rfl, rfl⟩
    exact ⟨closing, hkind, hinner⟩
  · rintro ⟨closing, hkind, hinner⟩
    refine ⟨e, closing :: left, hinner, finds_andThen_iff.2 ?_⟩
    exact ⟨closing, left, (finds_expect (by decide)).2 ⟨hkind, rfl⟩, finds_done.2 ⟨rfl, rfl⟩⟩

theorem finds_call {name : Text} {e : Expr} :
    (call name ts).Finds e left ↔
      ∃ opening inside args closing, opening.kind = .leftParen ∧ ts = opening :: inside ∧
        (arguments inside).Finds args (closing :: left) ∧ closing.kind = .rightParen ∧
          e = .call name args := by
  rw [call.eq_1]
  refine finds_andThen_iff.trans ?_
  constructor
  · rintro ⟨opening, inside, hopening, hnext⟩
    rcases (finds_expect (by decide)).1 hopening with ⟨hopen, rfl⟩
    rcases finds_andThen_iff.1 hnext with ⟨args, mid, hargs, hnext⟩
    rcases finds_andThen_iff.1 hnext with ⟨closing, mid', hclosing, hdone⟩
    rcases (finds_expect (by decide)).1 hclosing with ⟨hclose, rfl⟩
    rcases finds_done.1 hdone with ⟨rfl, rfl⟩
    exact ⟨opening, inside, args, closing, hopen, rfl, hargs, hclose, rfl⟩
  · rintro ⟨opening, inside, args, closing, hopen, rfl, hargs, hclose, rfl⟩
    refine ⟨opening, inside, (finds_expect (by decide)).2 ⟨hopen, rfl⟩, finds_andThen_iff.2 ?_⟩
    refine ⟨args, closing :: left, hargs, finds_andThen_iff.2 ?_⟩
    exact ⟨closing, left, (finds_expect (by decide)).2 ⟨hclose, rfl⟩, finds_done.2 ⟨rfl, rfl⟩⟩

theorem finds_arguments_of_rightParen {args : List Expr} (hts : (front ts).kind = .rightParen) :
    (arguments ts).Finds args left ↔ args = [] ∧ left = ts := by
  rw [arguments.eq_1, if_pos hts]
  exact finds_done

theorem finds_arguments_of_ne {args : List Expr} (hts : (front ts).kind ≠ .rightParen) :
    (arguments ts).Finds args left ↔
      ∃ first mid, (chain .sum ts).Finds first mid ∧ (argumentsRest [first] mid).Finds args left := by
  rw [arguments.eq_1, if_neg hts]
  exact finds_andThen_iff

theorem finds_argumentsRest_of_comma {before args : List Expr} {t : Token} (ht : t.kind = .comma) :
    (argumentsRest before (t :: ts)).Finds args left ↔
      ∃ e mid, (chain .sum ts).Finds e mid ∧
        (argumentsRest (before ++ [e]) mid).Finds args left := by
  rw [argumentsRest.eq_2, if_pos ht, finds_after]
  exact finds_andThen_iff

theorem finds_argumentsRest_of_ne {before args : List Expr}
    (hts : ∀ t ∈ ts.head?, t.kind ≠ .comma) :
    (argumentsRest before ts).Finds args left ↔ args = before ∧ left = ts := by
  cases ts with
  | nil =>
      rw [argumentsRest.eq_1]
      exact finds_done
  | cons t rest =>
      rw [argumentsRest.eq_2, if_neg (hts t rfl)]
      exact finds_done

end Reading
end CellCalc

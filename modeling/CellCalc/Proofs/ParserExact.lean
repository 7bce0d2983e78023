import CellCalc.Proofs.Finding
import CellCalc.Proofs.Grammar

/-!
# ParserExact — the parser recognises the grammar, and nothing else

What the parser reads is a sentence, and the tree it returns is the tree of that sentence. The
other way round a sentence is read to its end and no further, unless what follows could go on: an
operator, a colon, or a cell after a loose colon.

* `Grammar.Ends`, `Grammar.Follows` — what may stand after the tokens that were read.
* `Grammar.explains_rules`, `Grammar.explains` — what is read is a sentence.
* `Grammar.Chain.finds_of_rest`, `Grammar.Sentence.finds` — a sentence is read.
* `Grammar.Sentence.tree_unique` — a sentence has one tree.
* `Parser.parse_exact` — both directions for a whole sequence of tokens.
-/

namespace CellCalc
namespace Grammar

open Reading

/-! ## What may follow -/

/-- The tiers under a tier. -/
def tighter : Tier → List Tier
  | .sum => [.product]
  | .product => []

/-- No operator of these tiers is at the front. -/
def Ends (tiers : List Tier) (left : List Token) : Prop :=
  ∀ tier ∈ tiers, ∀ t ∈ left.head?, tier.joins t = false

/-- At the front is no colon, and no cell if the tokens before it end in a colon. -/
def Follows (ts left : List Token) : Prop :=
  ∀ t ∈ left.head?, t.kind ≠ .colon ∧
    (ts.getLast?.any (·.kind == .colon) = true → t.kind ≠ .cell)

theorem joins_eq_false_of_kind {tier : Tier} {t : Token} (h : t.kind ≠ .operator) :
    tier.joins t = false := by
  simp [Tier.joins, h]

theorem kind_of_joins {tier : Tier} {t : Token} (h : tier.joins t = true) : t.kind = .operator := by
  simpa using (Bool.and_eq_true_iff.1 h).1

theorem joins_product_of_joins_sum {t : Token} (h : Tier.sum.joins t = true) :
    Tier.product.joins t = false := by
  have htext : t.text = ['+'] ∨ t.text = ['-'] := by
    simpa [Tier.joins, Tier.operators] using (Bool.and_eq_true_iff.1 h).2
  rcases htext with htext | htext <;> simp [Tier.joins, Tier.operators, htext]

theorem Ends.of_kind {tiers : List Tier} {t : Token} (ts : List Token) (h : t.kind ≠ .operator) :
    Ends tiers (t :: ts) := by
  intro tier _ u hu
  obtain rfl : t = u := by simpa using hu
  exact joins_eq_false_of_kind h

theorem Ends.of_joins {tier : Tier} {t : Token} (ts : List Token) (h : tier.joins t = true) :
    Ends (tighter tier) (t :: ts) := by
  intro under hunder u hu
  obtain rfl : t = u := by simpa using hu
  cases tier with
  | sum =>
      obtain rfl : under = .product := by simpa [tighter] using hunder
      exact joins_product_of_joins_sum h
  | product => cases hunder

theorem Follows.of_kind {t : Token} (ts us : List Token) (hcolon : t.kind ≠ .colon)
    (hcell : t.kind ≠ .cell) : Follows ts (t :: us) := by
  intro u hu
  obtain rfl : t = u := by simpa using hu
  exact ⟨hcolon, fun _ => hcell⟩

theorem Follows.of_append (ts : List Token) {us left : List Token}
    (h : Follows (ts ++ us) left) : Follows us left := by
  intro t ht
  refine ⟨(h t ht).1, fun hloose => (h t ht).2 ?_⟩
  cases hus : us.getLast? with
  | none => simp [hus] at hloose
  | some c =>
      rw [List.getLast?_append, hus]
      simpa [hus] using hloose

/-! ## Soundness -/

/-- Whatever a reading finds, the tokens up to what it leaves explain it. -/
def Explains {α : Type} {ts : List Token} (r : Reading α ts)
    (P : List Token → α → List Token → Prop) : Prop :=
  ∀ a left, r.Finds a left → ∃ us, ts = us ++ left ∧ P us a left

theorem explains_rules :
    (∀ tier ts, Explains (chain tier ts) fun us e left =>
      Chain tier us e ∧ Ends (tier :: tighter tier) left) ∧
    (∀ tier ts, Explains (tierOperand tier ts) fun us e left =>
      TierOperand tier us e ∧ Ends (tighter tier) left) ∧
    ∀ ts, Explains (arguments ts) fun us args _ => Arguments us args := by
  refine (fun ⟨hchain, _, hoperand, _, _, _, hargs, _⟩ => ⟨hchain, hoperand, hargs⟩)
    (chain.mutual_induct
    (fun tier ts => Explains (chain tier ts) fun us e left =>
      Chain tier us e ∧ Ends (tier :: tighter tier) left)
    (fun tier before ts => Ends (tighter tier) ts → Explains (chainRest tier before ts)
      fun us e left => (∀ vs, Chain tier vs before → Chain tier (vs ++ us) e) ∧
        Ends (tier :: tighter tier) left)
    (fun tier ts => Explains (tierOperand tier ts) fun us e left =>
      TierOperand tier us e ∧ Ends (tighter tier) left)
    (fun ts => Explains (operand ts) fun us e _ => Operand us e)
    (fun ts => Explains (group ts) fun us e _ =>
      ∀ opening : Token, opening.kind = .leftParen → Operand (opening :: us) e)
    (fun name ts => Explains (call name ts) fun us e _ =>
      ∀ t : Token, t.kind = .function → t.text = name → Operand (t :: us) e)
    (fun ts => Explains (arguments ts) fun us args _ => Arguments us args)
    (fun before ts => Explains (argumentsRest before ts) fun us args _ =>
      ∀ vs, ArgumentList vs before → ArgumentList (vs ++ us) args)
    ?_ ?_ ?_ ?_ ?_ ?_ ?_ ?_ ?_ ?_ ?_ ?_ ?_ ?_ ?_ ?_ ?_ ?_ ?_ ?_)
  · -- a chain: its first operand, then the rest
    intro tier ts ihOperand ihRest e left h
    rcases finds_chain.1 h with ⟨first, mid, hfirst, hrest⟩
    rcases ihOperand first mid hfirst with ⟨us, rfl, hus, hmid⟩
    rcases ihRest first mid (List.suffix_append us mid) hmid e left hrest with
      ⟨vs, rfl, hvs, hleft⟩
    exact ⟨us ++ vs, by simp, hvs us (.first hus), hleft⟩
  · intro tier before hts e left h
    rcases (finds_chainRest_of_ends (by simp)).1 h with ⟨rfl, rfl⟩
    exact ⟨[], rfl, by simp, by simp [Ends]⟩
  · -- an operator of the tier: one more operand
    intro tier before t rest ht ihOperand ihRest hts e left h
    rcases (finds_chainRest_of_joins ht).1 h with ⟨right, mid, hright, hrest⟩
    rcases ihOperand right mid hright with ⟨us, rfl, hus, hmid⟩
    rcases ihRest right mid (List.suffix_append us mid) hmid e left hrest with
      ⟨vs, rfl, hvs, hleft⟩
    refine ⟨t :: (us ++ vs), by simp, ?_, hleft⟩
    intro ws hws
    simpa using hvs _ (Chain.join hws ht hus)
  · -- anything else ends the chain
    intro tier before t rest ht hts e left h
    have hend : ∀ u ∈ (t :: rest).head?, tier.joins u = false := by
      intro u hu
      obtain rfl : t = u := by simpa using hu
      simpa using ht
    rcases (finds_chainRest_of_ends hend).1 h with ⟨rfl, rfl⟩
    refine ⟨[], rfl, by simp, ?_⟩
    intro other hother
    rcases List.mem_cons.1 hother with rfl | hother
    · exact hend
    · exact hts other hother
  · intro ts ih e left h
    rcases ih e left (finds_tierOperand_sum.1 h) with ⟨us, rfl, hus, hleft⟩
    exact ⟨us, rfl, .product hus, fun tier htier => hleft tier (by simpa [tighter] using htier)⟩
  · intro ts ih e left h
    rcases ih e left (finds_tierOperand_product.1 h) with ⟨us, rfl, hus⟩
    exact ⟨us, rfl, .operand hus, by simp [Ends, tighter]⟩
  · intro e left h
    rw [operand.eq_1] at h
    exact absurd h not_finds_fail
  · intro t rest ht e left h
    rw [finds_operand, ht] at h
    rcases h with ⟨n, hn, rfl, rfl⟩
    exact ⟨[t], rfl, .number ht hn⟩
  · intro t rest ht e left h
    rw [finds_operand, ht] at h
    rcases h with ⟨rfl, rfl⟩
    exact ⟨[t], rfl, .string ht⟩
  · -- a cell, with or without a colon after it
    intro t rest ht e left h
    rw [finds_operand, ht] at h
    rcases finds_reference.1 h with ⟨-, rfl, rfl⟩ | ⟨colon, hcolon, rfl, -, rfl⟩ |
      ⟨colon, stop, hcolon, hstop, rfl, rfl⟩
    · exact ⟨[t], rfl, .cell ht⟩
    · exact ⟨[t, colon], rfl, .looseColon ht hcolon⟩
    · exact ⟨[t, colon, stop], rfl, .range ht hcolon hstop⟩
  · intro t rest ht ih e left h
    rw [finds_operand, ht] at h
    rcases ih e left h with ⟨us, rfl, hus⟩
    exact ⟨t :: us, rfl, hus t ht rfl⟩
  · intro t rest ht ih e left h
    rw [finds_operand, ht] at h
    rcases ih e left h with ⟨us, rfl, hus⟩
    exact ⟨t :: us, rfl, hus t ht⟩
  · -- no other token starts an operand
    intro t rest hnumber hstring hcell hfunction hparen e left h
    rw [finds_operand] at h
    cases hkind : t.kind <;> simp_all
  · intro ts ih e left h
    rcases finds_group.1 h with ⟨closing, hclosing, hinner⟩
    rcases ih e _ hinner with ⟨us, rfl, hus, -⟩
    refine ⟨us ++ [closing], by simp, ?_⟩
    intro opening hopening
    exact .group hopening hus hclosing
  · intro name ts ih e left h
    rcases finds_call.1 h with ⟨opening, inside, args, closing, hopening, rfl, hargs, hclosing, rfl⟩
    rcases ih inside (List.suffix_cons opening inside) args _ hargs with ⟨us, rfl, hus⟩
    refine ⟨opening :: (us ++ [closing]), by simp, ?_⟩
    rintro t ht rfl
    exact .call ht hopening hus hclosing
  · intro ts hts args left h
    rcases (finds_arguments_of_rightParen hts).1 h with ⟨rfl, rfl⟩
    exact ⟨[], rfl, .none⟩
  · intro ts hts ihFirst ihRest args left h
    rcases (finds_arguments_of_ne hts).1 h with ⟨first, mid, hfirst, hrest⟩
    rcases ihFirst first mid hfirst with ⟨us, rfl, hus, -⟩
    rcases ihRest first mid (List.suffix_append us mid) args left hrest with ⟨vs, rfl, hvs⟩
    exact ⟨us ++ vs, by simp, .some (hvs us (.first hus))⟩
  · intro before args left h
    rcases (finds_argumentsRest_of_ne (by simp)).1 h with ⟨rfl, rfl⟩
    exact ⟨[], rfl, by simp⟩
  · -- a comma: one more argument
    intro before t rest ht ihFirst ihRest args left h
    rcases (finds_argumentsRest_of_comma ht).1 h with ⟨e, mid, he, hrest⟩
    rcases ihFirst e mid he with ⟨us, rfl, hus, -⟩
    rcases ihRest e mid (List.suffix_append us mid) args left hrest with ⟨vs, rfl, hvs⟩
    refine ⟨t :: (us ++ vs), by simp, ?_⟩
    intro ws hws
    simpa using hvs _ (ArgumentList.more hws ht hus)
  · intro before t rest ht args left h
    have hend : ∀ u ∈ (t :: rest).head?, u.kind ≠ .comma := by
      intro u hu
      obtain rfl : t = u := by simpa using hu
      exact ht
    rcases (finds_argumentsRest_of_ne hend).1 h with ⟨rfl, rfl⟩
    exact ⟨[], rfl, by simp⟩

theorem explains (tier : Tier) (ts : List Token) :
    Explains (chain tier ts) fun us e left => Chain tier us e ∧ Ends (tier :: tighter tier) left :=
  explains_rules.1 tier ts

/-! ## Completeness -/

/-- No tree starts with a closing parenthesis. -/
theorem front_kind_ne_of_finds {ts left : List Token} {e : Expr}
    (h : (chain .sum ts).Finds e left) : (front ts).kind ≠ .rightParen := by
  cases ts with
  | nil => simp [front, Token.final]
  | cons t ts =>
      intro ht
      rcases finds_chain.1 h with ⟨first, mid, hfirst, -⟩
      rcases finds_chain.1 (finds_tierOperand_sum.1 hfirst) with ⟨first, mid, hfirst, -⟩
      have hoperand := finds_tierOperand_product.1 hfirst
      have hkind : t.kind = .rightParen := ht
      rw [finds_operand, hkind] at hoperand
      exact hoperand

theorem finds_chainRest_self {tier : Tier} {left : List Token} (e : Expr)
    (h : Ends [tier] left) : (chainRest tier e left).Finds e left :=
  (finds_chainRest_of_ends (h tier (by simp))).2 ⟨rfl, rfl⟩

/-- A sum that reading goes on from ends before a comma and before a closing parenthesis. -/
theorem finds_before_separator {ts : List Token} {e : Expr}
    (h : ∀ {left : List Token}, Follows ts left → Ends (tighter .sum) left →
      ∀ {f : Expr} {left' : List Token}, (chainRest .sum e left).Finds f left' →
        (chain .sum (ts ++ left)).Finds f left')
    {t : Token} (ht : t.kind = .comma ∨ t.kind = .rightParen) (left : List Token) :
    (chain .sum (ts ++ t :: left)).Finds e (t :: left) := by
  have hkinds : t.kind ≠ .operator ∧ t.kind ≠ .colon ∧ t.kind ≠ .cell := by
    rcases ht with ht | ht <;> simp [ht]
  rcases hkinds with ⟨hoperator, hcolon, hcell⟩
  exact h (Follows.of_kind ts left hcolon hcell) (Ends.of_kind left hoperator)
    (finds_chainRest_self e (Ends.of_kind left hoperator))

mutual

/-- A chain is read up to its end, and reading goes on from there with its tree. -/
theorem Chain.finds_of_rest {tier : Tier} : ∀ {ts : List Token} {e : Expr}, Chain tier ts e →
    ∀ {left : List Token}, Follows ts left → Ends (tighter tier) left →
      ∀ {f : Expr} {left' : List Token}, (chainRest tier e left).Finds f left' →
        (chain tier (ts ++ left)).Finds f left'
  | _, _, .first h, left, hfollows, hends, f, left', hrest =>
      finds_chain.2 ⟨_, left, h.finds hfollows hends, hrest⟩
  | _, _, @Chain.join _ ts us op _ _ hl hop hr, left, hfollows, hends, f, left', hrest => by
      -- the operator ends what is on its left, and leads to what is on its right
      have hright := hr.finds ((hfollows.of_append ts).of_append [op]) hends
      have hkind := kind_of_joins hop
      have hfollowsOp : Follows ts (op :: (us ++ left)) :=
        Follows.of_kind ts _ (by simp [hkind]) (by simp [hkind])
      rw [List.append_assoc]
      exact hl.finds_of_rest hfollowsOp (Ends.of_joins _ hop)
        ((finds_chainRest_of_joins hop).2 ⟨_, left, hright, hrest⟩)

theorem TierOperand.finds {tier : Tier} : ∀ {ts : List Token} {e : Expr}, TierOperand tier ts e →
    ∀ {left : List Token}, Follows ts left → Ends (tighter tier) left →
      (tierOperand tier (ts ++ left)).Finds e left
  | _, _, .product h, left, hfollows, hends =>
      finds_tierOperand_sum.2
        (h.finds_of_rest hfollows (by simp [Ends, tighter]) (finds_chainRest_self _ hends))
  | _, _, .operand h, left, hfollows, _ => finds_tierOperand_product.2 (h.finds hfollows)

theorem Operand.finds : ∀ {ts : List Token} {e : Expr}, Operand ts e →
    ∀ {left : List Token}, Follows ts left → (operand (ts ++ left)).Finds e left
  | _, _, .number ht hn, left, _ => by
      rw [List.singleton_append, finds_operand, ht]
      exact ⟨_, hn, rfl, rfl⟩
  | _, _, .string ht, left, _ => by
      rw [List.singleton_append, finds_operand, ht]
      exact ⟨rfl, rfl⟩
  | _, _, .cell ht, left, hfollows => by
      rw [List.singleton_append, finds_operand, ht]
      exact finds_reference.2 (Or.inl ⟨fun t h => (hfollows t h).1, rfl, rfl⟩)
  | _, _, @Operand.looseColon _ colon ht hcolon, left, hfollows => by
      rw [List.cons_append, finds_operand, ht]
      refine finds_reference.2 (Or.inr (Or.inl ⟨colon, hcolon, rfl, ?_, rfl⟩))
      intro t h
      exact (hfollows t h).2 (by simp [hcolon])
  | _, _, @Operand.range _ colon stop ht hcolon hstop, left, _ => by
      rw [List.cons_append, finds_operand, ht]
      exact finds_reference.2 (Or.inr (Or.inr ⟨colon, stop, hcolon, hstop, rfl, rfl⟩))
  | _, _, @Operand.call _ opening closing ts args ht hopening hargs hclosing, left, _ => by
      have hinside : (arguments (ts ++ closing :: left)).Finds args (closing :: left) :=
        hargs.finds hclosing
      rw [List.cons_append, List.cons_append, List.append_assoc, finds_operand, ht]
      exact finds_call.2 ⟨opening, _, _, closing, hopening, rfl, hinside, hclosing, rfl⟩
  | _, _, @Operand.group _ closing ts _ hopening he hclosing, left, _ => by
      have hinside := finds_before_separator he.finds_of_rest (Or.inr hclosing) left
      rw [List.cons_append, List.append_assoc, finds_operand, hopening]
      exact finds_group.2 ⟨closing, hclosing, hinside⟩

theorem Arguments.finds : ∀ {ts : List Token} {args : List Expr}, Arguments ts args →
    ∀ {closing : Token} {left : List Token}, closing.kind = .rightParen →
      (arguments (ts ++ closing :: left)).Finds args (closing :: left)
  | _, _, .none, closing, left, hclosing =>
      (finds_arguments_of_rightParen (by simpa [front] using hclosing)).2 ⟨rfl, rfl⟩
  | _, args, .some h, closing, left, hclosing => by
      have hend : (argumentsRest args (closing :: left)).Finds args (closing :: left) :=
        (finds_argumentsRest_of_ne (by simp [hclosing])).2 ⟨rfl, rfl⟩
      rcases h.finds_of_rest (Or.inr hclosing) hend with ⟨first, mid, hfirst, hrest⟩
      exact (finds_arguments_of_ne (front_kind_ne_of_finds hfirst)).2 ⟨first, mid, hfirst, hrest⟩

theorem ArgumentList.finds_of_rest : ∀ {ts : List Token} {args : List Expr}, ArgumentList ts args →
    ∀ {t : Token} {left left' : List Token} {all : List Expr},
      t.kind = .comma ∨ t.kind = .rightParen → (argumentsRest args (t :: left)).Finds all left' →
        ∃ first mid, (chain .sum (ts ++ t :: left)).Finds first mid ∧
          (argumentsRest [first] mid).Finds all left'
  | _, _, .first h, t, left, left', all, ht, hrest =>
      ⟨_, t :: left, finds_before_separator h.finds_of_rest ht left, hrest⟩
  | _, _, .more hargs hcomma he, t, left, left', all, ht, hrest => by
      have hlast := finds_before_separator he.finds_of_rest ht left
      rw [List.append_assoc]
      exact hargs.finds_of_rest (Or.inl hcomma)
        ((finds_argumentsRest_of_comma hcomma).2 ⟨_, _, hlast, hrest⟩)

end

theorem Sentence.finds {ts left : List Token} {e : Expr} (h : Sentence ts e)
    (hfollows : Follows ts left) (hends : ∀ tiers, Ends tiers left) :
    (chain .sum (ts ++ left)).Finds e left :=
  h.finds_of_rest hfollows (hends _) (finds_chainRest_self e (hends _))

theorem Sentence.tree_unique {ts : List Token} {e f : Expr} (he : Sentence ts e)
    (hf : Sentence ts f) : e = f := by
  -- the parser finds both before an end token
  have hfollows : Follows ts [Token.final 0] :=
    Follows.of_kind ts [] (by decide) (by decide)
  have hends : ∀ tiers, Ends tiers [Token.final 0] := fun tiers => Ends.of_kind [] (by decide)
  have hfound := (he.finds hfollows hends).outcome
  rw [(hf.finds hfollows hends).outcome] at hfound
  exact (Except.ok.inj hfound).symm

/-- A sentence never takes the token that ends a sequence. -/
theorem Sentence.rest_ne_nil {us left : List Token} {e : Expr} (h : Sentence us e)
    (hend : Token.endProperly (us ++ left) = true) : left ≠ [] := by
  rintro rfl
  rw [List.append_nil] at hend
  obtain ⟨t, ht, hfinal⟩ := Token.exists_isFinal hend
  rw [h.not_isFinal t ht] at hfinal
  cases hfinal

end Grammar

/-! ## Whole sequences -/

namespace Parser

open Grammar Reading

theorem ofTokens_eq_ok_iff {ts : List Token} {p : Parser} :
    ofTokens ts = .ok p ↔ Token.endProperly ts = true ∧ p = ⟨ts, 0⟩ := by
  unfold ofTokens
  by_cases h : Token.endProperly ts = true <;> simp [h, eq_comm]

theorem step_parse (p : Parser) :
    p.step .parse = (Answer.tree <$> (chain .sum p.tokens).outcome,
      { p with place := p.tokens.length - (chain .sum p.tokens).rest.length }) := rfl

theorem step_parse_eq_ok_iff {p q : Parser} {e : Expr} :
    p.step .parse = (.ok (.tree e), q) ↔
      ∃ left, (chain .sum p.tokens).Finds e left ∧
        q = { p with place := p.tokens.length - left.length } := by
  rw [step_parse]
  constructor
  · intro h
    rcases Prod.mk.inj h with ⟨houtcome, rfl⟩
    cases hfound : (chain .sum p.tokens).outcome with
    | ok f =>
        rw [hfound] at houtcome
        cases houtcome
        exact ⟨_, ⟨hfound, rfl⟩, rfl⟩
    | error cause =>
        rw [hfound] at houtcome
        cases houtcome
  · rintro ⟨left, ⟨houtcome, rfl⟩, rfl⟩
    rw [houtcome]
    rfl

/-- What parsing returns is the tree of the tokens it has passed, with no operator after them. The
tree of a sentence is returned whatever follows, unless that could go on; and it is the only tree
of the sentence. -/
theorem parse_exact {ts : List Token} {p : Parser} (hp : ofTokens ts = .ok p) :
    (∀ e q, p.step .parse = (.ok (.tree e), q) →
      Sentence (ts.take q.place) e ∧
        ∃ t, ts[q.place]? = some t ∧ ∀ tier : Tier, tier.joins t = false) ∧
    (∀ k e t, Sentence (ts.take k) e → ts[k]? = some t → (∀ tier : Tier, tier.joins t = false) →
      t.kind ≠ .colon →
        ((ts.take k).getLast?.any (·.kind == .colon) = true → t.kind ≠ .cell) →
          p.step .parse = (.ok (.tree e), { p with place := k })) ∧
    ∀ us e f, Sentence us e → Sentence us f → e = f := by
  rcases ofTokens_eq_ok_iff.1 hp with ⟨hend, rfl⟩
  refine ⟨?_, ?_, fun us e f => Sentence.tree_unique⟩
  · intro e q h
    rcases step_parse_eq_ok_iff.1 h with ⟨left, hfound, rfl⟩
    rcases explains .sum ts e left hfound with ⟨us, rfl, hus, hleft⟩
    obtain ⟨t, rest, rfl⟩ := List.exists_cons_of_ne_nil (Sentence.rest_ne_nil hus hend)
    have hplace : (us ++ t :: rest).length - (t :: rest).length = us.length := by simp
    simp only [hplace, List.take_left]
    refine ⟨hus, t, by simp, ?_⟩
    intro tier
    cases tier with
    | sum => exact hleft .sum (by simp) t rfl
    | product => exact hleft .product (by simp [tighter]) t rfl
  · intro k e t hsentence ht hjoins hcolon hcell
    obtain ⟨hk, rfl⟩ := List.getElem?_eq_some_iff.1 ht
    have hdrop : ts.drop k = ts[k] :: ts.drop (k + 1) := List.drop_eq_getElem_cons hk
    have hhead : ∀ u ∈ (ts.drop k).head?, u = ts[k] := by
      intro u hu
      rw [hdrop] at hu
      exact (Option.some.inj hu).symm
    have hfollows : Follows (ts.take k) (ts.drop k) := by
      intro u hu
      rw [hhead u hu]
      exact ⟨hcolon, hcell⟩
    have hends : ∀ tiers, Ends tiers (ts.drop k) := by
      intro tiers tier _ u hu
      rw [hhead u hu]
      exact hjoins tier
    have hfound := hsentence.finds hfollows hends
    rw [List.take_append_drop] at hfound
    have hplace : ts.length - (ts.drop k).length = k := by
      rw [List.length_drop]
      omega
    exact step_parse_eq_ok_iff.2 ⟨_, hfound, by rw [hplace]⟩

/-- The tokens of `A1:)`, whose colon belongs to the cell. -/
def looseColonTokens : List Token :=
  [⟨.cell, "A1", 0⟩, ⟨.colon, ":", 2⟩, ⟨.rightParen, ")", 3⟩, Token.final 4]

theorem parse_exact_loose_colon :
    ofTokens looseColonTokens = .ok ⟨looseColonTokens, 0⟩ ∧
      (Parser.mk looseColonTokens 0).step .parse =
        (.ok (.tree (.cell "A1")), ⟨looseColonTokens, 2⟩) := by
  have hparser : ofTokens looseColonTokens = .ok ⟨looseColonTokens, 0⟩ := rfl
  refine ⟨hparser,
    (parse_exact hparser).2.1 2 (.cell "A1") ⟨.rightParen, ")", 3⟩ ?_ rfl ?_ ?_ ?_⟩
  · exact .first (.product (.first (.operand (.looseColon rfl rfl))))
  · intro tier
    cases tier <;> rfl
  · decide
  · decide

end Parser
end CellCalc

import CellCalc.Proofs.ParseFailures
import CellCalc.Proofs.ViablePrefixes

/-!
# ParserRuns — a parser that is asked for one step after another

A parser can be asked for any step at any place that it has reached, also after a failure. Each step
but a new start reads on from where the parser stands, and none takes an end token; so the parser
always stands at a token, the first end token at the latest. What a new start finds depends on the
tokens alone.

* `Reading.Finds.length_lt_of_operand`, `Reading.Finds.length_lt_of_chain` — operands and expressions
  take a token at least.
* `Parser.after`, `Parser.getElem?_run` — the parser after several steps.
* `Parser.ReadsOn`, `Parser.readsOn_step` — what every step but a new start does to the place.
* `Parser.Inside`, `Parser.Inside.after` — where the parser stands after any run.
* `Parser.step_failsOnly` — what a step can fail for.
* `Parser.run_in_place` — all of it for every run.
-/

namespace CellCalc

/-! ## Readings that take something -/

namespace Reading

variable {ts left : List Token} {e : Expr}

/-- An operand takes a token at least. -/
theorem Finds.length_lt_of_operand (h : (operand ts).Finds e left) : left.length < ts.length := by
  cases ts with
  | nil =>
      rw [operand.eq_1] at h
      exact absurd h not_finds_fail
  | cons t rest =>
      -- what follows its first token is read on from there
      have hsuffix : left <:+ rest := by
        rw [finds_operand] at h
        cases ht : t.kind <;> simp only [ht] at h
        case number =>
          obtain ⟨-, -, -, rfl⟩ := h
          exact List.suffix_rfl
        case string =>
          obtain ⟨-, rfl⟩ := h
          exact List.suffix_rfl
        all_goals exact h.suffix
      have hlength := hsuffix.length_le
      rw [List.length_cons]
      omega

/-- A chain takes what its first operand takes, and gives nothing back after it. -/
theorem Finds.length_lt_of_first {tier : Tier} (h : (chain tier ts).Finds e left)
    (hfirst : ∀ first mid, (tierOperand tier ts).Finds first mid → mid.length < ts.length) :
    left.length < ts.length := by
  obtain ⟨first, mid, hmid, hrest⟩ := finds_chain.1 h
  exact Nat.lt_of_le_of_lt hrest.suffix.length_le (hfirst first mid hmid)

/-- An expression of either tier takes a token at least. -/
theorem Finds.length_lt_of_chain {tier : Tier} (h : (chain tier ts).Finds e left) :
    left.length < ts.length := by
  have hproduct : ∀ first mid, (tierOperand .product ts).Finds first mid →
      mid.length < ts.length := fun first mid hmid =>
    (finds_tierOperand_product.1 hmid).length_lt_of_operand
  cases tier with
  | product => exact h.length_lt_of_first hproduct
  | sum =>
      refine h.length_lt_of_first fun first mid hmid => ?_
      exact (finds_tierOperand_sum.1 hmid).length_lt_of_first hproduct

end Reading

namespace Parser

open Reading

/-! ## Runs -/

/-- The parser after several steps. -/
def after (p : Parser) (steps : List Step) : Parser :=
  steps.foldl (fun q s => (q.step s).2) p

@[simp] theorem after_cons (p : Parser) (s : Step) (steps : List Step) :
    p.after (s :: steps) = (p.step s).2.after steps := rfl

/-- Each entry of a run is the step taken by the parser after the steps before it. -/
theorem getElem?_run (p : Parser) (steps : List Step) (s : Step) (rest : List Step) :
    (p.run (steps ++ s :: rest))[steps.length]? =
      some (((p.after steps).step s).1, ((p.after steps).step s).2.place) := by
  induction steps generalizing p with
  | nil => rfl
  | cons first steps ih =>
      rw [List.cons_append, run, List.length_cons, List.getElem?_cons_succ, ih, after_cons]

/-! ## Reading on -/

/-- The second parser stands where the first one gets by taking some tokens, none of which is an
end token. -/
def ReadsOn (p q : Parser) : Prop :=
  q.tokens = p.tokens ∧ ∃ taken left, p.remaining = taken ++ left ∧
    (∀ t ∈ taken, t.isFinal = false) ∧ q.place = p.place + taken.length

theorem ReadsOn.refl (p : Parser) : ReadsOn p p :=
  ⟨rfl, [], p.remaining, rfl, by simp, rfl⟩

theorem ReadsOn.place_le {p q : Parser} (h : ReadsOn p q) : p.place ≤ q.place := by
  obtain ⟨-, taken, left, -, -, hplace⟩ := h
  omega

/-- The sequence ends properly, and no end token stands before the parser's place. -/
structure Inside (p : Parser) : Prop where
  endProperly : Token.endProperly p.tokens = true
  passed : ∀ t ∈ p.tokens.take p.place, t.isFinal = false

theorem Inside.place_lt {p : Parser} (h : p.Inside) : p.place < p.tokens.length := by
  obtain ⟨t, ht, hfinal⟩ := Token.exists_isFinal h.endProperly
  refine Nat.lt_of_not_le fun hle => ?_
  -- the end token would have been passed
  have hpassed := h.passed t (by rwa [List.take_of_length_le hle])
  rw [hpassed] at hfinal
  cases hfinal

/-- The parser stands at the first end token at the latest. -/
theorem Inside.place_le {p : Parser} (h : p.Inside) :
    p.place ≤ p.tokens.findIdx Token.isFinal := by
  refine List.le_findIdx_of_not h.place_lt fun i hi => ?_
  exact h.passed _ (List.mem_take_iff_getElem.2 ⟨i, by have := h.place_lt; omega, rfl⟩)

theorem Inside.restart {p : Parser} (h : p.Inside) : p.restart.Inside :=
  ⟨h.endProperly, by simp [Parser.restart]⟩

theorem Inside.of_readsOn {p q : Parser} (h : p.Inside) (hq : ReadsOn p q) : q.Inside := by
  obtain ⟨htokens, taken, left, hremaining, htaken, hplace⟩ := hq
  refine ⟨htokens ▸ h.endProperly, fun t ht => ?_⟩
  -- what has been passed now is what had been passed before, and what has been taken
  have hpassed : q.tokens.take q.place = p.tokens.take p.place ++ taken := by
    rw [remaining] at hremaining
    rw [htokens, hplace, List.take_add, hremaining, List.take_left]
  rw [hpassed, List.mem_append] at ht
  rcases ht with ht | ht
  · exact h.passed t ht
  · exact htaken t ht

/-- The next token is the one at the parser's place. -/
theorem Inside.exists_next {p : Parser} (h : p.Inside) :
    ∃ t rest, p.remaining = t :: rest ∧ p.tokens[p.place]? = some t :=
  ⟨_, _, List.drop_eq_getElem_cons h.place_lt, List.getElem?_eq_getElem h.place_lt⟩

/-- A reading that takes no end token reads on. -/
theorem readsOn_advance {α : Type} {p : Parser} (h : p.Inside)
    {read : (ts : List Token) → Reading α ts} (hread : Nearsighted read p.remaining) :
    ReadsOn p (p.advance (read p.remaining)).2 := by
  obtain ⟨taken, htaken⟩ := (read p.remaining).suffix
  refine ⟨rfl, taken, _, htaken.symm, hread.takesNoEnd taken htaken.symm, ?_⟩
  have hlength := congrArg List.length htaken
  rw [List.length_append, remaining, List.length_drop] at hlength
  have hlt := h.place_lt
  simp only [advance, remaining]
  omega

/-- Every step but a new start reads on. -/
theorem readsOn_step {p : Parser} (h : p.Inside) {s : Step} (hs : s ≠ .parse) :
    ReadsOn p (p.step s).2 := by
  cases s with
  | peek => exact .refl p
  | read =>
      simp only [step]
      split
      · exact .refl p
      · next hfinal =>
        obtain ⟨t, rest, hremaining, -⟩ := h.exists_next
        have hfront : front p.remaining = t := by rw [hremaining, front, List.headD_cons]
        refine ⟨rfl, [t], rest, hremaining, ?_, rfl⟩
        simpa [hfront] using hfinal
  | readIf kinds => exact readsOn_advance h (nearsighted_readIf kinds)
  | expect kind message => exact readsOn_advance h (nearsighted_expect kind (.expected message))
  | parse => exact absurd rfl hs
  | chain tier => exact readsOn_advance h (nearsighted_chain tier _)
  | operand => exact readsOn_advance h (nearsighted_operand _)
  | reference id => exact readsOn_advance h (nearsighted_reference id)
  | call name => exact readsOn_advance h (nearsighted_call name _)

theorem Inside.step {p : Parser} (h : p.Inside) (s : Step) : (p.step s).2.Inside := by
  by_cases hs : s = .parse
  · subst hs
    exact h.restart.of_readsOn (readsOn_advance h.restart (nearsighted_chain .sum _))
  · exact h.of_readsOn (readsOn_step h hs)

theorem Inside.after {p : Parser} (h : p.Inside) (steps : List Step) : (p.after steps).Inside := by
  induction steps generalizing p with
  | nil => exact h
  | cons s steps ih => exact ih (h.step s)

theorem tokens_step (p : Parser) (s : Step) : (p.step s).2.tokens = p.tokens := by
  cases s with
  | read =>
      simp only [step]
      split <;> rfl
  | _ => rfl

theorem tokens_after (p : Parser) (steps : List Step) : (p.after steps).tokens = p.tokens := by
  induction steps generalizing p with
  | nil => rfl
  | cons s steps ih => rw [after_cons, ih, tokens_step]

/-- What a new start finds depends on the tokens alone. -/
theorem step_parse_of_tokens {p q : Parser} (h : p.tokens = q.tokens) :
    p.step .parse = q.step .parse := by
  rcases p with ⟨ts, place⟩
  cases h
  rfl

/-! ## Expressions and operands -/

theorem place_lt_advance {α : Type} {p : Parser} (h : p.Inside) {r : Reading α p.remaining}
    (hless : r.rest.length < p.remaining.length) : p.place < (p.advance r).2.place := by
  have hlength : p.remaining.length = p.tokens.length - p.place := List.length_drop
  have hlt := h.place_lt
  simp only [advance]
  omega

/-- An expression or an operand that is found moves the parser on. -/
theorem place_lt_step {p : Parser} (h : p.Inside) {s : Step}
    (hs : s = .operand ∨ ∃ tier, s = .chain tier) {a : Answer} (hok : (p.step s).1 = .ok a) :
    p.place < (p.step s).2.place := by
  rcases hs with rfl | ⟨tier, rfl⟩
  · cases hfound : (operand p.remaining).outcome with
    | ok e =>
        have hfinds : (operand p.remaining).Finds e _ := ⟨hfound, rfl⟩
        exact place_lt_advance h hfinds.length_lt_of_operand
    | error cause =>
        simp only [step, step.tell, advance, hfound] at hok
        cases hok
  · cases hfound : (chain tier p.remaining).outcome with
    | ok e =>
        have hfinds : (chain tier p.remaining).Finds e _ := ⟨hfound, rfl⟩
        exact place_lt_advance h hfinds.length_lt_of_chain
    | error cause =>
        simp only [step, step.tell, advance, hfound] at hok
        cases hok

/-! ## Failures -/

/-- What can be wrong with tokens is a fault of the grammar or a number that is not read. -/
theorem kind_of_blames {all : List Token} {cause : Failure} (h : Token.Blames all cause) :
    cause.kind = .grammar ∨ cause.kind = .value := by
  cases h with
  | number _ _ hn => exact Or.inr (Number.ofText_failsOnly _ _ hn)
  | _ => exact Or.inl rfl

theorem expect_failsOnly {P : Failure → Prop} {kind : TokenKind} {cause : Failure}
    {ts : List Token} (h : P cause) : FailsOnly P (expect kind cause ts).outcome := by
  cases hread : (readIf [kind] ts).outcome with
  | error cause' => exact absurd ⟨hread, rfl⟩ not_fails_readIf
  | ok found =>
      rw [expect, (andThen_ok hread _).1]
      exact .elim h

/-- A step fails for a fault of the grammar or a number that is not read, and for nothing else. -/
theorem step_failsOnly (p : Parser) (s : Step) :
    FailsOnly (fun cause => cause.kind = .grammar ∨ cause.kind = .value) (p.step s).1 := by
  cases s with
  | peek => exact .ok
  | read => exact .ok
  | readIf kinds =>
      have hread : Blamed [] (readIf kinds p.remaining) := blamed_readIf
      exact (hread.mono fun _ => kind_of_blames).map
  | expect kind message => exact (expect_failsOnly (Or.inl rfl)).map
  | parse => exact ((blamed_chain .sum _ List.suffix_rfl).mono fun _ => kind_of_blames).map
  | chain tier => exact ((blamed_chain tier _ List.suffix_rfl).mono fun _ => kind_of_blames).map
  | operand => exact ((blamed_rules.2.1 _ List.suffix_rfl).mono fun _ => kind_of_blames).map
  | reference id =>
      have hread : Blamed [] (reference id p.remaining) := blamed_reference
      exact (hread.mono fun _ => kind_of_blames).map
  | call name =>
      -- as if the name had just been read
      have hcall := blamed_rules.2.2 name p.remaining ⟨.function, name, 0⟩ rfl rfl List.suffix_rfl
      exact (hcall.mono fun _ => kind_of_blames).map

/-! ## All of it -/

/-- Wherever some steps have led a parser, it stands at a token of its sequence, the first end token
at the latest. Each further step may fail for a fault of the grammar or a number that is not read,
but never for want of a token. Only a new start goes back, and it finds what it would have found at
first. An expression or an operand that is found has taken a token at least. -/
theorem run_in_place {ts : List Token} {p : Parser} (hp : ofTokens ts = .ok p)
    (steps : List Step) :
    let q := p.after steps
    (∀ s rest, (p.run (steps ++ s :: rest))[steps.length]? =
      some ((q.step s).1, (q.step s).2.place)) ∧
    q.tokens = ts ∧ q.place ≤ ts.findIdx Token.isFinal ∧ ts.findIdx Token.isFinal < ts.length ∧
    (∃ t, ts[q.place]? = some t ∧ q.step .peek = (.ok (.token t), q)) ∧
    (∀ s, FailsOnly (fun cause => cause.kind = .grammar ∨ cause.kind = .value) (q.step s).1) ∧
    (∀ s, s ≠ .parse → q.place ≤ (q.step s).2.place) ∧
    (∀ s a, s = .operand ∨ (∃ tier, s = .chain tier) → (q.step s).1 = .ok a →
      q.place < (q.step s).2.place) ∧
    q.step .parse = p.step .parse := by
  obtain ⟨hend, rfl⟩ := ofTokens_eq_ok_iff.1 hp
  intro q
  have hstart : (Parser.mk ts 0).Inside := ⟨hend, by simp⟩
  have hq : q.Inside := hstart.after steps
  have htokens : q.tokens = ts := tokens_after _ steps
  obtain ⟨last, hlast, hfinal⟩ := Token.exists_isFinal hend
  obtain ⟨t, rest, hremaining, hnext⟩ := hq.exists_next
  rw [htokens] at hnext
  refine ⟨getElem?_run _ steps, htokens, htokens ▸ hq.place_le, ?_, ⟨t, hnext, ?_⟩,
    step_failsOnly q, fun s hs => (readsOn_step hq hs).place_le,
    fun s a hs hok => place_lt_step hq hs hok, step_parse_of_tokens htokens⟩
  · exact List.findIdx_lt_length_of_exists ⟨last, hlast, hfinal⟩
  · rw [step, hremaining]
    rfl

/-- The tokens of `A1:`, an end token, and the tokens of `)*2`. -/
def twoFormulaTokens : List Token :=
  [⟨.cell, "A1", 0⟩, ⟨.colon, ":", 2⟩, Token.final 3, ⟨.rightParen, ")", 4⟩,
    ⟨.operator, "*", 5⟩, ⟨.number, "2", 6⟩, Token.final 7]

theorem run_in_place_two_formulas :
    ofTokens twoFormulaTokens = .ok ⟨twoFormulaTokens, 0⟩ ∧
      ((Parser.mk twoFormulaTokens 0).after [.read, .call "SUM", .parse, .read, .operand]).place ≤ 2 ∧
      ((Parser.mk twoFormulaTokens 0).after [.read, .call "SUM", .parse, .read, .operand]).step
          .parse = (.ok (.tree (.cell "A1")), ⟨twoFormulaTokens, 2⟩) := by
  have hparser : ofTokens twoFormulaTokens = .ok ⟨twoFormulaTokens, 0⟩ := rfl
  obtain ⟨-, -, hplace, -, -, -, -, -, hparse⟩ :=
    run_in_place hparser [.read, .call "SUM", .parse, .read, .operand]
  exact ⟨hparser, Nat.le_trans hplace (by decide), hparse.trans (by decide +kernel)⟩

end Parser
end CellCalc

import CellCalc.Proofs.Failing
import CellCalc.Proofs.Lookahead
import CellCalc.Proofs.ParserExact

/-!
# ViablePrefixes — parsing fails at the first token that fits no formula

Whatever a rule of the parser has taken when it fails can be completed: open parentheses can be
closed, and an operand can follow wherever one is missing. So the tokens before the one at which
parsing fails begin some sentence. And as nothing after that token is looked at, all sequences that
agree up to it fail there alike.

* `Reading.Fails` — a reading fails for this cause and leaves these tokens, with its rules.
* `Grammar.Completable`, `Grammar.completable` — what was taken before a failure can be completed.
* `Parser.parse_fails_early` — where parsing stops, and what that depends on.
-/

namespace CellCalc

/-! ## Failing, rule by rule -/

namespace Reading

variable {α β : Type} {ts left : List Token} {cause : Failure}

/-- The reading fails for this cause and leaves these tokens. -/
structure Fails (r : Reading α ts) (cause : Failure) (left : List Token) : Prop where
  outcome : r.outcome = .error cause
  rest : r.rest = left

theorem not_fails_done {a : α} : ¬(done a : Reading α ts).Fails cause left := by
  rintro ⟨houtcome, -⟩
  cases houtcome

theorem fails_fail {cause' : Failure} :
    (fail cause : Reading α ts).Fails cause' left ↔ cause' = cause ∧ left = ts := by
  constructor
  · rintro ⟨houtcome, hrest⟩
    exact ⟨(Except.error.inj houtcome).symm, hrest.symm⟩
  · rintro ⟨rfl, rfl⟩
    exact ⟨rfl, rfl⟩

theorem fails_after {t : Token} {r : Reading α ts} :
    (r.after t).Fails cause left ↔ r.Fails cause left :=
  ⟨fun h => ⟨h.outcome, h.rest⟩, fun h => ⟨h.outcome, h.rest⟩⟩

/-- Two readings one after the other fail where the first one does, or where the second one does
after the first one has found something. -/
theorem fails_andThen {r : Reading α ts} {next : α → (rest : List Token) → Reading β rest} :
    (r.andThen fun a rest _ => next a rest).Fails cause left ↔
      r.Fails cause left ∨ ∃ a mid, r.Finds a mid ∧ (next a mid).Fails cause left := by
  cases hfirst : r.outcome with
  | error cause' =>
      obtain ⟨houtcome, hrest⟩ := andThen_error hfirst fun a rest _ => next a rest
      constructor
      · rintro ⟨hfails, hleft⟩
        obtain rfl := Except.error.inj (houtcome.symm.trans hfails)
        exact Or.inl ⟨hfirst, hrest.symm.trans hleft⟩
      · rintro (⟨hfails, hleft⟩ | ⟨a, mid, ⟨hfound, -⟩, -⟩)
        · obtain rfl := Except.error.inj (hfirst.symm.trans hfails)
          exact ⟨houtcome, hrest.trans hleft⟩
        · rw [hfirst] at hfound
          cases hfound
  | ok a =>
      obtain ⟨houtcome, hrest⟩ := andThen_ok hfirst fun a rest _ => next a rest
      constructor
      · rintro ⟨hfails, hleft⟩
        exact Or.inr ⟨a, r.rest, ⟨hfirst, rfl⟩, houtcome.symm.trans hfails, hrest.symm.trans hleft⟩
      · rintro (⟨hfails, -⟩ | ⟨b, mid, ⟨hfound, rfl⟩, hfails, hleft⟩)
        · rw [hfirst] at hfails
          cases hfails
        · rw [hfirst] at hfound
          cases hfound
          exact ⟨houtcome.trans hfails, hrest.trans hleft⟩

theorem not_fails_readIf {kinds : List TokenKind} : ¬(readIf kinds ts).Fails cause left := by
  cases ts with
  | nil => exact not_fails_done
  | cons t ts =>
      rw [readIf_cons]
      split
      · exact fun h => not_fails_done (fails_after.1 h)
      · exact not_fails_done

/-- An expected token that is missing takes nothing. -/
theorem Fails.of_expect {kind : TokenKind} (hkind : kind ≠ .endOfFormula) {cause' : Failure}
    (h : (expect kind cause ts).Fails cause' left) : left = ts := by
  rcases fails_andThen.1 h with hread | ⟨found, mid, hread, hfails⟩
  · exact absurd hread not_fails_readIf
  · rcases (finds_readIf hkind).1 hread with ⟨t, -, -, rfl⟩ | ⟨-, rfl, rfl⟩
    · exact absurd hfails not_fails_done
    · exact (fails_fail.1 hfails).2

theorem not_fails_reference {id : Text} : ¬(reference id ts).Fails cause left := by
  intro h
  unfold reference at h
  rcases fails_andThen.1 h with hcolon | ⟨colon, mid, -, h⟩
  · exact not_fails_readIf hcolon
  cases colon with
  | none => exact not_fails_done h
  | some _ =>
      rcases fails_andThen.1 h with hstop | ⟨stop, mid, -, h⟩
      · exact not_fails_readIf hstop
      · cases stop with
        | none => exact not_fails_done h
        | some _ => exact not_fails_done h

end Reading

/-! ## Completing what was taken -/

namespace Grammar

open Reading

/-- Where the reading fails for a fault of grammar, the tokens it has taken can be completed. -/
def Completable {α : Type} {ts : List Token} (r : Reading α ts) (P : List Token → Prop) : Prop :=
  ∀ cause left, r.Fails cause left → cause.kind = .grammar →
    ∃ us more, ts = us ++ left ∧ P (us ++ more)

/-- A string, which can stand wherever an operand is missing. -/
def someOperand : Token := ⟨.string, [], 0⟩

/-- The parenthesis that opens the arguments of a call. -/
def someOpening : Token := ⟨.leftParen, ['('], 0⟩

/-- The parenthesis that closes a group or a call. -/
def someClosing : Token := ⟨.rightParen, [')'], 0⟩

theorem kind_someOpening : someOpening.kind = .leftParen := rfl

theorem kind_someClosing : someClosing.kind = .rightParen := rfl

theorem completable (tier : Tier) (ts : List Token) :
    Completable (chain tier ts) fun us => ∃ e, Chain tier us e := by
  refine (chain.mutual_induct
    (fun tier ts => Completable (chain tier ts) fun us => ∃ e, Chain tier us e)
    (fun tier before ts => Completable (chainRest tier before ts) fun us =>
      ∃ e, ∀ vs, Chain tier vs before → Chain tier (vs ++ us) e)
    (fun tier ts => Completable (tierOperand tier ts) fun us => ∃ e, TierOperand tier us e)
    (fun ts => Completable (operand ts) fun us => ∃ e, Operand us e)
    (fun ts => Completable (group ts) fun us =>
      ∃ e, ∀ opening : Token, opening.kind = .leftParen → Operand (opening :: us) e)
    (fun name ts => Completable (call name ts) fun us =>
      ∃ e, ∀ t : Token, t.kind = .function → t.text = name → Operand (t :: us) e)
    (fun ts => Completable (arguments ts) fun us => ∃ args, Arguments us args)
    (fun before ts => Completable (argumentsRest before ts) fun us =>
      ∃ args, ∀ vs, ArgumentList vs before → ArgumentList (vs ++ us) args)
    ?_ ?_ ?_ ?_ ?_ ?_ ?_ ?_ ?_ ?_ ?_ ?_ ?_ ?_ ?_ ?_ ?_ ?_ ?_ ?_).1 tier ts
  · intro tier ts ihOperand ihRest cause left h hkind
    rw [chain.eq_1] at h
    rcases fails_andThen.1 h with hfirst | ⟨first, mid, hfirst, hrest⟩
    · rcases ihOperand cause left hfirst hkind with ⟨us, more, rfl, e, he⟩
      exact ⟨us, more, rfl, e, .first he⟩
    · rcases explains_rules.2.1 tier ts first mid hfirst with ⟨us, rfl, hus, -⟩
      rcases ihRest first mid hfirst.suffix cause left hrest hkind with ⟨vs, more, rfl, e, he⟩
      exact ⟨us ++ vs, more, by simp, e, by simpa using he us (.first hus)⟩
  · intro tier before cause left h _
    rw [chainRest.eq_1] at h
    exact absurd h not_fails_done
  · -- an operator of the tier: its right operand is completed, or what follows that
    intro tier before t rest ht ihOperand ihRest cause left h hkind
    rw [chainRest.eq_2, if_pos ht] at h
    rcases fails_andThen.1 (fails_after.1 h) with hright | ⟨right, mid, hright, hrest⟩
    · rcases ihOperand cause left hright hkind with ⟨us, more, rfl, e, he⟩
      exact ⟨t :: us, more, rfl, _, fun vs hvs => .join hvs ht he⟩
    · rcases explains_rules.2.1 tier rest right mid hright with ⟨us, rfl, hus, -⟩
      rcases ihRest right mid hright.suffix cause left hrest hkind with ⟨vs, more, rfl, e, he⟩
      refine ⟨t :: (us ++ vs), more, by simp, e, fun ws hws => ?_⟩
      simpa using he _ (Chain.join hws ht hus)
  · intro tier before t rest ht cause left h _
    rw [chainRest.eq_2, if_neg ht] at h
    exact absurd h not_fails_done
  · intro ts ih cause left h hkind
    rw [tierOperand.eq_1] at h
    rcases ih cause left h hkind with ⟨us, more, rfl, e, he⟩
    exact ⟨us, more, rfl, e, .product he⟩
  · intro ts ih cause left h hkind
    rw [tierOperand.eq_2] at h
    rcases ih cause left h hkind with ⟨us, more, rfl, e, he⟩
    exact ⟨us, more, rfl, e, .operand he⟩
  · intro cause left h _
    rw [operand.eq_1] at h
    obtain rfl := (fails_fail.1 h).2
    exact ⟨[], [someOperand], rfl, _, .string rfl⟩
  · -- a number that is not read has another kind of cause
    intro t rest ht cause left h hkind
    rw [operand.eq_2, ht] at h
    have hvalue := (Number.ofText_failsOnly t.text).map cause h.outcome
    rw [hvalue] at hkind
    cases hkind
  · intro t rest ht cause left h _
    rw [operand.eq_2, ht] at h
    exact absurd (fails_after.1 h) not_fails_done
  · intro t rest ht cause left h _
    rw [operand.eq_2, ht] at h
    exact absurd (fails_after.1 h) not_fails_reference
  · intro t rest ht ih cause left h hkind
    rw [operand.eq_2, ht] at h
    rcases ih cause left (fails_after.1 h) hkind with ⟨us, more, rfl, e, he⟩
    exact ⟨t :: us, more, rfl, e, he t ht rfl⟩
  · intro t rest ht ih cause left h hkind
    rw [operand.eq_2, ht] at h
    rcases ih cause left (fails_after.1 h) hkind with ⟨us, more, rfl, e, he⟩
    exact ⟨t :: us, more, rfl, e, he t ht⟩
  · -- no other token starts an operand
    intro t rest hnumber hstring hcell hfunction hparen cause left h _
    have hother : operand (t :: rest) = fail (.noOperand t.text) := by
      rw [operand.eq_2]
      cases hkind : t.kind <;> simp_all
    rw [hother] at h
    obtain rfl := (fails_fail.1 h).2
    exact ⟨[], [someOperand], rfl, _, .string rfl⟩
  · -- a group, which lacks a part of its sum or its closing parenthesis
    intro ts ih cause left h hkind
    rw [group.eq_1] at h
    rcases fails_andThen.1 h with hinner | ⟨e, mid, hinner, hnext⟩
    · rcases ih cause left hinner hkind with ⟨us, more, rfl, e, he⟩
      refine ⟨us, more ++ [someClosing], rfl, e, fun opening hopening => ?_⟩
      simpa using Operand.group hopening he kind_someClosing
    · rcases explains .sum ts e mid hinner with ⟨us, rfl, hus, -⟩
      rcases fails_andThen.1 hnext with hclosing | ⟨closing, mid', -, hdone⟩
      · obtain rfl := hclosing.of_expect (by decide)
        exact ⟨us, [someClosing], rfl, e, fun opening hopening => .group hopening hus rfl⟩
      · exact absurd hdone not_fails_done
  · -- a call, which lacks its opening parenthesis, a part of its arguments or its closing one
    intro name ts ih cause left h hkind
    rw [call.eq_1] at h
    rcases fails_andThen.1 h with hopening | ⟨opening, inside, hopening, hnext⟩
    · obtain rfl := hopening.of_expect (by decide)
      refine ⟨[], [someOpening, someClosing], rfl, .call name [], ?_⟩
      rintro t ht rfl
      exact .call ht kind_someOpening .none kind_someClosing
    rcases (finds_expect (by decide)).1 hopening with ⟨hopen, rfl⟩
    rcases fails_andThen.1 hnext with hargs | ⟨args, mid, hargs, hlast⟩
    · rcases ih inside (List.suffix_cons opening inside) cause left hargs hkind with
        ⟨us, more, rfl, args, hall⟩
      refine ⟨opening :: us, more ++ [someClosing], rfl, .call name args, ?_⟩
      rintro t ht rfl
      simpa using Operand.call ht hopen hall kind_someClosing
    · rcases explains_rules.2.2 inside args mid hargs with ⟨us, rfl, hus⟩
      rcases fails_andThen.1 hlast with hclosing | ⟨closing, mid', -, hdone⟩
      · obtain rfl := hclosing.of_expect (by decide)
        refine ⟨opening :: us, [someClosing], rfl, .call name args, ?_⟩
        rintro t ht rfl
        exact .call ht hopen hus rfl
      · exact absurd hdone not_fails_done
  · intro ts hts cause left h _
    rw [arguments.eq_1, if_pos hts] at h
    exact absurd h not_fails_done
  · intro ts hts ihFirst ihRest cause left h hkind
    rw [arguments.eq_1, if_neg hts] at h
    rcases fails_andThen.1 h with hfirst | ⟨first, mid, hfirst, hrest⟩
    · rcases ihFirst cause left hfirst hkind with ⟨us, more, rfl, e, he⟩
      exact ⟨us, more, rfl, [e], .some (.first he)⟩
    · rcases explains .sum ts first mid hfirst with ⟨us, rfl, hus, -⟩
      rcases ihRest first mid hfirst.suffix cause left hrest hkind with ⟨vs, more, rfl, args, hall⟩
      exact ⟨us ++ vs, more, by simp, args, .some (by simpa using hall us (.first hus))⟩
  · intro before cause left h _
    rw [argumentsRest.eq_1] at h
    exact absurd h not_fails_done
  · -- a comma: the argument after it is completed, or what follows that
    intro before t rest ht ihFirst ihRest cause left h hkind
    rw [argumentsRest.eq_2, if_pos ht] at h
    rcases fails_andThen.1 (fails_after.1 h) with he | ⟨e, mid, he, hrest⟩
    · rcases ihFirst cause left he hkind with ⟨us, more, rfl, e, he⟩
      exact ⟨t :: us, more, rfl, _, fun vs hvs => .more hvs ht he⟩
    · rcases explains .sum rest e mid he with ⟨us, rfl, hus, -⟩
      rcases ihRest e mid he.suffix cause left hrest hkind with ⟨vs, more, rfl, args, hall⟩
      refine ⟨t :: (us ++ vs), more, by simp, args, fun ws hws => ?_⟩
      simpa using hall _ (ArgumentList.more hws ht hus)
  · intro before t rest ht cause left h _
    rw [argumentsRest.eq_2, if_neg ht] at h
    exact absurd h not_fails_done

end Grammar

/-! ## Whole sequences -/

namespace Parser

open Grammar Reading

theorem step_parse_eq_error_iff {p q : Parser} {cause : Failure} :
    p.step .parse = (.error cause, q) ↔
      ∃ left, (chain .sum p.tokens).Fails cause left ∧
        q = { p with place := p.tokens.length - left.length } := by
  rw [step_parse]
  constructor
  · intro h
    rcases Prod.mk.inj h with ⟨houtcome, rfl⟩
    cases hfound : (chain .sum p.tokens).outcome with
    | ok e =>
        rw [hfound] at houtcome
        cases houtcome
    | error cause' =>
        rw [hfound] at houtcome
        cases houtcome
        exact ⟨_, ⟨hfound, rfl⟩, rfl⟩
  · rintro ⟨left, ⟨houtcome, rfl⟩, rfl⟩
    rw [houtcome]
    rfl

/-- A sentence before an end token is parsed up to the end token. -/
theorem step_parse_of_sentence {us : List Token} {e : Expr} (h : Sentence us e) {stop : Token}
    (hstop : stop.isFinal = true) :
    (Parser.mk (us ++ [stop]) 0).step .parse = (.ok (.tree e), ⟨us ++ [stop], us.length⟩) := by
  have hkind : stop.kind = .endOfFormula := by simpa [Token.isFinal] using hstop
  have hfound : (chain .sum (us ++ [stop])).Finds e [stop] :=
    h.finds (Follows.of_kind us [] (by simp [hkind]) (by simp [hkind])) fun tiers =>
      Ends.of_kind [] (by simp [hkind])
  exact step_parse_eq_ok_iff.2 ⟨[stop], hfound, by simp⟩

/-- A sequence that agrees with another one up to the token where parsing that one stops is parsed
alike. -/
theorem step_parse_congr {ts us : List Token} {outcome : Except Failure Answer} {q : Parser}
    (h : (Parser.mk ts 0).step .parse = (outcome, q))
    (hagree : ∀ i ≤ q.place, us[i]? = ts[i]?) :
    (Parser.mk us 0).step .parse = (outcome, ⟨us, q.place⟩) := by
  rw [step_parse] at h ⊢
  obtain ⟨rfl, rfl⟩ := Prod.mk.inj h
  obtain ⟨houtcome, hplace⟩ := (nearsighted_chain .sum ts).same_of_getElem? hagree
  rw [houtcome, hplace]

/-- Parsing stops at a token of the sequence. -/
theorem place_step_parse_lt {ts : List Token} {outcome : Except Failure Answer} {q : Parser}
    (hend : Token.endProperly ts = true) (h : (Parser.mk ts 0).step .parse = (outcome, q)) :
    q.place < ts.length := by
  rw [step_parse] at h
  obtain ⟨-, rfl⟩ := Prod.mk.inj h
  have hleft := List.length_pos_iff.2 ((nearsighted_chain .sum ts).rest_ne_nil hend)
  have hlength := (chain .sum ts).suffix.length_le
  dsimp only
  omega

/-- If parsing fails, the tokens before the one at which it fails begin a formula: with some more
tokens they are parsed up to whatever end token follows. Where parsing stops, with a tree or with a
failure, is within the sequence, and every sequence that agrees with it up to the token there has
the same outcome at the same place. -/
theorem parse_fails_early {ts : List Token} {p : Parser} (hp : ofTokens ts = .ok p) :
    (∀ cause q, p.step .parse = (.error cause, q) → cause.kind = .grammar →
      ∃ more : List Token, ∀ stop : Token, stop.isFinal = true → ∃ p' e,
        ofTokens (ts.take q.place ++ more ++ [stop]) = .ok p' ∧
          p'.step .parse =
            (.ok (.tree e), { p' with place := (ts.take q.place ++ more).length })) ∧
    ∀ outcome q, p.step .parse = (outcome, q) → q.place < ts.length ∧
      ∀ us p', ofTokens us = .ok p' → (∀ i ≤ q.place, us[i]? = ts[i]?) →
        p'.step .parse = (outcome, { p' with place := q.place }) := by
  rcases ofTokens_eq_ok_iff.1 hp with ⟨hend, rfl⟩
  constructor
  · intro cause q h hkind
    rcases step_parse_eq_error_iff.1 h with ⟨left, hfails, rfl⟩
    rcases completable .sum ts cause left hfails hkind with ⟨us, more, rfl, e, he⟩
    -- what was taken is now the front of a sentence, which any end token may follow
    have hplace : (us ++ left).length - left.length = us.length := by simp
    simp only [hplace, List.take_left]
    refine ⟨more, fun stop hstop => ⟨⟨us ++ more ++ [stop], 0⟩, e, ?_, ?_⟩⟩
    · exact ofTokens_eq_ok_iff.2 ⟨by simp [Token.endProperly, hstop], rfl⟩
    · exact step_parse_of_sentence he hstop
  · intro outcome q h
    refine ⟨place_step_parse_lt hend h, ?_⟩
    intro us p' hp' hagree
    rcases ofTokens_eq_ok_iff.1 hp' with ⟨-, rfl⟩
    exact step_parse_congr h hagree

/-- The tokens of `SUM((A1:2`, which fit until the number. -/
def openGroupTokens : List Token :=
  [⟨.function, "SUM", 0⟩, ⟨.leftParen, "(", 3⟩, ⟨.leftParen, "(", 4⟩, ⟨.cell, "A1", 5⟩,
    ⟨.colon, ":", 7⟩, ⟨.number, "2", 8⟩, Token.final 9]

/-- The tokens of `SUM((A1:2)`, which are the same up to the number. -/
def numberInGroupTokens : List Token :=
  openGroupTokens.take 6 ++ [⟨.rightParen, ")", 9⟩, Token.final 10]

theorem parse_fails_early_open_group :
    ofTokens openGroupTokens = .ok ⟨openGroupTokens, 0⟩ ∧
      (∃ more : List Token, ∀ stop : Token, stop.isFinal = true → ∃ p' e,
        ofTokens (openGroupTokens.take 5 ++ more ++ [stop]) = .ok p' ∧
          p'.step .parse =
            (.ok (.tree e), { p' with place := (openGroupTokens.take 5 ++ more).length })) ∧
        (Parser.mk numberInGroupTokens 0).step .parse =
          (.error .unclosedGroup, ⟨numberInGroupTokens, 5⟩) := by
  have hparser : ofTokens openGroupTokens = .ok ⟨openGroupTokens, 0⟩ := rfl
  have hfails : (Parser.mk openGroupTokens 0).step .parse =
      (.error .unclosedGroup, ⟨openGroupTokens, 5⟩) := by decide +kernel
  refine ⟨hparser, (parse_fails_early hparser).1 _ _ hfails rfl, ?_⟩
  exact ((parse_fails_early hparser).2 _ _ hfails).2 numberInGroupTokens _ rfl (by decide)

end Parser
end CellCalc

import CellCalc.Proofs.Failing
import CellCalc.Proofs.FormedTrees
import CellCalc.Proofs.NumberLiterals

/-!
# ParseFailures — what can be wrong with a formula

Reading a text stops at a character, a string or a name that is no lexeme. Reading its tokens stops
where an operand or a closing parenthesis is missing, and at an integer with more digits than are
read. The opening parenthesis of a call is never missing, because a name calls a function only
where the parenthesis follows at once.

* `Token.kind_of_readFrom_error` — a text without tokens has a part that is no lexeme.
* `Token.CallsOpen`, `Piece.callsOpen` — a function is followed by its opening parenthesis.
* `Token.Blames` — what can be wrong with some tokens.
* `Reading.blamed_rules` — a reading fails only for what is wrong with its tokens.
* `Expr.cause_of_ofText_error` — why a text has no tree.
-/

namespace CellCalc

/-! ## Texts without tokens -/

theorem Token.kind_of_readFrom_error {place : Nat} {t : Text} {cause : Failure}
    (h : (readFrom place t).1 = .error cause) : cause.kind = .lexical := by
  fun_induction readFrom place t with
  | case1 place => cases h
  | case2 place c rest hblank ih => exact ih h
  | case3 place c rest hblank kind text more hfront tokens stop hread ih =>
      cases tokens with
      | error cause' =>
          cases h
          exact ih (by rw [hread])
      | ok tokens => cases h
  | case4 place c rest hblank cause' width hfront =>
      cases h
      obtain ⟨_, _, -, -, hrefused⟩ := Lexeme.refused_of_front (by simpa using hblank) hfront
      exact hrefused.kind

/-! ## Functions and their parentheses -/

/-- Every function is directly followed by an opening parenthesis, at the place where its name
ends. -/
def Token.CallsOpen (ts : List Token) : Prop :=
  ∀ t rest, t :: rest <:+ ts → t.kind = .function →
    ∃ opening after, rest = opening :: after ∧ opening.kind = .leftParen ∧
      opening.position = t.position + t.text.length

theorem Lexeme.Spelled.kind_of_paren {kind : TokenKind} {text written rest : Text}
    (h : Spelled kind text written rest) (hparen : (written ++ rest).head? = some '(') :
    kind = .leftParen := by
  rcases front_of_spelled h with ⟨c, more, rfl, -, hfront⟩
  obtain rfl : c = '(' := by simpa using hparen
  have hread : front '(' (more ++ rest) = .token .leftParen ['('] 0 := rfl
  rw [hread] at hfront
  injection hfront with hkind
  exact hkind.symm

namespace Piece

/-- An opening parenthesis that comes next in the text is the next token. -/
theorem exists_opening {ps : List Piece} {tail : Text} (h : Splits ps tail)
    (hparen : (joined ps tail).head? = some '(') (place : Nat) :
    ∃ opening after, tokensFrom place ps tail = opening :: after ∧ opening.kind = .leftParen ∧
      opening.position = place := by
  have hblank : Text.isBlank '(' = false := by decide
  cases ps with
  | nil =>
      have hbad := h '(' (List.mem_of_mem_head? hparen)
      rw [hblank] at hbad
      cases hbad
  | cons p ps =>
      rcases p with ⟨gap, kind, text, written⟩
      rcases h with ⟨hgap, hspelled, -⟩
      cases gap with
      | nil => exact ⟨_, _, rfl, hspelled.kind_of_paren hparen, rfl⟩
      | cons c gap =>
          -- a gap would begin with the parenthesis, which is not blank
          obtain rfl : c = '(' := by simpa [joined] using hparen
          have hbad := hgap '(' (by simp)
          rw [hblank] at hbad
          cases hbad

theorem callsOpen {ps : List Piece} {tail : Text} (h : Splits ps tail) (place : Nat) :
    Token.CallsOpen (tokensFrom place ps tail) := by
  induction ps generalizing place with
  | nil =>
      intro t rest hsuffix hkind
      have hmem : t ∈ tokensFrom place [] tail := hsuffix.mem (by simp)
      obtain rfl : t = Token.final (place + tail.length) := by simpa [tokensFrom] using hmem
      cases hkind
  | cons p ps ih =>
      rcases p with ⟨gap, kind, text, written⟩
      rcases h with ⟨-, hspelled, hrest⟩
      intro t rest hsuffix hkind
      rw [tokensFrom] at hsuffix
      rcases List.suffix_cons_iff.1 hsuffix with hsame | hlater
      · obtain ⟨rfl, rfl⟩ := List.cons.inj hsame
        obtain rfl : kind = .function := hkind
        cases hspelled with
        | function _ _ hparen =>
            obtain ⟨opening, after, htokens, hopening, hplace⟩ :=
              exists_opening hrest hparen (place + gap.length + text.length)
            exact ⟨opening, after, htokens, hopening, by rw [hplace]; simp⟩
      · exact ih hrest _ t rest hlater hkind

end Piece

/-! ## What can be wrong with tokens -/

/-- What can be wrong with some tokens: an operand is missing, a parenthesis is not closed, a
function has no parenthesis after it, or a number is not read. -/
inductive Token.Blames (all : List Token) : Failure → Prop
  | noOperand (found : Text) : Blames all (.noOperand found)
  | unclosedGroup : Blames all .unclosedGroup
  | unclosedCall : Blames all .unclosedCall
  | noArguments {t : Token} {rest : List Token} : t :: rest <:+ all → t.kind = .function →
      (∀ u ∈ rest.head?, u.kind ≠ .leftParen) → Blames all (.noArguments t.text)
  | number {t : Token} {cause : Failure} : t ∈ all → t.kind = .number →
      Number.ofText t.text = .error cause → Blames all cause

namespace Reading

variable {α β : Type} {all ts : List Token}

/-- The reading fails only for what is wrong with the tokens. -/
def Blamed (all : List Token) (r : Reading α ts) : Prop :=
  FailsOnly (Token.Blames all) r.outcome

theorem blamed_done {a : α} : Blamed all (done a : Reading α ts) :=
  FailsOnly.ok

theorem blamed_fail {cause : Failure} (h : Token.Blames all cause) :
    Blamed all (fail cause : Reading α ts) :=
  FailsOnly.error h

theorem Blamed.after {r : Reading α ts} (h : Blamed all r) (t : Token) : Blamed all (r.after t) :=
  h

theorem Blamed.andThen {r : Reading α ts}
    {next : (a : α) → (rest : List Token) → rest <:+ ts → Reading β rest} (h : Blamed all r)
    (hnext : ∀ a rest hrest, Blamed all (next a rest hrest)) : Blamed all (r.andThen next) := by
  unfold Blamed
  cases houtcome : r.outcome with
  | ok a =>
      rw [(andThen_ok houtcome next).1]
      exact hnext a r.rest r.suffix
  | error cause =>
      rw [(andThen_error houtcome next).1]
      exact .error (h cause houtcome)

theorem blamed_readIf {kinds : List TokenKind} : Blamed all (readIf kinds ts) := by
  cases ts with
  | nil => exact blamed_done
  | cons t ts =>
      rw [readIf_cons]
      split
      · exact blamed_done.after t
      · exact blamed_done

theorem blamed_expect {kind : TokenKind} (hkind : kind ≠ .endOfFormula) {cause : Failure}
    (h : (∀ u ∈ ts.head?, u.kind ≠ kind) → Token.Blames all cause) :
    Blamed all (expect kind cause ts) := by
  intro cause' herror
  unfold expect at herror
  cases houtcome : (readIf [kind] ts).outcome with
  | error missing =>
      rw [(andThen_error houtcome _).1] at herror
      cases herror
      exact blamed_readIf _ houtcome
  | ok found =>
      rw [(andThen_ok houtcome _).1] at herror
      rcases (finds_readIf hkind).1 ⟨houtcome, rfl⟩ with ⟨t, -, -, rfl⟩ | ⟨hmissing, -, rfl⟩
      · cases herror
      · cases herror
        exact h hmissing

theorem blamed_reference {id : Text} : Blamed all (reference id ts) := by
  unfold reference
  refine blamed_readIf.andThen fun colon rest _ => ?_
  cases colon with
  | none => exact blamed_done
  | some _ =>
      refine blamed_readIf.andThen fun stop _ _ => ?_
      cases stop with
      | none => exact blamed_done
      | some _ => exact blamed_done

theorem blamed_rules :
    (∀ tier ts, ts <:+ all → Blamed all (chain tier ts)) ∧
      (∀ ts, ts <:+ all → Blamed all (operand ts)) ∧
        ∀ name ts, ∀ t : Token, t.kind = .function → t.text = name → t :: ts <:+ all →
          Blamed all (call name ts) := by
  refine (fun h => ⟨h.1, h.2.2.2.1, h.2.2.2.2.2.1⟩ : _ → _) (chain.mutual_induct
    (fun tier ts => ts <:+ all → Blamed all (chain tier ts))
    (fun tier before ts => ts <:+ all → Blamed all (chainRest tier before ts))
    (fun tier ts => ts <:+ all → Blamed all (tierOperand tier ts))
    (fun ts => ts <:+ all → Blamed all (operand ts))
    (fun ts => ts <:+ all → Blamed all (group ts))
    (fun name ts => ∀ t : Token, t.kind = .function → t.text = name → t :: ts <:+ all →
      Blamed all (call name ts))
    (fun ts => ts <:+ all → Blamed all (arguments ts))
    (fun before ts => ts <:+ all → Blamed all (argumentsRest before ts))
    ?_ ?_ ?_ ?_ ?_ ?_ ?_ ?_ ?_ ?_ ?_ ?_ ?_ ?_ ?_ ?_ ?_ ?_ ?_ ?_)
  · intro tier ts ihOperand ihRest hall
    rw [chain.eq_1]
    exact (ihOperand hall).andThen fun first rest hrest => ihRest first rest hrest (hrest.trans hall)
  · intro tier before _
    rw [chainRest.eq_1]
    exact blamed_done
  · -- an operator of the tier: one more operand
    intro tier before t rest ht ihOperand ihRest hall
    have hrest : rest <:+ all := (List.suffix_cons t rest).trans hall
    rw [chainRest.eq_2, if_pos ht]
    exact ((ihOperand hrest).andThen fun right mid hmid =>
      ihRest right mid hmid (hmid.trans hrest)).after t
  · intro tier before t rest ht _
    rw [chainRest.eq_2, if_neg ht]
    exact blamed_done
  · intro ts ih hall
    rw [tierOperand.eq_1]
    exact ih hall
  · intro ts ih hall
    rw [tierOperand.eq_2]
    exact ih hall
  · intro _
    rw [operand.eq_1]
    exact blamed_fail (.noOperand [])
  · -- a number, which may be one that is not read
    intro t rest ht hall
    rw [operand.eq_2, ht]
    have hmem : t ∈ all := hall.mem (by simp)
    refine Blamed.after ?_ t
    intro cause herror
    cases hn : Number.ofText t.text with
    | ok n =>
        rw [hn] at herror
        cases herror
    | error cause' =>
        rw [hn] at herror
        cases herror
        exact .number hmem ht hn
  · intro t rest ht _
    rw [operand.eq_2, ht]
    exact blamed_done.after t
  · intro t rest ht _
    rw [operand.eq_2, ht]
    exact blamed_reference.after t
  · intro t rest ht ih hall
    rw [operand.eq_2, ht]
    exact (ih t ht rfl hall).after t
  · intro t rest ht ih hall
    rw [operand.eq_2, ht]
    exact (ih ((List.suffix_cons t rest).trans hall)).after t
  · -- no other token starts an operand
    intro t rest hnumber hstring hcell hfunction hparen _
    have hother : operand (t :: rest) = fail (.noOperand t.text) := by
      rw [operand.eq_2]
      cases hkind : t.kind <;> simp_all
    rw [hother]
    exact blamed_fail (.noOperand t.text)
  · intro ts ih hall
    rw [group.eq_1]
    refine (ih hall).andThen fun e rest _ => ?_
    exact (blamed_expect (by decide) fun _ => .unclosedGroup).andThen fun _ _ _ => blamed_done
  · -- a call, whose opening parenthesis comes right after its name
    intro name ts ih t ht hname hall
    have hts : ts <:+ all := (List.suffix_cons t ts).trans hall
    have hopening : (∀ u ∈ ts.head?, u.kind ≠ .leftParen) →
        Token.Blames all (.noArguments name) := by
      intro hmissing
      rw [← hname]
      exact .noArguments hall ht hmissing
    rw [call.eq_1]
    refine (blamed_expect (by decide) hopening).andThen fun _ inside hinside => ?_
    refine (ih inside hinside (hinside.trans hts)).andThen fun args rest _ => ?_
    exact (blamed_expect (by decide) fun _ => .unclosedCall).andThen fun _ _ _ => blamed_done
  · intro ts hts _
    rw [arguments.eq_1, if_pos hts]
    exact blamed_done
  · intro ts hts ihFirst ihRest hall
    rw [arguments.eq_1, if_neg hts]
    exact (ihFirst hall).andThen fun first rest hrest => ihRest first rest hrest (hrest.trans hall)
  · intro before _
    rw [argumentsRest.eq_1]
    exact blamed_done
  · -- a comma: one more argument
    intro before t rest ht ihFirst ihRest hall
    have hrest : rest <:+ all := (List.suffix_cons t rest).trans hall
    rw [argumentsRest.eq_2, if_pos ht]
    exact ((ihFirst hrest).andThen fun e mid hmid =>
      ihRest e mid hmid (hmid.trans hrest)).after t
  · intro before t rest ht _
    rw [argumentsRest.eq_2, if_neg ht]
    exact blamed_done

theorem blamed_chain (tier : Tier) (ts : List Token) (hall : ts <:+ all) :
    Blamed all (chain tier ts) :=
  blamed_rules.1 tier ts hall

end Reading

/-! ## Texts without a tree -/

/-- A literal that is not read is an integer with more digits than are read. -/
theorem Number.digits_of_literal_error {t : Text} {cause : Failure} (ht : Lexeme.IsNumeral t)
    (h : ofText t = .error cause) :
    cause = .tooManyDigits t.length ∧ '.' ∉ t ∧ Numeral.digitLimit < t.length := by
  cases ht with
  | whole hne hdigits =>
      rw [ofText_digits hne hdigits] at h
      split at h
      · next hlong =>
          refine ⟨(Except.error.inj h).symm, ?_, hlong⟩
          intro hpoint
          exact absurd (hdigits '.' hpoint) (by decide)
      · cases h
  | pointed hne hdigits hafter =>
      rw [ofText_pointed (Or.inl hne) hdigits hafter] at h
      cases h
  | @fraction after hne hafter =>
      have hread := @ofText_pointed [] after (Or.inr hne) (by simp) hafter
      rw [List.nil_append, h] at hread
      cases hread

/-- A text has no tree for one of three reasons: it has no tokens; its tokens lack an operand or a
closing parenthesis; or one of them is an integer with more digits than are read. -/
theorem Expr.cause_of_ofText_error {f : Text} {cause : Failure} (h : ofText f = .error cause) :
    (Token.ofText f = .error cause ∧ cause.kind = .lexical) ∨
      ∃ ts, Token.ofText f = .ok ts ∧
        (((∃ found, cause = .noOperand found) ∨ cause = .unclosedGroup ∨ cause = .unclosedCall) ∨
          ∃ t ∈ ts, t.kind = .number ∧ '.' ∉ t.text ∧ Numeral.digitLimit < t.text.length ∧
            cause = .tooManyDigits t.text.length) := by
  cases hread : Token.ofText f with
  | error cause' =>
      rw [ofText_of_error hread] at h
      cases h
      exact Or.inl ⟨rfl, Token.kind_of_readFrom_error hread⟩
  | ok ts =>
      refine Or.inr ⟨ts, rfl, ?_⟩
      obtain ⟨ps, tail, rfl, hsplits, rfl⟩ := Piece.exists_splits 0 hread
      -- the tokens end properly, so it is the parser that failed
      have hlast := Piece.getLast?_tokensFrom 0 ps tail
      have hend : Token.endProperly (Piece.tokensFrom 0 ps tail) = true := by
        rw [Token.endProperly, hlast]
        rfl
      have hfailed : (Reading.chain .sum (Piece.tokensFrom 0 ps tail)).outcome = .error cause := by
        rwa [ofText_of_tokens hread, ofTokens, if_pos hend] at h
      cases Reading.blamed_chain .sum _ List.suffix_rfl cause hfailed with
      | noOperand found => exact Or.inl (Or.inl ⟨found, rfl⟩)
      | unclosedGroup => exact Or.inl (Or.inr (Or.inl rfl))
      | unclosedCall => exact Or.inl (Or.inr (Or.inr rfl))
      | noArguments hsuffix hkind hmissing =>
          obtain ⟨opening, after, rfl, hopening, -⟩ := Piece.callsOpen hsplits 0 _ _ hsuffix hkind
          exact absurd hopening (hmissing opening rfl)
      | @number t _ hmem hkind hn =>
          have hnumeral : Lexeme.IsNumeral t.text := by
            rcases Piece.written_of_mem hsplits hmem with hfinal | hwritten
            · simp [Token.isFinal, hkind] at hfinal
            · obtain ⟨_, _, hspelled⟩ := hwritten.spelled hkind
              exact hspelled.isNumeral
          obtain ⟨hcause, hpoint, hlong⟩ := Number.digits_of_literal_error hnumeral hn
          exact Or.inr ⟨t, hmem, hkind, hpoint, hlong, hcause⟩

end CellCalc

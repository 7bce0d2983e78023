import CellCalc.Expr.Parser

/-!
# Lookahead — a reading looks no further than the next token

What a reading gives is settled by the tokens it takes and by the one it stops at. Nothing after
that one is looked at, and an end token is never taken. Both hold of the single tokens of the
parser and are kept when readings follow one another, so they hold of every rule.

* `Reading.Nearsighted` — a reading looks no further than the next token and takes no end token.
* `Reading.Nearsighted.of_front`, `after`, `andThen` — the ways in which readings are made up.
* `Reading.nearsighted_rules` — the rules of the grammar.
-/

namespace CellCalc
namespace Reading

variable {α β : Type} {ts : List Token}

/-- The tokens taken are no end tokens, and the outcome is the same wherever the tokens taken and
the one after them are the same. -/
structure Nearsighted (read : (ts : List Token) → Reading α ts) (ts : List Token) : Prop where
  takesNoEnd : ∀ us, ts = us ++ (read ts).rest → ∀ t ∈ us, t.isFinal = false
  agrees : ∀ us left, ts = us ++ (read ts).rest → left.head? = (read ts).rest.head? →
    (read (us ++ left)).outcome = (read ts).outcome ∧ (read (us ++ left)).rest = left

/-! ## Tokens in front of others -/

theorem head?_append_congr {us left left' : List Token} (h : left'.head? = left.head?) :
    (us ++ left').head? = (us ++ left).head? := by
  rw [List.head?_append, List.head?_append, h]

/-- An end part of an end part cuts what stands before it in two. -/
theorem exists_split {mid left us : List Token} (hmid : mid <:+ ts) (hleft : left <:+ mid)
    (hts : ts = us ++ left) : ∃ vs ws, us = vs ++ ws ∧ ts = vs ++ mid ∧ mid = ws ++ left := by
  obtain ⟨vs, hvs⟩ := hmid
  obtain ⟨ws, hws⟩ := hleft
  have hboth : us ++ left = vs ++ ws ++ left := by
    rw [← hts, List.append_assoc, hws, hvs]
  exact ⟨vs, ws, List.append_cancel_right hboth, hvs.symm, hws.symm⟩

/-- A sequence with the same tokens in front and the same one after them. -/
theorem exists_append_of_getElem? {taken left us : List Token}
    (h : ∀ i ≤ taken.length, us[i]? = (taken ++ left)[i]?) :
    ∃ left', us = taken ++ left' ∧ left'.head? = left.head? := by
  induction taken generalizing us with
  | nil =>
      have hfirst := h 0 (Nat.le_refl 0)
      rw [← List.head?_eq_getElem?, ← List.head?_eq_getElem?] at hfirst
      exact ⟨us, rfl, hfirst⟩
  | cons t taken ih =>
      have hfirst := h 0 (Nat.zero_le _)
      rw [← List.head?_eq_getElem?] at hfirst
      obtain ⟨more, rfl⟩ := List.head?_eq_some_iff.1 hfirst
      have hmore : ∀ i ≤ taken.length, more[i]? = (taken ++ left)[i]? := fun i hi =>
        h (i + 1) (Nat.succ_le_succ hi)
      obtain ⟨left', rfl, hleft'⟩ := ih hmore
      exact ⟨left', rfl, hleft'⟩

/-! ## Composition -/

namespace Nearsighted

/-- A reading that takes nothing may look at the next token only. -/
theorem of_front {read : (ts : List Token) → Reading α ts} (outcome : Except Failure α)
    (hread : ∀ us : List Token, us.head? = ts.head? → read us = ofOutcome outcome) :
    Nearsighted read ts := by
  have hts : read ts = ofOutcome outcome := hread ts rfl
  -- all tokens are left, so none stands before them
  have hnone : ∀ us, ts = us ++ (read ts).rest → us = [] := by
    intro us hsplit
    rw [hts] at hsplit
    exact List.self_eq_append_left.1 hsplit
  constructor
  · intro us hsplit t ht
    rw [hnone us hsplit] at ht
    cases ht
  · intro us left hsplit hleft
    rw [hts] at hleft
    rw [hnone us hsplit, List.nil_append, hts, hread left hleft]
    exact ⟨rfl, rfl⟩

theorem of_nil {read : (ts : List Token) → Reading α ts} {outcome : Except Failure α}
    (hread : read [] = ofOutcome outcome) : Nearsighted read [] := by
  refine of_front outcome fun us hus => ?_
  rw [List.head?_eq_none_iff.1 hus]
  exact hread

theorem of_cons {read : (ts : List Token) → Reading α ts} {outcome : Except Failure α} {t : Token}
    (hread : ∀ us, read (t :: us) = ofOutcome outcome) : Nearsighted read (t :: ts) := by
  refine of_front outcome fun us hus => ?_
  obtain ⟨more, rfl⟩ := List.head?_eq_some_iff.1 hus
  exact hread more

/-- A token that is no end token, and a reading of what follows it. -/
theorem after {read next : (ts : List Token) → Reading α ts} {t : Token} (ht : t.isFinal = false)
    (hread : ∀ us, read (t :: us) = (next us).after t) (h : Nearsighted next ts) :
    Nearsighted read (t :: ts) := by
  have hrest : (read (t :: ts)).rest = (next ts).rest := by rw [hread, rest_after]
  -- the token is the first one that is taken
  have htaken : ∀ us, t :: ts = us ++ (read (t :: ts)).rest →
      ∃ more, us = t :: more ∧ ts = more ++ (next ts).rest := by
    intro us hsplit
    rw [hrest] at hsplit
    cases us with
    | nil =>
        have hlength := (next ts).suffix.length_le
        rw [List.nil_append] at hsplit
        rw [← hsplit, List.length_cons] at hlength
        omega
    | cons u more =>
        obtain ⟨rfl, hmore⟩ := List.cons.inj hsplit
        exact ⟨more, rfl, hmore⟩
  constructor
  · intro us hsplit u hu
    obtain ⟨more, rfl, hmore⟩ := htaken us hsplit
    rcases List.mem_cons.1 hu with rfl | hu
    · exact ht
    · exact h.takesNoEnd more hmore u hu
  · intro us left hsplit hleft
    obtain ⟨more, rfl, hmore⟩ := htaken us hsplit
    rw [hrest] at hleft
    rw [List.cons_append, hread, hread]
    exact h.agrees more left hmore hleft

/-- A reading, and another one of what the first one leaves. -/
theorem andThen {read : (ts : List Token) → Reading β ts} {first : (ts : List Token) → Reading α ts}
    {next : α → (rest : List Token) → Reading β rest}
    (hread : ∀ us : List Token, us.head? = ts.head? →
      read us = (first us).andThen fun a rest _ => next a rest)
    (hfirst : Nearsighted first ts)
    (hnext : ∀ a rest, rest <:+ ts → Nearsighted (next a) rest) : Nearsighted read ts := by
  have hts := hread ts rfl
  cases hfound : (first ts).outcome with
  | error cause =>
      obtain ⟨houtcome, hrest⟩ := andThen_error hfound fun a rest _ => next a rest
      rw [← hts] at houtcome hrest
      constructor
      · intro us hsplit
        rw [hrest] at hsplit
        exact hfirst.takesNoEnd us hsplit
      · intro us left hsplit hleft
        rw [hrest] at hsplit hleft
        have hhead : (us ++ left).head? = ts.head? := by
          rw [head?_append_congr hleft, ← hsplit]
        obtain ⟨hsame, hsameRest⟩ := hfirst.agrees us left hsplit hleft
        rw [hfound] at hsame
        obtain ⟨hfails, hstops⟩ := andThen_error hsame fun a rest _ => next a rest
        rw [hread _ hhead, hfails, hstops, houtcome]
        exact ⟨rfl, hsameRest⟩
  | ok a =>
      obtain ⟨houtcome, hrest⟩ := andThen_ok hfound fun a rest _ => next a rest
      rw [← hts] at houtcome hrest
      have hsecond := hnext a _ (first ts).suffix
      have hsuffix := (next a (first ts).rest).suffix
      constructor
      · intro us hsplit t ht
        rw [hrest] at hsplit
        -- what is taken is taken by the first reading and then by the second
        obtain ⟨vs, ws, rfl, hvs, hws⟩ := exists_split (first ts).suffix hsuffix hsplit
        rcases List.mem_append.1 ht with ht | ht
        · exact hfirst.takesNoEnd vs hvs t ht
        · exact hsecond.takesNoEnd ws hws t ht
      · intro us left hsplit hleft
        rw [hrest] at hsplit hleft
        obtain ⟨vs, ws, rfl, hvs, hws⟩ := exists_split (first ts).suffix hsuffix hsplit
        have hmid : (ws ++ left).head? = (first ts).rest.head? := by
          rw [head?_append_congr hleft, ← hws]
        have hhead : (vs ++ (ws ++ left)).head? = ts.head? := by
          rw [head?_append_congr hmid, ← hvs]
        obtain ⟨hsame, hsameRest⟩ := hfirst.agrees vs (ws ++ left) hvs hmid
        rw [hfound] at hsame
        obtain ⟨hgoes, hstops⟩ := andThen_ok hsame fun a rest _ => next a rest
        rw [hsameRest] at hgoes hstops
        obtain ⟨hlast, hlastRest⟩ := hsecond.agrees ws left hws hleft
        rw [List.append_assoc, hread _ hhead, hgoes, hstops, houtcome]
        exact ⟨hlast, hlastRest⟩

/-- Of a sequence that ends properly the end is left. -/
theorem rest_ne_nil {read : (ts : List Token) → Reading α ts} (h : Nearsighted read ts)
    (hend : Token.endProperly ts = true) : (read ts).rest ≠ [] := by
  intro hnil
  have htaken : ∀ t ∈ ts, t.isFinal = false := h.takesNoEnd ts (by rw [hnil, List.append_nil])
  obtain ⟨t, ht, hfinal⟩ := Token.exists_isFinal hend
  rw [htaken t ht] at hfinal
  cases hfinal

/-- Sequences that agree up to and including the token where a reading stops are read alike. -/
theorem same_of_getElem? {read : (ts : List Token) → Reading α ts} (h : Nearsighted read ts)
    {us : List Token} (hagree : ∀ i ≤ ts.length - (read ts).rest.length, us[i]? = ts[i]?) :
    (read us).outcome = (read ts).outcome ∧
      us.length - (read us).rest.length = ts.length - (read ts).rest.length := by
  obtain ⟨taken, htaken⟩ := (read ts).suffix
  have hplace : ts.length - (read ts).rest.length = taken.length := by
    have hlength : taken.length + (read ts).rest.length = ts.length := by
      rw [← List.length_append, htaken]
    omega
  rw [hplace] at hagree ⊢
  rw [← htaken] at hagree
  obtain ⟨left, rfl, hleft⟩ := exists_append_of_getElem? hagree
  obtain ⟨houtcome, hrest⟩ := h.agrees taken left htaken.symm hleft
  rw [houtcome, hrest]
  simp

end Nearsighted

/-! ## Single tokens -/

theorem front_congr {us : List Token} (h : us.head? = ts.head?) : front us = front ts := by
  simp only [front, List.headD_eq_head?_getD, h]

theorem nearsighted_done (a : α) : Nearsighted (fun _ => done a) ts :=
  .of_front (.ok a) fun _ _ => rfl

theorem nearsighted_readIf (kinds : List TokenKind) : Nearsighted (readIf kinds) ts := by
  cases ts with
  | nil => exact .of_nil rfl
  | cons t ts =>
      by_cases ht : (!t.isFinal && kinds.contains t.kind) = true
      · have hfinal : t.isFinal = false := by
          simpa using (Bool.and_eq_true_iff.1 ht).1
        refine .after hfinal (fun us => ?_) (nearsighted_done (some t))
        rw [readIf_cons, if_pos ht]
      · have hleaves : ∀ us, readIf kinds (t :: us) = done none := fun us => by
          rw [readIf_cons, if_neg ht]
        exact .of_cons hleaves

theorem nearsighted_expect (kind : TokenKind) (cause : Failure) :
    Nearsighted (expect kind cause) ts :=
  .andThen (fun _ _ => rfl) (nearsighted_readIf [kind]) fun found _ _ =>
    .of_front (found.elim (.error cause) .ok) fun _ _ => rfl

/-! ## The rules -/

theorem nearsighted_reference (id : Text) : Nearsighted (reference id) ts := by
  refine .andThen (fun _ _ => rfl) (nearsighted_readIf [.colon]) fun colon rest _ => ?_
  cases colon with
  | none => exact nearsighted_done _
  | some _ =>
      refine .andThen (fun _ _ => rfl) (nearsighted_readIf [.cell]) fun stop _ _ => ?_
      cases stop with
      | none => exact nearsighted_done _
      | some t => exact nearsighted_done _

theorem nearsighted_rules :
    (∀ tier ts, Nearsighted (chain tier) ts) ∧ (∀ ts, Nearsighted operand ts) ∧
      ∀ name ts, Nearsighted (call name) ts := by
  refine (fun h => ⟨h.1, h.2.2.2.1, h.2.2.2.2.2.1⟩ : _ → _) (chain.mutual_induct
    (fun tier ts => Nearsighted (chain tier) ts)
    (fun tier before ts => Nearsighted (chainRest tier before) ts)
    (fun tier ts => Nearsighted (tierOperand tier) ts)
    (fun ts => Nearsighted operand ts)
    (fun ts => Nearsighted group ts)
    (fun name ts => Nearsighted (call name) ts)
    (fun ts => Nearsighted arguments ts)
    (fun before ts => Nearsighted (argumentsRest before) ts)
    ?_ ?_ ?_ ?_ ?_ ?_ ?_ ?_ ?_ ?_ ?_ ?_ ?_ ?_ ?_ ?_ ?_ ?_ ?_ ?_)
  · intro tier ts ihOperand ihRest
    exact .andThen (fun us _ => chain.eq_1 tier us) ihOperand ihRest
  · intro tier before
    exact .of_nil (chainRest.eq_1 tier before)
  · -- an operator of the tier: one more operand
    intro tier before t rest ht ihOperand ihRest
    have hfinal : t.isFinal = false := by
      have hkind : t.kind = .operator := by simpa using (Bool.and_eq_true_iff.1 ht).1
      simp [Token.isFinal, hkind]
    refine .after hfinal (fun us => ?_) (.andThen (fun _ _ => rfl) ihOperand ihRest)
    rw [chainRest.eq_2, if_pos ht]
  · intro tier before t rest ht
    have hends : ∀ us, chainRest tier before (t :: us) = done before := fun us => by
      rw [chainRest.eq_2, if_neg ht]
    exact .of_cons hends
  · intro ts ih
    have hsame : tierOperand .sum = chain .product := funext tierOperand.eq_1
    rw [hsame]
    exact ih
  · intro ts ih
    have hsame : tierOperand .product = operand := funext tierOperand.eq_2
    rw [hsame]
    exact ih
  · exact .of_nil operand.eq_1
  · intro t rest ht
    refine .after (by simp [Token.isFinal, ht]) (fun us => ?_)
      (.of_front (Expr.number <$> Number.ofText t.text) fun _ _ => rfl)
    rw [operand.eq_2, ht]
  · intro t rest ht
    refine .after (by simp [Token.isFinal, ht]) (fun us => ?_) (nearsighted_done (.text t.text))
    rw [operand.eq_2, ht]
  · intro t rest ht
    refine .after (by simp [Token.isFinal, ht]) (fun us => ?_) (nearsighted_reference t.text)
    rw [operand.eq_2, ht]
  · intro t rest ht ih
    refine .after (by simp [Token.isFinal, ht]) (fun us => ?_) ih
    rw [operand.eq_2, ht]
  · intro t rest ht ih
    refine .after (by simp [Token.isFinal, ht]) (fun us => ?_) ih
    rw [operand.eq_2, ht]
  · -- no other token starts an operand
    intro t rest hnumber hstring hcell hfunction hparen
    have hother : ∀ us, operand (t :: us) = fail (.noOperand t.text) := by
      intro us
      rw [operand.eq_2]
      cases hkind : t.kind <;> simp_all
    exact .of_cons hother
  · intro ts ih
    refine .andThen (fun us _ => group.eq_1 us) ih fun e rest _ => ?_
    exact .andThen (fun _ _ => rfl) (nearsighted_expect ..) fun _ _ _ => nearsighted_done e
  · intro name ts ih
    refine .andThen (fun us _ => call.eq_1 name us) (nearsighted_expect ..) fun _ inside hinside => ?_
    refine .andThen (fun _ _ => rfl) (ih inside hinside) fun args rest _ => ?_
    exact .andThen (fun _ _ => rfl) (nearsighted_expect ..) fun _ _ _ => nearsighted_done _
  · intro ts hts
    refine .of_front (.ok []) fun us hus => ?_
    rw [arguments.eq_1, if_pos (front_congr hus ▸ hts)]
    rfl
  · intro ts hts ihFirst ihRest
    refine .andThen (fun us hus => ?_) ihFirst ihRest
    rw [arguments.eq_1, if_neg (front_congr hus ▸ hts)]
  · intro before
    exact .of_nil (argumentsRest.eq_1 before)
  · -- a comma: one more argument
    intro before t rest ht ihFirst ihRest
    refine .after (by simp [Token.isFinal, ht]) (fun us => ?_)
      (.andThen (fun _ _ => rfl) ihFirst ihRest)
    rw [argumentsRest.eq_2, if_pos ht]
  · intro before t rest ht
    have hends : ∀ us, argumentsRest before (t :: us) = done before := fun us => by
      rw [argumentsRest.eq_2, if_neg ht]
    exact .of_cons hends

theorem nearsighted_chain (tier : Tier) (ts : List Token) : Nearsighted (chain tier) ts :=
  nearsighted_rules.1 tier ts

theorem nearsighted_operand (ts : List Token) : Nearsighted operand ts :=
  nearsighted_rules.2.1 ts

theorem nearsighted_call (name : Text) (ts : List Token) : Nearsighted (call name) ts :=
  nearsighted_rules.2.2 name ts

end Reading
end CellCalc

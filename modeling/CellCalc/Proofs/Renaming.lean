import CellCalc.Proofs.Failing
import CellCalc.Evaluation.Basic
import CellCalc.Expr.Parser

/-!
# Renaming — formulas under other names for their cells and functions

The parser tells tokens apart by their kinds and operators by their texts; the names of cells and
functions it only hands on to the tree. So other names in the tokens make a tree with the other
names in it, and reading fails in the same place and for the same cause. Nor does an evaluation
tell names apart under which an environment knows the same.

* `Renaming` — other names for cells and for functions, in tokens, trees and failures.
* `Reading.Renamed`, `Reading.renamed_chain` — reading renamed tokens.
* `Renaming.ofTokens` — the tree of renamed tokens.
* `Renaming.exists_token_of_mem_calls` — the calls of a tree stand in its tokens.
* `Renaming.Invisible`, `Renaming.eval_expr` — names that an environment does not tell apart.
-/

namespace CellCalc

/-! ## Other names -/

/-- Another name for each cell and each function. -/
structure Renaming where
  cell : Text → Text
  function : Text → Text

namespace Renaming

variable (ρ : Renaming)

/-- A token with the other name, if it names a cell or a function. -/
def token (t : Token) : Token :=
  match t.kind with
  | .cell => { t with text := ρ.cell t.text }
  | .function => { t with text := ρ.function t.text }
  | _ => t

mutual

/-- A tree with the other names. -/
def expr : Expr → Expr
  | .cell id => .cell (ρ.cell id)
  | .range start stop => .range (ρ.cell start) (ρ.cell stop)
  | .binary operator left right => .binary operator (expr left) (expr right)
  | .call name arguments => .call (ρ.function name) (exprs arguments)
  | e => e

/-- Several trees with the other names. -/
def exprs : List Expr → List Expr
  | [] => []
  | e :: rest => expr e :: exprs rest

end

/-- A failure with the other names. Only one for a function without arguments names any of them. -/
def failure : Failure → Failure
  | .noArguments name => .noArguments (ρ.function name)
  | cause => cause

/-- An outcome with the other names in what was found and in a failure. -/
def outcome {α β : Type} (f : α → β) : Except Failure α → Except Failure β
  | .ok a => .ok (f a)
  | .error cause => .error (ρ.failure cause)

/-! ## What stays as it is -/

@[simp] theorem kind_token (t : Token) : (ρ.token t).kind = t.kind := by
  unfold token
  split <;> rfl

@[simp] theorem isFinal_token (t : Token) : (ρ.token t).isFinal = t.isFinal := by
  simp [Token.isFinal]

theorem token_eq {t : Token} (hcell : t.kind = .cell → ρ.cell t.text = t.text)
    (hfunction : t.kind = .function → ρ.function t.text = t.text) : ρ.token t = t := by
  unfold token
  split
  · next hkind => rw [hcell hkind]
  · next hkind => rw [hfunction hkind]
  · rfl

theorem text_token {t : Token} (hcell : t.kind ≠ .cell) (hfunction : t.kind ≠ .function) :
    (ρ.token t).text = t.text := by
  rw [token_eq ρ (absurd · hcell) (absurd · hfunction)]

theorem text_token_cell {t : Token} (h : t.kind = .cell) : (ρ.token t).text = ρ.cell t.text := by
  rw [token, h]

theorem text_token_function {t : Token} (h : t.kind = .function) :
    (ρ.token t).text = ρ.function t.text := by
  rw [token, h]

theorem joins_token (tier : Tier) (t : Token) : tier.joins (ρ.token t) = tier.joins t := by
  by_cases hkind : t.kind = .operator
  · have htext := ρ.text_token (t := t) (by simp [hkind]) (by simp [hkind])
    simp [Tier.joins, htext]
  · have hother : (t.kind == .operator) = false := by simpa using hkind
    simp [Tier.joins, hother]

theorem failure_eq {cause : Failure} (h : ∀ name, cause ≠ .noArguments name) :
    ρ.failure cause = cause := by
  unfold failure
  split
  · next name => exact absurd rfl (h name)
  · rfl

theorem exprs_append (es fs : List Expr) : ρ.exprs (es ++ fs) = ρ.exprs es ++ ρ.exprs fs := by
  induction es with
  | nil => rfl
  | cons e es ih => rw [List.cons_append, exprs, ih, exprs, List.cons_append]

mutual

theorem calls_expr : ∀ e : Expr, (ρ.expr e).calls = e.calls.map ρ.function
  | .constant _ | .text _ | .cell _ | .range _ _ | .foreign _ => rfl
  | .binary operator left right => by
      rw [expr, Expr.calls, Expr.calls, calls_expr left, calls_expr right, List.map_append]
  | .call name arguments => by
      rw [expr, Expr.calls, Expr.calls, calls_exprs arguments, List.map_append]
      rfl

theorem calls_exprs : ∀ es : List Expr,
    Expr.callsAll (ρ.exprs es) = (Expr.callsAll es).map ρ.function
  | [] => rfl
  | e :: rest => by
      rw [exprs, Expr.callsAll, Expr.callsAll, calls_expr e, calls_exprs rest, List.map_append]

end

end Renaming

/-! ## Reading renamed tokens -/

namespace Reading

variable {α β γ δ : Type} {ρ : Renaming} {ts us : List Token}

/-- The second reading finds the same as the first one under other names, and leaves the same
tokens under other names. -/
structure Renamed (ρ : Renaming) (f : α → β) (r : Reading α ts) (s : Reading β us) : Prop where
  outcome : s.outcome = ρ.outcome f r.outcome
  rest : s.rest = r.rest.map ρ.token

theorem renamed_done {f : α → β} {a : α} :
    Renamed ρ f (done a : Reading α ts) (done (f a) : Reading β (ts.map ρ.token)) :=
  ⟨rfl, rfl⟩

theorem renamed_fail {f : α → β} {cause : Failure} :
    Renamed ρ f (fail cause : Reading α ts)
      (fail (ρ.failure cause) : Reading β (ts.map ρ.token)) :=
  ⟨rfl, rfl⟩

theorem Renamed.after {f : α → β} {r : Reading α ts} {s : Reading β us} (h : Renamed ρ f r s)
    (t u : Token) : Renamed ρ f (r.after t) (s.after u) :=
  ⟨h.outcome, h.rest⟩

theorem Renamed.andThen {f : α → β} {g : γ → δ} {r : Reading α ts} {s : Reading β us}
    {next : (a : α) → (rest : List Token) → rest <:+ ts → Reading γ rest}
    {next' : (b : β) → (rest : List Token) → rest <:+ us → Reading δ rest}
    (h : Renamed ρ f r s)
    (hnext : ∀ a rest hrest hrest', r.outcome = .ok a →
      Renamed ρ g (next a rest hrest) (next' (f a) (rest.map ρ.token) hrest')) :
    Renamed ρ g (r.andThen next) (s.andThen next') := by
  rcases r with ⟨outcome, rest, hsuffix⟩
  rcases s with ⟨outcome', rest', hsuffix'⟩
  obtain ⟨rfl, rfl⟩ := h
  cases outcome with
  | ok a =>
      have hrenamed := hnext a rest hsuffix hsuffix' rfl
      exact ⟨hrenamed.outcome, hrenamed.rest⟩
  | error cause => exact ⟨rfl, rfl⟩

theorem renamed_readIf {kinds : List TokenKind} :
    Renamed ρ (Option.map ρ.token) (readIf kinds ts) (readIf kinds (ts.map ρ.token)) := by
  cases ts with
  | nil => exact renamed_done
  | cons t ts =>
      rw [List.map_cons, readIf_cons, readIf_cons, ρ.isFinal_token, ρ.kind_token]
      split
      · exact renamed_done.after t (ρ.token t)
      · exact renamed_done

theorem renamed_expect {kind : TokenKind} (cause : Failure) :
    Renamed ρ ρ.token (expect kind cause ts)
      (expect kind (ρ.failure cause) (ts.map ρ.token)) := by
  refine renamed_readIf.andThen fun found _ _ _ _ => ?_
  cases found with
  | none => exact renamed_fail
  | some t => exact renamed_done

theorem renamed_reference {id : Text} :
    Renamed ρ ρ.expr (reference id ts) (reference (ρ.cell id) (ts.map ρ.token)) := by
  refine renamed_readIf.andThen fun colon rest _ _ _ => ?_
  cases colon with
  | none => exact renamed_done
  | some _ =>
      refine renamed_readIf.andThen fun stop _ _ _ hstop => ?_
      cases stop with
      | none => exact renamed_done
      | some t =>
          have hkind : t.kind = .cell := by simpa using (readIf_eq_some hstop).2
          change Renamed ρ ρ.expr (done (.range id t.text))
            (done (.range (ρ.cell id) (ρ.token t).text))
          rw [ρ.text_token_cell hkind]
          exact renamed_done

/-- Reading under other names finds the same trees under other names, or fails for the same cause
under another name. -/
theorem renamed_chain (ρ : Renaming) (tier : Tier) (ts : List Token) :
    Renamed ρ ρ.expr (chain tier ts) (chain tier (ts.map ρ.token)) := by
  refine (chain.mutual_induct
    (fun tier ts => Renamed ρ ρ.expr (chain tier ts) (chain tier (ts.map ρ.token)))
    (fun tier before ts => Renamed ρ ρ.expr (chainRest tier before ts)
      (chainRest tier (ρ.expr before) (ts.map ρ.token)))
    (fun tier ts => Renamed ρ ρ.expr (tierOperand tier ts) (tierOperand tier (ts.map ρ.token)))
    (fun ts => Renamed ρ ρ.expr (operand ts) (operand (ts.map ρ.token)))
    (fun ts => Renamed ρ ρ.expr (group ts) (group (ts.map ρ.token)))
    (fun name ts => Renamed ρ ρ.expr (call name ts) (call (ρ.function name) (ts.map ρ.token)))
    (fun ts => Renamed ρ ρ.exprs (arguments ts) (arguments (ts.map ρ.token)))
    (fun before ts => Renamed ρ ρ.exprs (argumentsRest before ts)
      (argumentsRest (ρ.exprs before) (ts.map ρ.token)))
    ?_ ?_ ?_ ?_ ?_ ?_ ?_ ?_ ?_ ?_ ?_ ?_ ?_ ?_ ?_ ?_ ?_ ?_ ?_ ?_).1 tier ts
  · intro tier ts ihOperand ihRest
    rw [chain.eq_1, chain.eq_1]
    exact ihOperand.andThen fun first rest hrest _ _ => ihRest first rest hrest
  · intro tier before
    rw [List.map_nil, chainRest.eq_1, chainRest.eq_1]
    exact renamed_done
  · -- an operator of the tier keeps its text
    intro tier before t rest ht ihOperand ihRest
    have hkind : t.kind = .operator := by
      simpa using (Bool.and_eq_true_iff.1 ht).1
    have htext := ρ.text_token (t := t) (by simp [hkind]) (by simp [hkind])
    rw [List.map_cons, chainRest.eq_2, chainRest.eq_2, ρ.joins_token, if_pos ht, if_pos ht, htext]
    exact (ihOperand.andThen fun right mid hmid _ _ => ihRest right mid hmid).after t (ρ.token t)
  · intro tier before t rest ht
    rw [List.map_cons, chainRest.eq_2, chainRest.eq_2, ρ.joins_token, if_neg ht, if_neg ht]
    exact renamed_done
  · intro ts ih
    rw [tierOperand.eq_1, tierOperand.eq_1]
    exact ih
  · intro ts ih
    rw [tierOperand.eq_2, tierOperand.eq_2]
    exact ih
  · rw [List.map_nil, operand.eq_1]
    exact renamed_fail
  · -- no failure to read a number names a function
    intro t rest ht
    rw [List.map_cons, operand.eq_2, operand.eq_2, ρ.kind_token, ht]
    rw [ρ.text_token (by simp [ht]) (by simp [ht])]
    refine Renamed.after ⟨?_, rfl⟩ t (ρ.token t)
    cases hn : Number.ofText t.text with
    | ok n => rfl
    | error cause =>
        have hcause : ∀ name, cause ≠ .noArguments name := by
          rintro name rfl
          cases Number.ofText_failsOnly t.text _ hn
        exact congrArg Except.error (ρ.failure_eq hcause).symm
  · intro t rest ht
    rw [List.map_cons, operand.eq_2, operand.eq_2, ρ.kind_token, ht]
    rw [ρ.text_token (by simp [ht]) (by simp [ht])]
    exact renamed_done.after t (ρ.token t)
  · intro t rest ht
    rw [List.map_cons, operand.eq_2, operand.eq_2, ρ.kind_token, ht]
    rw [ρ.text_token_cell ht]
    exact renamed_reference.after t (ρ.token t)
  · intro t rest ht ih
    rw [List.map_cons, operand.eq_2, operand.eq_2, ρ.kind_token, ht]
    rw [ρ.text_token_function ht]
    exact ih.after t (ρ.token t)
  · intro t rest ht ih
    rw [List.map_cons, operand.eq_2, operand.eq_2, ρ.kind_token, ht]
    exact ih.after t (ρ.token t)
  · -- no other token starts an operand
    intro t rest hnumber hstring hcell hfunction hparen
    have hother : ∀ (u : Token) (us : List Token), u.kind = t.kind →
        operand (u :: us) = fail (.noOperand u.text) := by
      intro u us hkind
      rw [operand.eq_2, hkind]
      cases hkind : t.kind <;> simp_all
    rw [List.map_cons, hother t rest rfl, hother _ _ (ρ.kind_token t),
      ρ.text_token hcell hfunction]
    exact renamed_fail
  · intro ts ih
    rw [group.eq_1, group.eq_1]
    refine ih.andThen fun e rest _ _ _ => ?_
    exact (renamed_expect .unclosedGroup).andThen fun _ _ _ _ _ => renamed_done
  · intro name ts ih
    rw [call.eq_1, call.eq_1]
    refine (renamed_expect (.noArguments name)).andThen fun _ inside hinside _ _ => ?_
    refine (ih inside hinside).andThen fun args rest _ _ _ => ?_
    exact (renamed_expect .unclosedCall).andThen fun _ _ _ _ _ => renamed_done
  · intro ts hts
    have hts' : (front (ts.map ρ.token)).kind = .rightParen := by
      cases ts <;> simpa [front] using hts
    rw [arguments.eq_1, arguments.eq_1, if_pos hts, if_pos hts']
    exact renamed_done
  · intro ts hts ihFirst ihRest
    have hts' : (front (ts.map ρ.token)).kind ≠ .rightParen := by
      cases ts <;> simpa [front] using hts
    rw [arguments.eq_1, arguments.eq_1, if_neg hts, if_neg hts']
    exact ihFirst.andThen fun first rest hrest _ _ => ihRest first rest hrest
  · intro before
    rw [List.map_nil, argumentsRest.eq_1, argumentsRest.eq_1]
    exact renamed_done
  · intro before t rest ht ihFirst ihRest
    rw [List.map_cons, argumentsRest.eq_2, argumentsRest.eq_2, ρ.kind_token, if_pos ht, if_pos ht]
    refine (ihFirst.andThen fun e mid hmid _ _ => ?_).after t (ρ.token t)
    have hrenamed := ihRest e mid hmid
    rwa [ρ.exprs_append] at hrenamed
  · intro before t rest ht
    rw [List.map_cons, argumentsRest.eq_2, argumentsRest.eq_2, ρ.kind_token, if_neg ht, if_neg ht]
    exact renamed_done

end Reading

namespace Renaming

variable (ρ : Renaming)

/-- The tree of renamed tokens is the renamed tree. -/
theorem ofTokens_token (ts : List Token) :
    Expr.ofTokens (ts.map ρ.token) = ρ.outcome ρ.expr (Expr.ofTokens ts) := by
  have hends : Token.endProperly (ts.map ρ.token) = Token.endProperly ts := by
    rw [Token.endProperly, Token.endProperly, List.getLast?_map]
    cases ts.getLast? with
    | none => rfl
    | some t => exact ρ.isFinal_token t
  rw [Expr.ofTokens, Expr.ofTokens, hends]
  split
  · exact (Reading.renamed_chain ρ .sum ts).outcome
  · rfl

/-- Every call of a tree stands in its tokens. -/
theorem exists_token_of_mem_calls {ts : List Token} {e : Expr} (h : Expr.ofTokens ts = .ok e)
    {name : Text} (hname : name ∈ e.calls) : ∃ t ∈ ts, t.kind = .function ∧ t.text = name := by
  classical
  -- all names that do not stand in the tokens are marked
  let marked : Renaming :=
    ⟨id, fun name => if ∃ t ∈ ts, t.kind = .function ∧ t.text = name then name else '!' :: name⟩
  have htokens : ts.map marked.token = ts := by
    have hfixed : ∀ t ∈ ts, marked.token t = id t := fun t ht =>
      marked.token_eq (fun _ => rfl) fun hkind => if_pos ⟨t, ht, hkind, rfl⟩
    rw [List.map_congr_left hfixed, List.map_id]
  have hsame : marked.expr e = e := by
    have hrenamed := marked.ofTokens_token ts
    rw [htokens, h] at hrenamed
    exact (Except.ok.inj hrenamed).symm
  have hcalls : e.calls.map marked.function = e.calls.map id := by
    rw [← marked.calls_expr, hsame, List.map_id]
  have hfixed : marked.function name = name := List.map_inj_left.1 hcalls name hname
  refine Decidable.byContradiction fun hmissing => ?_
  have hmarked : marked.function name = '!' :: name := if_neg hmissing
  exact absurd (congrArg List.length (hmarked.symm.trans hfixed)) (by simp)

/-! ## Names that are not told apart -/

/-- The environment knows the same under the other names. -/
structure Invisible (env : Environment) : Prop where
  cell : ∀ id, env.source.cell (ρ.cell id) = env.source.cell id
  range : ∀ start stop, env.source.range (ρ.cell start) (ρ.cell stop) = env.source.range start stop
  function : ∀ name, env.functions.find? (ρ.function name) = env.functions.find? name

variable {ρ} {env : Environment}

mutual

/-- A tree whose functions are all known has the same evaluation under the other names. The value of
an unknown function would show its name. -/
theorem Invisible.eval_expr (h : ρ.Invisible env) : ∀ e : Expr,
    (∀ name ∈ e.calls, (env.functions.find? name).isSome = true) →
      env.eval (ρ.expr e) = env.eval e
  | .constant _, _ | .text _, _ | .foreign _, _ => rfl
  | .cell id, _ => by
      rw [expr, Environment.eval, Environment.eval, h.cell]
  | .range start stop, _ => by
      rw [expr, Environment.eval, Environment.eval, h.range]
  | .binary operator left right, hknown => by
      have hleft := h.eval_expr left fun name hname =>
        hknown name (by rw [Expr.calls]; exact List.mem_append_left _ hname)
      have hright := h.eval_expr right fun name hname =>
        hknown name (by rw [Expr.calls]; exact List.mem_append_right _ hname)
      rw [expr, Environment.eval, Environment.eval, hleft, hright]
  | .call name arguments, hknown => by
      have hargs := h.evalAll_exprs arguments fun name' hname =>
        hknown name' (by rw [Expr.calls]; exact List.mem_append_left _ hname)
      obtain ⟨f, hf⟩ := Option.isSome_iff_exists.1 (hknown name (by simp [Expr.calls]))
      have hfunction : env.functions.find? (ρ.function name) = some f := (h.function name).trans hf
      rw [expr, Environment.eval, Environment.eval, hargs]
      simp only [Environment.apply, hf, hfunction]

theorem Invisible.evalAll_exprs (h : ρ.Invisible env) : ∀ es : List Expr,
    (∀ name ∈ Expr.callsAll es, (env.functions.find? name).isSome = true) →
      env.evalAll (ρ.exprs es) = env.evalAll es
  | [], _ => rfl
  | e :: rest, hknown => by
      have hfirst := h.eval_expr e fun name hname =>
        hknown name (by rw [Expr.callsAll]; exact List.mem_append_left _ hname)
      have hrest := h.evalAll_exprs rest fun name hname =>
        hknown name (by rw [Expr.callsAll]; exact List.mem_append_right _ hname)
      rw [exprs, Environment.evalAll, Environment.evalAll, hfirst, hrest]

end

end Renaming
end CellCalc

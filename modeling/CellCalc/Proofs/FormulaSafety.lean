import CellCalc.Proofs.EvaluationFailures
import CellCalc.Proofs.ParseFailures
import CellCalc.Proofs.RegularTrees

/-!
# FormulaSafety — what reading and evaluating a formula can come to

Reading a formula gives a regular tree or fails in one of a few ways. What the tokens say about
each part of the tree holds when it is evaluated: its operators are all known, and a range that is
not found has a corner with more digits than are read.

* `Expr.Regular.of_part` — the parts of a regular tree are regular.
* `Expr.Regular.eval_failsOnly` — what can be wrong with a regular tree.
* `Expr.ofText_safe` — the outcomes of reading a text, and of evaluating its tree.
-/

namespace CellCalc

/-- A cell, a range or a function of the environment fails for this cause. -/
def Environment.Raises (env : Environment) (cause : Failure) : Prop :=
  (∃ id, env.source.cell id = .error cause) ∨
    (∃ start stop, env.source.range start stop = .error cause) ∨
      ∃ name f values, env.functions.find? name = some f ∧ f values = .error cause

namespace Expr

/-! ## Evaluating regular trees -/

theorem Regular.of_part {part e : Expr} (hpart : part.Part e) (h : e.Regular) : part.Regular := by
  induction hpart with
  | self => exact h
  | left _ ih =>
      cases h with
      | binary _ hleft _ => exact ih hleft
  | right _ ih =>
      cases h with
      | binary _ _ hright => exact ih hright
  | argument hmem _ ih =>
      cases h with
      | call _ hargs => exact ih (hargs _ hmem)

/-- The operators of a regular tree are known, whatever the cells and the functions are. -/
theorem Regular.raises_of_unknownOperator {e : Expr} (h : e.Regular) {env : Environment}
    {operator : Text} (herror : (env.eval e).outcome = .error (.unknownOperator operator)) :
    env.Raises (.unknownOperator operator) := by
  obtain ⟨part, hpart, hfault⟩ := Environment.faulty_eval e _ herror
  cases hfault with
  | cell hcell => exact Or.inl ⟨_, hcell⟩
  | range hrange => exact Or.inr (Or.inl ⟨_, _, hrange⟩)
  | function hf _ hfailed => exact Or.inr (Or.inr ⟨_, _, _, hf, hfailed⟩)
  | operation _ _ harithmetic =>
      cases h.of_part hpart with
      | @binary tier _ _ _ hknown _ _ =>
          cases arithmetic_failsOnly _ _ _ _ harithmetic with
          | numbers hnumbers => cases hnumbers
          | operator hnone => exact absurd hknown (hnone tier)

/-- What can be wrong with a regular tree: numbers are too large, a cell is not read, or a corner of
a range has more digits than are read. -/
theorem Regular.eval_failsOnly {e : Expr} (h : e.Regular) {store : Store}
    (hstore : store.HoldsCells) :
    FailsOnly (fun cause => cause.OfNumbers ∨ cause.OfCells ∨ cause = .unresolvedRange ∧
      ∃ start stop, (Expr.range start stop).Part e ∧
        (Address.LongRow start ∨ Address.LongRow stop))
      (Environment.eval ⟨.builtins, store.source⟩ e).outcome := by
  refine (Environment.eval_failsOnly hstore e).mono ?_
  intro cause hcause
  cases hcause with
  | numbers hnumbers => exact Or.inl hnumbers
  | cells hcells => exact Or.inr (Or.inl hcells)
  | operator hpart hnone =>
      cases h.of_part hpart with
      | @binary tier _ _ _ hknown _ _ => exact absurd hknown (hnone tier)
  | corners hpart hids =>
      cases h.of_part hpart with
      | range hstart hstop =>
          have hlong := rangeIds_failsOnly hstart hstop _ hids
          exact Or.inr (Or.inr ⟨rfl, _, _, hpart, hlong⟩)

/-! ## Reading and evaluating -/

/-- Every function in the tokens of a text is directly followed by its opening parenthesis, so
reading never misses one. A text without a tree has no tokens, or its tokens lack an operand or a
closing parenthesis, or one of them is an integer with more digits than are read. The tree of any
other text is regular. Evaluating it meets no unknown operator, and over the functions known from
the start and a store of cells it fails to find a range only where a corner has too many digits. -/
theorem ofText_safe (f : Text) :
    (∀ ts, Token.ofText f = .ok ts → Token.CallsOpen ts) ∧
    ((∃ cause, ofText f = .error cause ∧
        ((Token.ofText f = .error cause ∧ cause.kind = .lexical) ∨
          (cause.kind = .grammar ∧ ∀ name, cause ≠ .noArguments name) ∨
          (cause.kind = .value ∧ ∃ ts, Token.ofText f = .ok ts ∧
            ∃ t ∈ ts, t.kind = .number ∧ '.' ∉ t.text ∧ Numeral.digitLimit < t.text.length))) ∨
      ∃ e, ofText f = .ok e ∧ e.Regular ∧
        (∀ (env : Environment) (operator : Text),
          (env.eval e).outcome = .error (.unknownOperator operator) →
            env.Raises (.unknownOperator operator)) ∧
        ∀ store : Store, store.HoldsCells → ∀ cause,
          (Environment.eval ⟨.builtins, store.source⟩ e).outcome = .error cause →
            (∀ operator, cause ≠ .unknownOperator operator) ∧
              (cause.kind = .range → ∃ start stop, (Expr.range start stop).Part e ∧
                (Address.LongRow start ∨ Address.LongRow stop))) := by
  refine ⟨fun ts hread => ?_, ?_⟩
  · obtain ⟨ps, tail, -, hsplits, rfl⟩ := Piece.exists_splits 0 hread
    exact Piece.callsOpen hsplits 0
  cases htree : ofText f with
  | error cause =>
      refine Or.inl ⟨cause, rfl, ?_⟩
      rcases cause_of_ofText_error htree with hlexical | ⟨ts, hread, hgrammar | hnumber⟩
      · exact Or.inl hlexical
      · rcases hgrammar with ⟨found, rfl⟩ | rfl | rfl
        · exact Or.inr (Or.inl ⟨rfl, by simp⟩)
        · exact Or.inr (Or.inl ⟨rfl, by simp⟩)
        · exact Or.inr (Or.inl ⟨rfl, by simp⟩)
      · obtain ⟨t, hmem, hkind, hpoint, hlong, rfl⟩ := hnumber
        exact Or.inr (Or.inr ⟨rfl, ts, hread, t, hmem, hkind, hpoint, hlong⟩)
  | ok e =>
      have hregular : e.Regular := (formed_of_ofText htree).regular
      refine Or.inr ⟨e, rfl, hregular, fun env operator => hregular.raises_of_unknownOperator, ?_⟩
      intro store hstore cause herror
      rcases hregular.eval_failsOnly hstore cause herror with
        hnumbers | hcells | ⟨rfl, start, stop, hpart, hlong⟩
      · cases hnumbers <;> simp [Failure.kind]
      · cases hcells <;> simp [Failure.kind]
      · exact ⟨by simp, fun _ => ⟨start, stop, hpart, hlong⟩⟩

end Expr
end CellCalc

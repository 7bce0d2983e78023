import CellCalc.Evaluation.Trace
import CellCalc.Number.Basic

/-!
# Failing — the causes for which a computation fails

A computation of several steps fails only for causes of some kind if each of its steps does.

* `FailsOnly` — every failure has a cause of this kind.
* `FailsOnly.bind`, `FailsOnly.map`, `FailsOnly.mapM`, `FailsOnly.foldlM` — steps in a row.
* `FailsOnly.bind_outcome` — the same where steps leave notes.
* `Number.ofText_failsOnly` — a literal that is not read.
-/

namespace CellCalc

/-- If the computation fails, then for such a cause. -/
def FailsOnly {α : Type} (P : Failure → Prop) (x : Except Failure α) : Prop :=
  ∀ cause, x = .error cause → P cause

namespace FailsOnly

variable {α β : Type} {P Q : Failure → Prop} {x : Except Failure α}

theorem ok {a : α} : FailsOnly P (.ok a : Except Failure α) := by
  intro cause h
  cases h

theorem error {cause : Failure} (h : P cause) : FailsOnly P (.error cause : Except Failure α) := by
  intro cause' herror
  cases herror
  exact h

theorem mono (h : FailsOnly P x) (hPQ : ∀ cause, P cause → Q cause) : FailsOnly Q x :=
  fun cause herror => hPQ cause (h cause herror)

theorem bind {f : α → Except Failure β} (hx : FailsOnly P x)
    (hf : ∀ a, x = .ok a → FailsOnly P (f a)) : FailsOnly P (x >>= f) := by
  cases x with
  | ok a => exact hf a rfl
  | error cause => exact error (hx cause rfl)

theorem map {f : α → β} (hx : FailsOnly P x) : FailsOnly P (f <$> x) := by
  cases x with
  | ok a => exact ok
  | error cause => exact error (hx cause rfl)

theorem mapM {f : α → Except Failure β} {xs : List α} (h : ∀ a ∈ xs, FailsOnly P (f a)) :
    FailsOnly P (xs.mapM f) := by
  induction xs with
  | nil => exact ok
  | cons a xs ih =>
      rw [List.mapM_cons]
      refine (h a (List.mem_cons_self ..)).bind fun _ _ => ?_
      exact (ih fun a' ha' => h a' (List.mem_cons_of_mem a ha')).bind fun _ _ => ok

theorem foldlM {f : β → α → Except Failure β} (h : ∀ b a, FailsOnly P (f b a)) (b : β)
    (xs : List α) : FailsOnly P (xs.foldlM f b) := by
  induction xs generalizing b with
  | nil => exact ok
  | cons a xs ih =>
      rw [List.foldlM_cons]
      exact (h b a).bind fun b' _ => ih b'

/-- A value that may be missing fails only for the cause given for that. -/
theorem elim {found : Option α} {cause : Failure} (h : P cause) :
    FailsOnly P (found.elim (.error cause) .ok) := by
  cases found with
  | none => exact error h
  | some a => exact ok

theorem bind_outcome {x : Trace α} {f : α → Trace β} (hx : FailsOnly P x.outcome)
    (hf : ∀ a, x.outcome = .ok a → FailsOnly P (f a).outcome) :
    FailsOnly P (x >>= f).outcome := by
  rw [Trace.bind_def, Trace.outcome_bind]
  exact hx.bind hf

end FailsOnly

/-! ## Numbers that are not read -/

theorem Numeral.readInteger_failsOnly (t : Text) :
    FailsOnly (fun cause => cause.kind = .value) (readInteger t) := by
  unfold readInteger
  dsimp only
  split
  · exact .error rfl
  split
  · exact .error rfl
  split
  · exact .error rfl
  split
  · exact .ok
  · exact .ok

theorem Numeral.readDecimal_failsOnly (t : Text) :
    FailsOnly (fun cause => cause.kind = .value) (readDecimal t) := by
  unfold readDecimal
  dsimp only
  split
  · exact .ok
  · exact .error rfl

/-- A literal that is not read is no fault of the grammar. -/
theorem Number.ofText_failsOnly (t : Text) :
    FailsOnly (fun cause => cause.kind = .value) (ofText t) := by
  unfold ofText
  split
  · exact (Numeral.readDecimal_failsOnly t).map
  · exact (Numeral.readInteger_failsOnly t).map

end CellCalc

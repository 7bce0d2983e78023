import CellCalc.Failure

/-!
# Traces — computations that leave notes and may fail

Evaluating an expression notes the name of every unknown function it meets. The notes taken before
a failure are kept.

* `Trace` — notes and an outcome, with `note` and `ofOutcome` to begin one.
* `Trace.bind` — one computation after another; `notes_bind` and `outcome_bind` are its laws.
-/

namespace CellCalc

/-- The outcome of a computation and the names noted on the way, in order. -/
structure Trace (α : Type) where
  notes : List Text
  outcome : Except Failure α

namespace Trace

/-- The computation that notes nothing and has this outcome. -/
def ofOutcome (outcome : Except Failure α) : Trace α :=
  ⟨[], outcome⟩

/-- The computation that notes a name. -/
def note (name : Text) : Trace Unit :=
  ⟨[name], .ok ()⟩

/-- The first computation, then the second one unless the first failed. -/
def bind (x : Trace α) (f : α → Trace β) : Trace β :=
  match x with
  | ⟨notes, .ok a⟩ => ⟨notes ++ (f a).notes, (f a).outcome⟩
  | ⟨notes, .error cause⟩ => ⟨notes, .error cause⟩

instance : Monad Trace where
  pure a := ofOutcome (.ok a)
  bind := bind

/-! ## Laws -/

@[simp] theorem bind_def (x : Trace α) (f : α → Trace β) : (x >>= f) = x.bind f := rfl

theorem outcome_bind (x : Trace α) (f : α → Trace β) :
    (x.bind f).outcome = x.outcome.bind fun a => (f a).outcome := by
  rcases x with ⟨notes, outcome⟩
  cases outcome <;> rfl

theorem notes_bind_ok {x : Trace α} {a : α} (h : x.outcome = .ok a) (f : α → Trace β) :
    (x.bind f).notes = x.notes ++ (f a).notes := by
  rcases x with ⟨notes, outcome⟩
  cases h
  rfl

theorem notes_bind_error {x : Trace α} {cause : Failure} (h : x.outcome = .error cause)
    (f : α → Trace β) : (x.bind f).notes = x.notes := by
  rcases x with ⟨notes, outcome⟩
  cases h
  rfl

end Trace

end CellCalc

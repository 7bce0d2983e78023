import CellCalc.Failure
import CellCalc.Token.Basic

/-!
# Readings — what reading from the front of some tokens gives

A reading has an outcome and leaves some of the tokens, on failure too. What it leaves is an end
part of what it was given, so that its place can be told from the number of tokens left, and what
reads on from there has no more tokens to read.

* `Reading` — an outcome with the tokens left.
* `Reading.ofOutcome`, `Reading.after`, `Reading.andThen` — readings and their composition.
* `Reading.front`, `Reading.readIf`, `Reading.expect` — single tokens.
-/

namespace CellCalc

/-- What reading from the front of some tokens gave, and the tokens it left. -/
structure Reading (α : Type) (ts : List Token) where
  outcome : Except Failure α
  rest : List Token
  suffix : rest <:+ ts

namespace Reading

/-! ## Composition -/

/-- A reading with this outcome that leaves all tokens. -/
def ofOutcome (outcome : Except Failure α) {ts : List Token} : Reading α ts :=
  ⟨outcome, ts, List.suffix_rfl⟩

/-- A reading that finds this and leaves all tokens. -/
def done (a : α) {ts : List Token} : Reading α ts :=
  ofOutcome (.ok a)

/-- A reading that fails and leaves all tokens. -/
def fail (cause : Failure) {ts : List Token} : Reading α ts :=
  ofOutcome (.error cause)

/-- A reading of the tokens after a token that has been read. -/
def after (t : Token) (r : Reading α ts) : Reading α (t :: ts) :=
  ⟨r.outcome, r.rest, r.suffix.trans (List.suffix_cons t ts)⟩

/-- Reads on from where a reading stopped, unless it failed. -/
def andThen (r : Reading α ts)
    (next : (a : α) → (rest : List Token) → rest <:+ ts → Reading β rest) : Reading β ts :=
  match r with
  | ⟨.ok a, rest, h⟩ =>
      let s := next a rest h
      ⟨s.outcome, s.rest, s.suffix.trans h⟩
  | ⟨.error cause, rest, h⟩ => ⟨.error cause, rest, h⟩

/-! ## Laws of composition -/

@[simp] theorem outcome_ofOutcome (o : Except Failure α) (ts : List Token) :
    (ofOutcome o : Reading α ts).outcome = o := rfl

@[simp] theorem outcome_after (t : Token) (r : Reading α ts) :
    (r.after t).outcome = r.outcome := rfl

@[simp] theorem rest_after (t : Token) (r : Reading α ts) : (r.after t).rest = r.rest := rfl

theorem andThen_ok {r : Reading α ts} {a : α} (h : r.outcome = .ok a)
    (next : (a : α) → (rest : List Token) → rest <:+ ts → Reading β rest) :
    (r.andThen next).outcome = (next a r.rest r.suffix).outcome ∧
      (r.andThen next).rest = (next a r.rest r.suffix).rest := by
  rcases r with ⟨outcome, rest, hs⟩
  cases h
  exact ⟨rfl, rfl⟩

theorem andThen_error {r : Reading α ts} {cause : Failure} (h : r.outcome = .error cause)
    (next : (a : α) → (rest : List Token) → rest <:+ ts → Reading β rest) :
    (r.andThen next).outcome = .error cause ∧ (r.andThen next).rest = r.rest := by
  rcases r with ⟨outcome, rest, hs⟩
  cases h
  exact ⟨rfl, rfl⟩

/-- What a composed reading finds was found by its second part, after its first part had found
something. -/
theorem andThen_eq_ok {r : Reading α ts}
    {next : (a : α) → (rest : List Token) → rest <:+ ts → Reading β rest} {b : β}
    (h : (r.andThen next).outcome = .ok b) :
    ∃ a, r.outcome = .ok a ∧ (next a r.rest r.suffix).outcome = .ok b := by
  cases hr : r.outcome with
  | ok a =>
      refine ⟨a, rfl, ?_⟩
      rw [← (andThen_ok hr next).1]
      exact h
  | error cause =>
      rw [(andThen_error hr next).1] at h
      cases h

/-! ## Single tokens -/

/-- The token at the front. A sequence that has run out reads as one with nothing but its end. -/
def front (ts : List Token) : Token :=
  ts.headD (Token.final 0)

/-- Reads a token of one of these kinds, but never an end token. -/
def readIf (kinds : List TokenKind) : (ts : List Token) → Reading (Option Token) ts
  | [] => done none
  | t :: rest =>
      if !t.isFinal && kinds.contains t.kind then (done (some t) : Reading _ rest).after t
      else done none

/-- Reads a token of this kind, or fails for this cause. -/
def expect (kind : TokenKind) (cause : Failure) (ts : List Token) : Reading Token ts :=
  (readIf [kind] ts).andThen fun found _ _ => ofOutcome (found.elim (.error cause) .ok)

/-! ## Laws of single tokens -/

theorem readIf_cons (kinds : List TokenKind) (t : Token) (ts : List Token) :
    readIf kinds (t :: ts) =
      if !t.isFinal && kinds.contains t.kind then (done (some t)).after t else done none := rfl

/-- A token that is read was the first one and is of one of the kinds asked for. -/
theorem readIf_eq_some {kinds : List TokenKind} {ts : List Token} {t : Token}
    (h : (readIf kinds ts).outcome = .ok (some t)) :
    ts = t :: (readIf kinds ts).rest ∧ t.kind ∈ kinds := by
  cases ts with
  | nil => simp [readIf, done] at h
  | cons u ts =>
      rw [readIf_cons] at h ⊢
      by_cases hread : (!u.isFinal && kinds.contains u.kind) = true
      · rw [if_pos hread] at h ⊢
        have hut : u = t := by simpa [done] using h
        subst hut
        have hkind : u.kind ∈ kinds := by
          simp only [Bool.and_eq_true] at hread
          simpa using hread.2
        exact ⟨rfl, hkind⟩
      · rw [if_neg hread] at h
        simp [done] at h

/-- An expected token that is found was the first one and is of the kind asked for. -/
theorem expect_eq_ok {kind : TokenKind} {cause : Failure} {ts : List Token} {t : Token}
    (h : (expect kind cause ts).outcome = .ok t) :
    ts = t :: (expect kind cause ts).rest ∧ t.kind = kind := by
  obtain ⟨found, hfound, hok⟩ := andThen_eq_ok h
  have hsome : found = some t := by cases found <;> simp_all
  subst hsome
  have hrest : (expect kind cause ts).rest = (readIf [kind] ts).rest :=
    (andThen_ok hfound _).2
  rw [hrest]
  have hread := readIf_eq_some hfound
  exact ⟨hread.1, by simpa using hread.2⟩

end Reading

end CellCalc

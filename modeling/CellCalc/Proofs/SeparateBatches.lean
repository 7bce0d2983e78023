import CellCalc.Proofs.EditEffect

/-!
# SeparateBatches — batches of edits that touch different positions

A batch leaves the texts at every position that it does not touch, and so the free cells there. Of
two batches that touch no position in common, the second one finds what it would find if both were
one batch. In the other order they leave the same texts at every position, though the cells that
are new may stand in another order.

* `Change.Separate` — two batches without a position in common.
* `Change.unmatched_append` — the changes of two batches that find no cell.
* `Sheet.edit_edit_of_separate` — two batches as one.
* `Sheet.edits_of_separate` — two batches together or in either order.
-/

namespace CellCalc

namespace Change

/-! ## Batches without a position in common -/

/-- No change of the first batch is at the position of a change of the second one. -/
def Separate (first second : List Change) : Prop :=
  ∀ c ∈ first, ∀ d ∈ second, c.position ≠ d.position

instance (first second : List Change) : Decidable (Separate first second) :=
  inferInstanceAs (Decidable (∀ c ∈ first, ∀ d ∈ second, c.position ≠ d.position))

variable {first second : List Change}

theorem textsAt_eq_nil_of_forall_ne {p : Position} {changes : List Change}
    (h : ∀ c ∈ changes, c.position ≠ p) : textsAt p changes = [] := by
  simpa [textsAt, List.filter_eq_nil_iff] using h

/-- Where a batch has a change, a separate one has none. -/
theorem Separate.textsAt_eq_nil (h : Separate first second) {d : Change} (hd : d ∈ second) :
    textsAt d.position first = [] :=
  textsAt_eq_nil_of_forall_ne fun c hc => h c hc d hd

/-- At no position do both batches leave texts. -/
theorem Separate.textsAt_eq_nil_or (h : Separate first second) (p : Position) :
    textsAt p first = [] ∨ textsAt p second = [] := by
  by_cases hp : ∃ d ∈ second, d.position = p
  · rcases hp with ⟨d, hd, rfl⟩
    exact Or.inl (h.textsAt_eq_nil hd)
  · exact Or.inr (textsAt_eq_nil_of_forall_ne fun d hd hposition => hp ⟨d, hd, hposition⟩)

/-! ## Changes that find no cell -/

/-- The cells still free after a batch: at each position as many fewer as it has changes there. -/
def stillFree (free : Position → Nat) (changes : List Change) : Position → Nat :=
  fun p => free p - (textsAt p changes).length

@[simp] theorem stillFree_nil (free : Position → Nat) : stillFree free [] = free := rfl

/-- A change that finds no cell leaves the free cells as they are. -/
theorem stillFree_cons_of_none {free : Position → Nat} {change : Change}
    (h : free change.position = 0) (rest : List Change) :
    stillFree free (change :: rest) = stillFree free rest := by
  funext p
  by_cases hp : change.position = p
  · subst hp
    simp [stillFree, h]
  · simp [stillFree, textsAt_cons, hp]

theorem stillFree_cons (free : Position → Nat) (change : Change) (rest : List Change) :
    stillFree free (change :: rest) = stillFree (withdraw free change.position) rest := by
  funext p
  by_cases hp : change.position = p
  · subst hp
    simp only [stillFree, textsAt_cons, withdraw, if_pos, List.length_cons]
    omega
  · simp [stillFree, textsAt_cons, withdraw, hp, Ne.symm hp]

/-- After a batch the next one goes on with the cells that are still free. -/
theorem unmatched_append (free : Position → Nat) (first second : List Change) :
    unmatched free (first ++ second) =
      unmatched free first ++ unmatched (stillFree free first) second := by
  induction first generalizing free with
  | nil => simp [unmatched]
  | cons change rest ih =>
      rw [List.cons_append, unmatched, unmatched]
      by_cases hnone : free change.position = 0
      · simp [hnone, ih, stillFree_cons_of_none hnone]
      · simp [hnone, ih, stillFree_cons]

/-- Which changes find no cell depends on the free cells at their own positions. -/
theorem unmatched_congr {free free' : Position → Nat} {changes : List Change}
    (h : ∀ c ∈ changes, free c.position = free' c.position) :
    unmatched free changes = unmatched free' changes := by
  induction changes generalizing free free' with
  | nil => rfl
  | cons change rest ih =>
      have hchange : free change.position = free' change.position := h change (by simp)
      have hrest : ∀ c ∈ rest, free c.position = free' c.position :=
        fun c hc => h c (List.mem_cons_of_mem change hc)
      -- a cell taken is taken on both sides
      have hwithdraw : ∀ c ∈ rest,
          withdraw free change.position c.position = withdraw free' change.position c.position := by
        intro c hc
        simp only [withdraw, hrest c hc]
      rw [unmatched, unmatched, hchange, ih hrest, ih hwithdraw]

end Change

open Change

namespace Sheet

variable {first second : List Change}

/-! ## Two batches as one -/

/-- The new cells of a batch stand behind the old ones, at the positions of the changes that find
no cell. -/
theorem positions_edit (s : Sheet) (changes : List Change) :
    (s.edit changes).cells.map (·.position) =
      s.cells.map (·.position) ++ (unmatched s.cellsAt changes).map (·.position) := by
  rcases exists_kept s.cells changes with ⟨kept, hkept, hpositions⟩
  have hnew : ((unmatched s.cellsAt changes).map newCell).map (·.position) =
      (unmatched s.cellsAt changes).map (·.position) := by
    simp [newCell]
  simpa [edit, hkept, hpositions] using hnew

theorem valuesAt_edit_of_nil {p : Position} {changes : List Change} (h : textsAt p changes = [])
    (s : Sheet) : (s.edit changes).valuesAt p = s.valuesAt p := by
  simp [valuesAt_edit, h]

/-- One batch leaves as many free cells for a separate one as it finds. -/
theorem unmatched_edit_of_separate (h : Separate first second) (s : Sheet) :
    unmatched (s.edit first).cellsAt second = unmatched (stillFree s.cellsAt first) second := by
  apply unmatched_congr
  intro d hd
  have hnone : textsAt d.position first = [] := h.textsAt_eq_nil hd
  calc
    (s.edit first).cellsAt d.position = s.cellsAt d.position := by
      simp [cellsAt, valuesAt_edit_of_nil hnone]
    _ = stillFree s.cellsAt first d.position := by simp [stillFree, hnone]

/-- Two separate batches one after the other do what both do as one batch. -/
theorem edit_edit_of_separate (h : Separate first second) (s : Sheet) :
    (s.edit first).edit second = s.edit (first ++ second) := by
  apply eq_of_positions
  · calc
      ((s.edit first).edit second).cells.map (·.position)
          = s.cells.map (·.position) ++ (unmatched s.cellsAt first).map (·.position) ++
              (unmatched (stillFree s.cellsAt first) second).map (·.position) := by
            rw [positions_edit, positions_edit, unmatched_edit_of_separate h]
      _ = (s.edit (first ++ second)).cells.map (·.position) := by
            simp [positions_edit, unmatched_append]
  · intro p
    simp only [valuesAt_edit, textsAt_append]
    rcases h.textsAt_eq_nil_or p with hfirst | hsecond
    · simp [hfirst]
    · simp [hsecond]

/-! ## The other order -/

theorem valuesAt_edit_comm_of_separate (h : Separate first second) (s : Sheet) (p : Position) :
    ((s.edit second).edit first).valuesAt p = ((s.edit first).edit second).valuesAt p := by
  simp only [valuesAt_edit]
  rcases h.textsAt_eq_nil_or p with hfirst | hsecond
  · simp [hfirst]
  · simp [hsecond]

/-- Sheets with the same texts at every position are read alike. -/
theorem source_congr {s s' : Sheet} (h : ∀ p, s.valuesAt p = s'.valuesAt p) :
    s.source = s'.source := by
  have hget : s.get = s'.get := by
    funext id
    simp only [get, valueAt, textAt?, h]
  rw [source, source, hget]

/-- Two batches of edits that touch no position in common do the same one after the other as they
do as one batch: the sheets are equal, cell by cell. In the other order they leave the same texts at
each position, so that every cell and every range is read alike. -/
theorem edits_of_separate (h : Separate first second) (s : Sheet) :
    (s.edit first).edit second = s.edit (first ++ second) ∧
    (∀ p, ((s.edit second).edit first).valuesAt p = ((s.edit first).edit second).valuesAt p) ∧
    ((s.edit second).edit first).source = ((s.edit first).edit second).source :=
  ⟨edit_edit_of_separate h s, valuesAt_edit_comm_of_separate h s,
    source_congr (valuesAt_edit_comm_of_separate h s)⟩

/-- Each batch changes one position once more often than there are cells, and so leaves a new cell
there. In the other order the new cells change places: the sheets differ, and are read alike. -/
theorem edits_of_separate_new_cells :
    let s : Sheet := ⟨[⟨⟨0, 0⟩, "a"⟩, ⟨⟨1, 0⟩, "b"⟩, ⟨⟨0, 0⟩, "c"⟩]⟩
    let first : List Change := [⟨⟨0, 0⟩, "a", "p"⟩, ⟨⟨0, 0⟩, "c", "q"⟩, ⟨⟨0, 0⟩, "", "r"⟩]
    let second : List Change := [⟨⟨1, 0⟩, "b", "x"⟩, ⟨⟨1, 0⟩, "", "y"⟩]
    Separate first second ∧ (s.edit first).edit second = s.edit (first ++ second) ∧
      (s.edit second).edit first ≠ (s.edit first).edit second ∧
      ((s.edit second).edit first).source = ((s.edit first).edit second).source := by
  intro s first second
  have hseparate : Separate first second := by decide
  rcases edits_of_separate hseparate s with ⟨hmerged, -, hread⟩
  exact ⟨hseparate, hmerged, by decide, hread⟩

end Sheet
end CellCalc

import CellCalc.Proofs.EditHistory

/-!
# EditEffect — what one batch of edits does to a sheet

A batch goes through the cells and gives each of them the first change at its position that no
earlier cell has taken. Seen from the changes, each takes a cell of its position as long as one is
*free*, and those that find none become cells at the end. No position gets in the way of another
one, and a sheet is known from where its cells stand and the texts at each position.

* `Change.unmatched`, `Change.unmatched_eraseP` — the changes that find no cell.
* `Sheet.exists_kept` — the cells after a batch: the old ones with new texts, then the new ones.
* `Sheet.eq_of_positions` — positions and texts make up the sheet.
* `Sheet.edit_exact` — the effect of a batch, and when it has none.
-/

namespace CellCalc

namespace Change

/-! ## Changes that find no cell -/

/-- One free cell less at a position. -/
def withdraw (free : Position → Nat) (p : Position) : Position → Nat :=
  fun q => if q = p then free q - 1 else free q

/-- One free cell more at a position. -/
def deposit (free : Position → Nat) (p : Position) : Position → Nat :=
  fun q => if q = p then free q + 1 else free q

/-- The changes that find no cell, if so many are free at each position. -/
def unmatched (free : Position → Nat) : List Change → List Change
  | [] => []
  | change :: rest =>
      if free change.position = 0 then change :: unmatched free rest
      else unmatched (withdraw free change.position) rest

theorem withdraw_deposit (free : Position → Nat) (p : Position) :
    withdraw (deposit free p) p = free := by
  funext q
  by_cases h : q = p <;> simp [withdraw, deposit, h]

theorem withdraw_deposit_comm {p p' : Position} (h : p' ≠ p) (free : Position → Nat) :
    withdraw (deposit free p) p' = deposit (withdraw free p') p := by
  funext q
  by_cases hq : q = p
  · subst hq
    simp [withdraw, deposit, h.symm]
  · simp [withdraw, deposit, hq]

/-- One more cell at a position takes the first change there. -/
theorem unmatched_deposit (free : Position → Nat) (cell : SheetCell) (changes : List Change) :
    unmatched (deposit free cell.position) changes =
      unmatched free (changes.eraseP (·.touches cell)) := by
  induction changes generalizing free with
  | nil => rfl
  | cons first rest ih =>
      by_cases ht : first.touches cell = true
      · have hposition : first.position = cell.position := by simpa [touches] using ht
        have hfree : deposit free cell.position cell.position ≠ 0 := by simp [deposit]
        rw [List.eraseP_cons_of_pos (p := fun x : Change => x.touches cell) ht, unmatched,
          hposition, if_neg hfree, withdraw_deposit]
      · have hposition : first.position ≠ cell.position := by simpa [touches] using ht
        have hfree : deposit free cell.position first.position = free first.position := by
          simp [deposit, hposition]
        rw [List.eraseP_cons_of_neg (p := fun x : Change => x.touches cell) ht, unmatched,
          unmatched, hfree, withdraw_deposit_comm hposition, ih, ih]

theorem unmatched_of_none (changes : List Change) : unmatched (fun _ => 0) changes = changes := by
  induction changes with
  | nil => rfl
  | cons first rest ih => rw [unmatched, if_pos rfl, ih]

theorem unmatched_sublist (free : Position → Nat) (changes : List Change) :
    (unmatched free changes).Sublist changes := by
  induction changes generalizing free with
  | nil => exact .slnil
  | cons first rest ih =>
      rw [unmatched]
      split
      · exact (ih free).cons_cons first
      · exact (ih _).cons first

/-- At each position the first changes find the free cells. -/
theorem filter_unmatched (free : Position → Nat) (changes : List Change) (p : Position) :
    (unmatched free changes).filter (·.position == p) =
      (changes.filter (·.position == p)).drop (free p) := by
  induction changes generalizing free with
  | nil => simp [unmatched]
  | cons first rest ih =>
      rw [unmatched]
      by_cases hp : first.position = p
      · subst hp
        split
        · next hnone => simp [ih, hnone]
        · next hsome =>
            obtain ⟨n, hn⟩ := Nat.exists_eq_succ_of_ne_zero hsome
            simp [ih, withdraw, hn]
      · have hother : withdraw free first.position p = free p := by
          simp [withdraw, Ne.symm hp]
        split <;> simp [ih, hp, hother]

end Change

open Change

namespace Sheet

/-! ## One batch -/

/-- The number of cells at each position. -/
def cellsAt (s : Sheet) (p : Position) : Nat :=
  (s.valuesAt p).length

theorem cellsAt_cons (cell : SheetCell) (cells : List SheetCell) :
    cellsAt ⟨cell :: cells⟩ = deposit (cellsAt ⟨cells⟩) cell.position := by
  funext p
  by_cases h : p = cell.position
  · simp [cellsAt, deposit, h]
  · simp [cellsAt, deposit, h, Ne.symm h]

/-- A batch leaves each cell where it is, and the changes that find no cell stand behind them. -/
theorem exists_kept (cells : List SheetCell) (pending : List Change) :
    ∃ kept, editCells cells pending = kept ++ (unmatched (cellsAt ⟨cells⟩) pending).map newCell ∧
      kept.map (·.position) = cells.map (·.position) := by
  -- cell by cell, with whatever changes are still pending there
  induction cells generalizing pending with
  | nil =>
      refine ⟨[], ?_, rfl⟩
      rw [editCells, List.nil_append]
      exact congrArg (List.map newCell) (unmatched_of_none pending).symm
  | cons cell rest ih =>
      rw [editCells, cellsAt_cons, unmatched_deposit]
      cases hfind : pending.find? (·.touches cell) with
      | some change =>
          obtain ⟨kept, hkept, hpositions⟩ := ih (pending.eraseP (·.touches cell))
          refine ⟨{ cell with text := change.after } :: kept, ?_, ?_⟩
          · simp only [hkept, List.cons_append]
          · rw [List.map_cons, List.map_cons, hpositions]
      | none =>
          have hnone : pending.eraseP (·.touches cell) = pending :=
            List.eraseP_of_forall_not (List.find?_eq_none.1 hfind)
          obtain ⟨kept, hkept, hpositions⟩ := ih pending
          refine ⟨cell :: kept, ?_, ?_⟩
          · simp only [hkept, hnone, List.cons_append]
          · rw [List.map_cons, List.map_cons, hpositions]

/-! ## Batches without an effect -/

/-- A sheet is known from where its cells stand and the texts at each position. -/
theorem eq_of_positions {s s' : Sheet}
    (hpositions : s.cells.map (·.position) = s'.cells.map (·.position))
    (htexts : ∀ p, s.valuesAt p = s'.valuesAt p) : s = s' := by
  rcases s with ⟨cells⟩
  rcases s' with ⟨cells'⟩
  simp only [mk.injEq]
  induction cells generalizing cells' with
  | nil =>
      cases cells' with
      | nil => rfl
      | cons => cases hpositions
  | cons cell cells ih =>
      cases cells' with
      | nil => cases hpositions
      | cons cell' cells' =>
          obtain ⟨hposition, hrest⟩ := List.cons.inj hpositions
          -- both sheets begin with a text at the same position, so it is the same one
          have hfirst := htexts cell.position
          rw [valuesAt_cons, valuesAt_cons, if_pos rfl, if_pos hposition.symm] at hfirst
          have hcell : cell = cell' := by
            rcases cell with ⟨position, text⟩
            rcases cell' with ⟨position', text'⟩
            cases hposition
            cases (List.cons.inj hfirst).1
            rfl
          subst hcell
          refine congrArg (cell :: ·) (ih cells' hrest fun p => ?_)
          have hp := htexts p
          rw [valuesAt_cons, valuesAt_cons] at hp
          split at hp
          · exact (List.cons.inj hp).2
          · exact hp

theorem unmatched_eq_nil {s : Sheet} {changes : List Change}
    (h : ∀ p, (textsAt p changes).length ≤ s.cellsAt p) : unmatched s.cellsAt changes = [] := by
  refine List.eq_nil_iff_forall_not_mem.2 fun change hchange => ?_
  -- no change is left over at its own position
  have hleft := filter_unmatched s.cellsAt changes change.position
  have hshort := h change.position
  rw [textsAt, List.length_map] at hshort
  rw [List.drop_eq_nil_of_le hshort, List.filter_eq_nil_iff] at hleft
  exact hleft change hchange (beq_self_eq_true _)

/-- A batch has no effect just if at each position its texts are the first ones there already. -/
theorem edit_eq_self_iff (s : Sheet) (changes : List Change) :
    s.edit changes = s ↔ ∀ p, textsAt p changes <+: s.valuesAt p := by
  constructor
  · intro h p
    refine List.prefix_iff_eq_append.2 ?_
    rw [← valuesAt_edit, h]
  · intro h
    obtain ⟨kept, hkept, hpositions⟩ := exists_kept s.cells changes
    have hnone : unmatched s.cellsAt changes = [] :=
      unmatched_eq_nil fun p => (h p).length_le
    refine eq_of_positions ?_ fun p => ?_
    · rw [edit, hkept, hnone, List.map_nil, List.append_nil, hpositions]
    · rw [valuesAt_edit]
      exact List.prefix_iff_eq_append.1 (h p)

/-! ## All of it -/

/-- The effect of a batch of edits. The cells of the sheet stay where they are, and behind them
stand the changes that find no cell, in their order: at each position those after as many as there
are cells. The texts at a position are those of the changes there, and then the old ones without as
many from the front. Nothing changes just if at each position the texts of the changes are the first
of the old ones. -/
theorem edit_exact (s : Sheet) (changes : List Change) :
    ((s.edit changes).cells.take s.cells.length).map (·.position) = s.cells.map (·.position) ∧
    (s.edit changes).cells.drop s.cells.length = (unmatched s.cellsAt changes).map newCell ∧
    (unmatched s.cellsAt changes).Sublist changes ∧
    (∀ p, (unmatched s.cellsAt changes).filter (·.position == p) =
      (changes.filter (·.position == p)).drop (s.valuesAt p).length) ∧
    (∀ p, (s.edit changes).valuesAt p =
      textsAt p changes ++ (s.valuesAt p).drop (textsAt p changes).length) ∧
    (s.edit changes = s ↔ ∀ p, textsAt p changes <+: s.valuesAt p) := by
  obtain ⟨kept, hkept, hpositions⟩ := exists_kept s.cells changes
  have hlength : kept.length = s.cells.length := by
    rw [← List.length_map, hpositions, List.length_map]
  refine ⟨?_, ?_, unmatched_sublist _ _, filter_unmatched _ _, valuesAt_edit s changes,
    edit_eq_self_iff s changes⟩
  · rw [edit, hkept, ← hlength, List.take_left, hpositions]
  · rw [edit, hkept, ← hlength, List.drop_left]

/-- Three changes of a position with two cells, and one of a position without any between them. -/
example :
    (Sheet.edit ⟨[⟨⟨0, 0⟩, "a"⟩, ⟨⟨0, 0⟩, "b"⟩]⟩
      [⟨⟨0, 0⟩, "a", "x"⟩, ⟨⟨5, 1⟩, "", "new"⟩, ⟨⟨0, 0⟩, "x", "y"⟩, ⟨⟨0, 0⟩, "y", "z"⟩]).cells =
        [⟨⟨0, 0⟩, "x"⟩, ⟨⟨0, 0⟩, "y"⟩, ⟨⟨5, 1⟩, "new"⟩, ⟨⟨0, 0⟩, "z"⟩] := by
  decide

end Sheet
end CellCalc

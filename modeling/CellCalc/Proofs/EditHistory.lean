import CellCalc.Proofs.CellIds
import CellCalc.Source.Sheet

/-!
# EditHistory — what reading finds after several batches of edits

An edit goes to the first cell at its position that its batch has not edited yet, while reading
takes the last cell there. So the texts of a batch *overlay* those at a position from the front,
and what is read in the end comes from the last batch that is at least as long, at that position,
as every batch before it.

* `Change.textsAt` — the texts that a batch leaves at a position.
* `Sheet.valuesAt_edit` — the texts at a position after one batch.
* `Sheet.after` — the sheet after several batches.
* `Sheet.prevailing` — the batch whose texts are read in the end.
-/

namespace CellCalc

/-! ## The changes of a batch at a position -/

namespace Change

/-- The texts that the changes of a batch at a position leave there, in order. -/
def textsAt (p : Position) (changes : List Change) : List Text :=
  (changes.filter (·.position == p)).map (·.after)

@[simp] theorem textsAt_nil (p : Position) : textsAt p [] = [] := rfl

@[simp] theorem textsAt_append (p : Position) (first second : List Change) :
    textsAt p (first ++ second) = textsAt p first ++ textsAt p second := by
  simp [textsAt]

theorem textsAt_cons (p : Position) (change : Change) (changes : List Change) :
    textsAt p (change :: changes) =
      if change.position = p then change.after :: textsAt p changes else textsAt p changes := by
  by_cases h : change.position = p <;> simp [textsAt, h]

section Find

variable {cell : SheetCell} {changes : List Change} {change : Change}

theorem textsAt_of_find?_eq_some (h : changes.find? (·.touches cell) = some change) :
    textsAt cell.position changes =
      change.after :: textsAt cell.position (changes.eraseP (·.touches cell)) := by
  induction changes with
  | nil => cases h
  | cons first rest ih =>
      by_cases ht : first.touches cell = true
      · -- the first change is the one found, and the one that is taken away
        have hfirst : first = change := by simpa [List.find?_cons, ht] using h
        have hposition : change.position = cell.position := by
          simpa [touches, hfirst] using ht
        rw [List.eraseP_cons_of_pos (p := fun x : Change => x.touches cell) ht, hfirst,
          textsAt_cons, if_pos hposition]
      · have hposition : first.position ≠ cell.position := by simpa [touches] using ht
        have hrest : rest.find? (·.touches cell) = some change := by
          simpa [List.find?_cons, ht] using h
        rw [List.eraseP_cons_of_neg (p := fun x : Change => x.touches cell) ht, textsAt_cons,
          if_neg hposition, ih hrest, textsAt_cons, if_neg hposition]

theorem textsAt_eraseP_of_ne {p : Position} (h : cell.position ≠ p) (changes : List Change) :
    textsAt p (changes.eraseP (·.touches cell)) = textsAt p changes := by
  induction changes with
  | nil => rfl
  | cons first rest ih =>
      by_cases ht : first.touches cell = true
      · -- a change of the cell is none of another position
        have hposition : first.position = cell.position := by simpa [touches] using ht
        rw [List.eraseP_cons_of_pos (p := fun x : Change => x.touches cell) ht, textsAt_cons,
          if_neg (hposition ▸ h)]
      · rw [List.eraseP_cons_of_neg (p := fun x : Change => x.touches cell) ht, textsAt_cons,
          textsAt_cons, ih]

theorem textsAt_of_find?_eq_none (h : changes.find? (·.touches cell) = none) :
    textsAt cell.position changes = [] := by
  have hnone : ∀ change ∈ changes, change.position ≠ cell.position := by
    simpa [List.find?_eq_none, touches] using h
  simpa [textsAt, List.filter_eq_nil_iff] using hnone

end Find

end Change

open Change

namespace Sheet

/-! ## One batch -/

theorem valuesAt_newCells (changes : List Change) (p : Position) :
    valuesAt ⟨changes.map newCell⟩ p = textsAt p changes := by
  induction changes with
  | nil => rfl
  | cons change changes ih =>
      rw [List.map_cons, valuesAt_cons, textsAt_cons, ih]
      rfl

theorem valuesAt_editCells (cells : List SheetCell) (pending : List Change) (p : Position) :
    valuesAt ⟨editCells cells pending⟩ p =
      textsAt p pending ++ (valuesAt ⟨cells⟩ p).drop (textsAt p pending).length := by
  -- cell by cell, with whatever changes are still pending there
  induction cells generalizing pending with
  | nil =>
      rw [editCells, valuesAt_newCells]
      simp [valuesAt]
  | cons cell rest ih =>
      rw [editCells]
      cases hfind : pending.find? (·.touches cell) with
      | some change =>
          simp only [valuesAt_cons, ih]
          by_cases hp : cell.position = p
          · rw [if_pos hp, if_pos hp, ← hp, textsAt_of_find?_eq_some hfind]
            simp
          · rw [if_neg hp, if_neg hp, textsAt_eraseP_of_ne hp]
      | none =>
          simp only [valuesAt_cons, ih]
          by_cases hp : cell.position = p
          · rw [if_pos hp, if_pos hp, ← hp, textsAt_of_find?_eq_none hfind]
            simp
          · rw [if_neg hp, if_neg hp]

/-- A batch overlays the texts at a position from the front. -/
theorem valuesAt_edit (s : Sheet) (changes : List Change) (p : Position) :
    (s.edit changes).valuesAt p =
      textsAt p changes ++ (s.valuesAt p).drop (textsAt p changes).length :=
  valuesAt_editCells s.cells changes p

/-! ## Several batches -/

/-- The sheet after several batches, the sheet itself if there are none. -/
def after (s : Sheet) (batches : List (List Change)) : Sheet :=
  (s.history batches).getLastD s

@[simp] theorem after_cons (s : Sheet) (batch : List Change) (batches : List (List Change)) :
    s.after (batch :: batches) = (s.edit batch).after batches := by
  rw [after, history, List.getLastD_cons, after]

/-- The longer of two batches at a position, the later one if they are equally long there. -/
def longerAt (p : Position) (earlier later : List Change) : List Change :=
  if (textsAt p earlier).length ≤ (textsAt p later).length then later else earlier

/-- The last batch with at least as many changes at a position as every batch before it. -/
def prevailing (p : Position) (batches : List (List Change)) : List Change :=
  batches.foldl (longerAt p) []

/-- What reading has to do with the texts at a position while batches go by: the last text is that
of the prevailing batch, and there are as many texts as that batch has, or as at the start. -/
structure Overlaid (p : Position) (start : List Text) (best : List Change) (texts : List Text) :
    Prop where
  last : texts.getLast? = (textsAt p best).getLast?.or start.getLast?
  length : texts.length = max (textsAt p best).length start.length

theorem Overlaid.start (p : Position) (texts : List Text) : Overlaid p texts [] texts where
  last := by simp
  length := by simp

theorem Overlaid.edit {p : Position} {start texts : List Text} {best : List Change}
    (hstart : start.length ≤ 1) (h : Overlaid p start best texts) (batch : List Change) :
    Overlaid p start (longerAt p best batch)
      (textsAt p batch ++ texts.drop (textsAt p batch).length) := by
  have hlength := h.length
  unfold longerAt
  by_cases hle : (textsAt p best).length ≤ (textsAt p batch).length
  · rw [if_pos hle]
    cases hbatch : textsAt p batch with
    | nil =>
        -- neither batch has a change there
        have hbest : textsAt p best = [] := by
          rw [hbatch] at hle
          exact List.eq_nil_of_length_eq_zero (Nat.le_zero.1 hle)
        have hlast := h.last
        rw [hbest] at hlast hlength
        exact ⟨by simpa [hbatch] using hlast, by simpa [hbatch] using hlength⟩
    | cons t rest =>
        -- a batch at least as long as the best one before covers every text there is
        have hcovers : texts.drop (t :: rest).length = [] := by
          rw [List.drop_eq_nil_iff, hlength, ← hbatch]
          have hpos : 1 ≤ (textsAt p batch).length := by simp [hbatch]
          omega
        rw [hcovers, List.append_nil]
        refine ⟨?_, ?_⟩
        · rw [hbatch, List.getLast?_cons]
          rfl
        · rw [hbatch, List.length_cons]
          omega
  · rw [if_neg hle]
    -- a shorter batch leaves the last text where it is
    have hshorter : ¬texts.length ≤ (textsAt p batch).length := by omega
    have hne : texts ≠ [] := List.length_pos_iff.1 (by omega)
    refine ⟨?_, ?_⟩
    · rw [List.getLast?_append, List.getLast?_drop, if_neg hshorter, ← h.last,
        List.getLast?_eq_some_getLast hne]
      rfl
    · rw [List.length_append, List.length_drop]
      omega

theorem overlaid_after {p : Position} {start : List Text} (hstart : start.length ≤ 1)
    (s : Sheet) (best : List Change) (batches : List (List Change))
    (h : Overlaid p start best (s.valuesAt p)) :
    Overlaid p start (batches.foldl (longerAt p) best) ((s.after batches).valuesAt p) := by
  induction batches generalizing s best with
  | nil => exact h
  | cons batch rest ih =>
      rw [after_cons, List.foldl_cons]
      -- one more batch keeps the overlay, with the longer batch as the best one
      refine ih (s.edit batch) (longerAt p best batch) ?_
      rw [valuesAt_edit]
      exact h.edit hstart batch

/-! ## The prevailing batch -/

section Prevailing

variable {p : Position}

theorem textsAt_eq_nil_of_flatten {batches : List (List Change)}
    (h : textsAt p batches.flatten = []) : ∀ batch ∈ batches, textsAt p batch = [] := by
  induction batches with
  | nil =>
      intro batch hmem
      cases hmem
  | cons first rest ih =>
      rw [List.flatten_cons, textsAt_append, List.append_eq_nil_iff] at h
      intro batch hmem
      rcases List.mem_cons.1 hmem with rfl | hrest
      · exact h.1
      · exact ih h.2 batch hrest

theorem length_foldl_longerAt_le {bound : Nat} (best : List Change) (batches : List (List Change))
    (hbest : (textsAt p best).length ≤ bound)
    (hbatches : ∀ batch ∈ batches, (textsAt p batch).length ≤ bound) :
    (textsAt p (batches.foldl (longerAt p) best)).length ≤ bound := by
  induction batches generalizing best with
  | nil => exact hbest
  | cons batch rest ih =>
      refine ih (longerAt p best batch) ?_ fun b hb => hbatches b (by simp [hb])
      unfold longerAt
      split
      · exact hbatches batch (by simp)
      · exact hbest

theorem foldl_longerAt_of_forall_nil {best : List Change} (hbest : textsAt p best ≠ [])
    (batches : List (List Change)) (hbatches : ∀ batch ∈ batches, textsAt p batch = []) :
    batches.foldl (longerAt p) best = best := by
  induction batches with
  | nil => rfl
  | cons batch rest ih =>
      have hkeep : longerAt p best batch = best := by
        have hpos := List.length_pos_iff.2 hbest
        rw [longerAt, hbatches batch (by simp), List.length_nil, if_neg (by omega)]
      rw [List.foldl_cons, hkeep]
      exact ih fun b hb => hbatches b (by simp [hb])

theorem exists_last_touching {batches : List (List Change)} (h : textsAt p batches.flatten ≠ []) :
    ∃ earlier batch later, batches = earlier ++ batch :: later ∧ textsAt p batch ≠ [] ∧
      textsAt p later.flatten = [] := by
  induction batches with
  | nil => exact absurd rfl h
  | cons first rest ih =>
      by_cases hrest : textsAt p rest.flatten = []
      · refine ⟨[], first, rest, rfl, ?_, hrest⟩
        intro hfirst
        apply h
        rw [List.flatten_cons, textsAt_append, hfirst, hrest, List.nil_append]
      · rcases ih hrest with ⟨earlier, batch, later, hsplit, hbatch, hlater⟩
        exact ⟨first :: earlier, batch, later, by rw [hsplit, List.cons_append], hbatch, hlater⟩

/-- The last batch that touches a position touches it at least as often as each batch before. -/
def LastIsLongest (p : Position) (batches : List (List Change)) : Prop :=
  ∀ earlier batch later, batches = earlier ++ batch :: later → textsAt p batch ≠ [] →
    textsAt p later.flatten = [] →
      ∀ other ∈ earlier, (textsAt p other).length ≤ (textsAt p batch).length

theorem getLast?_prevailing {batches : List (List Change)} (h : LastIsLongest p batches) :
    (textsAt p (prevailing p batches)).getLast? = (textsAt p batches.flatten).getLast? := by
  by_cases hnone : textsAt p batches.flatten = []
  · have hall := textsAt_eq_nil_of_flatten hnone
    have hlength : (textsAt p (prevailing p batches)).length ≤ 0 :=
      length_foldl_longerAt_le [] batches (Nat.le_refl 0) fun b hb => by simp [hall b hb]
    rw [hnone, List.eq_nil_of_length_eq_zero (Nat.le_zero.1 hlength)]
  · rcases exists_last_touching hnone with ⟨earlier, batch, later, hsplit, hbatch, hlater⟩
    have hlonger := h earlier batch later hsplit hbatch hlater
    -- nothing before it is longer, and nothing after it has a change there
    have hprevails : prevailing p batches = batch := by
      rw [prevailing, hsplit, List.foldl_append, List.foldl_cons]
      have hbefore := length_foldl_longerAt_le [] earlier (Nat.zero_le _) hlonger
      rw [longerAt, if_pos hbefore]
      exact foldl_longerAt_of_forall_nil hbatch later (textsAt_eq_nil_of_flatten hlater)
    have hflatten : batches.flatten = earlier.flatten ++ (batch ++ later.flatten) := by
      rw [hsplit, List.flatten_append, List.flatten_cons]
    rw [hprevails, hflatten, textsAt_append, textsAt_append, hlater, List.append_nil,
      List.getLast?_append, List.getLast?_eq_some_getLast hbatch]
    rfl

end Prevailing

/-! ## Reading by position and by id -/

end Sheet

/-- The value of a cell with this text in it. -/
def Value.ofEntry : Option Text → Value
  | some (c :: t) => .text (c :: t)
  | _ => .blank

namespace Sheet

theorem valueAt_eq_ofEntry (s : Sheet) (p : Position) : s.valueAt p = .ofEntry (s.textAt? p) := by
  unfold valueAt Value.ofEntry
  cases s.textAt? p with
  | none => rfl
  | some t => cases t <;> rfl

/-- The sheet has this value at a position, and every id of the position reads it. -/
structure Reads (s : Sheet) (p : Position) (v : Value) : Prop where
  value : s.valueAt p = v
  byId : ∀ id a, Address.ofText id = .ok (some a) → Position.ofAddress a = p →
    s.source.cell id = .ok v
  byOwnId : 0 ≤ p.column → 0 ≤ p.row → Numeral.Writable (p.row + 1) →
    ∃ id, p.id = .ok id ∧ s.source.cell id = .ok v

/-- A position within bounds has an id, which leads back to it. -/
theorem exists_id {p : Position} (hcolumn : 0 ≤ p.column) (hrow : 0 ≤ p.row)
    (hshort : Numeral.Writable (p.row + 1)) :
    ∃ id a, p.id = .ok id ∧ Address.ofText id = .ok (some a) ∧ Position.ofAddress a = p := by
  obtain ⟨column, hc⟩ : ∃ column : Nat, p.column + 1 = column := ⟨(p.column + 1).toNat, by omega⟩
  obtain ⟨row, hr⟩ : ∃ row : Nat, p.row + 1 = row := ⟨(p.row + 1).toNat, by omega⟩
  have hpositive : 1 ≤ column := by omega
  -- ids count columns and rows from one, positions from zero
  have hid : p.id = .ok (Address.text column row) := by
    rw [Position.id, hc, hr]
    exact cellId_eq_text hpositive (hr ▸ hshort)
  have hdigits : (Nat.toDigits 10 row).length ≤ Numeral.digitLimit := by
    rw [hr] at hshort
    exact hshort
  refine ⟨_, _, hid, Address.ofText_text hpositive hdigits, ?_⟩
  rw [Position.ofAddress, Address.columnNumber, Column.ordinal_letters, ← hc, ← hr]
  simp

theorem reads_valueAt (s : Sheet) (p : Position) : s.Reads p (s.valueAt p) where
  value := rfl
  byId := by
    rintro id a h rfl
    exact get_of_address h s
  byOwnId := by
    intro hcolumn hrow hshort
    rcases exists_id hcolumn hrow hshort with ⟨id, a, hid, haddress, rfl⟩
    exact ⟨id, hid, get_of_address haddress s⟩

theorem length_valuesAt_le_one {s : Sheet} (h : (s.cells.map (·.position)).Nodup) (p : Position) :
    (s.valuesAt p).length ≤ 1 := by
  rw [valuesAt, List.length_map]
  have hcount := List.nodup_iff_count.1 h p
  rwa [List.count_eq_countP, List.countP_map, List.countP_eq_length_filter] at hcount

/-! ## Runs of batches -/

/-- Reading finds the last text of the prevailing batch, and the text of the start where no batch
has changed the position. Where the last batch about a position is at least as long there as every
batch before it, that text is the last one of the whole run. -/
theorem reads_after_batches (s : Sheet) (hs : (s.cells.map (·.position)).Nodup)
    (batches : List (List Change)) (p : Position) :
    (s.after batches).Reads p
        (.ofEntry ((textsAt p (prevailing p batches)).getLast?.or (s.textAt? p))) ∧
      (LastIsLongest p batches →
        (s.after batches).Reads p
          (.ofEntry ((textsAt p batches.flatten).getLast?.or (s.textAt? p)))) := by
  have hrun := overlaid_after (length_valuesAt_le_one hs p) s [] batches (Overlaid.start p _)
  have hvalue : (s.after batches).valueAt p =
      .ofEntry ((textsAt p (prevailing p batches)).getLast?.or (s.textAt? p)) := by
    rw [valueAt_eq_ofEntry]
    exact congrArg Value.ofEntry hrun.last
  constructor
  · rw [← hvalue]
    exact reads_valueAt _ p
  · intro hlast
    rw [← getLast?_prevailing hlast, ← hvalue]
    exact reads_valueAt _ p

theorem reads_after_two_batches :
    (([⟨⟨0, 0⟩, "x"⟩] : List SheetCell).map (·.position)).Nodup ∧
      (after ⟨[⟨⟨0, 0⟩, "x"⟩]⟩
        [[⟨⟨0, 0⟩, "x", "a"⟩, ⟨⟨0, 0⟩, "a", "b"⟩], [⟨⟨0, 0⟩, "b", "c"⟩]]).Reads ⟨0, 0⟩ (.text "b") ∧
      (after ⟨[⟨⟨0, 0⟩, "x"⟩]⟩
        [[⟨⟨0, 0⟩, "x", "a"⟩], [⟨⟨0, 0⟩, "a", "b"⟩, ⟨⟨0, 0⟩, "b", ""⟩]]).Reads ⟨0, 0⟩ .blank := by
  refine ⟨by decide, (reads_after_batches _ (by decide) _ _).1,
    (reads_after_batches _ (by decide) _ _).2 ?_⟩
  rintro (_ | ⟨first, _ | ⟨second, earlier⟩⟩) batch later hsplit hbatch hlater other hother
  · cases hother
  · -- the last batch is the one of two changes
    simp only [List.cons_append, List.nil_append, List.cons.injEq] at hsplit
    rcases hsplit with ⟨rfl, rfl, -⟩
    rw [List.mem_singleton.1 hother]
    decide
  · simp at hsplit

/-- Two edits of a cell in one batch leave two texts, and the next edit goes to the first. -/
theorem later_edit_not_read :
    ¬∀ (s : Sheet) (batches : List (List Change)) (p : Position),
      (s.cells.map (·.position)).Nodup → 0 ≤ p.column → 0 ≤ p.row →
        (s.after batches).Reads p
          (.ofEntry ((textsAt p batches.flatten).getLast?.or (s.textAt? p))) := by
  intro h
  have hread := h ⟨[]⟩ [[⟨⟨0, 0⟩, "", "a"⟩, ⟨⟨0, 0⟩, "a", "b"⟩], [⟨⟨0, 0⟩, "b", "c"⟩]] ⟨0, 0⟩
    (by decide) (by decide) (by decide)
  exact absurd hread.value (by decide)

end Sheet

end CellCalc

import CellCalc.Proofs.CellIds
import CellCalc.Proofs.EvaluationFailures

/-!
# CellOutcomes — what comes of reading a cell

A table reads any text as an id. A sheet and a worksheet take ids apart, and that fails for an id
whose row has more digits than are read. All other texts have a value, a blank one where the store
has nothing: where nothing was set, where no cell is, and for a text that is no cell id or names a
row that a worksheet does not have.

* `Address.Unreadable`, `Address.ofText_of_unreadable`, `Address.exists_of_readable` — the ids that
  cannot be taken apart.
* `Worksheet.OfValues`, `Store.HoldsValues` — the worksheets and stores of nothing but values.
* `Store.Absent` — what a store has nothing for; `Store.cell_of_absent` — its value.
* `Store.cell_outcome` — every reading of a cell; `Store.long_id_not_read` — an empty sheet that
  fails.
-/

namespace CellCalc

/-! ## Ids that cannot be taken apart -/

namespace Address

/-- A cell id whose row has more digits than are read. -/
def Unreadable (id : Text) : Prop :=
  isCellId id = true ∧ LongRow id

instance : DecidablePred Unreadable :=
  fun _ => inferInstanceAs (Decidable (_ ∧ _))

theorem unreadable_append {label digits : Text} (hlabel : label ≠ [])
    (halpha : ∀ c ∈ label, c.isAlpha = true) (hdigit : ∀ c ∈ digits, c.isDigit = true)
    (hlong : Numeral.digitLimit < digits.length) : Unreadable (label ++ digits) := by
  have hdigits : digits ≠ [] := List.ne_nil_of_length_pos (by omega)
  refine ⟨isCellId_iff.2 ⟨label, digits, rfl, hlabel, hdigits, halpha, hdigit⟩, ?_⟩
  rw [LongRow, Text.dropWhile_append halpha (isAlpha_head?_of_isDigit hdigit)]
  exact hlong

theorem ofText_of_unreadable {id : Text} (h : Unreadable id) :
    ofText id = .error (.tooManyDigits (id.dropWhile Char.isAlpha).length) := by
  have hlong : Numeral.digitLimit < (id.dropWhile Char.isAlpha).length := h.2
  simp [ofText, h.1, hlong]

theorem ofText_of_malformed {id : Text} (h : isCellId id = false) : ofText id = .ok none := by
  simp [ofText, h]

theorem exists_of_readable {id : Text} (h : ¬Unreadable id) : ∃ found, ofText id = .ok found := by
  cases hread : ofText id with
  | ok found => exact ⟨found, rfl⟩
  | error cause =>
      have hlong := (ofText_failsOnly id cause hread).1
      cases hid : isCellId id with
      | true => exact absurd ⟨hid, hlong⟩ h
      | false =>
          rw [ofText_of_malformed hid] at hread
          cases hread

end Address

/-! ## Single cells -/

theorem lookup_eq_none_of_forall_ne {α β : Type} [BEq α] [LawfulBEq α] {key : α}
    {entries : List (α × β)} (h : ∀ entry ∈ entries, entry.1 ≠ key) :
    entries.lookup key = none := by
  rw [List.lookup_eq_none_iff]
  intro entry hentry
  exact bne_iff_ne.2 (h entry hentry).symm

theorem Table.get_of_unset {t : Table} {id : Text}
    (h : ∀ entry ∈ t.entries, entry.1 ≠ Text.upper id) : t.get id = .blank := by
  rw [get, lookup_eq_none_of_forall_ne h]
  rfl

theorem Sheet.valuesAt_of_noText {cells : List SheetCell} {p : Position}
    (h : ∀ cell ∈ cells, cell.position ≠ p) : valuesAt ⟨cells⟩ p = [] := by
  rw [valuesAt, List.map_eq_nil_iff, List.filter_eq_nil_iff]
  intro cell hcell
  simpa using h cell hcell

theorem Sheet.valueAt_of_noText {s : Sheet} {p : Position}
    (h : ∀ cell ∈ s.cells, cell.position ≠ p) : s.valueAt p = .blank := by
  rw [valueAt, textAt?, valuesAt_of_noText h]
  rfl

theorem Sheet.get_of_malformed {id : Text} (h : isCellId id = false) (s : Sheet) :
    s.get id = .ok .blank := by
  rw [get, Address.ofText_of_malformed h]
  rfl

theorem Worksheet.get_of_malformed {id : Text} (h : isCellId id = false) (w : Worksheet) :
    w.get id = .ok .blank := by
  rw [get, Address.ofText_of_malformed h]
  rfl

theorem Worksheet.get_of_address {w : Worksheet} {id : Text} {a : Address} {found : Option Entry}
    (h : Address.ofText id = .ok (some a)) (hfound : w.held a = .ok found) :
    w.get id = found.elim (.ok .blank) Entry.read := by
  simp only [get, h, bind, Except.bind, hfound]

/-- The worksheet is sound, and no cell of it holds anything but a value. -/
structure Worksheet.OfValues (w : Worksheet) : Prop where
  sound : w.Sound
  plain {column row : Nat} {e : Entry} : w.cell column row = .ok (some e) → ∃ v, e = .plain v

/-- Entries that are values make a worksheet of values. -/
theorem FilledCells.worksheet_ofValues {cells : FilledCells}
    (h : ∀ entry ∈ cells.entries, ∃ v, entry.2 = .plain v) : cells.worksheet.OfValues where
  sound := cells.worksheet_sound
  plain hcell := h _ (mem_of_cell hcell)

/-- In a worksheet of values there is one for every address. -/
theorem Worksheet.OfValues.exists_value {w : Worksheet} (h : w.OfValues) {id : Text} {a : Address}
    (ha : Address.ofText id = .ok (some a)) : ∃ v, w.get id = .ok v := by
  obtain ⟨found, hfound⟩ := h.sound.exists_held a
  rw [get_of_address ha hfound]
  cases found with
  | none => exact ⟨.blank, rfl⟩
  | some e =>
      obtain ⟨v, rfl⟩ := h.plain (cell_of_held hfound)
      exact ⟨v, rfl⟩

namespace Store

/-! ## Stores and what they hold -/

/-- The store holds cells, and nothing in them but values. -/
def HoldsValues : Store → Prop
  | table _ | sheet _ => True
  | worksheet w => w.OfValues
  | failing _ => False

/-- The store finds its cells by the addresses that ids stand for. -/
def ReadsAddresses : Store → Prop
  | sheet _ | worksheet _ => True
  | table _ | failing _ => False

/-- The store has nothing for an id. -/
inductive Absent (id : Text) : Store → Prop
  | unset {t : Table} : (∀ entry ∈ t.entries, entry.1 ≠ Text.upper id) → Absent id (table t)
  | malformed {store : Store} : store.ReadsAddresses → isCellId id = false → Absent id store
  | noText {s : Sheet} {a : Address} : Address.ofText id = .ok (some a) →
      (∀ cell ∈ s.cells, cell.position ≠ .ofAddress a) → Absent id (sheet s)
  | noEntry {w : Worksheet} {a : Address} : Address.ofText id = .ok (some a) →
      w.cell a.columnNumber a.row = .ok none → Absent id (worksheet w)
  | noRow {w : Worksheet} {a : Address} : Address.ofText id = .ok (some a) →
      ¬(1 ≤ a.row ∧ a.row ≤ w.lastRow) → Absent id (worksheet w)

/-! ## Readings -/

theorem cell_table (t : Table) (id : Text) : (table t).source.cell id = .ok (t.get id) := rfl

theorem cell_sheet (s : Sheet) (id : Text) : (sheet s).source.cell id = s.get id := rfl

theorem cell_worksheet (w : Worksheet) (id : Text) : (worksheet w).source.cell id = w.get id := rfl

/-- Where a store has nothing, the value is blank. -/
theorem cell_of_absent {store : Store} (hvalues : store.HoldsValues) {id : Text}
    (h : store.Absent id) : store.source.cell id = .ok .blank := by
  cases h with
  | unset hunset => rw [cell_table, Table.get_of_unset hunset]
  | malformed hreads hid =>
      cases store with
      | table t => cases hreads
      | failing message => cases hreads
      | sheet s => rw [cell_sheet, Sheet.get_of_malformed hid]
      | worksheet w => rw [cell_worksheet, Worksheet.get_of_malformed hid]
  | noText ha hnone => rw [cell_sheet, Sheet.get_of_address ha, Sheet.valueAt_of_noText hnone]
  | noEntry ha hnone =>
      rw [cell_worksheet, Worksheet.get_of_address ha (Worksheet.held_of_empty hnone)]
      rfl
  | noRow ha hnone =>
      rw [cell_worksheet,
        Worksheet.get_of_address ha (Worksheet.held_of_beyond hvalues.sound hnone)]
      rfl

theorem cell_of_unreadable {store : Store} (hreads : store.ReadsAddresses) {id : Text}
    (hlong : Address.Unreadable id) :
    store.source.cell id = .error (.tooManyDigits (id.dropWhile Char.isAlpha).length) := by
  cases store with
  | table t => cases hreads
  | failing message => cases hreads
  | sheet s =>
      rw [cell_sheet, Sheet.get, Address.ofText_of_unreadable hlong]
      rfl
  | worksheet w =>
      rw [cell_worksheet, Worksheet.get, Address.ofText_of_unreadable hlong]
      rfl

theorem exists_value_of_readable {store : Store} (hvalues : store.HoldsValues) {id : Text}
    (h : store.ReadsAddresses → ¬Address.Unreadable id) :
    ∃ v, store.source.cell id = .ok v := by
  cases store with
  | table t => exact ⟨_, cell_table t id⟩
  | failing message => cases hvalues
  | sheet s =>
      obtain ⟨found, hread⟩ := Address.exists_of_readable (h trivial)
      rw [cell_sheet, Sheet.get, hread]
      cases found <;> exact ⟨_, rfl⟩
  | worksheet w =>
      rw [cell_worksheet]
      obtain ⟨_ | a, hread⟩ := Address.exists_of_readable (h trivial)
      · rw [Worksheet.get, hread]
        exact ⟨_, rfl⟩
      · exact Worksheet.OfValues.exists_value hvalues hread

/-- A reading fails just if the store takes ids apart and this one is a cell id with too many
digits. In any other case there is a value, a blank one where the store has nothing. -/
theorem cell_outcome {store : Store} (hvalues : store.HoldsValues) (id : Text) :
    (store.ReadsAddresses → Address.Unreadable id →
      store.source.cell id = .error (.tooManyDigits (id.dropWhile Char.isAlpha).length)) ∧
    ((store.ReadsAddresses → ¬Address.Unreadable id) → ∃ v, store.source.cell id = .ok v) ∧
    (store.Absent id → store.source.cell id = .ok .blank) :=
  ⟨fun hreads hlong => cell_of_unreadable hreads hlong, exists_value_of_readable hvalues,
    cell_of_absent hvalues⟩

theorem cell_outcome_below_last_row :
    let cells : FilledCells := ⟨[((1, 1), .plain (.bool true))]⟩
    HoldsValues (worksheet cells.worksheet) ∧
      (∃ v, (worksheet cells.worksheet).source.cell "a01" = .ok v) ∧
      (worksheet cells.worksheet).source.cell "A1048577" = .ok .blank := by
  intro cells
  have hvalues : HoldsValues (worksheet cells.worksheet) := by
    refine FilledCells.worksheet_ofValues fun entry hentry => ?_
    exact ⟨.bool true, congrArg Prod.snd (List.mem_singleton.1 hentry)⟩
  have haddress : Address.ofText "A1048577" = .ok (some ⟨"A", 1048577⟩) := by decide +kernel
  exact ⟨hvalues, (cell_outcome hvalues "a01").2.1 fun _ => by decide,
    (cell_outcome hvalues "A1048577").2.2 (.noRow haddress (by decide))⟩

/-- An id of one letter and ones is read by no sheet if there are too many ones. -/
theorem long_id_not_read :
    ¬∀ store : Store, store.HoldsValues → ∀ id, ∃ v, store.source.cell id = .ok v := by
  intro h
  have hone : ∀ c ∈ List.replicate (Numeral.digitLimit + 1) '1', c.isDigit = true := by
    intro c hc
    rw [List.eq_of_mem_replicate hc]
    rfl
  have hletter : ∀ c ∈ ['A'], c.isAlpha = true := by
    intro c hc
    rw [List.mem_singleton.1 hc]
    rfl
  have hlong : Address.Unreadable (['A'] ++ List.replicate (Numeral.digitLimit + 1) '1') :=
    Address.unreadable_append (by decide) hletter hone (by simp)
  have hreads : ReadsAddresses (sheet ⟨[]⟩) := trivial
  obtain ⟨v, hv⟩ := h (sheet ⟨[]⟩) trivial (['A'] ++ List.replicate (Numeral.digitLimit + 1) '1')
  rw [cell_of_unreadable hreads hlong] at hv
  cases hv

end Store

end CellCalc

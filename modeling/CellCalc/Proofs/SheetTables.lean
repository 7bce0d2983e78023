import CellCalc.Proofs.EditHistory
import CellCalc.Proofs.Footprint
import CellCalc.Proofs.FormulaSafety
import CellCalc.Proofs.Rectangles

/-!
# SheetTables — a sheet and the table of its cells

The cells of a sheet can be set in a table, each under its own id and in the order of the sheet. The
sheet finds a cell by its position and the table by the upper case of its id, but no two positions
have one id and every id leads back to its position. So the table *mirrors* the sheet: under the
plain spelling of an id it has the value that the sheet has at the place of the id. A formula that
writes its references without zeros in front of their rows cannot tell the two apart.

* `Sheet.toTable` — the table of a sheet.
* `Table.Mirrors`, `Table.Mirrors.set` — what one more cell preserves.
* `Sheet.exists_toTable` — a sheet with its cells within bounds has a table, which mirrors it.
* `Expr.exists_part_of_mem_footprint` — the parts of a tree that mention its cells.
* `Sheet.eval_toTable` — a formula has one evaluation over the sheet and its table.
-/

namespace CellCalc

/-! ## Places and their ids -/

/-- The id of the place of an address is the plain spelling of every id that has the address. -/
theorem Position.id_ofAddress {id : Text} {a : Address} (h : Address.ofText id = .ok (some a)) :
    (Position.ofAddress a).id = .ok (Address.plain id) := by
  have hcolumn : (Position.ofAddress a).column + 1 = (a.columnNumber : Int) := by
    simp [ofAddress]
  have hrow : (Position.ofAddress a).row + 1 = (a.row : Int) := by
    simp [ofAddress]
  rw [Position.id, hcolumn, hrow, ← Address.text_of_ofText h]
  exact cellId_eq_text (Address.one_le_columnNumber h) (Address.length_toDigits_row_le h)

/-- A position within bounds is the place of an address, by the plain spelling of its own id. -/
theorem Position.exists_plain_id {p : Position} (hcolumn : 0 ≤ p.column) (hrow : 0 ≤ p.row)
    (hshort : Numeral.Writable (p.row + 1)) :
    ∃ id a, p.id = .ok id ∧ Address.plain id = id ∧ Address.ofText id = .ok (some a) ∧
      ofAddress a = p := by
  obtain ⟨id, a, hid, ha, rfl⟩ := Sheet.exists_id hcolumn hrow hshort
  have hplain := (id_ofAddress ha).symm.trans hid
  exact ⟨id, a, hid, Except.ok.inj hplain, ha, rfl⟩

/-! ## The table of a sheet -/

/-- The position lies right of and below the first cell, and its row can be written. -/
def Position.InBounds (p : Position) : Prop :=
  0 ≤ p.column ∧ 0 ≤ p.row ∧ Numeral.Writable (p.row + 1)

instance : DecidablePred Position.InBounds :=
  fun _ => inferInstanceAs (Decidable (_ ∧ _ ∧ _))

namespace Table

/-- The table with a cell of a sheet set under its id; an empty text is a blank. -/
def setCell (t : Table) (cell : SheetCell) : Except Failure Table := do
  return t.set (← cell.position.id) (.ofEntry (some cell.text))

/-- Under the plain spelling of every id the table has the value that the sheet has at its place. -/
def Mirrors (t : Table) (s : Sheet) : Prop :=
  ∀ id a, Address.ofText id = .ok (some a) →
    t.get (Address.plain id) = s.valueAt (.ofAddress a)

end Table

namespace Sheet

/-- The table of the cells of a sheet, set one after the other. -/
def toTable (s : Sheet) : Except Failure Table :=
  s.cells.foldlM Table.setCell .empty

theorem valueAt_concat (cells : List SheetCell) (cell : SheetCell) (p : Position) :
    valueAt ⟨cells ++ [cell]⟩ p =
      if cell.position = p then .ofEntry (some cell.text) else valueAt ⟨cells⟩ p := by
  have hvalues : valuesAt ⟨cells ++ [cell]⟩ p =
      valuesAt ⟨cells⟩ p ++ if cell.position = p then [cell.text] else [] := by
    by_cases h : cell.position = p <;> simp [valuesAt, h]
  rw [valueAt_eq_ofEntry, valueAt_eq_ofEntry, textAt?, textAt?, hvalues]
  -- the last text at a position is the one that counts
  by_cases h : cell.position = p <;> simp [h]

end Sheet

/-- Two ids with addresses have one plain spelling just if they stand for one place. -/
theorem Address.plain_eq_plain_iff {id id' : Text} {a a' : Address}
    (h : ofText id = .ok (some a)) (h' : ofText id' = .ok (some a')) :
    plain id = plain id' ↔ Position.ofAddress a = Position.ofAddress a' := by
  constructor
  · intro hplain
    have hread := ofText_plain h
    rw [hplain, ofText_plain h'] at hread
    rw [Option.some.inj (Except.ok.inj hread)]
  · intro hplace
    have hid := Position.id_ofAddress h
    rw [hplace, Position.id_ofAddress h'] at hid
    exact (Except.ok.inj hid).symm

/-- A table that mirrors a sheet does so after one more cell in both. -/
theorem Table.Mirrors.set {t : Table} {cells : List SheetCell} (h : t.Mirrors ⟨cells⟩)
    {cell : SheetCell} (hcell : cell.position.InBounds) :
    ∃ t', t.setCell cell = .ok t' ∧ t'.Mirrors ⟨cells ++ [cell]⟩ := by
  obtain ⟨own, b, hown, hplain, hb, hplace⟩ :=
    Position.exists_plain_id hcell.1 hcell.2.1 hcell.2.2
  refine ⟨t.set own (.ofEntry (some cell.text)), by rw [setCell, hown]; rfl, ?_⟩
  intro id a ha
  -- the table tells ids apart by their upper case, which leaves the plain spelling as it is
  have hupper : Text.upper (Address.plain id) = Address.plain id :=
    Address.upper_plain (Address.isCellId_of_ofText ha)
  have hupperOwn : Text.upper own = Address.plain own := by
    have hfixed := Address.upper_plain (Address.isCellId_of_ofText hb)
    rw [hplain] at hfixed ⊢
    exact hfixed
  rw [Table.get_set, Sheet.valueAt_concat, hupper, hupperOwn, h id a ha, ← hplace]
  simp only [Address.plain_eq_plain_iff ha hb, eq_comm (a := Position.ofAddress a)]

theorem Table.mirrors_empty : Table.empty.Mirrors ⟨[]⟩ := fun _ _ _ => rfl

/-- Cell after cell, a table goes on mirroring the sheet of the cells set so far. -/
theorem Table.Mirrors.foldlM {t : Table} {before cells : List SheetCell}
    (h : t.Mirrors ⟨before⟩) (hcells : ∀ cell ∈ cells, cell.position.InBounds) :
    ∃ t', cells.foldlM setCell t = .ok t' ∧ t'.Mirrors ⟨before ++ cells⟩ := by
  induction cells generalizing t before with
  | nil => exact ⟨t, rfl, by rwa [List.append_nil]⟩
  | cons cell cells ih =>
      obtain ⟨t₁, hset, hmirrors⟩ := h.set (hcells cell (List.mem_cons_self ..))
      obtain ⟨t', hrest, hmirrors'⟩ := ih hmirrors fun c hc => hcells c (List.mem_cons_of_mem _ hc)
      refine ⟨t', ?_, by simpa using hmirrors'⟩
      rw [List.foldlM_cons, hset]
      exact hrest

/-- If all cells of a sheet lie within bounds, it has a table, and the table mirrors it. -/
theorem Sheet.exists_toTable {s : Sheet} (h : ∀ cell ∈ s.cells, cell.position.InBounds) :
    ∃ t, s.toTable = .ok t ∧ t.Mirrors s :=
  Table.mirrors_empty.foldlM h

/-! ## The cells that a tree mentions -/

namespace Expr

mutual

/-- A tree mentions a cell by a reference to it, or by a range that it lies in. -/
theorem exists_part_of_mem_footprint : ∀ (e : Expr), ∀ id ∈ e.footprint,
    (Expr.cell id).Part e ∨
      ∃ start stop, (Expr.range start stop).Part e ∧ id ∈ cellsBetween start stop
  | .constant _ | .text _ | .foreign _ => by simp [footprint]
  | .cell id => by
      intro id' hid
      obtain rfl : id' = id := by simpa [footprint] using hid
      exact Or.inl .self
  | .range start stop => fun id hid => Or.inr ⟨start, stop, .self, by rwa [footprint] at hid⟩
  | .binary operator left right => by
      intro id hid
      rw [footprint, List.mem_append] at hid
      rcases hid with hid | hid
      · exact (exists_part_of_mem_footprint left id hid).imp Part.left
          fun ⟨start, stop, hpart, hmem⟩ => ⟨start, stop, hpart.left, hmem⟩
      · exact (exists_part_of_mem_footprint right id hid).imp Part.right
          fun ⟨start, stop, hpart, hmem⟩ => ⟨start, stop, hpart.right, hmem⟩
  | .call name arguments => by
      intro id hid
      rw [footprint] at hid
      obtain ⟨e, he, hmentions⟩ := exists_part_of_mem_footprintAll arguments id hid
      exact hmentions.imp (Part.argument he)
        fun ⟨start, stop, hpart, hmem⟩ => ⟨start, stop, .argument he hpart, hmem⟩

theorem exists_part_of_mem_footprintAll : ∀ (es : List Expr), ∀ id ∈ footprintAll es,
    ∃ e ∈ es, (Expr.cell id).Part e ∨
      ∃ start stop, (Expr.range start stop).Part e ∧ id ∈ cellsBetween start stop
  | [] => by simp [footprintAll]
  | e :: rest => by
      intro id hid
      rw [footprintAll, List.mem_append] at hid
      rcases hid with hid | hid
      · exact ⟨e, List.mem_cons_self .., exists_part_of_mem_footprint e id hid⟩
      · obtain ⟨f, hf, hmentions⟩ := exists_part_of_mem_footprintAll rest id hid
        exact ⟨f, List.mem_cons_of_mem e hf, hmentions⟩

end

/-- A tree mentions each cell that it refers to. -/
theorem mem_footprint_of_part {id : Text} {e : Expr} (h : (Expr.cell id).Part e) :
    id ∈ e.footprint := by
  induction h with
  | self => simp [footprint]
  | left _ ih => simp [footprint, ih]
  | right _ ih => simp [footprint, ih]
  | argument hmem _ ih =>
      rw [footprint]
      exact mem_footprintAll.2 ⟨_, hmem, ih⟩

/-- The cells of a range have addresses, and their ids are plain. -/
theorem exists_address_of_mem_cellsBetween {start stop id : Text}
    (h : id ∈ cellsBetween start stop) :
    ∃ a, Address.ofText id = .ok (some a) ∧ Address.plain id = id := by
  unfold cellsBetween at h
  split at h
  · next rows hids =>
      obtain ⟨first, last, hfirst, hlast, rfl⟩ := rangeIds_eq_ok_iff.1 hids
      obtain ⟨line, hline, hid⟩ := List.mem_flatten.1 h
      obtain ⟨row, hrow, rfl⟩ := List.mem_map.1 hline
      obtain ⟨column, hcolumn, rfl⟩ := List.mem_map.1 hid
      have hnames := Rectangle.names_of_mem hfirst hlast hrow hcolumn
      obtain ⟨a, ha, -, -⟩ := hnames.place
      exact ⟨a, ha, hnames.plain⟩
  · cases h

end Expr

/-! ## One evaluation over both -/

/-- An id that has an address and is plain but for the case of its letters is read alike. -/
theorem Table.Mirrors.get_eq {t : Table} {s : Sheet} (h : t.Mirrors s) {id : Text} {a : Address}
    (ha : Address.ofText id = .ok (some a)) (hplain : Address.plain id = Text.upper id) :
    s.get id = .ok (t.get id) := by
  have hid : Text.upper (Address.plain id) = Text.upper id := by
    rw [Address.upper_plain (Address.isCellId_of_ofText ha), hplain]
  -- the table looks up both spellings under the upper case of the id
  have hsame : t.get (Address.plain id) = t.get id := by
    rw [Table.get, Table.get, hid]
  rw [Sheet.get_of_address ha, ← h id a ha, hsame]

/-- A sheet whose cells lie within bounds has a table, made of the id of each cell and its text one
after the other. Every formula has the same evaluation over the table as over the sheet, with the
same value or failure and the same notes, if no reference to a single cell in it has zeros in front
of its row or more digits there than are read. The corners of ranges may have both. -/
theorem Sheet.eval_toTable {s : Sheet} (hcells : ∀ cell ∈ s.cells, cell.position.InBounds) :
    ∃ t, s.toTable = .ok t ∧
      ∀ (f : Text) (e : Expr), Expr.ofText f = .ok e →
        (∀ id, (Expr.cell id).Part e → Address.PlainRow id ∧ ¬Address.LongRow id) →
          ∀ functions, Environment.eval ⟨functions, s.source⟩ e =
            Environment.eval ⟨functions, t.source⟩ e := by
  obtain ⟨t, ht, hmirrors⟩ := exists_toTable hcells
  refine ⟨t, ht, fun f e hread hrefs functions => ?_⟩
  have hregular : e.Regular := (Expr.formed_of_ofText hread).regular
  -- both read ranges cell by cell, so that only the cells of the tree are to be compared
  refine Environment.eval_congr e fun id hid => ?_
  rcases Expr.exists_part_of_mem_footprint e id hid with hpart | ⟨start, stop, -, hmem⟩
  · obtain ⟨hrow, hshort⟩ := hrefs id hpart
    cases hregular.of_part hpart with
    | cell hcellId =>
        obtain ⟨a, ha⟩ := Address.exists_of_not_longRow hcellId hshort
        exact hmirrors.get_eq ha (Address.plain_eq_upper hcellId hrow)
  · obtain ⟨a, ha, hplain⟩ := Expr.exists_address_of_mem_cellsBetween hmem
    have hupper := Address.upper_plain (Address.isCellId_of_ofText ha)
    rw [hplain] at hupper
    exact hmirrors.get_eq ha (hplain.trans hupper.symm)

/-- A cell set twice, a cell emptied after it was set, and a cell in the first column with four
letters, which the formula writes in lower case. -/
theorem Sheet.eval_toTable_four_letters :
    let s : Sheet := ⟨[⟨⟨0, 0⟩, "1"⟩, ⟨⟨1, 1⟩, "7"⟩, ⟨⟨18278, 0⟩, "3"⟩, ⟨⟨0, 0⟩, "3"⟩, ⟨⟨1, 1⟩, ""⟩]⟩
    let difference : Expr := .binary "-" (.call "SUM" [.range "A01" "B2"]) (.cell "aaaa1")
    let e : Expr := .call "IF" [difference, .text "apart", .text "alike"]
    (∀ cell ∈ s.cells, cell.position.InBounds) ∧
      Expr.ofText "IF(SUM(A01:B2)-aaaa1,\"apart\",\"alike\")" = .ok e ∧
      (∀ id, (Expr.cell id).Part e → Address.PlainRow id ∧ ¬Address.LongRow id) ∧
      (Environment.eval ⟨.builtins, s.source⟩ e).outcome = .ok (.text "alike") ∧
      ∃ t, s.toTable = .ok t ∧
        Environment.eval ⟨.builtins, s.source⟩ e = Environment.eval ⟨.builtins, t.source⟩ e := by
  intro s difference e
  have hcells : ∀ cell ∈ s.cells, cell.position.InBounds := by decide +kernel
  have hread : Expr.ofText "IF(SUM(A01:B2)-aaaa1,\"apart\",\"alike\")" = .ok e := by
    decide +kernel
  have hrefs : ∀ id, (Expr.cell id).Part e → Address.PlainRow id ∧ ¬Address.LongRow id := by
    have hmentioned : ∀ id ∈ e.footprint, Address.PlainRow id ∧ ¬Address.LongRow id := by
      decide +kernel
    exact fun id hpart => hmentioned id (Expr.mem_footprint_of_part hpart)
  obtain ⟨t, ht, hsame⟩ := Sheet.eval_toTable hcells
  exact ⟨hcells, hread, hrefs, by decide +kernel, t, ht, hsame _ e hread hrefs .builtins⟩

end CellCalc

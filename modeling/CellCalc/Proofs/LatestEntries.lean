import Mathlib.Data.List.Induction
import CellCalc.Source.Table

/-!
# LatestEntries — what was entered last under a name

Tables keep values and registries keep functions under names in upper case, a later entry in front
of an earlier one. So a name finds what was entered last under any of its spellings.

* `Latest` — what was entered last under a name.
* `latest_lookup` — the entry found is the latest one.
* `Table.exists_latest_get` — the value that a table has under an id.
-/

namespace CellCalc

variable {α : Type}

/-- What was entered last under a name, in any spelling with the same upper case; nothing if there
was no such entry. -/
inductive Latest (entered : List (Text × α)) (name : Text) : Option α → Prop
  | entry {before after : List (Text × α)} {spelling : Text} {x : α} :
      entered = before ++ (spelling, x) :: after → Text.upper spelling = Text.upper name →
        (∀ e ∈ after, Text.upper e.1 ≠ Text.upper name) → Latest entered name (some x)
  | nothing : (∀ e ∈ entered, Text.upper e.1 ≠ Text.upper name) → Latest entered name none

/-- Entries as they are kept: under upper-case names, the latest first. -/
def keptEntries (entered : List (Text × α)) : List (Text × α) :=
  (entered.map fun (name, x) => (Text.upper name, x)).reverse

theorem keptEntries_append (entered later : List (Text × α)) :
    keptEntries (entered ++ later) = keptEntries later ++ keptEntries entered := by
  simp [keptEntries]

theorem mem_keptEntries {entered : List (Text × α)} {key : Text} {x : α} :
    (key, x) ∈ keptEntries entered ↔ ∃ name, (name, x) ∈ entered ∧ Text.upper name = key := by
  simp [keptEntries]

/-- One more entry is the latest one under its own name, and changes nothing under any other. -/
theorem Latest.concat {entered : List (Text × α)} {name : Text} {found : Option α}
    (h : Latest entered name found) (e : Text × α) :
    Latest (entered ++ [e]) name
      (if Text.upper name = Text.upper e.1 then some e.2 else found) := by
  by_cases hname : Text.upper name = Text.upper e.1
  · rw [if_pos hname]
    exact .entry rfl hname.symm (by simp)
  · rw [if_neg hname]
    have hother : ∀ e' ∈ [e], Text.upper e'.1 ≠ Text.upper name := by
      simpa using Ne.symm hname
    cases h with
    | @entry before after spelling x hentered hspelling hafter =>
        have hsplit : entered ++ [e] = before ++ (spelling, x) :: (after ++ [e]) := by
          simp [hentered]
        exact .entry hsplit hspelling (List.forall_mem_append.2 ⟨hafter, hother⟩)
    | nothing hnone => exact .nothing (List.forall_mem_append.2 ⟨hnone, hother⟩)

theorem lookup_keptEntries_concat (entered : List (Text × α)) (e : Text × α) (key : Text) :
    (keptEntries (entered ++ [e])).lookup key =
      if key = Text.upper e.1 then some e.2 else (keptEntries entered).lookup key := by
  rw [keptEntries_append]
  by_cases h : key = Text.upper e.1
  · simp [keptEntries, h]
  · have hne : (key == Text.upper e.1) = false := by simpa using h
    simp [keptEntries, List.lookup_cons, hne, h]

/-- Among entries as they are kept, the first one under a name is the latest one entered. -/
theorem latest_lookup (entered : List (Text × α)) (name : Text) :
    Latest entered name ((keptEntries entered).lookup (Text.upper name)) := by
  induction entered using List.reverseRecOn with
  | nil => exact .nothing (by simp)
  | append_singleton entered e ih =>
      rw [lookup_keptEntries_concat]
      exact ih.concat e

/-! ## Tables -/

theorem Table.entries_foldl_set (cells : List (Text × Value)) (t : Table) :
    (cells.foldl (fun t (id, v) => t.set id v) t).entries = keptEntries cells ++ t.entries := by
  induction cells generalizing t with
  | nil => rfl
  | cons cell rest ih =>
      have hsplit : keptEntries (cell :: rest) = keptEntries rest ++ keptEntries [cell] :=
        keptEntries_append [cell] rest
      rw [List.foldl_cons, ih, hsplit, List.append_assoc]
      rfl

theorem Table.entries_ofList (cells : List (Text × Value)) :
    (Table.ofList cells).entries = keptEntries cells := by
  rw [Table.ofList, Table.entries_foldl_set, Table.empty, List.append_nil]

/-- A table has the value that was set last under an id, and a blank where nothing was. -/
theorem Table.exists_latest_get (cells : List (Text × Value)) (id : Text) :
    ∃ found, Latest cells id found ∧ (Table.ofList cells).get id = found.getD .blank :=
  ⟨_, latest_lookup cells id, by rw [Table.get, Table.entries_ofList]⟩

end CellCalc

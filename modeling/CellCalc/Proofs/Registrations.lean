import CellCalc.Proofs.EvaluationLog
import CellCalc.Proofs.LatestEntries

/-!
# Registrations — which function a name calls

A function is registered under a name asked for or under its own, handed over with the name or
afterwards, as it is or wrapped. All that the registry keeps is the function and the upper case of
its name, so a name calls the function registered last under any of its spellings, in a formula as
elsewhere. The functions known from the start are registered in the same way.

* `Registration.entry` — what a registration enters.
* `Registry.entries_enterAll` — the entries after several registrations.
* `Registry.enterAll_exact` — the function of every name, and the names in use.
-/

namespace CellCalc

variable {α : Type}

/-- What a registration enters: the function under the name that counts. -/
def Registration.entry (g : Registration α) : Text × α :=
  (g.effectiveName, g.declaration.function)

namespace Registry

/-- One registration enters one function, in whatever way it is handed over. -/
theorem entries_enter (g : Registration α) (r : Registry α) :
    (g.enter r).2.entries = keptEntries [g.entry] ++ r.entries := by
  rw [Registration.enter_eq]
  rfl

/-- Several registrations enter their functions one after the other, the latest in front. -/
theorem entries_enterAll (gs : List (Registration α)) (r : Registry α) :
    (r.enterAll gs).entries = keptEntries (gs.map Registration.entry) ++ r.entries := by
  induction gs generalizing r with
  | nil => rfl
  | cons g rest ih =>
      have hsplit : keptEntries ((g :: rest).map Registration.entry) =
          keptEntries (rest.map Registration.entry) ++ keptEntries [g.entry] :=
        keptEntries_append [g.entry] (rest.map Registration.entry)
      calc
        (r.enterAll (g :: rest)).entries
            = keptEntries (rest.map Registration.entry) ++ (g.enter r).2.entries :=
          ih (g.enter r).2
        _ = keptEntries ((g :: rest).map Registration.entry) ++ r.entries := by
          rw [entries_enter, hsplit, List.append_assoc]

/-- Registrations do not show in what way the functions were handed over. -/
theorem enterAll_congr {gs gs' : List (Registration α)}
    (h : gs'.map Registration.entry = gs.map Registration.entry) (r : Registry α) :
    r.enterAll gs' = r.enterAll gs := by
  have hentries : (r.enterAll gs').entries = (r.enterAll gs).entries := by
    simp [entries_enterAll, h]
  exact congrArg Registry.mk hentries

/-- Functions under other names do not change what a name calls. -/
theorem find?_enterAll_of_ne {gs : List (Registration α)} {name : Text}
    (h : ∀ g ∈ gs, Text.upper g.effectiveName ≠ Text.upper name) (r : Registry α) :
    (r.enterAll gs).find? name = r.find? name := by
  induction gs generalizing r with
  | nil => rfl
  | cons g rest ih =>
      rcases List.forall_mem_cons.1 h with ⟨hg, hrest⟩
      calc
        (r.enterAll (g :: rest)).find? name = (g.enter r).2.find? name := ih hrest _
        _ = r.find? name := by simp [Registration.enter_eq, find?_register, Ne.symm hg]

/-! ## Starting with the functions known from the start -/

/-- The registrations of the functions known from the start: wrapped, each under its own name. -/
def builtinRegistrations : List (Registration FormulaFunction) :=
  FormulaFunction.builtins.map fun (name, f) => ⟨.wrapped name f, none, false⟩

theorem builtins_eq : builtins = (Registry.mk []).enterAll builtinRegistrations := rfl

theorem entries_builtins_enterAll (gs : List (Registration FormulaFunction)) :
    (builtins.enterAll gs).entries =
      keptEntries ((builtinRegistrations ++ gs).map Registration.entry) := by
  rw [entries_enterAll, builtins_eq, entries_enterAll, List.map_append, keptEntries_append,
    List.append_nil]

theorem mem_entries_enterAll {gs : List (Registration FormulaFunction)} {key : Text}
    {f : FormulaFunction} : (key, f) ∈ (builtins.enterAll gs).entries ↔
      ∃ g ∈ builtinRegistrations ++ gs, Text.upper g.effectiveName = key ∧
        g.declaration.function = f := by
  rw [entries_builtins_enterAll, mem_keptEntries]
  constructor
  · rintro ⟨own, hmem, hkey⟩
    rcases List.mem_map.1 hmem with ⟨g, hg, hentry⟩
    cases hentry
    exact ⟨g, hg, hkey, rfl⟩
  · rintro ⟨g, hg, hkey, rfl⟩
    exact ⟨g.effectiveName, List.mem_map_of_mem hg, hkey⟩

theorem mem_names {r : Registry α} {key : Text} : key ∈ r.names ↔ ∃ f, (key, f) ∈ r.entries := by
  simp [names]

/-- The registry after any registrations that follow those of the functions known from the start. A
name has the function registered last under any of its spellings, and none if there was no such
registration. The names in use are those that count for the registrations, in upper case, and each
of them keeps a function registered under it. Later registrations under other names change nothing
for a name. A formula that calls a name calls the function that the name has. Registrations of the
same functions under the same names make up the same registry, in whatever way they are made. -/
theorem enterAll_exact (gs : List (Registration FormulaFunction)) (name : Text) :
    let r := builtins.enterAll gs
    Latest ((builtinRegistrations ++ gs).map Registration.entry) name (r.find? name) ∧
    (∀ key, key ∈ r.names ↔ ∃ g ∈ builtinRegistrations ++ gs, Text.upper g.effectiveName = key) ∧
    (∀ key f, r.entries.lookup key = some f → ∃ g ∈ builtinRegistrations ++ gs,
      Text.upper g.effectiveName = key ∧ g.declaration.function = f) ∧
    (∀ later, (∀ g ∈ later, Text.upper g.effectiveName ≠ Text.upper name) →
      (r.enterAll later).find? name = r.find? name) ∧
    (∀ source arguments values,
      (Environment.evalAll ⟨r, source⟩ arguments).outcome = .ok values →
        (Environment.eval ⟨r, source⟩ (.call name arguments)).outcome =
          (r.find? name).elim (.ok (Environment.unknownFunction name)) (· values)) ∧
    ∀ gs', gs'.map Registration.entry = gs.map Registration.entry → builtins.enterAll gs' = r := by
  intro r
  have hentries := entries_builtins_enterAll gs
  refine ⟨?_, ?_, ?_, fun later h => find?_enterAll_of_ne h r, ?_, fun gs' h => enterAll_congr h _⟩
  · rw [find?, hentries]
    exact latest_lookup _ name
  · intro key
    simp only [mem_names, r, mem_entries_enterAll]
    constructor
    · rintro ⟨f, g, hg, hkey, -⟩
      exact ⟨g, hg, hkey⟩
    · rintro ⟨g, hg, hkey⟩
      exact ⟨_, g, hg, hkey, rfl⟩
  · intro key f hkey
    rcases List.lookup_eq_some_iff.1 hkey with ⟨before, after, hsplit, -⟩
    exact mem_entries_enterAll.1 (hsplit ▸ by simp)
  · intro source arguments values hvalues
    rw [Environment.outcome_eval_call hvalues, Environment.apply]
    cases hfind : r.find? name <;> rfl

/-- A function in the place of the sum, and one under two spellings, of which the second one is
registered last. Its name has one letter more than a later one. -/
theorem enterAll_exact_sharp_s :
    let arity : FormulaFunction := fun args => .ok (.number (.int args.length))
    let row : FormulaFunction := fun args => .ok (.list [.list args])
    let gs : List (Registration FormulaFunction) := [⟨.bare "x" arity, some "sum", true⟩,
      ⟨.wrapped "straße" arity, none, false⟩, ⟨.bare "STRASSE" row, some "", true⟩]
    let gs' : List (Registration FormulaFunction) := [⟨.wrapped "sum" arity, none, false⟩,
      ⟨.bare "y" arity, some "straße", true⟩, ⟨.wrapped "x" row, some "STRASSE", false⟩]
    let later : List (Registration FormulaFunction) := [⟨.bare "strase" arity, none, false⟩]
    let env : Environment := ⟨builtins.enterAll gs, Table.empty.source⟩
    (∀ g ∈ later, Text.upper g.effectiveName ≠ Text.upper "Strasse") ∧
      ((builtins.enterAll gs).enterAll later).find? "Strasse" =
        (builtins.enterAll gs).find? "Strasse" ∧
      (env.evalAll [.text "a", .cell "B1"]).outcome = .ok [.text "a", .blank] ∧
      (env.eval (.call "Strasse" [.text "a", .cell "B1"])).outcome =
        .ok (.list [.list [.text "a", .blank]]) ∧
      gs'.map Registration.entry = gs.map Registration.entry ∧
      builtins.enterAll gs' = builtins.enterAll gs := by
  intro arity row gs gs' later env
  have hlater : ∀ g ∈ later, Text.upper g.effectiveName ≠ Text.upper "Strasse" := by
    intro g hg
    cases List.mem_singleton.1 hg
    decide +kernel
  have hvalues : (env.evalAll [.text "a", .cell "B1"]).outcome = .ok [.text "a", .blank] := by
    decide +kernel
  have hfind : (builtins.enterAll gs).find? "Strasse" = some row := rfl
  have hstyles : gs'.map Registration.entry = gs.map Registration.entry := rfl
  rcases enterAll_exact gs "Strasse" with ⟨-, -, -, hframe, hcall, hsame⟩
  have hvalue := hcall Table.empty.source _ _ hvalues
  rw [hfind] at hvalue
  exact ⟨hlater, hframe later hlater, hvalues, hvalue, hstyles, hsame gs' hstyles⟩

end Registry
end CellCalc

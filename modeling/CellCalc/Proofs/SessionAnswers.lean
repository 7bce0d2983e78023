import CellCalc.Evaluation.Session
import CellCalc.Proofs.LatestEntries

/-!
# SessionAnswers — what a session on a table answers

A session on a table has nothing to remember but the values set so far: a command that sets nothing
leaves the table as it is, and every answer comes from the table that the values set before it make
up. So reading commands may be left out, and so may a value that is set anew before anything is
read; values under different ids may be set in either order.

* `Command.entry?`, `Session.entriesOf` — what commands set.
* `Session.run_append` — a session that goes on, on the table of everything set before.
* `Table.Alike`, `Session.run_congr` — tables that answer alike.
* `Session.answers_exact` — every answer, and what may be left out or swapped.
-/

namespace CellCalc

/-! ## Values set one after the other -/

namespace Table

/-- The table with several values, set one after the other. -/
def setAll (t : Table) (entries : List (Text × Value)) : Table :=
  entries.foldl (fun t (id, v) => t.set id v) t

@[simp] theorem setAll_nil (t : Table) : t.setAll [] = t := rfl

theorem setAll_append (t : Table) (entries later : List (Text × Value)) :
    t.setAll (entries ++ later) = (t.setAll entries).setAll later := by
  simp [setAll]

/-- Two tables have the same value under every id. -/
def Alike (t t' : Table) : Prop :=
  ∀ id, t.get id = t'.get id

variable {t t' : Table} {query : Text}

/-- A value set in two tables leaves them alike under an id where they are. -/
theorem get_set_congr (h : t.get query = t'.get query) (id : Text) (v : Value) :
    (t.set id v).get query = (t'.set id v).get query := by
  simp [get_set, h]

theorem get_setAll_congr (h : t.get query = t'.get query) (entries : List (Text × Value)) :
    (t.setAll entries).get query = (t'.setAll entries).get query := by
  induction entries generalizing t t' with
  | nil => exact h
  | cons e rest ih => exact ih (get_set_congr h e.1 e.2)

theorem Alike.source_eq (h : t.Alike t') : t.source = t'.source := by
  have hget : t.get = t'.get := funext h
  rw [source, source, hget]

/-- Values under two different ids may be set in either order. -/
theorem set_comm_alike {id id' : Text} (h : Text.upper id ≠ Text.upper id') (t : Table)
    (v v' : Value) : ((t.set id v).set id' v').Alike ((t.set id' v').set id v) := by
  intro query
  by_cases hquery : Text.upper query = Text.upper id
  · simp [get_set, hquery, h]
  · simp [get_set, hquery]

/-- A value that is set anew later on need not be set before. -/
theorem set_overwritten_alike {id id' : Text} (h : Text.upper id = Text.upper id') (t : Table)
    (v v' : Value) (entries : List (Text × Value)) :
    (((t.set id v).setAll entries).set id' v').Alike ((t.setAll entries).set id' v') := by
  intro query
  by_cases hquery : Text.upper query = Text.upper id'
  · simp [get_set, hquery]
  · have hbefore : (t.set id v).get query = t.get query := by
      simp [get_set, h, hquery]
    simpa [get_set, hquery] using get_setAll_congr hbefore entries

end Table

/-- What a command sets, if it sets anything. -/
def Command.entry? : Command → Option (Text × Value)
  | set id v => some (id, v)
  | _ => none

/-- The entries of a list at the places that are kept. -/
def keptAt {α : Type} (keep : Nat → Bool) : List α → List α
  | [] => []
  | x :: rest =>
      if keep 0 then x :: keptAt (fun i => keep (i + 1)) rest
      else keptAt (fun i => keep (i + 1)) rest

namespace Session

variable {functions : Registry FormulaFunction} {t t' : Table}

/-! ## Commands one after the other -/

/-- What several commands set, in order. -/
def entriesOf (commands : List Command) : List (Text × Value) :=
  commands.filterMap Command.entry?

/-- The answer to a command on a table. -/
def answer (functions : Registry FormulaFunction) (t : Table) (c : Command) : Answer :=
  (step functions (.table t) c).1

/-- A command leaves the table as it is, but for what it sets. -/
theorem step_table (functions : Registry FormulaFunction) (t : Table) (c : Command) :
    step functions (.table t) c = (answer functions t c, .table (t.setAll c.entry?.toList)) := by
  cases c <;> rfl

theorem run_cons (functions : Registry FormulaFunction) (t : Table) (c : Command)
    (rest : List Command) :
    run functions (.table t) (c :: rest) =
      answer functions t c :: run functions (.table (t.setAll c.entry?.toList)) rest := by
  rw [run, step_table]

@[simp] theorem length_run (functions : Registry FormulaFunction) (t : Table)
    (commands : List Command) : (run functions (.table t) commands).length = commands.length := by
  induction commands generalizing t with
  | nil => rfl
  | cons c rest ih => simp [run_cons, ih]

/-- A session goes on with the table of everything that was set. -/
theorem run_append (functions : Registry FormulaFunction) (t : Table)
    (before after : List Command) :
    run functions (.table t) (before ++ after) =
      run functions (.table t) before ++
        run functions (.table (t.setAll (entriesOf before))) after := by
  induction before generalizing t with
  | nil => rfl
  | cons c rest ih =>
      have hentries : entriesOf (c :: rest) = c.entry?.toList ++ entriesOf rest := by
        cases hc : c.entry? <;> simp [entriesOf, hc]
      simp [run_cons, ih, hentries, Table.setAll_append]

/-- Tables that are alike answer alike, now and after whatever is set. -/
theorem run_congr (functions : Registry FormulaFunction) (h : t.Alike t')
    (commands : List Command) :
    run functions (.table t) commands = run functions (.table t') commands := by
  induction commands generalizing t t' with
  | nil => rfl
  | cons c rest ih =>
      have hanswer : answer functions t c = answer functions t' c := by
        cases c with
        | set id v => rfl
        | get id => simp [answer, step, Store.source, h.source_eq]
        | range start stop => simp [answer, step, Store.source, h.source_eq]
        | evaluate formula => simp [answer, step, Store.source, h.source_eq]
      have halike : (t.setAll c.entry?.toList).Alike (t'.setAll c.entry?.toList) :=
        fun query => Table.get_setAll_congr (h query) _
      rw [run_cons, run_cons, hanswer, ih halike]

/-! ## Commands left out or swapped -/

/-- The answers to the other commands stay if commands that set nothing are left out. -/
theorem run_keptAt {keep : Nat → Bool} {commands : List Command}
    (h : ∀ i c, commands[i]? = some c → keep i = false → c.entry? = none) (t : Table) :
    run functions (.table t) (keptAt keep commands) =
      keptAt keep (run functions (.table t) commands) := by
  induction commands generalizing keep t with
  | nil => rfl
  | cons c rest ih =>
      have hrest : ∀ i d, rest[i]? = some d → keep (i + 1) = false → d.entry? = none :=
        fun i d hd hkeep => h (i + 1) d (by simpa using hd) hkeep
      cases hfirst : keep 0 with
      | true => simp [keptAt, hfirst, run_cons, ih hrest]
      | false =>
          have hnone : c.entry? = none := h 0 c rfl hfirst
          simpa [keptAt, hfirst, run_cons, hnone] using ih hrest t

/-- Two values under different ids may be set in either order. -/
theorem run_swap {id id' : Text} (h : Text.upper id ≠ Text.upper id') (t : Table) (v v' : Value)
    (before after : List Command) :
    run functions (.table t) (before ++ .set id v :: .set id' v' :: after) =
      run functions (.table t) (before ++ .set id' v' :: .set id v :: after) := by
  have hafter := run_congr functions
    (Table.set_comm_alike h (t.setAll (entriesOf before)) v v') after
  rw [run_append, run_append, run_cons, run_cons, run_cons, run_cons]
  exact congrArg (fun rest => _ ++ .written :: .written :: rest) hafter

theorem run_of_sets {commands : List Command} (h : ∀ c ∈ commands, c.entry? ≠ none) (t : Table) :
    run functions (.table t) commands = commands.map fun _ => .written := by
  induction commands generalizing t with
  | nil => rfl
  | cons c rest ih =>
      rcases List.forall_mem_cons.1 h with ⟨hc, hrest⟩
      have hanswer : answer functions t c = .written := by
        cases c with
        | set id v => rfl
        | _ => exact absurd rfl hc
      rw [run_cons, hanswer, ih hrest, List.map_cons]

/-- A value that is set anew before anything is read need not be set. -/
theorem run_overwritten {id id' : Text} (h : Text.upper id = Text.upper id') (t : Table)
    (v v' : Value) (before : List Command) {between : List Command}
    (hbetween : ∀ c ∈ between, c.entry? ≠ none) (after : List Command) :
    (run functions (.table t) (before ++ .set id v :: (between ++ .set id' v' :: after))).eraseIdx
        before.length =
      run functions (.table t) (before ++ (between ++ .set id' v' :: after)) := by
  have hrest (t : Table) :
      run functions (.table (t.set id v)) (between ++ .set id' v' :: after) =
        run functions (.table t) (between ++ .set id' v' :: after) := by
    have hafter := run_congr functions
      (Table.set_overwritten_alike h t v v' (entriesOf between)) after
    rw [run_append, run_append, run_of_sets hbetween, run_of_sets hbetween, run_cons, run_cons]
    exact congrArg (fun rest => _ ++ .written :: rest) hafter
  rw [run_append, run_append, run_cons, List.eraseIdx_append_of_length_le (by simp)]
  simp only [length_run, Nat.sub_self, List.eraseIdx_cons_zero]
  exact congrArg (_ ++ ·) (hrest _)

/-! ## All of it -/

theorem getElem?_run (functions : Registry FormulaFunction) (t : Table) (before : List Command)
    (c : Command) (after : List Command) :
    (run functions (.table t) (before ++ c :: after))[before.length]? =
      some (answer functions (t.setAll (entriesOf before)) c) := by
  simp [run_append, run_cons]

/-- A session on a table that begins with some cells. A cell has the value set last under any
spelling of its id, by a command or at the beginning, and a blank if there is none. A range and a
formula have the values that they have over a new table of the cells and of everything set before.
Setting a value is always possible. The answers to the other commands stay if any commands that set
nothing are left out, if two values set one after the other under different ids change places, or if
a value is left out that is set anew before anything is read. -/
theorem answers_exact (functions : Registry FormulaFunction) (cells : List (Text × Value)) :
    let answers (commands : List Command) : List Answer :=
      run functions (.table (.ofList cells)) commands
    let tableAfter (before : List Command) : Table := .ofList (cells ++ entriesOf before)
    (∀ (before after : List Command) (id : Text), ∃ found,
      Latest (cells ++ entriesOf before) id found ∧
        (answers (before ++ .get id :: after))[before.length]? =
          some (.outcome (.ok (found.getD .blank)))) ∧
    (∀ (before after : List Command) (start stop : Text),
      (answers (before ++ .range start stop :: after))[before.length]? =
        some (.outcome (Value.ofRows <$> (tableAfter before).source.range start stop))) ∧
    (∀ (before after : List Command) (formula : Text),
      (answers (before ++ .evaluate formula :: after))[before.length]? = some (.outcome (.ok
        ((Environment.mk functions (tableAfter before).source).evaluate formula).value))) ∧
    (∀ (before after : List Command) (id : Text) (v : Value),
      (answers (before ++ .set id v :: after))[before.length]? = some .written) ∧
    (∀ (keep : Nat → Bool) (commands : List Command),
      (∀ i c, commands[i]? = some c → keep i = false → c.entry? = none) →
        answers (keptAt keep commands) = keptAt keep (answers commands)) ∧
    (∀ (before after : List Command) (id id' : Text) (v v' : Value),
      Text.upper id ≠ Text.upper id' →
        answers (before ++ .set id v :: .set id' v' :: after) =
          answers (before ++ .set id' v' :: .set id v :: after)) ∧
    ∀ (before between after : List Command) (id id' : Text) (v v' : Value),
      Text.upper id = Text.upper id' → (∀ c ∈ between, c.entry? ≠ none) →
        (answers (before ++ .set id v :: (between ++ .set id' v' :: after))).eraseIdx
            before.length =
          answers (before ++ (between ++ .set id' v' :: after)) := by
  intro answers tableAfter
  have htable (before : List Command) :
      (Table.ofList cells).setAll (entriesOf before) = tableAfter before :=
    (Table.setAll_append .empty cells (entriesOf before)).symm
  have hanswer (before : List Command) (c : Command) (after : List Command) :
      (answers (before ++ c :: after))[before.length]? =
        some (answer functions (tableAfter before) c) := by
    rw [← htable]
    exact getElem?_run functions (.ofList cells) before c after
  refine ⟨?_, fun before after start stop => hanswer before (.range start stop) after,
    fun before after formula => hanswer before (.evaluate formula) after,
    fun before after id v => hanswer before (.set id v) after,
    fun keep commands h => run_keptAt h _,
    fun before after id id' v v' h => run_swap h _ v v' before after,
    fun before between after id id' v v' h hbetween =>
      run_overwritten h _ v v' before hbetween after⟩
  intro before after id
  rcases Table.exists_latest_get (cells ++ entriesOf before) id with ⟨found, hlatest, hget⟩
  refine ⟨found, hlatest, ?_⟩
  rw [hanswer, ← hget]
  rfl

/-- The sharp s and two letters are spellings of one id, and the first column is another one. A
formula is left out; two values change places; a value is set anew after another one. -/
theorem answers_exact_sharp_s :
    let answers (commands : List Command) : List Answer :=
      run .builtins (.table (.ofList [("a1", .number (.int 2)), ("ß", .text "old")])) commands
    let first : Command := .set "ß" (.text "new")
    let other : Command := .set "A1" .blank
    let anew : Command := .set "Ss" (.bool true)
    let formula : Command := .evaluate "=A1+1"
    let read : Command := .get "sS"
    (∀ i c, [first, formula, read][i]? = some c → (i != 1) = false → c.entry? = none) ∧
      answers [first, read] = keptAt (· != 1) (answers [first, formula, read]) ∧
      Text.upper "ß" ≠ Text.upper "A1" ∧
      answers [formula, first, other, formula] = answers [formula, other, first, formula] ∧
      Text.upper "ß" = Text.upper "Ss" ∧ (∀ c ∈ [other], c.entry? ≠ none) ∧
      (answers [read, first, other, anew, read]).eraseIdx 1 = answers [read, other, anew, read] ∧
      ∃ found, Latest [("a1", .number (.int 2)), ("ß", .text "old"), ("ß", .text "new")] "sS" found ∧
        (answers [first, read])[1]? = some (.outcome (.ok (found.getD .blank))) := by
  intro answers first other anew formula read
  have hformula : ∀ i c, [first, formula, read][i]? = some c → (i != 1) = false →
      c.entry? = none := by
    intro i c hc hkeep
    have hi : i = 1 := by simpa using hkeep
    subst hi
    cases hc
    rfl
  have hother : Text.upper "ß" ≠ Text.upper "A1" := by decide +kernel
  have hsame : Text.upper "ß" = Text.upper "Ss" := by decide +kernel
  have hsets : ∀ c ∈ [other], c.entry? ≠ none := by
    intro c hc
    cases List.mem_singleton.1 hc
    simp [other, Command.entry?]
  rcases answers_exact .builtins [("a1", .number (.int 2)), ("ß", .text "old")] with
    ⟨hget, -, -, -, hkept, hswap, hanew⟩
  exact ⟨hformula, hkept _ _ hformula, hother,
    hswap [formula] [formula] "ß" "A1" (.text "new") .blank hother, hsame, hsets,
    hanew [read] [other] [read] "ß" "Ss" (.text "new") (.bool true) hsame hsets,
    hget [first] [] "sS"⟩

end Session
end CellCalc

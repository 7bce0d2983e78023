import CellCalc.Function.Basic
import CellCalc.Text.UpperCase

/-!
# Registries — functions by name

Names are kept in upper case, so the case of a name never matters. A later registration under the
same name takes the place of an earlier one.

* `Registry.builtins` — the functions known from the start.
* `Registry.register` — the registry with one more function.
* `Registry.find?` — the function of a name; `find?_register` is its law.
* `Declaration` — a function as it is handed over, bare or wrapped, under a name of its own.
* `Registry.ask` — asks for a registration, at once or for a function still to come.
* `Registration` — one function registered in either way; `Registry.enterAll` — several of them.
-/

namespace CellCalc

/-- Functions by upper-case name, the latest first. -/
structure Registry (α : Type) where
  entries : List (Text × α)

namespace Registry

/-- A registry of these functions, the later ones winning. -/
def ofList (named : List (Text × α)) : Registry α :=
  ⟨(named.map fun (name, f) => (Text.upper name, f)).reverse⟩

/-- The registry with a function under a name. -/
def register (name : Text) (f : α) (r : Registry α) : Registry α :=
  ⟨(Text.upper name, f) :: r.entries⟩

/-- The function of a name. -/
def find? (r : Registry α) (name : Text) : Option α :=
  r.entries.lookup (Text.upper name)

/-- Each function replaced by what it is mapped to. -/
def map (g : α → β) (r : Registry α) : Registry β :=
  ⟨r.entries.map fun (name, f) => (name, g f)⟩

-- Texts are in the order of their characters, also next to a library with an order of its own.
attribute [local instance (1100)] List.instLE List.decidableLE

/-- The names in use, in the order of their code points. -/
def names (r : Registry α) : List Text :=
  (r.entries.map (·.1)).eraseDups.mergeSort fun s t => decide (s ≤ t)

/-- A registration is seen under every spelling of its name, and under no other name. -/
theorem find?_register (r : Registry α) (name query : Text) (f : α) :
    (r.register name f).find? query =
      if Text.upper query = Text.upper name then some f else r.find? query := by
  by_cases h : Text.upper query = Text.upper name
  · simp [find?, register, h]
  · have hne : (Text.upper query == Text.upper name) = false := by simpa using h
    simp [find?, register, List.lookup_cons, hne, h]

/-- The registry that every formula starts from. -/
def builtins : Registry FormulaFunction :=
  ofList FormulaFunction.builtins

end Registry

/-- A function as it is handed over for registration, with a name of its own: as it is, or wrapped
as a member of something else. -/
inductive Declaration (α : Type)
  | bare (ownName : Text) (f : α)
  | wrapped (ownName : Text) (f : α)

namespace Declaration

/-- The name that the function brings along. -/
def ownName : Declaration α → Text
  | bare name _ | wrapped name _ => name

/-- The function itself. -/
def function : Declaration α → α
  | bare _ f | wrapped _ f => f

/-- The name to register under: the one asked for, unless that is missing or empty. -/
def effectiveName (asked : Option Text) (d : Declaration α) : Text :=
  match asked with
  | some (c :: name) => c :: name
  | _ => d.ownName

/-- Registers what was handed over and gives it back unchanged. -/
def declare (asked : Option Text) (d : Declaration α) (r : Registry α) :
    Declaration α × Registry α :=
  (d, r.register (d.effectiveName asked) d.function)

end Declaration

/-- What comes of asking for a registration: the function that was handed over, or, without one,
what takes the function later on. -/
inductive Asked (α : Type)
  | done (d : Declaration α)
  | waiting (take : Declaration α → Registry α → Declaration α × Registry α)

/-- Asks for a registration under a name. A function handed over is registered at once; without one
nothing is registered yet. -/
def Registry.ask (name : Option Text) (given : Option (Declaration α)) (r : Registry α) :
    Asked α × Registry α :=
  match given with
  | some d => (.done (d.declare name r).1, (d.declare name r).2)
  | none => (.waiting fun d => d.declare name, r)

/-- The registration of one function, under a name asked for or its own. The function is handed
over with the name, or else afterwards. -/
structure Registration (α : Type) where
  declaration : Declaration α
  asked : Option Text := none
  afterwards : Bool := false

namespace Registration

/-- The name that the function is registered under. -/
def effectiveName (g : Registration α) : Text :=
  g.declaration.effectiveName g.asked

/-- Registers the function in the way asked for, and gives back what was handed over. -/
def enter (g : Registration α) (r : Registry α) : Declaration α × Registry α :=
  match r.ask g.asked (if g.afterwards then none else some g.declaration) with
  | (.done d, r') => (d, r')
  | (.waiting take, r') => take g.declaration r'

/-- A registration is the same in either way. -/
theorem enter_eq (g : Registration α) (r : Registry α) :
    g.enter r = (g.declaration, r.register g.effectiveName g.declaration.function) := by
  rcases g with ⟨declaration, asked, afterwards⟩
  cases afterwards <;> rfl

end Registration

/-- The registry after several registrations. -/
def Registry.enterAll (gs : List (Registration α)) (r : Registry α) : Registry α :=
  gs.foldl (fun r g => (g.enter r).2) r

end CellCalc

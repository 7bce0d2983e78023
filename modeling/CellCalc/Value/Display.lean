import CellCalc.Value.Basic

/-!
# Displayed values — values as messages name them

Messages name the absent value and the truth values by words, quote texts, and put the items of a
list between brackets. An integer too long to be written has no displayed form.

* `Value.display` — a value as messages show it.
* `Value.plainText` — the same, but with a text as it is.
-/

namespace CellCalc
namespace Value

mutual

/-- A value as messages show it. -/
def display : Value → Except Failure Text
  | blank => .ok "None"
  | bool true => .ok "True"
  | bool false => .ok "False"
  | number n => n.write
  | text t => .ok (Text.quoted t)
  | list items => do
      let shown ← displayAll items
      return '[' :: Text.commaSeparated shown ++ [']']

/-- Several values as messages show them. -/
def displayAll : List Value → Except Failure (List Text)
  | [] => .ok []
  | v :: rest => do
      let shown ← display v
      let others ← displayAll rest
      return shown :: others

end

/-- A value as it is written by itself: a text as it is, anything else as messages show it. -/
def plainText : Value → Except Failure Text
  | text t => .ok t
  | v => v.display

@[simp] theorem plainText_number (n : Number) : (number n).plainText = n.write := by
  rw [plainText, display]
  simp

end Value
end CellCalc

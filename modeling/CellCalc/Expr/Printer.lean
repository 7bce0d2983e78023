import CellCalc.Expr.Basic
import CellCalc.Value.Display

/-!
# Printing — formula text of a tree

Binary operations inside one another are put in parentheses, so that the text shows the shape of
the tree. Operators stand between spaces, and a comma and a space separate arguments.

* `Expr.body` — the text of a tree inside a formula.
* `Expr.formula` — the text of a whole formula.
-/

namespace CellCalc
namespace Expr

/-- A text in parentheses if it stands inside an operation. -/
def parenthesised (nested : Bool) (t : Text) : Text :=
  if nested then '(' :: t ++ [')'] else t

mutual

/-- The text of a tree; `nested` tells whether it is an operand. -/
def body (nested : Bool) : Expr → Except Failure Text
  | constant v => v.plainText
  | text t => .ok ('"' :: t ++ ['"'])
  | cell id => .ok id
  | range start stop => .ok (start ++ ':' :: stop)
  | binary operator left right => do
      let l ← body true left
      let r ← body true right
      return parenthesised nested (l ++ ' ' :: operator ++ ' ' :: r)
  | call name arguments => do
      let args ← bodies arguments
      return name ++ '(' :: Text.commaSeparated args ++ [')']
  | foreign typeName => .error (.unknownNode typeName)

/-- The texts of the arguments of a call. -/
def bodies : List Expr → Except Failure (List Text)
  | [] => .ok []
  | e :: rest => do
      let t ← body false e
      let ts ← bodies rest
      return t :: ts

end

/-- The text of a formula with its leading sign. -/
def formula (e : Expr) : Except Failure Text :=
  ('=' :: ·) <$> body false e

end Expr
end CellCalc

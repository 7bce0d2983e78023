import CellCalc.Expr.Basic
import CellCalc.Value.Display

/-!
# Outlines — a tree shown line by line

Each node of a tree has a line of its own, indented by two spaces a step. The parts of a node come
below it, each under a heading one step further right, itself two steps further right.

* `Expr.outline` — the lines of a tree.
* `Expr.outlineText` — the lines as one text.
-/

namespace CellCalc
namespace Expr

/-- A line that starts some steps from the left; there are no steps left of the margin. -/
def line (steps : Int) (t : Text) : Text :=
  List.replicate (2 * steps.toNat) ' ' ++ t

mutual

/-- The lines of a tree that starts some steps from the left. -/
def outline (steps : Int) : Expr → Except Failure (List Text)
  | constant v => do return [line steps ("Number: ".toList ++ (← v.plainText))]
  | text t => .ok [line steps ("String: \"".toList ++ t ++ ['"'])]
  | cell id => .ok [line steps ("Cell Reference: ".toList ++ id)]
  | range start stop => .ok [line steps ("Cell Range: ".toList ++ start ++ ':' :: stop)]
  | binary operator left right => do
      let l ← outline (steps + 2) left
      let r ← outline (steps + 2) right
      return line steps ("Binary Operation: ".toList ++ operator)
        :: line (steps.toNat + 1) "Left:" :: l ++ line (steps.toNat + 1) "Right:" :: r
  | call name arguments => do
      let parts ← outlineArguments steps 1 arguments
      return line steps ("Function: ".toList ++ name) :: parts
  | foreign typeName => .ok [line steps ("Unknown node type: ".toList ++ typeName)]

/-- The lines of the arguments of a call, numbered from `index` on. -/
def outlineArguments (steps : Int) (index : Nat) : List Expr → Except Failure (List Text)
  | [] => .ok []
  | e :: rest => do
      let first ← outline (steps + 2) e
      let others ← outlineArguments steps (index + 1) rest
      return line (steps.toNat + 1) ("Argument ".toList ++ Nat.toDigits 10 index ++ [':'])
        :: first ++ others

end

/-- The outline of a tree as one text, every line ended. -/
def outlineText (steps : Int) (e : Expr) : Except Failure Text := do
  let lines ← outline steps e
  return lines.flatMap (· ++ ['\n'])

end Expr
end CellCalc

import CellCalc.Text.Basic

/-!
# Tokens — the lexemes of a formula with their places

* `TokenKind` — what a lexeme is.
* `Token` — a lexeme: its kind, its text and where it starts.
-/

namespace CellCalc

/-- What a lexeme is. -/
inductive TokenKind
  | number
  | string
  | cell
  | operator
  | function
  | leftParen
  | rightParen
  | comma
  | colon
  | endOfFormula
  deriving DecidableEq, Repr

/-- A lexeme of a formula. A string token holds its text without the quotes. The position counts
code points from the start of the text; a token that was not read from a text may have any. -/
structure Token where
  kind : TokenKind
  text : Text
  position : Int
  deriving DecidableEq, Repr

namespace Token

/-- The token after the last lexeme of a text of this length. -/
def final (length : Nat) : Token :=
  ⟨.endOfFormula, [], length⟩

/-- The token further right by a distance. -/
def shift (distance : Nat) (t : Token) : Token :=
  { t with position := t.position + distance }

/-- The token ends every sequence: a parser never reads past it. -/
def isFinal (t : Token) : Bool :=
  t.kind == .endOfFormula

end Token

end CellCalc

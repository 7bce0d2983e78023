import CellCalc.Cell.Address
import CellCalc.Failure
import CellCalc.Text.Blank
import CellCalc.Text.Letter
import CellCalc.Token.Basic

/-!
# Lexing — from the text of a formula to its tokens

Blanks separate lexemes and are skipped. A number is a run of digits with at most one point, a
string runs to the next double quote and knows no escapes, and a name that `(` follows at once
calls a function; any other name has to be a cell id.

* `Lexeme.numeral`, `Lexeme.name` — the longest number or name at the front of a text.
* `Lexeme.front` — the lexeme at the front of a text, or why there is none.
* `Token.readFrom` — the tokens of a text, with the place where reading stopped; `readFrom_shift`
  says that the place only moves the positions.
* `Token.ofText` — the tokens of a text that is read from its start.
* `Lexer` — a reader that keeps its place from one reading to the next, also after a failure.
-/

namespace CellCalc

/-- What stands at the front of a text: a lexeme, which covers the first character and `more`
after it, or a failure, which takes `width` characters. -/
inductive Lexeme
  | token (kind : TokenKind) (text : Text) (more : Nat)
  | failure (cause : Failure) (width : Nat)
  deriving DecidableEq, Repr

namespace Lexeme

/-! ## The classes of lexemes -/

/-- The longest number at the front of a text: digits, with at most one point. -/
def numeral (t : Text) : Text :=
  match t.dropWhile Char.isDigit with
  | '.' :: rest => t.takeWhile Char.isDigit ++ '.' :: rest.takeWhile Char.isDigit
  | _ => t.takeWhile Char.isDigit

/-- The longest run of name characters at the front of a text. -/
def name (t : Text) : Text :=
  t.takeWhile Text.isWordChar

/-- A number starts here: a digit, or a point that a digit follows. -/
def startsNumeral (c : Char) (rest : Text) : Bool :=
  c.isDigit || (c == '.' && rest.head?.any Char.isDigit)

/-- The four arithmetic operators. -/
def isOperator (c : Char) : Bool :=
  c == '+' || c == '-' || c == '*' || c == '/'

/-- The token kind of a character that is a lexeme by itself. -/
def symbolKind? (c : Char) : Option TokenKind :=
  if c = '(' then some .leftParen
  else if c = ')' then some .rightParen
  else if c = ',' then some .comma
  else if c = ':' then some .colon
  else if isOperator c then some .operator
  else none

/-! ## One lexeme -/

/-- The string after an opening quote. Without a closing one only the opening quote is read. -/
def string (rest : Text) : Lexeme :=
  let inside := rest.takeWhile (· ≠ '"')
  if inside.length < rest.length then .token .string inside (inside.length + 1)
  else .failure .unclosedString 1

/-- The name at the front of a text: a function where `(` follows, else a cell id. -/
def ofName (t : Text) : Lexeme :=
  let word := name t
  if (t.drop word.length).head? = some '(' then .token .function word word.tail.length
  else if isCellId word then .token .cell word word.tail.length
  else .failure (.unknownName word) word.length

/-- The lexeme at the front of a text whose first character is not blank. -/
def front (c : Char) (rest : Text) : Lexeme :=
  if startsNumeral c rest then
    .token .number (numeral (c :: rest)) (numeral (c :: rest)).tail.length
  else if c = '"' then string rest
  else if c.isAlpha then ofName (c :: rest)
  else
    match symbolKind? c with
    | some kind => .token kind [c] 0
    | none => .failure (.unknownCharacter c) 0

end Lexeme

/-! ## Whole texts -/

namespace Token

/-- The tokens of a text that starts at a place, and the place where reading stopped: the end of
the text, or just after what a failure took. -/
def readFrom (place : Nat) : Text → Except Failure (List Token) × Nat
  | [] => (.ok [final place], place)
  | c :: rest =>
      if Text.isBlank c then readFrom (place + 1) rest
      else
        match Lexeme.front c rest with
        | .token kind text more =>
            let (tokens, stop) := readFrom (place + 1 + more) (rest.drop more)
            (tokens.map (⟨kind, text, place⟩ :: ·), stop)
        | .failure cause width => (.error cause, place + width)
termination_by t => t.length
decreasing_by
  · simp only [List.length_cons]; omega
  · simp only [List.length_cons, List.length_drop]; omega

/-- The same text further right has the same tokens further right. -/
theorem readFrom_shift (place distance : Nat) (t : Text) :
    readFrom (place + distance) t =
      ((readFrom place t).1.map (List.map (shift distance)), (readFrom place t).2 + distance) := by
  fun_induction readFrom place t with
  | case1 place => simp [readFrom, Except.map, shift, final]
  | case2 place c rest hblank ih =>
      rw [readFrom, if_pos hblank, ← ih]
      congr 1
      omega
  | case3 place c rest hblank kind text more hfront tokens stop hread ih =>
      rw [readFrom, if_neg hblank, hfront]
      have hplace : place + distance + 1 + more = place + 1 + more + distance := by omega
      simp only [hplace, ih, hread]
      cases tokens <;> simp [Except.map, shift]
  | case4 place c rest hblank cause width hfront =>
      rw [readFrom, if_neg hblank, hfront]
      simp [Except.map]
      omega

/-- The tokens of a text. -/
def ofText (t : Text) : Except Failure (List Token) :=
  (readFrom 0 t).1

end Token

/-! ## Readers that keep their place -/

/-- A reader over a text and the place it has reached. -/
structure Lexer where
  text : Text
  place : Nat
  deriving DecidableEq, Repr

namespace Lexer

/-- A reader at the start of a text. -/
def ofText (t : Text) : Lexer :=
  ⟨t, 0⟩

/-- Reads from the place reached to the end of the text or the first failure. -/
def read (l : Lexer) : Except Failure (List Token) × Lexer :=
  let (tokens, stop) := Token.readFrom l.place (l.text.drop l.place)
  (tokens, { l with place := stop })

/-- Reads so many times over: each outcome with the place reached by it. -/
def readings (l : Lexer) : Nat → List (Except Failure (List Token) × Nat)
  | 0 => []
  | times + 1 => (l.read.1, l.read.2.place) :: readings l.read.2 times

end Lexer

end CellCalc

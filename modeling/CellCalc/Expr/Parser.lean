import CellCalc.Expr.Basic
import CellCalc.Token.Lexer
import CellCalc.Token.Reading

/-!
# Parsing — from tokens to the tree of a formula

The grammar has two tiers of binary operators, both associating to the left:

    sum     := product (('+' | '-') product)*
    product := operand (('*' | '/') operand)*
    operand := number | string | cell [':' cell] | function '(' [sum (',' sum)*] ')' | '(' sum ')'

A colon after a cell that no second cell follows is dropped. Reading stops after the first complete
expression, whatever follows, and never passes an end token.

* `Reading.chain`, `Reading.operand` — the tiers and the operands of the grammar.
* `Expr.ofTokens`, `Expr.ofText` — the tree of a sequence of tokens, and of a text.
* `Parser` — a parser that keeps its place from one step to the next.
-/

namespace CellCalc

/-- The tiers of binary operators; a product binds tighter than a sum. -/
inductive Tier
  | sum
  | product
  deriving DecidableEq, Repr

namespace Tier

/-- The operators of a tier. -/
def operators : Tier → List Text
  | sum => ["+", "-"]
  | product => ["*", "/"]

/-- How far a tier stands above the operands. -/
def height : Tier → Nat
  | sum => 3
  | product => 1

/-- The token is an operator of the tier. -/
def joins (tier : Tier) (t : Token) : Bool :=
  t.kind == .operator && tier.operators.contains t.text

end Tier

/-! ## The grammar -/

namespace Reading

/-- A reference to a cell that has been read, or to a range if a colon and a second cell follow. -/
def reference (id : Text) (ts : List Token) : Reading Expr ts :=
  (readIf [.colon] ts).andThen fun colon rest _ =>
    match colon with
    | none => done (.cell id)
    | some _ =>
        (readIf [.cell] rest).andThen fun stop _ _ =>
          match stop with
          | none => done (.cell id)
          | some t => done (.range id t.text)

mutual

/-- Operands of a tier joined by its operators. -/
def chain (tier : Tier) (ts : List Token) : Reading Expr ts :=
  (tierOperand tier ts).andThen fun left rest _ => chainRest tier left rest
termination_by 10 * ts.length + tier.height + 1
decreasing_by
  · omega
  · next h => have := h.length_le; omega

/-- What the operators of a tier join. -/
def tierOperand (tier : Tier) (ts : List Token) : Reading Expr ts :=
  match tier with
  | .sum => chain .product ts
  | .product => operand ts
termination_by 10 * ts.length + tier.height
decreasing_by all_goals (simp only [Tier.height]; omega)

/-- More operands of a tier after those read so far. -/
def chainRest (tier : Tier) (left : Expr) (ts : List Token) : Reading Expr ts :=
  match ts with
  | [] => done left
  | t :: rest =>
      if tier.joins t then
        ((tierOperand tier rest).andThen fun right rest' _ =>
          chainRest tier (.binary t.text left right) rest').after t
      else done left
termination_by 10 * ts.length
decreasing_by
  · cases tier <;> (simp only [List.length_cons, Tier.height]; omega)
  · next h => have := h.length_le; simp only [List.length_cons]; omega

/-- A literal, a reference, a call or an expression in parentheses. -/
def operand (ts : List Token) : Reading Expr ts :=
  match ts with
  | [] => fail (.noOperand [])
  | t :: rest =>
      match t.kind with
      | .number => (ofOutcome (Expr.number <$> Number.ofText t.text)).after t
      | .string => (done (.text t.text)).after t
      | .cell => (reference t.text rest).after t
      | .function => (call t.text rest).after t
      | .leftParen => (group rest).after t
      | _ => fail (.noOperand t.text)
termination_by 10 * ts.length
decreasing_by all_goals (simp only [List.length_cons]; omega)

/-- An expression and the parenthesis that closes it; the opening one has been read. -/
def group (ts : List Token) : Reading Expr ts :=
  (chain .sum ts).andThen fun e rest _ =>
    (expect .rightParen .unclosedGroup rest).andThen fun _ _ _ => done e
termination_by 10 * ts.length + 5
decreasing_by simp only [Tier.height]; omega

/-- The argument list of a function in parentheses; the function's name has been read. -/
def call (name : Text) (ts : List Token) : Reading Expr ts :=
  (expect .leftParen (.noArguments name) ts).andThen fun _ inside _ =>
    (arguments inside).andThen fun args rest _ =>
      (expect .rightParen .unclosedCall rest).andThen fun _ _ _ => done (.call name args)
termination_by 10 * ts.length + 6
decreasing_by next h => have := h.length_le; omega

/-- The arguments of a function, none if the list closes at once. -/
def arguments (ts : List Token) : Reading (List Expr) ts :=
  if (front ts).kind = .rightParen then done []
  else (chain .sum ts).andThen fun first rest _ => argumentsRest [first] rest
termination_by 10 * ts.length + 5
decreasing_by
  · simp only [Tier.height]; omega
  · next h => have := h.length_le; omega

/-- More arguments after those read so far. -/
def argumentsRest (before : List Expr) (ts : List Token) : Reading (List Expr) ts :=
  match ts with
  | [] => done before
  | t :: rest =>
      if t.kind = .comma then
        ((chain .sum rest).andThen fun e rest' _ => argumentsRest (before ++ [e]) rest').after t
      else done before
termination_by 10 * ts.length
decreasing_by
  · simp only [List.length_cons, Tier.height]; omega
  · next h => have := h.length_le; simp only [List.length_cons]; omega

end

end Reading

/-! ## Whole formulas -/

/-- The sequence ends in an end token. -/
def Token.endProperly (ts : List Token) : Bool :=
  ts.getLast?.any isFinal

theorem Token.exists_isFinal {ts : List Token} (h : endProperly ts = true) :
    ∃ t ∈ ts, t.isFinal = true := by
  obtain ⟨t, ht, hfinal⟩ := (Option.any_eq_true ..).1 h
  exact ⟨t, List.mem_of_getLast? ht, hfinal⟩

namespace Expr

/-- The tree that a sequence of tokens starts with. -/
def ofTokens (ts : List Token) : Except Failure Expr :=
  if Token.endProperly ts then (Reading.chain .sum ts).outcome else .error .noEndToken

/-- The tree of the body of a formula. -/
def ofText (body : Text) : Except Failure Expr := do
  ofTokens (← Token.ofText body)

end Expr

/-! ## Parsers that keep their place -/

/-- A parser over a sequence of tokens, with the index of the next one. -/
structure Parser where
  tokens : List Token
  place : Nat
  deriving DecidableEq, Repr

namespace Parser

/-- A parser at the start of a sequence that ends properly. -/
def ofTokens (ts : List Token) : Except Failure Parser :=
  if Token.endProperly ts then .ok ⟨ts, 0⟩ else .error .noEndToken

/-- The tokens from the next one on. -/
def remaining (p : Parser) : List Token :=
  p.tokens.drop p.place

/-- The parser moved to where a reading of its remaining tokens stopped. -/
def advance (p : Parser) (r : Reading α p.remaining) : Except Failure α × Parser :=
  (r.outcome, { p with place := p.tokens.length - r.rest.length })

/-- The parser at the start again. -/
def restart (p : Parser) : Parser :=
  { p with place := 0 }

/-- What a parser can be asked for. -/
inductive Step
  /-- The next token. -/
  | peek
  /-- The next token, which is read unless it is an end token. -/
  | read
  /-- The next token if it is of one of these kinds, and then it is read. -/
  | readIf (kinds : List TokenKind)
  /-- As `readIf`, but anything else is a failure in these words. -/
  | expect (kind : TokenKind) (message : Text)
  /-- The tree of the whole sequence, from its start. -/
  | parse
  /-- The operands of a tier from here on. -/
  | chain (tier : Tier)
  /-- An operand. -/
  | operand
  /-- What follows the cell of a reference. -/
  | reference (id : Text)
  /-- What follows the name of a call. -/
  | call (name : Text)
  deriving DecidableEq, Repr

/-- What a parser answers. -/
inductive Answer
  | token (t : Token)
  | noToken
  | tree (e : Expr)
  deriving DecidableEq, Repr

/-- The answer for a token that may be missing. -/
def Answer.ofToken? : Option Token → Answer
  | some t => .token t
  | none => .noToken

/-- Takes one step: the answer or the failure, and the parser at its new place. -/
def step (p : Parser) : Step → Except Failure Answer × Parser
  | .peek => (.ok (.token (Reading.front p.remaining)), p)
  | .read =>
      let t := Reading.front p.remaining
      (.ok (.token t), if t.isFinal then p else { p with place := p.place + 1 })
  | .readIf kinds => tell Answer.ofToken? (p.advance (Reading.readIf kinds p.remaining))
  | .expect kind message =>
      tell .token (p.advance (Reading.expect kind (.expected message) p.remaining))
  | .parse => tell .tree (p.restart.advance (Reading.chain .sum p.restart.remaining))
  | .chain tier => tell .tree (p.advance (Reading.chain tier p.remaining))
  | .operand => tell .tree (p.advance (Reading.operand p.remaining))
  | .reference id => tell .tree (p.advance (Reading.reference id p.remaining))
  | .call name => tell .tree (p.advance (Reading.call name p.remaining))
where
  /-- Words the outcome of a step as an answer. -/
  tell {α : Type} (f : α → Answer) (r : Except Failure α × Parser) :
      Except Failure Answer × Parser :=
    (f <$> r.1, r.2)

/-- Takes steps one after the other: each outcome with the place reached by it. -/
def run (p : Parser) : List Step → List (Except Failure Answer × Nat)
  | [] => []
  | s :: rest => ((p.step s).1, (p.step s).2.place) :: run (p.step s).2 rest

end Parser

end CellCalc

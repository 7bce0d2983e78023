import CellCalc.Expr.Parser

/-!
# Grammar — the sentences of formulas and their trees

The grammar says which sequences of tokens make a formula, and which tree they stand for, without
saying how they are read:

    sum     := product | sum ('+' | '-') product
    product := operand | product ('*' | '/') operand
    operand := number | string | cell | cell ':' | cell ':' cell
             | function '(' [sum (',' sum)*] ')' | '(' sum ')'

* `Grammar.Chain`, `Grammar.TierOperand`, `Grammar.Operand` — the tiers and the operands.
* `Grammar.Arguments`, `Grammar.ArgumentList` — what stands between the parentheses of a call.
* `Grammar.Sentence` — a whole formula.
-/

namespace CellCalc
namespace Grammar

mutual

/-- Operands of a tier joined by its operators, from left to right. -/
inductive Chain : Tier → List Token → Expr → Prop
  | first {tier : Tier} {ts : List Token} {e : Expr} : TierOperand tier ts e → Chain tier ts e
  | join {tier : Tier} {ts us : List Token} {op : Token} {left right : Expr} :
      Chain tier ts left → tier.joins op = true → TierOperand tier us right →
        Chain tier (ts ++ op :: us) (.binary op.text left right)

/-- What the operators of a tier join. -/
inductive TierOperand : Tier → List Token → Expr → Prop
  | product {ts : List Token} {e : Expr} : Chain .product ts e → TierOperand .sum ts e
  | operand {ts : List Token} {e : Expr} : Operand ts e → TierOperand .product ts e

/-- A literal, a reference, a call or a sum in parentheses. -/
inductive Operand : List Token → Expr → Prop
  | number {t : Token} {n : Number} : t.kind = .number → Number.ofText t.text = .ok n →
      Operand [t] (.number n)
  | string {t : Token} : t.kind = .string → Operand [t] (.text t.text)
  | cell {t : Token} : t.kind = .cell → Operand [t] (.cell t.text)
  | looseColon {t colon : Token} : t.kind = .cell → colon.kind = .colon →
      Operand [t, colon] (.cell t.text)
  | range {t colon stop : Token} : t.kind = .cell → colon.kind = .colon → stop.kind = .cell →
      Operand [t, colon, stop] (.range t.text stop.text)
  | call {t opening closing : Token} {ts : List Token} {args : List Expr} :
      t.kind = .function → opening.kind = .leftParen → Arguments ts args →
        closing.kind = .rightParen →
          Operand (t :: opening :: (ts ++ [closing])) (.call t.text args)
  | group {opening closing : Token} {ts : List Token} {e : Expr} :
      opening.kind = .leftParen → Chain .sum ts e → closing.kind = .rightParen →
        Operand (opening :: (ts ++ [closing])) e

/-- The arguments of a call, which may be none. -/
inductive Arguments : List Token → List Expr → Prop
  | none : Arguments [] []
  | some {ts : List Token} {args : List Expr} : ArgumentList ts args → Arguments ts args

/-- Sums with commas between them. -/
inductive ArgumentList : List Token → List Expr → Prop
  | first {ts : List Token} {e : Expr} : Chain .sum ts e → ArgumentList ts [e]
  | more {ts us : List Token} {comma : Token} {args : List Expr} {e : Expr} :
      ArgumentList ts args → comma.kind = .comma → Chain .sum us e →
        ArgumentList (ts ++ comma :: us) (args ++ [e])

end

/-- The tokens are a formula with this tree. -/
abbrev Sentence (ts : List Token) (e : Expr) : Prop :=
  Chain .sum ts e

/-! ## Tokens of a sentence -/

mutual

theorem Chain.not_isFinal {tier : Tier} : ∀ {ts : List Token} {e : Expr}, Chain tier ts e →
    ∀ t ∈ ts, t.isFinal = false
  | _, _, .first h => h.not_isFinal
  | _, _, .join hl hop hr => by
      intro t ht
      -- the token is on the left, the operator itself or on the right
      rcases List.mem_append.1 ht with hts | hus
      · exact hl.not_isFinal t hts
      · rcases List.mem_cons.1 hus with rfl | hus
        · have hkind : t.kind = .operator := by simpa using (Bool.and_eq_true_iff.1 hop).1
          simp [Token.isFinal, hkind]
        · exact hr.not_isFinal t hus

theorem TierOperand.not_isFinal {tier : Tier} : ∀ {ts : List Token} {e : Expr},
    TierOperand tier ts e → ∀ t ∈ ts, t.isFinal = false
  | _, _, .product h => h.not_isFinal
  | _, _, .operand h => h.not_isFinal

theorem Operand.not_isFinal : ∀ {ts : List Token} {e : Expr}, Operand ts e →
    ∀ t ∈ ts, t.isFinal = false
  | _, _, .number h _ => by simp [Token.isFinal, h]
  | _, _, .string h => by simp [Token.isFinal, h]
  | _, _, .cell h => by simp [Token.isFinal, h]
  | _, _, .looseColon h hcolon => by simp [Token.isFinal, h, hcolon]
  | _, _, .range h hcolon hstop => by simp [Token.isFinal, h, hcolon, hstop]
  | _, _, .call h hopening hargs hclosing => by
      have hinside := hargs.not_isFinal
      intro t ht
      simp only [List.mem_cons, List.mem_append, List.not_mem_nil, or_false] at ht
      rcases ht with rfl | rfl | ht | rfl
      · simp [Token.isFinal, h]
      · simp [Token.isFinal, hopening]
      · exact hinside t ht
      · simp [Token.isFinal, hclosing]
  | _, _, .group hopening he hclosing => by
      have hinside := he.not_isFinal
      intro t ht
      simp only [List.mem_cons, List.mem_append, List.not_mem_nil, or_false] at ht
      rcases ht with rfl | ht | rfl
      · simp [Token.isFinal, hopening]
      · exact hinside t ht
      · simp [Token.isFinal, hclosing]

theorem Arguments.not_isFinal : ∀ {ts : List Token} {args : List Expr}, Arguments ts args →
    ∀ t ∈ ts, t.isFinal = false
  | _, _, .none => by simp
  | _, _, .some h => h.not_isFinal

theorem ArgumentList.not_isFinal : ∀ {ts : List Token} {args : List Expr},
    ArgumentList ts args → ∀ t ∈ ts, t.isFinal = false
  | _, _, .first h => h.not_isFinal
  | _, _, .more hargs hcomma he => by
      intro t ht
      rcases List.mem_append.1 ht with hts | hus
      · exact hargs.not_isFinal t hts
      · rcases List.mem_cons.1 hus with rfl | hus
        · simp [Token.isFinal, hcomma]
        · exact he.not_isFinal t hus

end

end Grammar
end CellCalc

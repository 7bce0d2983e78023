import CellCalc.Proofs.LexerExact
import CellCalc.Proofs.ParserExact

/-!
# FormedTrees — the trees that formulas have

What a tree holds comes from the tokens of its formula, and a token that was read from a text has
the form of its kind. So the literals of a tree have the form of literals, its references are cell
ids, its calls have names, its operators are the arithmetic ones, and no text has a quote in it.

* `Token.Written` — a token that can be read.
* `Expr.Formed` — a tree whose parts have their forms.
* `Expr.formed_of_ofText` — the tree of a text is formed.
* `Expr.ofText_of_sentence` — a text whose tokens are a sentence has the tree of the sentence.
-/

namespace CellCalc

/-! ## Tokens that were read -/

namespace Lexeme.Spelled

variable {text written rest : Text}

theorem isNumeral (h : Spelled .number text written rest) : IsNumeral text := by
  cases h
  assumption

theorem quote_notMem (h : Spelled .string text written rest) : '"' ∉ text := by
  cases h
  assumption

theorem isName (h : Spelled .function text written rest) : IsName text := by
  cases h
  assumption

theorem isCellId (h : Spelled .cell text written rest) : isCellId text = true := by
  cases h with
  | @cell label digits _ hlabel hdigits halpha hdigit _ _ =>
      exact isCellId_iff.2 ⟨label, digits, rfl, hlabel, hdigits, halpha, hdigit⟩

theorem isOperator (h : Spelled .operator text written rest) :
    ∃ c ∈ ['+', '-', '*', '/'], text = [c] := by
  cases h with
  | operator hc => exact ⟨_, hc, rfl⟩

end Lexeme.Spelled

/-- The token can be read from a text. -/
def Token.Written (t : Token) : Prop :=
  ∃ written rest, Lexeme.Spelled t.kind t.text written rest

theorem Token.Written.spelled {t : Token} {kind : TokenKind} (h : t.Written) (hkind : t.kind = kind) :
    ∃ written rest, Lexeme.Spelled kind t.text written rest := by
  subst hkind
  exact h

theorem Piece.written_of_mem {ps : List Piece} {tail : Text} (h : Splits ps tail) {place : Nat}
    {t : Token} (ht : t ∈ tokensFrom place ps tail) : t.isFinal = true ∨ t.Written := by
  induction ps generalizing place with
  | nil =>
      obtain rfl : t = Token.final (place + tail.length) := by simpa [tokensFrom] using ht
      exact Or.inl rfl
  | cons p ps ih =>
      rcases h with ⟨-, hspelled, hrest⟩
      rcases List.mem_cons.1 ht with rfl | ht
      · exact Or.inr ⟨p.written, joined ps tail, hspelled⟩
      · exact ih hrest ht

/-! ## Formed trees -/

namespace Expr

/-- The parts of the tree have the forms that formulas give them. -/
inductive Formed : Expr → Prop
  | number {t : Text} {n : Number} : Lexeme.IsNumeral t → Number.ofText t = .ok n →
      Formed (.number n)
  | text {t : Text} : '"' ∉ t → Formed (.text t)
  | cell {id : Text} : isCellId id = true → Formed (.cell id)
  | range {start stop : Text} : isCellId start = true → isCellId stop = true →
      Formed (.range start stop)
  | binary {c : Char} {left right : Expr} : c ∈ ['+', '-', '*', '/'] → Formed left →
      Formed right → Formed (.binary [c] left right)
  | call {name : Text} {arguments : List Expr} : Lexeme.IsName name →
      (∀ e ∈ arguments, Formed e) → Formed (.call name arguments)

end Expr

namespace Grammar

open CellCalc.Expr (Formed)

mutual

theorem Chain.formed {tier : Tier} : ∀ {ts : List Token} {e : Expr}, Chain tier ts e →
    (∀ t ∈ ts, t.Written) → Formed e
  | _, _, .first h, hwritten => h.formed hwritten
  | _, _, @Chain.join _ ts us op left right hl hop hr, hwritten => by
      have hleft := hl.formed fun t ht => hwritten t (by simp [ht])
      have hright := hr.formed fun t ht => hwritten t (by simp [ht])
      -- the tree holds the text of the operator
      rcases (hwritten op (by simp)).spelled (kind_of_joins hop) with ⟨_, _, hspelled⟩
      rcases hspelled.isOperator with ⟨c, hc, htext⟩
      rw [htext]
      exact .binary hc hleft hright

theorem TierOperand.formed {tier : Tier} : ∀ {ts : List Token} {e : Expr}, TierOperand tier ts e →
    (∀ t ∈ ts, t.Written) → Formed e
  | _, _, .product h, hwritten => h.formed hwritten
  | _, _, .operand h, hwritten => h.formed hwritten

theorem Operand.formed : ∀ {ts : List Token} {e : Expr}, Operand ts e →
    (∀ t ∈ ts, t.Written) → Formed e
  | _, _, @Operand.number t _ ht hn, hwritten => by
      rcases (hwritten t (by simp)).spelled ht with ⟨_, _, hspelled⟩
      exact .number hspelled.isNumeral hn
  | _, _, @Operand.string t ht, hwritten => by
      rcases (hwritten t (by simp)).spelled ht with ⟨_, _, hspelled⟩
      exact .text hspelled.quote_notMem
  | _, _, @Operand.cell t ht, hwritten => by
      rcases (hwritten t (by simp)).spelled ht with ⟨_, _, hspelled⟩
      exact .cell hspelled.isCellId
  | _, _, @Operand.looseColon t _ ht _, hwritten => by
      rcases (hwritten t (by simp)).spelled ht with ⟨_, _, hspelled⟩
      exact .cell hspelled.isCellId
  | _, _, @Operand.range t _ stop ht _ hstop, hwritten => by
      rcases (hwritten t (by simp)).spelled ht with ⟨_, _, hspelled⟩
      rcases (hwritten stop (by simp)).spelled hstop with ⟨_, _, hspelledStop⟩
      exact .range hspelled.isCellId hspelledStop.isCellId
  | _, _, @Operand.call t _ _ _ _ ht _ hargs _, hwritten => by
      rcases (hwritten t (by simp)).spelled ht with ⟨_, _, hspelled⟩
      exact .call hspelled.isName (hargs.formed fun u hu => hwritten u (by simp [hu]))
  | _, _, .group _ he _, hwritten => he.formed fun u hu => hwritten u (by simp [hu])

theorem Arguments.formed : ∀ {ts : List Token} {args : List Expr}, Arguments ts args →
    (∀ t ∈ ts, t.Written) → ∀ e ∈ args, Formed e
  | _, _, .none, _ => by simp
  | _, _, .some h, hwritten => h.formed hwritten

theorem ArgumentList.formed : ∀ {ts : List Token} {args : List Expr}, ArgumentList ts args →
    (∀ t ∈ ts, t.Written) → ∀ e ∈ args, Formed e
  | _, _, .first h, hwritten => by
      have hfirst := h.formed hwritten
      simpa using hfirst
  | _, _, .more hargs _ he, hwritten => by
      have hbefore := hargs.formed fun t ht => hwritten t (by simp [ht])
      have hlast := he.formed fun t ht => hwritten t (by simp [ht])
      intro e h
      rcases List.mem_append.1 h with h | h
      · exact hbefore e h
      · rw [List.mem_singleton.1 h]
        exact hlast

end

end Grammar

/-! ## Trees of texts -/

namespace Expr

open Grammar Reading

theorem ofText_of_error {t : Text} {cause : Failure} (h : Token.ofText t = .error cause) :
    ofText t = .error cause := by
  unfold ofText
  rw [h]
  rfl

theorem ofText_of_tokens {t : Text} {ts : List Token} (h : Token.ofText t = .ok ts) :
    ofText t = ofTokens ts := by
  unfold ofText
  rw [h]
  rfl

theorem ofText_eq_ok_iff {t : Text} {e : Expr} :
    ofText t = .ok e ↔
      ∃ ts left, Token.ofText t = .ok ts ∧ Token.endProperly ts = true ∧
        (chain .sum ts).Finds e left := by
  cases hread : Token.ofText t with
  | error cause =>
      rw [ofText_of_error hread]
      simp
  | ok ts =>
      rw [ofText_of_tokens hread, ofTokens]
      constructor
      · intro h
        split at h
        · next hend => exact ⟨ts, (chain .sum ts).rest, rfl, hend, h, rfl⟩
        · cases h
      · rintro ⟨us, left, hsame, hend, hfound⟩
        obtain rfl := Except.ok.inj hsame
        rw [if_pos hend, hfound.outcome]

theorem formed_of_ofText {t : Text} {e : Expr} (h : ofText t = .ok e) : e.Formed := by
  rcases ofText_eq_ok_iff.1 h with ⟨ts, left, hread, hend, hfound⟩
  rcases Piece.exists_splits 0 hread with ⟨ps, tail, rfl, hsplits, rfl⟩
  rcases explains .sum _ e left hfound with ⟨us, hsplit, hus, -⟩
  refine hus.formed ?_
  intro u hu
  -- a token of the sentence was read, and it is not the end token
  have hmem : u ∈ Piece.tokensFrom 0 ps tail := by
    rw [hsplit]
    exact List.mem_append_left left hu
  rcases Piece.written_of_mem hsplits hmem with hfinal | hwritten
  · rw [hus.not_isFinal u hu] at hfinal
    cases hfinal
  · exact hwritten

theorem ofText_of_sentence {t : Text} {us : List Token} {e : Expr} (h : Sentence us e)
    (hread : Token.Yields 0 t us []) : ofText t = .ok e := by
  -- the end token follows the sentence, and nothing could go on there
  have htokens : Token.ofText t = .ok (us ++ [Token.final t.length]) := by
    rw [Token.Yields, List.append_nil, Nat.zero_add] at hread
    rw [Token.ofText, hread, Token.readFrom]
    rfl
  have hend : Token.endProperly (us ++ [Token.final t.length]) = true := by
    simp [Token.endProperly, Token.final, Token.isFinal]
  have hfollows : Follows us [Token.final t.length] :=
    Follows.of_kind us [] (by simp [Token.final]) (by simp [Token.final])
  have hends : ∀ tiers, Ends tiers [Token.final t.length] := fun tiers =>
    Ends.of_kind [] (by simp [Token.final])
  exact ofText_eq_ok_iff.2 ⟨_, _, htokens, hend, h.finds hfollows hends⟩

end Expr
end CellCalc

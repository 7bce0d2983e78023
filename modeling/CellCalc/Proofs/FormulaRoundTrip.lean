import CellCalc.Expr.Printer
import CellCalc.Proofs.FormedTrees
import CellCalc.Proofs.NumberLiterals

/-!
# FormulaRoundTrip — when a printed formula is read back

The text of a tree that was read from a formula is read back as the same tree just if every number
in it is plain. A double that is written with an exponent or by a word stops the reading.

* `Expr.numbers` — the numbers of the literals of a tree.
* `ReadsAs` — how a part of a printed text is read before what closes it.
* `ReadsAs.separated`, `ReadsAs.enclosed` — parts with a token between or parentheses around them.
* `Expr.Formed.prints` — every formed tree prints, and its text is read as its tokens.
* `Expr.formula_reads_back_iff` — the text of a tree is read back just if its numbers are plain.
-/

namespace CellCalc

open Grammar

/-! ## The numbers of a tree -/

namespace Expr

mutual

/-- The numbers of the literals of a tree, from left to right. -/
def numbers : Expr → List Number
  | constant (.number n) => [n]
  | binary _ left right => numbers left ++ numbers right
  | call _ arguments => numbersAll arguments
  | _ => []

/-- The numbers of the literals of several trees. -/
def numbersAll : List Expr → List Number
  | [] => []
  | e :: rest => numbers e ++ numbersAll rest

end

end Expr

/-! ## Parts of a printed text -/

/-- The part of a text is read as tokens with a property if its numbers are plain, whatever closes
it. If they are not, reading stops in it. -/
structure ReadsAs (t : Text) (ns : List Number) (P : List Token → Prop) : Prop where
  tokens : (∀ n ∈ ns, n.Plain) → ∀ rest, Token.Closes rest → ∀ place,
    ∃ ts, Token.Yields place t ts rest ∧ P ts
  stops : (∃ n ∈ ns, ¬n.Plain) → ∀ rest, Token.Closes rest →
    ∃ name ∈ Number.strayNames, Token.Fails t rest name

namespace ReadsAs

variable {t u : Text} {ns ms : List Number} {P Q F : List Token → Prop}

theorem mono (h : ReadsAs t ns P) (hPQ : ∀ ts, P ts → Q ts) : ReadsAs t ns Q := by
  refine ⟨?_, h.stops⟩
  intro hplain rest hrest place
  rcases h.tokens hplain rest hrest place with ⟨ts, hyields, hP⟩
  exact ⟨ts, hyields, hPQ ts hP⟩

/-- A part without numbers. -/
theorem of_yields (h : ∀ rest, Token.Closes rest → ∀ place, ∃ ts, Token.Yields place t ts rest ∧ P ts) :
    ReadsAs t [] P :=
  ⟨fun _ => h, by simp⟩

/-- The text between two parts closes the first one and is read as one token. -/
def Separates (m : Text) (kind : TokenKind) (text : Text) : Prop :=
  (∀ rest, Token.Closes (m ++ rest)) ∧
    ∀ place rest, ∃ tok : Token, tok.kind = kind ∧ tok.text = text ∧ Token.Yields place m [tok] rest

theorem separated {m text : Text} {kind : TokenKind} (hm : Separates m kind text)
    (ht : ReadsAs t ns P) (hu : ReadsAs u ms Q) :
    ReadsAs (t ++ (m ++ u)) (ns ++ ms) fun ts =>
      ∃ ls tok rs, ts = ls ++ tok :: rs ∧ P ls ∧ tok.kind = kind ∧ tok.text = text ∧ Q rs := by
  -- the text between closes the first part, whatever follows
  have hfirst : (∀ n ∈ ns, n.Plain) → ∀ rest place, ∃ ls,
      Token.Yields place t ls (m ++ u ++ rest) ∧ P ls := by
    intro hplain rest place
    rw [List.append_assoc]
    exact ht.tokens hplain _ (hm.1 (u ++ rest)) place
  constructor
  · intro hplain rest hrest place
    rcases hfirst (fun n hn => hplain n (by simp [hn])) rest place with ⟨ls, hls, hP⟩
    rcases hm.2 (place + t.length) (u ++ rest) with ⟨tok, hkind, htext, htok⟩
    rcases hu.tokens (fun n hn => hplain n (by simp [hn])) rest hrest
      (place + t.length + m.length) with ⟨rs, hrs, hQ⟩
    exact ⟨ls ++ tok :: rs, hls.append (htok.append hrs), ls, tok, rs, rfl, hP, hkind, htext, hQ⟩
  · rintro ⟨n, hn, hnot⟩ rest hrest
    by_cases hplain : ∀ n ∈ ns, n.Plain
    · -- the first part is read, so the second one stops
      have hsecond : n ∈ ms := by
        rcases List.mem_append.1 hn with hn | hn
        · exact absurd (hplain n hn) hnot
        · exact hn
      rcases hu.stops ⟨n, hsecond, hnot⟩ rest hrest with ⟨name, hname, hfails⟩
      refine ⟨name, hname, Token.Fails.after ?_ (Token.Fails.after ?_ hfails)⟩
      · intro place
        rcases hfirst hplain rest place with ⟨ls, hls, -⟩
        exact ⟨ls, hls⟩
      · intro place
        rcases hm.2 place (u ++ rest) with ⟨tok, -, -, htok⟩
        exact ⟨[tok], htok⟩
    · -- the first part stops already
      have hexists : ∃ n ∈ ns, ¬n.Plain := by simpa using hplain
      rcases ht.stops hexists _ (hm.1 (u ++ rest)) with ⟨name, hname, hfails⟩
      rw [← List.append_assoc] at hfails
      exact ⟨name, hname, hfails.append⟩

theorem enclosed {front : Text}
    (hfront : ∀ place rest, ∃ fs, Token.Yields place front fs rest ∧ F fs) (h : ReadsAs t ns P) :
    ReadsAs (front ++ (t ++ [')'])) ns fun ts =>
      ∃ fs us closing, ts = fs ++ (us ++ [closing]) ∧ F fs ∧ P us ∧ closing.kind = .rightParen := by
  -- the closing parenthesis closes what is inside
  have hcloses : ∀ rest, Token.Closes ([')'] ++ rest) :=
    Token.Closes.of_head (by decide) (by decide) (by decide)
  constructor
  · intro hplain rest hrest place
    rcases hfront place (t ++ [')'] ++ rest) with ⟨fs, hfs, hF⟩
    rcases h.tokens hplain _ (hcloses rest) (place + front.length) with ⟨us, hus, hP⟩
    have hclosing : Token.Yields (place + front.length + t.length) [')'] _ rest :=
      Token.Yields.of_spelled .rightParen
    exact ⟨_, hfs.append (hus.append hclosing), fs, us, _, rfl, hF, hP, rfl⟩
  · intro hnot rest hrest
    rcases h.stops hnot _ (hcloses rest) with ⟨name, hname, hfails⟩
    refine ⟨name, hname, Token.Fails.after ?_ hfails.append⟩
    intro place
    rcases hfront place (t ++ [')'] ++ rest) with ⟨fs, hfs, -⟩
    exact ⟨fs, hfs⟩

/-! ## Separators -/

theorem separates_symbol {c : Char} {kind : TokenKind}
    (hspelled : ∀ rest, Lexeme.Spelled kind [c] [c] rest) (hword : Text.isWordChar c = false)
    (hpoint : c ≠ '.') (hparen : c ≠ '(') : Separates [c] kind [c] :=
  ⟨Token.Closes.of_head hword hpoint hparen, fun place rest =>
    ⟨⟨kind, [c], place⟩, rfl, rfl, Token.Yields.of_spelled (hspelled rest)⟩⟩

/-- Blanks may stand around a separator. -/
theorem Separates.padded {m text gap gap' : Text} {kind : TokenKind} (h : Separates m kind text)
    (hgap : Text.IsGap gap) (hgap' : Text.IsGap gap') :
    Separates (gap ++ (m ++ gap')) kind text := by
  constructor
  · intro rest
    rw [List.append_assoc, List.append_assoc]
    exact Token.Closes.gap_append hgap (h.1 (gap' ++ rest))
  · intro place rest
    rcases h.2 (place + gap.length) (gap' ++ rest) with ⟨tok, hkind, htext, htok⟩
    have hfront := Token.Yields.of_blanks hgap place ((m ++ gap') ++ rest)
    exact ⟨tok, hkind, htext, hfront.append (htok.append (Token.Yields.of_blanks hgap' _ rest))⟩

theorem separates_comma : Separates [','] .comma [','] :=
  separates_symbol (fun _ => .comma) (by decide) (by decide) (by decide)

theorem separates_operator {c : Char} (hc : c ∈ ['+', '-', '*', '/']) :
    Separates [c] .operator [c] := by
  have hmark : Text.isWordChar c = false ∧ c ≠ '.' ∧ c ≠ '(' := by
    simp only [List.mem_cons, List.not_mem_nil, or_false] at hc
    rcases hc with rfl | rfl | rfl | rfl <;> decide
  exact separates_symbol (fun _ => .operator hc) hmark.1 hmark.2.1 hmark.2.2

theorem separates_printed_comma : Separates [',', ' '] .comma [','] := by
  have hpadded : Separates ([] ++ ([','] ++ [' '])) .comma [','] :=
    separates_comma.padded Text.IsGap.nil Text.IsGap.space
  exact hpadded

theorem separates_printed_operator {c : Char} (hc : c ∈ ['+', '-', '*', '/']) :
    Separates [' ', c, ' '] .operator [c] := by
  have hpadded : Separates ([' '] ++ ([c] ++ [' '])) .operator [c] :=
    (separates_operator hc).padded Text.IsGap.space Text.IsGap.space
  exact hpadded

/-! ## Literals and references -/

theorem of_literal {t : Text} {n : Number} (ht : Lexeme.IsNumeral t) (hn : Number.ofText t = .ok n) :
    ∃ s, n.write = .ok s ∧ ReadsAs s [n] fun ts => Operand ts (.number n) := by
  rcases Number.exists_text ht hn with ⟨s, hwrite, hread⟩
  refine ⟨s, hwrite, ?_, ?_⟩
  · intro hplain rest hrest place
    rcases (hread rest hrest).1 (hplain n (by simp)) with ⟨hspelled, hsame⟩
    exact ⟨_, Token.Yields.of_spelled hspelled, .number rfl hsame⟩
  · rintro ⟨m, hm, hnot⟩ rest hrest
    rw [List.mem_singleton.1 hm] at hnot
    exact (hread rest hrest).2 hnot

theorem of_text (h : '"' ∉ t) : ReadsAs ('"' :: t ++ ['"']) [] fun ts => Operand ts (.text t) := by
  refine of_yields ?_
  intro rest hrest place
  exact ⟨[⟨.string, t, place⟩], Token.Yields.of_spelled (.string h), .string rfl⟩

theorem yields_cell {id rest : Text} (hid : isCellId id = true) (hends : Lexeme.NameEnds rest)
    (hparen : rest.head? ≠ some '(') (place : Nat) :
    Token.Yields place id [⟨.cell, id, place⟩] rest := by
  rcases isCellId_iff.1 hid with ⟨label, digits, rfl, hlabel, hdigits, halpha, hdigit⟩
  exact Token.Yields.of_spelled (.cell hlabel hdigits halpha hdigit hends hparen)

theorem of_cell {id : Text} (hid : isCellId id = true) :
    ReadsAs id [] fun ts => Operand ts (.cell id) := by
  refine of_yields ?_
  intro rest hrest place
  exact ⟨_, yields_cell hid hrest.nameEnds hrest.head?_ne place, .cell rfl⟩

theorem of_range {start stop : Text} (hstart : isCellId start = true) (hstop : isCellId stop = true) :
    ReadsAs (start ++ ':' :: stop) [] fun ts => Operand ts (.range start stop) := by
  refine of_yields ?_
  intro rest hrest place
  -- a colon ends the first id and does not make it a call
  have hends : Lexeme.NameEnds ([':'] ++ stop ++ rest) := by
    intro c hc
    obtain rfl : ':' = c := by simpa using hc
    rfl
  have hfirst := yields_cell hstart hends (by simp) place
  have hcolon : Token.Yields (place + start.length) [':'] _ (stop ++ rest) :=
    Token.Yields.of_spelled .colon
  have hsecond := yields_cell hstop hrest.nameEnds hrest.head?_ne
    (place + start.length + [':'].length)
  exact ⟨_, hfirst.append (hcolon.append hsecond), .range rfl rfl rfl⟩

/-! ## Operations -/

theorem sentence_of_operand {ts : List Token} {e : Expr} (h : Operand ts e) : Sentence ts e :=
  .first (.product (.first (.operand h)))

theorem sentence_of_operands {ls rs : List Token} {op : Token} {c : Char} {left right : Expr}
    (hc : c ∈ ['+', '-', '*', '/']) (hkind : op.kind = .operator) (htext : op.text = [c])
    (hl : Operand ls left) (hr : Operand rs right) :
    Sentence (ls ++ op :: rs) (.binary [c] left right) := by
  have hjoins : Tier.sum.joins op = true ∨ Tier.product.joins op = true := by
    simp only [List.mem_cons, List.not_mem_nil, or_false] at hc
    rcases hc with rfl | rfl | rfl | rfl <;> simp [Tier.joins, Tier.operators, hkind, htext]
  rw [← htext]
  -- a sum of two operands, or one product of them
  rcases hjoins with hop | hop
  · exact .join (sentence_of_operand hl) hop (.product (.first (.operand hr)))
  · exact .first (.product (.join (.first (.operand hl)) hop (.operand hr)))

theorem binary {c : Char} {left right : Expr} (hc : c ∈ ['+', '-', '*', '/'])
    (hl : ReadsAs t ns fun ts => Operand ts left) (hr : ReadsAs u ms fun ts => Operand ts right) :
    ReadsAs (t ++ ([' ', c, ' '] ++ u)) (ns ++ ms) fun ts => Sentence ts (.binary [c] left right) := by
  refine (separated (separates_printed_operator hc) hl hr).mono ?_
  rintro _ ⟨ls, op, rs, rfl, hls, hkind, htext, hrs⟩
  exact sentence_of_operands hc hkind htext hls hrs

theorem parenthesised {e : Expr} (h : ReadsAs t ns fun ts => Sentence ts e) :
    ReadsAs ('(' :: t ++ [')']) ns fun ts => Operand ts e := by
  have hfront : ∀ place rest, ∃ fs, Token.Yields place ['('] fs rest ∧
      ∃ opening : Token, fs = [opening] ∧ opening.kind = .leftParen := fun place rest =>
    ⟨_, Token.Yields.of_spelled .leftParen, _, rfl, rfl⟩
  refine (enclosed hfront h).mono ?_
  rintro _ ⟨fs, us, closing, rfl, ⟨opening, rfl, hopening⟩, hus, hclosing⟩
  exact .group hopening hus hclosing

/-! ## Calls -/

theorem call {name : Text} {args : List Expr} (hname : Lexeme.IsName name)
    (h : ReadsAs t ns fun ts => Arguments ts args) :
    ReadsAs (name ++ '(' :: t ++ [')']) ns fun ts => Operand ts (.call name args) := by
  have hfront : ∀ place rest, ∃ fs, Token.Yields place (name ++ ['(']) fs rest ∧
      ∃ function opening : Token, fs = [function, opening] ∧ function.kind = .function ∧
        function.text = name ∧ opening.kind = .leftParen := by
    intro place rest
    have hends : Lexeme.NameEnds (['('] ++ rest) := by
      intro c hc
      obtain rfl : '(' = c := by simpa using hc
      rfl
    have hfunction : Token.Yields place name [⟨.function, name, place⟩] (['('] ++ rest) :=
      Token.Yields.of_spelled (.function hname hends rfl)
    exact ⟨_, hfunction.append (Token.Yields.of_spelled .leftParen), _, _, rfl, rfl, rfl, rfl⟩
  have hwhole := (enclosed hfront h).mono (Q := fun ts => Operand ts (.call name args)) ?_
  · simpa using hwhole
  · rintro _ ⟨fs, us, closing, rfl, ⟨function, opening, rfl, hkind, rfl, hopening⟩, hus, hclosing⟩
    exact .call hkind hopening hus hclosing

end ReadsAs

/-! ## Printed trees -/

namespace Expr

open ReadsAs

/-- A tree that is an operand is read as an operand, any other as a whole formula. -/
def Derives : Bool → Expr → List Token → Prop
  | true, e, ts => Operand ts e
  | false, e, ts => Sentence ts e

theorem derives_of_operand {ts : List Token} {e : Expr} (h : Operand ts e) :
    ∀ nested, Derives nested e ts
  | true => h
  | false => sentence_of_operand h

/-- The tree prints, and its text is read as its tokens. -/
def Prints (nested : Bool) (e : Expr) : Prop :=
  ∃ t, e.body nested = .ok t ∧ ReadsAs t e.numbers (Derives nested e)

theorem prints_of_operand {nested : Bool} {e : Expr} {t : Text} (hbody : e.body nested = .ok t)
    (h : ReadsAs t e.numbers fun ts => Operand ts e) : Prints nested e :=
  ⟨t, hbody, h.mono fun _ hts => derives_of_operand hts nested⟩

theorem commaSeparated_cons (t : Text) (ts : List Text) :
    Text.commaSeparated (t :: ts) = t ++ ts.flatMap ([',', ' '] ++ ·) := by
  induction ts generalizing t with
  | nil => simp [Text.commaSeparated]
  | cons u ts ih =>
      rw [Text.commaSeparated, ih u, List.flatMap_cons]
      · simp
      · simp

/-- Each argument that follows is read after a comma. -/
theorem prints_more {args : List Expr} (h : ∀ a ∈ args, Prints false a) {t : Text}
    {ns : List Number} {before : List Expr} (ht : ReadsAs t ns fun us => ArgumentList us before) :
    ∃ ts, bodies args = .ok ts ∧
      ReadsAs (t ++ ts.flatMap ([',', ' '] ++ ·)) (ns ++ numbersAll args) fun us =>
        ArgumentList us (before ++ args) := by
  induction args generalizing t ns before with
  | nil => exact ⟨[], rfl, by simpa [numbersAll] using ht⟩
  | cons a args ih =>
      rcases h a (by simp) with ⟨u, hbody, hread⟩
      -- the arguments so far and one more
      have hjoined : ReadsAs (t ++ ([',', ' '] ++ u)) (ns ++ a.numbers) fun us =>
          ArgumentList us (before ++ [a]) := by
        refine (separated separates_printed_comma ht hread).mono ?_
        rintro _ ⟨ls, comma, rs, rfl, hls, hcomma, -, hrs⟩
        exact .more hls hcomma hrs
      rcases ih (fun b hb => h b (List.mem_cons_of_mem a hb)) hjoined with ⟨ts, hbodies, hrest⟩
      refine ⟨u :: ts, by rw [bodies, hbody, hbodies]; rfl, ?_⟩
      rw [List.flatMap_cons, numbersAll]
      simpa using hrest

theorem prints_arguments {args : List Expr} (h : ∀ a ∈ args, Prints false a) :
    ∃ ts, bodies args = .ok ts ∧
      ReadsAs (Text.commaSeparated ts) (numbersAll args) fun us => Arguments us args := by
  cases args with
  | nil =>
      refine ⟨[], rfl, of_yields ?_⟩
      intro rest hrest place
      exact ⟨[], Token.Yields.nil place rest, .none⟩
  | cons e args =>
      rcases h e (by simp) with ⟨t, hbody, hread⟩
      rcases prints_more (fun a ha => h a (List.mem_cons_of_mem e ha))
        (hread.mono fun _ hus => .first hus) with ⟨ts, hbodies, hrest⟩
      refine ⟨t :: ts, by rw [bodies, hbody, hbodies]; rfl, ?_⟩
      rw [commaSeparated_cons, numbersAll]
      exact hrest.mono fun _ hus => .some hus

theorem Formed.prints {e : Expr} (h : e.Formed) : ∀ nested, Prints nested e := by
  induction h with
  | number ht hn =>
      intro nested
      rcases of_literal ht hn with ⟨s, hwrite, hread⟩
      refine prints_of_operand ?_ (by rw [numbers]; exact hread)
      rw [body, Value.plainText_number, hwrite]
  | text ht =>
      intro nested
      exact prints_of_operand (by rw [body]) (of_text ht)
  | cell hid =>
      intro nested
      exact prints_of_operand (by rw [body]) (of_cell hid)
  | range hstart hstop =>
      intro nested
      exact prints_of_operand (by rw [body]) (of_range hstart hstop)
  | @binary c left right hc hleft hright ihLeft ihRight =>
      intro nested
      rcases ihLeft true with ⟨l, hl, hreadLeft⟩
      rcases ihRight true with ⟨r, hr, hreadRight⟩
      have hbody : body nested (.binary [c] left right) =
          .ok (parenthesised nested (l ++ ([' ', c, ' '] ++ r))) := by
        rw [body, hl, hr]
        simp only [List.append_assoc, List.cons_append, List.nil_append]
        rfl
      have hinside := ReadsAs.binary hc hreadLeft hreadRight
      -- an operation inside another one stands in parentheses
      cases nested with
      | false => exact ⟨_, hbody, by rw [numbers]; exact hinside⟩
      | true => exact prints_of_operand hbody (by rw [numbers]; exact hinside.parenthesised)
  | @call name args hname hargs ih =>
      intro nested
      rcases prints_arguments fun a ha => ih a ha false with ⟨ts, hbodies, hread⟩
      refine prints_of_operand ?_ (by rw [numbers]; exact ReadsAs.call hname hread)
      rw [body, hbodies]
      rfl

/-- The text of a tree that was read is read back just if its numbers are plain. Otherwise reading
it fails at the name of an exponent or of an infinity. -/
theorem formula_reads_back_iff {f : Text} {e : Expr} (h : ofText f = .ok e) :
    ∃ t, e.formula = .ok ('=' :: t) ∧ (ofText t = .ok e ↔ ∀ n ∈ e.numbers, n.Plain) ∧
      ((∃ n ∈ e.numbers, ¬n.Plain) →
        ∃ name ∈ Number.strayNames, ofText t = .error (.unknownName name)) := by
  rcases (formed_of_ofText h).prints false with ⟨t, hbody, hread⟩
  -- the end of the text closes the whole formula
  have hend : Token.Closes [] := Token.Closes.nil
  have hstops : (∃ n ∈ e.numbers, ¬n.Plain) →
      ∃ name ∈ Number.strayNames, ofText t = .error (.unknownName name) := by
    intro hnot
    rcases hread.stops hnot [] hend with ⟨name, hname, hfails⟩
    have htokens := hfails 0
    rw [List.append_nil] at htokens
    exact ⟨name, hname, ofText_of_error htokens⟩
  refine ⟨t, by rw [formula, hbody]; rfl, ⟨?_, ?_⟩, hstops⟩
  · intro hsame
    refine Classical.byContradiction fun hnot => ?_
    rcases hstops (by simpa using hnot) with ⟨name, -, herror⟩
    rw [hsame] at herror
    cases herror
  · intro hplain
    rcases hread.tokens hplain [] hend 0 with ⟨ts, hyields, hsentence⟩
    exact ofText_of_sentence hsentence hyields

theorem formula_reads_back_iff_sum :
    ofText "SUM(A1:B2)+7" = .ok (.binary "+" (.call "SUM" [.range "A1" "B2"]) (.number (.int 7))) ∧
      ∃ t, formula (.binary "+" (.call "SUM" [.range "A1" "B2"]) (.number (.int 7))) =
          .ok ('=' :: t) ∧
        ofText t = .ok (.binary "+" (.call "SUM" [.range "A1" "B2"]) (.number (.int 7))) := by
  have hread : ofText "SUM(A1:B2)+7" =
      .ok (.binary "+" (.call "SUM" [.range "A1" "B2"]) (.number (.int 7))) := by decide +kernel
  rcases formula_reads_back_iff hread with ⟨t, hformula, hiff, -⟩
  refine ⟨hread, t, hformula, hiff.2 ?_⟩
  intro n hn
  obtain rfl : n = .int 7 := by simpa [numbers, numbersAll] using hn
  exact trivial

/-- From ten quadrillion on a double is written with an exponent. -/
theorem formula_not_read_back :
    ∃ e, ofText "10000000000000000.0" = .ok e ∧ e.formula = .ok "=1e+16" ∧
      ofText "1e+16" = .error (.unknownName "e") :=
  ⟨.number (.double (.ofRank false 4846369599423283200)), by decide +kernel, by decide +kernel,
    by decide +kernel⟩

end Expr
end CellCalc

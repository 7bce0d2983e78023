import CellCalc.Proofs.Lexemes

/-!
# LexerExact — a text is read just where it splits into lexemes

A text that is read is a sequence of lexemes with blanks around them, nothing is lost between its
tokens, and there is only one such split. The other way round every such split is read.

* `Token.Yields` — part of a text gives some tokens, and reading goes on with the rest.
* `Piece`, `Piece.joined`, `Piece.Splits` — a split of a text into blanks and lexemes.
* `Piece.splits_unique` — a text has at most one split.
* `Lexer.read_exact` — reading succeeds with the tokens of the split, and only then.
-/

namespace CellCalc

/-! ## Parts of a text -/

namespace Token

/-- Reading a text before some rest gives these tokens, and then goes on with the rest. -/
def Yields (place : Nat) (t : Text) (ts : List Token) (rest : Text) : Prop :=
  readFrom place (t ++ rest) =
    ((readFrom (place + t.length) rest).1.map (ts ++ ·), (readFrom (place + t.length) rest).2)

theorem Yields.nil (place : Nat) (rest : Text) : Yields place [] [] rest := by
  have hsame : ∀ outcome : Except Failure (List Token), outcome.map ([] ++ ·) = outcome := by
    intro outcome
    cases outcome <;> rfl
  rw [Yields, hsame]
  rfl

theorem Yields.append {place : Nat} {t u rest : Text} {ts us : List Token}
    (ht : Yields place t ts (u ++ rest)) (hu : Yields (place + t.length) u us rest) :
    Yields place (t ++ u) (ts ++ us) rest := by
  have hsame : ∀ outcome : Except Failure (List Token),
      (outcome.map (us ++ ·)).map (ts ++ ·) = outcome.map (ts ++ us ++ ·) := by
    intro outcome
    cases outcome <;> simp [Except.map]
  unfold Yields at ht hu ⊢
  rw [List.append_assoc, ht, hu, hsame, List.length_append, Nat.add_assoc]

theorem Yields.of_blanks {gap : Text} (h : ∀ c ∈ gap, Text.isBlank c = true) (place : Nat)
    (rest : Text) : Yields place gap [] rest := by
  induction gap generalizing place with
  | nil => exact Yields.nil place rest
  | cons c gap ih =>
      -- the first blank moves the place on by one
      have hone : Yields place [c] [] (gap ++ rest) := by
        unfold Yields
        rw [List.singleton_append, readFrom, if_pos (h c (by simp))]
        exact Yields.nil (place + 1) (gap ++ rest)
      exact hone.append (ih (fun d hd => h d (by simp [hd])) (place + 1))

theorem Yields.of_spelled {place : Nat} {kind : TokenKind} {text written rest : Text}
    (h : Lexeme.Spelled kind text written rest) :
    Yields place written [⟨kind, text, place⟩] rest := by
  rcases Lexeme.front_of_spelled h with ⟨c, more, rfl, hblank, hfront⟩
  have hplace : place + 1 + more.length = place + (c :: more).length := by
    rw [List.length_cons]
    omega
  unfold Yields
  rw [List.cons_append, readFrom, hblank, if_neg (by decide), hfront]
  simp only [List.drop_left, hplace, List.singleton_append]

end Token

/-! ## Splits -/

/-- A lexeme with the blanks in front of it: as it is written, and as its token holds it. -/
structure Piece where
  gap : Text
  kind : TokenKind
  text : Text
  written : Text
  deriving DecidableEq, Repr

namespace Piece

/-- The text of some pieces, and the blanks at its end. -/
def joined : List Piece → Text → Text
  | [], tail => tail
  | p :: ps, tail => p.gap ++ (p.written ++ joined ps tail)

/-- The tokens of some pieces, each at the place where its lexeme is written. -/
def tokensFrom (place : Nat) : List Piece → Text → List Token
  | [], tail => [Token.final (place + tail.length)]
  | p :: ps, tail =>
      ⟨p.kind, p.text, (place + p.gap.length : Nat)⟩ ::
        tokensFrom (place + p.gap.length + p.written.length) ps tail

/-- The gaps are blank, and every lexeme is one before what follows it. -/
def Splits : List Piece → Text → Prop
  | [], tail => ∀ c ∈ tail, Text.isBlank c = true
  | p :: ps, tail =>
      (∀ c ∈ p.gap, Text.isBlank c = true) ∧
        Lexeme.Spelled p.kind p.text p.written (joined ps tail) ∧ Splits ps tail

theorem readFrom_joined {ps : List Piece} {tail : Text} (h : Splits ps tail) (place : Nat) :
    (Token.readFrom place (joined ps tail)).1 = .ok (tokensFrom place ps tail) := by
  induction ps generalizing place with
  | nil =>
      -- only blanks are left before the end
      have hblanks := Token.Yields.of_blanks h place []
      rw [Token.Yields, List.append_nil] at hblanks
      rw [joined, hblanks, Token.readFrom]
      rfl
  | cons p ps ih =>
      rcases h with ⟨hgap, hspelled, hrest⟩
      -- the gap, the lexeme, and then the pieces that follow
      have hpiece := (Token.Yields.of_blanks hgap place _).append
        (Token.Yields.of_spelled hspelled)
      rw [Token.Yields, List.append_assoc] at hpiece
      rw [joined, hpiece, List.length_append, ← Nat.add_assoc, ih hrest]
      rfl

theorem exists_splits (place : Nat) {t : Text} {ts : List Token}
    (h : (Token.readFrom place t).1 = .ok ts) :
    ∃ ps tail, t = joined ps tail ∧ Splits ps tail ∧ ts = tokensFrom place ps tail := by
  fun_induction Token.readFrom place t generalizing ts with
  | case1 place =>
      cases h
      exact ⟨[], [], rfl, by simp [Splits], rfl⟩
  | case2 place c rest hblank ih =>
      rcases ih h with ⟨ps, tail, rfl, hsplits, rfl⟩
      -- one more blank in front of the first lexeme, or at the end if there is none
      cases ps with
      | nil =>
          refine ⟨[], c :: tail, rfl, ?_, ?_⟩
          · simpa [Splits, hblank] using hsplits
          · rw [tokensFrom, tokensFrom, List.length_cons]
            congr 2
            omega
      | cons p ps =>
          refine ⟨{ p with gap := c :: p.gap } :: ps, tail, rfl, ?_, ?_⟩
          · exact ⟨by simpa [hblank] using hsplits.1, hsplits.2⟩
          · have hplace : place + 1 + p.gap.length = place + (c :: p.gap).length := by
              rw [List.length_cons]
              omega
            rw [tokensFrom, tokensFrom, hplace]
  | case3 place c rest hblank kind text more hfront tokens stop hread ih =>
      rcases Lexeme.spelled_of_front hfront with ⟨written, after, hsplit, hlength, hspelled⟩
      have hafter : rest.drop more = after := Lexeme.drop_of_split hsplit hlength
      cases tokens with
      | error cause => cases h
      | ok tokens =>
          -- the pieces of the rest, with this lexeme in front of them
          rcases ih (by rw [hread]) with ⟨ps, tail, hjoined, hsplits, rfl⟩
          obtain rfl := Except.ok.inj h
          rw [hafter] at hjoined
          subst hjoined
          refine ⟨⟨[], kind, text, written⟩ :: ps, tail, hsplit, ⟨by simp, hspelled, hsplits⟩, ?_⟩
          have hplace : place + 1 + more = place + ([] : Text).length + written.length := by
            rw [hlength, List.length_nil]
            omega
          rw [tokensFrom, hplace]
          rfl
  | case4 place c rest hblank cause width hfront => cases h

/-! ## One split -/

theorem head?_written {kind : TokenKind} {text written rest : Text}
    (h : Lexeme.Spelled kind text written rest) :
    ∀ c ∈ (written ++ rest).head?, Text.isBlank c = false := by
  rcases Lexeme.front_of_spelled h with ⟨c, more, rfl, hblank, -⟩
  intro d hd
  obtain rfl : c = d := by simpa using hd
  exact hblank

theorem written_unique {kind kind' : TokenKind} {text text' written written' rest rest' : Text}
    (h : Lexeme.Spelled kind text written rest) (h' : Lexeme.Spelled kind' text' written' rest')
    (hsame : written ++ rest = written' ++ rest') :
    kind = kind' ∧ text = text' ∧ written = written' ∧ rest = rest' := by
  rcases Lexeme.front_of_spelled h with ⟨c, more, rfl, -, hfront⟩
  rcases Lexeme.front_of_spelled h' with ⟨c', more', rfl, -, hfront'⟩
  obtain ⟨rfl, hmore⟩ := List.cons.inj hsame
  -- both are what is read there
  have hread : Lexeme.token kind text more.length = .token kind' text' more'.length := by
    rw [← hfront, ← hfront']
    exact congrArg (Lexeme.front c) hmore
  simp only [Lexeme.token.injEq] at hread
  rcases hread with ⟨rfl, rfl, hlength⟩
  rcases List.append_inj hmore hlength with ⟨rfl, rfl⟩
  exact ⟨rfl, rfl, rfl, rfl⟩

theorem gap_unique {gap gap' t t' : Text} (hgap : ∀ c ∈ gap, Text.isBlank c = true)
    (hgap' : ∀ c ∈ gap', Text.isBlank c = true) (ht : ∀ c ∈ t.head?, Text.isBlank c = false)
    (ht' : ∀ c ∈ t'.head?, Text.isBlank c = false) (hsame : gap ++ t = gap' ++ t') :
    gap = gap' ∧ t = t' := by
  -- each gap is the whole run of blanks at the front
  have hboth : gap = gap' := by
    rw [← Text.takeWhile_append hgap ht, hsame, Text.takeWhile_append hgap' ht']
  subst hboth
  exact ⟨rfl, List.append_cancel_left hsame⟩

theorem joined_ne_blanks {p : Piece} {ps : List Piece} {tail blanks : Text}
    (h : Splits (p :: ps) tail) (hblanks : ∀ c ∈ blanks, Text.isBlank c = true) :
    joined (p :: ps) tail ≠ blanks := by
  rcases h with ⟨-, hspelled, -⟩
  rcases Lexeme.front_of_spelled hspelled with ⟨c, more, hwritten, hblank, -⟩
  rintro rfl
  have hc := hblanks c (by simp [joined, hwritten])
  rw [hblank] at hc
  cases hc

theorem splits_unique {ps ps' : List Piece} {tail tail' : Text} (h : Splits ps tail)
    (h' : Splits ps' tail') (hsame : joined ps tail = joined ps' tail') :
    ps = ps' ∧ tail = tail' := by
  induction ps generalizing ps' with
  | nil =>
      cases ps' with
      | nil => exact ⟨rfl, hsame⟩
      | cons p' ps' => exact absurd hsame.symm (joined_ne_blanks h' h)
  | cons p ps ih =>
      cases ps' with
      | nil => exact absurd hsame (joined_ne_blanks h h')
      | cons p' ps' =>
          -- the gaps agree, then the lexemes, then what follows them
          rcases p with ⟨gap, kind, text, written⟩
          rcases p' with ⟨gap', kind', text', written'⟩
          rcases h with ⟨hgap, hspelled, hrest⟩
          rcases h' with ⟨hgap', hspelled', hrest'⟩
          rcases gap_unique hgap hgap' (head?_written hspelled) (head?_written hspelled') hsame
            with ⟨rfl, hlexemes⟩
          rcases written_unique hspelled hspelled' hlexemes with ⟨rfl, rfl, rfl, hjoined⟩
          rcases ih hrest hrest' hjoined with ⟨rfl, rfl⟩
          exact ⟨rfl, rfl⟩

/-! ## Places -/

theorem getLast?_tokensFrom (place : Nat) (ps : List Piece) (tail : Text) :
    (tokensFrom place ps tail).getLast? = some (Token.final (place + (joined ps tail).length)) := by
  induction ps generalizing place with
  | nil => rfl
  | cons p ps ih =>
      have hplace : place + p.gap.length + p.written.length + (joined ps tail).length =
          place + (joined (p :: ps) tail).length := by
        simp only [joined, List.length_append]
        omega
      have hlast := ih (place + p.gap.length + p.written.length)
      rw [hplace] at hlast
      rw [tokensFrom, List.getLast?_cons, hlast]
      rfl

theorem joined_append (before : List Piece) (p : Piece) (after : List Piece) (tail : Text) :
    joined (before ++ p :: after) tail = joined before p.gap ++ (p.written ++ joined after tail) := by
  induction before with
  | nil => rfl
  | cons q before ih =>
      rw [List.cons_append, joined, ih, joined]
      simp only [List.append_assoc]

theorem getElem?_tokensFrom (place : Nat) (before : List Piece) (p : Piece) (after : List Piece)
    (tail : Text) :
    (tokensFrom place (before ++ p :: after) tail)[before.length]? =
      some ⟨p.kind, p.text, (place + (joined before p.gap).length : Nat)⟩ := by
  induction before generalizing place with
  | nil => rfl
  | cons q before ih =>
      have hplace : place + q.gap.length + q.written.length + (joined before p.gap).length =
          place + (joined (q :: before) p.gap).length := by
        simp only [joined, List.length_append]
        omega
      have hlater := ih (place + q.gap.length + q.written.length)
      rw [hplace] at hlater
      rw [List.cons_append, tokensFrom, List.length_cons, List.getElem?_cons_succ, hlater]

end Piece

/-! ## Reading -/

open Piece in
/-- A text is read just where it splits into lexemes, and it does so in at most one way. Every token
stands at the place of its lexeme, and the last one at the end of the text. -/
theorem Lexer.read_exact (f : Text) :
    (∀ ts, (Lexer.ofText f).read.1 = .ok ts ↔
        ∃ ps tail, f = joined ps tail ∧ Splits ps tail ∧ ts = tokensFrom 0 ps tail) ∧
      (∀ ps ps' tail tail', f = joined ps tail → Splits ps tail → f = joined ps' tail' →
        Splits ps' tail' → ps = ps' ∧ tail = tail') ∧
      (∀ ps tail, f = joined ps tail →
        (tokensFrom 0 ps tail).getLast? = some (Token.final f.length)) ∧
      ∀ before p after tail, f = joined (before ++ p :: after) tail →
        f = joined before p.gap ++ (p.written ++ joined after tail) ∧
          (tokensFrom 0 (before ++ p :: after) tail)[before.length]? =
            some ⟨p.kind, p.text, (joined before p.gap).length⟩ := by
  refine ⟨?_, ?_, ?_, ?_⟩
  · intro ts
    constructor
    · intro h
      exact exists_splits 0 h
    · rintro ⟨ps, tail, rfl, hsplits, rfl⟩
      exact readFrom_joined hsplits 0
  · intro ps ps' tail tail' hf h hf' h'
    exact splits_unique h h' (hf.symm.trans hf')
  · rintro ps tail rfl
    have hlast := getLast?_tokensFrom 0 ps tail
    rwa [Nat.zero_add] at hlast
  · rintro before p after tail rfl
    have hplace := getElem?_tokensFrom 0 before p after tail
    rw [Nat.zero_add] at hplace
    exact ⟨joined_append before p after tail, hplace⟩

end CellCalc

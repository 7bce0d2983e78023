import CellCalc.Number.Basic
import CellCalc.Proofs.LexerExact
import CellCalc.Proofs.ShortestReads

/-!
# NumberLiterals — what a printed number is read as

The number of a literal prints as a literal again, unless it is a double that is written with an
exponent or by a word. Those are no literals: reading stops at the name that follows the digits.

* `Number.Plain` — an integer, or a double that is written with a point alone.
* `Token.Closes` — what may stand after a name or a number, so that it ends there.
* `Token.Fails` — reading a part of a text stops at a name.
* `Number.ofText_digits`, `Number.ofText_pointed` — the two kinds of literals.
* `Number.exists_text` — the text of a literal's number, and what it is read as.
-/

namespace CellCalc

/-! ## Ends of operands and failures -/

namespace Token

/-- Nothing here could go on with a name or a number, or make a name a call. -/
def Closes (rest : Text) : Prop :=
  ∀ c ∈ rest.head?, Text.isWordChar c = false ∧ c ≠ '.' ∧ c ≠ '('

theorem Closes.nil : Closes [] := by
  intro c hc
  cases hc

theorem Closes.of_head {c : Char} (hword : Text.isWordChar c = false) (hpoint : c ≠ '.')
    (hparen : c ≠ '(') (rest : Text) : Closes (c :: rest) := by
  intro d hd
  obtain rfl : c = d := by simpa using hd
  exact ⟨hword, hpoint, hparen⟩

theorem Closes.of_gap {gap : Text} (hne : gap ≠ []) (hgap : Text.IsGap gap) (rest : Text) :
    Closes (gap ++ rest) := by
  obtain ⟨c, more, rfl⟩ := List.exists_cons_of_ne_nil hne
  have hblank : Text.isBlank c = true := hgap c (by simp)
  -- neither a point nor a parenthesis is blank
  refine Closes.of_head (Text.not_isWordChar_of_isBlank hblank) ?_ ?_ (more ++ rest)
  · rintro rfl
    cases hblank
  · rintro rfl
    cases hblank

theorem Closes.gap_append {gap rest : Text} (hgap : Text.IsGap gap) (h : Closes rest) :
    Closes (gap ++ rest) := by
  cases gap with
  | nil => exact h
  | cons c gap => exact Closes.of_gap (by simp) hgap rest

theorem Closes.nameEnds {rest : Text} (h : Closes rest) : Lexeme.NameEnds rest :=
  fun c hc => (h c hc).1

theorem Closes.head?_ne {rest : Text} (h : Closes rest) : rest.head? ≠ some '(' :=
  fun hc => (h '(' hc).2.2 rfl

theorem Closes.numeralEnds {rest : Text} (h : Closes rest) (written : Text) :
    Lexeme.NumeralEnds written rest := by
  intro c hc
  rcases h c hc with ⟨hword, hpoint, -⟩
  refine ⟨?_, fun hc => absurd hc hpoint⟩
  -- a digit would be a character of a name
  rw [← Bool.not_eq_true] at hword ⊢
  exact fun hdigit => hword (Text.isWordChar_of_isDigit hdigit)

/-- Reading a text before some rest stops at a name in it. -/
def Fails (t rest name : Text) : Prop :=
  ∀ place, (readFrom place (t ++ rest)).1 = .error (.unknownName name)

theorem Fails.append {t u rest name : Text} (h : Fails t (u ++ rest) name) :
    Fails (t ++ u) rest name := by
  intro place
  rw [List.append_assoc]
  exact h place

theorem Fails.after {t u rest name : Text} (ht : ∀ place, ∃ ts, Yields place t ts (u ++ rest))
    (h : Fails u rest name) : Fails (t ++ u) rest name := by
  intro place
  rcases ht place with ⟨ts, hyields⟩
  rw [List.append_assoc, hyields, h]
  rfl

theorem Fails.of_name {name rest : Text} (hname : Lexeme.IsName name)
    (hends : Lexeme.NameEnds rest) (hparen : rest.head? ≠ some '(')
    (hid : isCellId name = false) : Fails name rest name := by
  rcases hname.exists_cons with ⟨c, more, rfl, halpha, hblank⟩
  -- the name is neither called nor a cell id
  have hfront := Lexeme.front_of_isAlpha halpha (more ++ rest)
  rw [← List.cons_append, Lexeme.ofName_append hname hends, if_neg hparen, hid] at hfront
  intro place
  rw [List.cons_append, readFrom, hblank, if_neg (by decide), hfront]
  rfl

end Token

/-! ## Literals -/

namespace Number

/-- Written as a literal is: an integer, or a double that is written with a point alone. -/
def Plain : Number → Prop
  | int _ => True
  | double x => x.Plain

instance : DecidablePred Plain
  | int _ => inferInstanceAs (Decidable True)
  | double x => inferInstanceAs (Decidable x.Plain)

theorem ofText_digits {digits : Text} (hne : digits ≠ []) (h : ∀ c ∈ digits, c.isDigit = true) :
    ofText digits =
      if Numeral.digitLimit < digits.length then .error (.tooManyDigits digits.length)
      else .ok (.int (Decimal.digitsValue digits)) := by
  have hpoint : '.' ∉ digits := by
    intro hmem
    have hdigit := h '.' hmem
    cases hdigit
  rw [ofText, if_neg hpoint, Numeral.readInteger_digits hne h]
  split <;> rfl

theorem ofText_pointed {whole part : Text} (hne : whole ≠ [] ∨ part ≠ [])
    (hwhole : ∀ c ∈ whole, c.isDigit = true) (hpart : ∀ c ∈ part, c.isDigit = true) :
    ofText (whole ++ '.' :: part) =
      .ok (.double (Decimal.toDouble ⟨false, Decimal.digitsValue (whole ++ part), -part.length⟩)) := by
  rw [ofText, if_pos (by simp), Numeral.readDecimal_pointed hne hwhole hpart]
  rfl

/-- A literal denotes an integer with few enough digits, or a double without a sign. -/
theorem of_literal {t : Text} {n : Number} (ht : Lexeme.IsNumeral t) (hn : ofText t = .ok n) :
    (∃ v : Nat, (Nat.toDigits 10 v).length ≤ Numeral.digitLimit ∧ n = .int v) ∨
      ∃ rank, n = .double (Double.ofRank false rank) := by
  cases ht with
  | whole hne hdigits =>
      rw [ofText_digits hne hdigits] at hn
      split at hn
      · cases hn
      · next hlimit =>
          -- zeros in front only make the literal longer than its value
          have hlength := Decimal.length_toDigits_digitsValue_le hne hdigits
          exact Or.inl ⟨_, by omega, (Except.ok.inj hn).symm⟩
  | pointed hne hdigits hafter =>
      rw [ofText_pointed (Or.inl hne) hdigits hafter, Decimal.toDouble_eq] at hn
      exact Or.inr ⟨_, (Except.ok.inj hn).symm⟩
  | @fraction after hne hafter =>
      have hread := @ofText_pointed [] after (Or.inr hne) (by simp) hafter
      rw [List.nil_append, hn, Decimal.toDouble_eq] at hread
      exact Or.inr ⟨_, Except.ok.inj hread⟩

/-! ## Printed numbers -/

theorem write_int {v : Nat} (h : (Nat.toDigits 10 v).length ≤ Numeral.digitLimit) :
    (int v).write = .ok (Nat.toDigits 10 v) :=
  Numeral.writeInteger_eq_ok_iff.2 ⟨h, rfl⟩

theorem spelled_int {v : Nat} (h : (Nat.toDigits 10 v).length ≤ Numeral.digitLimit) {rest : Text}
    (hrest : Token.Closes rest) :
    Lexeme.Spelled .number (Nat.toDigits 10 v) (Nat.toDigits 10 v) rest ∧
      ofText (Nat.toDigits 10 v) = .ok (.int v) := by
  have hdigits : ∀ c ∈ Nat.toDigits 10 v, c.isDigit = true := fun c hc =>
    Nat.isDigit_of_mem_toDigits (by decide) (by decide) hc
  refine ⟨.number (.whole Nat.toDigits_ne_nil hdigits) (hrest.numeralEnds _), ?_⟩
  rw [ofText_digits Nat.toDigits_ne_nil hdigits, if_neg (by omega), Decimal.digitsValue_toDigits]

theorem spelled_double {rank : Fin finiteRanks} (h : (Double.finite false rank).Plain) {rest : Text}
    (hrest : Token.Closes rest) :
    Lexeme.Spelled .number (Double.finite false rank).text (Double.finite false rank).text rest ∧
      ofText (Double.finite false rank).text = .ok (.double (.finite false rank)) := by
  have htext : (Double.finite false rank).text = Double.magnitudeText rank := rfl
  rcases Double.magnitudeText_of_plain h with ⟨whole, part, hsplit, hne, hwhole, hpart, hrank⟩
  rw [htext, hsplit]
  refine ⟨.number (.pointed hne hwhole hpart) (hrest.numeralEnds _), ?_⟩
  rw [ofText_pointed (Or.inl hne) hwhole hpart, Decimal.toDouble_eq, hrank, Double.ofRank,
    dif_pos rank.isLt]

/-- Where an exponent follows the digits, reading stops at its `e`. -/
theorem fails_exponent {t : Text} (h : Double.WithExponent t) (rest : Text) :
    Token.Fails t rest ['e'] := by
  rcases h with ⟨first, part, sign, after, rfl, hfirst, hpart, hsign⟩
  -- the digits before the exponent are a number by themselves
  have hnumeral : Lexeme.IsNumeral (first :: part) := by
    rcases hpart with rfl | ⟨digits, rfl, hdigits⟩
    · exact .whole (by simp) (by simpa using hfirst)
    · exact @Lexeme.IsNumeral.pointed [first] digits (by simp) (by simpa using hfirst) hdigits
  have hends : Lexeme.NumeralEnds (first :: part) ('e' :: sign :: after ++ rest) := by
    intro c hc
    obtain rfl : 'e' = c := by simpa using hc
    exact ⟨rfl, fun hpoint => absurd hpoint (by decide)⟩
  have hsignEnds : Lexeme.NameEnds (sign :: after ++ rest) ∧
      (sign :: after ++ rest).head? ≠ some '(' := by
    rcases hsign with rfl | rfl
    · exact ⟨by simp [Lexeme.NameEnds]; rfl, by simp⟩
    · exact ⟨by simp [Lexeme.NameEnds]; rfl, by simp⟩
  -- the sign of the exponent ends the name after one letter
  have hname : Lexeme.IsName ['e'] := ⟨⟨'e', rfl, rfl⟩, by simp; rfl⟩
  have hfails : Token.Fails ['e'] (sign :: after ++ rest) ['e'] :=
    Token.Fails.of_name hname hsignEnds.1 hsignEnds.2 rfl
  have hexponent : Token.Fails ('e' :: sign :: after) rest ['e'] := hfails.append
  refine hexponent.after ?_
  intro place
  exact ⟨_, Token.Yields.of_spelled (.number hnumeral hends)⟩

theorem fails_infinite {rest : Text} (hrest : Token.Closes rest) :
    Token.Fails (Double.infinite false).text rest "inf" := by
  have hname : Lexeme.IsName "inf".toList := ⟨⟨'i', rfl, rfl⟩, List.all_eq_true.1 rfl⟩
  exact Token.Fails.of_name hname hrest.nameEnds hrest.head?_ne rfl

/-- The names at which reading a printed number stops. -/
def strayNames : List Text := ["e", "inf"]

/-- The number of a literal prints. If it is plain it is read again as the same number; if not,
reading stops. -/
theorem exists_text {t : Text} {n : Number} (ht : Lexeme.IsNumeral t) (hn : ofText t = .ok n) :
    ∃ s, n.write = .ok s ∧ ∀ rest, Token.Closes rest →
      (n.Plain → Lexeme.Spelled .number s s rest ∧ ofText s = .ok n) ∧
        (¬n.Plain → ∃ name ∈ strayNames, Token.Fails s rest name) := by
  rcases of_literal ht hn with ⟨v, hlimit, rfl⟩ | ⟨rank, rfl⟩
  · refine ⟨_, write_int hlimit, ?_⟩
    intro rest hrest
    exact ⟨fun _ => spelled_int hlimit hrest, fun hnot => absurd trivial hnot⟩
  · refine ⟨_, rfl, ?_⟩
    intro rest hrest
    -- a literal beyond the largest double denotes an infinity
    by_cases hfinite : rank < finiteRanks
    · rw [Double.ofRank, dif_pos hfinite]
      refine ⟨fun hplain => spelled_double hplain hrest, fun hnot => ⟨['e'], by decide, ?_⟩⟩
      exact fails_exponent (@Double.magnitudeText_of_not_plain false ⟨rank, hfinite⟩ hnot) rest
    · rw [Double.ofRank, dif_neg hfinite]
      exact ⟨fun hplain => absurd hplain id, fun _ => ⟨"inf", by decide, fails_infinite hrest⟩⟩

end Number
end CellCalc

import CellCalc.Proofs.Renderings
import CellCalc.Proofs.ResumedReadings

/-!
# SpacedTexts — texts with blanks between them and around them

What is read in a text does not depend on what comes after a blank. Every lexeme looks at no more
than one character behind it, and a blank is as good as the end there; only a string goes on across
blanks, as long as its closing quote has not come. So two texts with blanks between them have the
tokens of the first one and then those of the second one further right, and a failure in the first
one stays the same. Around the body of a formula blanks make no difference.

* `Lexeme.Spelled.append`, `Lexeme.Refused.append` — a lexeme, or what is none, before more text.
* `Token.yields_of_readFrom`, `Token.readFrom_of_error` — a reading inside of a longer text.
* `Text.trim_gaps` — trimming takes away further blanks as well.
* `Token.ofText_spaced` — all of it together.
-/

namespace CellCalc

/-! ## One lexeme before more text -/

namespace Lexeme

variable {more : Text}

/-- What holds of the first character after a lexeme, if there is one, still holds with more text
behind it, provided that it holds of the first character of this. -/
theorem forall_head?_append {rest : Text} {P : Char → Prop} (h : ∀ c ∈ rest.head?, P c)
    (hmore : ∀ c ∈ more.head?, P c) : ∀ c ∈ (rest ++ more).head?, P c := by
  cases rest with
  | nil => exact hmore
  | cons d rest => exact h

theorem head?_append_ne {rest : Text} (h : rest.head? ≠ some '(') (hmore : Token.Closes more) :
    (rest ++ more).head? ≠ some '(' := by
  intro hparen
  have hall := forall_head?_append (P := (· ≠ '(')) (fun c hc hsame => h (hsame ▸ hc))
    fun c hc => (hmore c hc).2.2
  exact hall '(' hparen rfl

theorem NumeralEnds.append {written rest : Text} (h : NumeralEnds written rest)
    (hmore : Token.Closes more) : NumeralEnds written (rest ++ more) :=
  forall_head?_append h (hmore.numeralEnds written)

theorem NameEnds.append {rest : Text} (h : NameEnds rest) (hmore : Token.Closes more) :
    NameEnds (rest ++ more) :=
  forall_head?_append h hmore.nameEnds

/-- A lexeme stays one if more text follows that closes it. -/
theorem Spelled.append {kind : TokenKind} {text written rest : Text}
    (h : Spelled kind text written rest) (hmore : Token.Closes more) :
    Spelled kind text written (rest ++ more) := by
  cases h with
  | number hnumeral hends => exact .number hnumeral (hends.append hmore)
  | string hinside => exact .string hinside
  | function hname hends hparen =>
      refine .function hname (hends.append hmore) ?_
      rw [List.head?_append, hparen]
      rfl
  | cell hlabel hdigits halpha hdigit hends hparen =>
      exact .cell hlabel hdigits halpha hdigit (hends.append hmore) (head?_append_ne hparen hmore)
  | leftParen => exact .leftParen
  | rightParen => exact .rightParen
  | comma => exact .comma
  | colon => exact .colon
  | operator hc => exact .operator hc

/-- What is no lexeme is none either if more text follows that closes it, unless it is an open
string, which may be closed by it. -/
theorem Refused.append {cause : Failure} {taken rest : Text} (h : Refused cause taken rest)
    (hcause : cause ≠ .unclosedString) (hmore : Token.Closes more) :
    Refused cause taken (rest ++ more) := by
  cases h with
  | @character c rest hblank hnumeral hquote halpha hsymbol =>
      refine .character hblank ?_ hquote halpha hsymbol
      cases rest with
      | cons d rest => exact hnumeral
      | nil =>
          -- a point is no number if the text goes on with something else than a digit
          have hdigit : ∀ d ∈ more.head?, d.isDigit = false := fun d hd =>
            (hmore.numeralEnds [] d hd).1
          have hc : c.isDigit = false := by simpa [startsNumeral] using hnumeral
          change startsNumeral c more = false
          rw [startsNumeral, hc]
          cases hhead : more.head? with
          | none => simp
          | some d => simp [hdigit d hhead]
  | string _ => exact absurd rfl hcause
  | name hname hends hparen hid =>
      exact .name hname (hends.append hmore) (head?_append_ne hparen hmore) hid

/-- Reading fails where something is no lexeme. -/
theorem Refused.readFrom {cause : Failure} {taken rest : Text} (h : Refused cause taken rest)
    (place : Nat) : (Token.readFrom place (taken ++ rest)).1 = .error cause := by
  cases h with
  | character hblank hnumeral hquote halpha hsymbol =>
      obtain ⟨-, after, hrest, hread⟩ :=
        (Refused.character hblank hnumeral hquote halpha hsymbol).of_character
      rw [List.nil_append, hrest, hread]
  | string hinside =>
      have hall : ∀ c ∈ rest, decide (c ≠ '"') = true := by
        intro c hc
        refine decide_eq_true ?_
        rintro rfl
        exact hinside hc
      have hfront : front '"' rest = .failure .unclosedString 1 := by
        change Lexeme.string rest = _
        rw [Lexeme.string, Text.takeWhile_eq_self hall, if_neg (Nat.lt_irrefl _)]
      rw [List.singleton_append, Token.readFrom, if_neg (by decide), hfront]
  | name hname hends hparen hid => exact Token.Fails.of_name hname hends hparen hid place

end Lexeme

/-! ## A reading inside of a longer text -/

namespace Token

variable {more : Text}

theorem yields_of_readFrom {place : Nat} {t : Text} {ts : List Token}
    (h : (readFrom place t).1 = .ok ts) (hmore : Closes more) :
    ∃ front, ts = front ++ [final (place + t.length)] ∧ Yields place t front more := by
  fun_induction readFrom place t generalizing ts with
  | case1 place =>
      obtain rfl := Except.ok.inj h
      exact ⟨[], rfl, Yields.nil place more⟩
  | case2 place c rest hblank ih =>
      obtain ⟨front, rfl, hyields⟩ := ih h
      have hone : Yields place [c] [] (rest ++ more) :=
        Yields.of_blanks (by simpa using hblank) place _
      refine ⟨front, ?_, hone.append hyields⟩
      rw [List.length_cons]
      congr 3
      omega
  | case3 place c rest hblank kind text width hfront tokens stop hread ih =>
      obtain ⟨written, after, hsplit, hlength, hspelled⟩ := Lexeme.spelled_of_front hfront
      have hafter : rest.drop width = after := Lexeme.drop_of_split hsplit hlength
      have hplace : place + 1 + width = place + written.length := by omega
      cases tokens with
      | error cause => cases h
      | ok tokens =>
          obtain rfl := Except.ok.inj h
          obtain ⟨front, rfl, hyields⟩ := ih (by rw [hread])
          rw [hafter, hplace] at hyields
          -- this lexeme, and then those of the rest
          have hlexeme : Yields place _ _ _ := .of_spelled (hspelled.append hmore)
          refine ⟨⟨kind, text, place⟩ :: front, ?_, ?_⟩
          · rw [hsplit, hafter, hplace, List.length_append, Nat.add_assoc]
            rfl
          · rw [hsplit]
            exact hlexeme.append hyields
  | case4 place c rest hblank cause width hfront => cases h

theorem readFrom_of_error {place : Nat} {t : Text} {cause : Failure}
    (h : (readFrom place t).1 = .error cause) (hcause : cause ≠ .unclosedString)
    (hmore : Closes more) : (readFrom place (t ++ more)).1 = .error cause := by
  fun_induction readFrom place t with
  | case1 place => cases h
  | case2 place c rest hblank ih =>
      rw [List.cons_append, readFrom, if_pos hblank]
      exact ih h
  | case3 place c rest hblank kind text width hfront tokens stop hread ih =>
      obtain ⟨written, after, hsplit, hlength, hspelled⟩ := Lexeme.spelled_of_front hfront
      have hafter : rest.drop width = after := Lexeme.drop_of_split hsplit hlength
      have hplace : place + 1 + width = place + written.length := by omega
      have hlexeme : Yields place written [⟨kind, text, place⟩] (after ++ more) :=
        Yields.of_spelled (hspelled.append hmore)
      cases tokens with
      | ok tokens => cases h
      | error cause' =>
          obtain rfl : cause' = cause := Except.error.inj h
          have hrest := ih (by rw [hread])
          rw [hafter, hplace] at hrest
          rw [hsplit, List.append_assoc, hlexeme, hrest]
          rfl
  | case4 place c rest hblank cause' width hfront =>
      obtain rfl : cause' = cause := Except.error.inj h
      obtain ⟨taken, after, hsplit, -, hrefused⟩ :=
        Lexeme.refused_of_front (by simpa using hblank) hfront
      rw [hsplit, List.append_assoc]
      exact (hrefused.append hcause hmore).readFrom place

end Token

/-! ## Blanks around a text -/

namespace Text

/-- Trimming takes away further blanks as well. -/
theorem trim_gaps {gap gap' : Text} (hgap : IsGap gap) (hgap' : IsGap gap') (t : Text) :
    trim (gap ++ (t ++ gap')) = trim t := by
  have hback : ∀ u, dropTrailingBlanks (u ++ gap') = dropTrailingBlanks u := by
    intro u
    rw [dropTrailingBlanks, List.reverse_append,
      dropBlanks_append fun c hc => hgap' c (List.mem_reverse.1 hc), dropTrailingBlanks]
  have hnone : dropBlanks gap' = [] := dropWhile_eq_nil hgap'
  rw [trim, dropBlanks_append hgap, trim]
  -- if the text is blank there is nothing left, else the blanks behind it are still there
  have hfront : dropBlanks (t ++ gap') = if (dropBlanks t).isEmpty then dropBlanks gap'
      else dropBlanks t ++ gap' := List.dropWhile_append
  rw [hfront, hnone]
  split
  · next hempty => rw [List.isEmpty_iff.1 hempty]
  · exact hback _

end Text

/-! ## All of it -/

/-- Blanks between two texts separate them: if the first one is read, the two have its tokens up to
its end, and then the tokens of the second one moved to its place, or the failure of the second one.
A failure of the first one that is no open string is the failure of both. And blanks around the body
of a formula do not change its value. -/
theorem Token.ofText_spaced {gap : Text} (hne : gap ≠ []) (hgap : Text.IsGap gap) (t u : Text) :
    (∀ ts, Token.ofText t = .ok ts → ∃ front, ts = front ++ [Token.final t.length] ∧
      Token.ofText (t ++ (gap ++ u)) =
        (Token.ofText u).map fun us => front ++ us.map (Token.shift (t ++ gap).length)) ∧
    (∀ cause, Token.ofText t = .error cause → cause ≠ .unclosedString →
      Token.ofText (t ++ (gap ++ u)) = .error cause) ∧
    ∀ (env : Environment) (before after body : Text), Text.IsGap before → Text.IsGap after →
      (env.evaluate ('=' :: (before ++ (body ++ after)))).value =
        (env.evaluate ('=' :: body)).value := by
  have hcloses : Token.Closes (gap ++ u) := Token.Closes.of_gap hne hgap u
  refine ⟨?_, fun cause h hcause => Token.readFrom_of_error h hcause hcloses, ?_⟩
  · intro ts h
    obtain ⟨front, hts, hyields⟩ := Token.yields_of_readFrom h hcloses
    rw [Nat.zero_add] at hts
    refine ⟨front, hts, ?_⟩
    -- the first text and the blanks are read, and then the second text from its place on
    have hboth := hyields.append (Token.Yields.of_blanks hgap (0 + t.length) u)
    have hshift := Token.readFrom_shift 0 (t ++ gap).length u
    rw [Token.Yields, List.append_nil, List.append_assoc, hshift] at hboth
    rw [Token.ofText, hboth, Token.ofText]
    cases (Token.readFrom 0 u).1 <;> rfl
  · intro env before after body hbefore hafter
    rw [Environment.value_evaluate, Environment.value_evaluate, Text.trim_gaps hbefore hafter]

/-- A wide space keeps two points apart, and a name from the parenthesis after it. -/
theorem Token.ofText_spaced_wide_space :
    let gap : Text := ['\u3000']
    gap ≠ [] ∧ Text.IsGap gap ∧ Token.ofText "1." = .ok [⟨.number, "1.", 0⟩, Token.final 2] ∧
      Token.ofText ("1.".toList ++ (gap ++ ".5".toList)) =
        .ok [⟨.number, "1.", 0⟩, ⟨.number, ".5", 3⟩, Token.final 5] ∧
      Token.ofText "SUM" = .error (.unknownName "SUM") ∧
      Token.ofText ("SUM".toList ++ (gap ++ "(1)".toList)) = .error (.unknownName "SUM") ∧
      ∀ env : Environment, (env.evaluate ('=' :: (gap ++ ("1.".toList ++ gap)))).value =
        (env.evaluate "=1.").value := by
  intro gap
  have hne : gap ≠ [] := by simp [gap]
  have hgap : Text.IsGap gap := List.all_eq_true.1 (by decide)
  have hpoint : Token.ofText "1." = .ok [⟨.number, "1.", 0⟩, Token.final 2] := by decide +kernel
  have hname : Token.ofText "SUM" = .error (.unknownName "SUM") := by decide +kernel
  have hafter : Token.ofText ".5" = .ok [⟨.number, ".5", 0⟩, Token.final 2] := by decide +kernel
  obtain ⟨hread, -, -⟩ := Token.ofText_spaced hne hgap "1." ".5"
  obtain ⟨-, hfails, hvalue⟩ := Token.ofText_spaced hne hgap "SUM" "(1)"
  obtain ⟨front, hfront, htokens⟩ := hread _ hpoint
  have hlast : [⟨.number, "1.", 0⟩] ++ [Token.final 2] = front ++ [Token.final 2] := hfront
  obtain rfl := List.append_cancel_right hlast
  rw [hafter] at htokens
  exact ⟨hne, hgap, hpoint, htokens, hname, hfails _ hname (by simp), fun env =>
    hvalue env gap gap "1." hgap hgap⟩

end CellCalc

import CellCalc.Evaluation.Session
import CellCalc.Proofs.EvaluationFailures
import CellCalc.Proofs.ParseFailures
import CellCalc.Proofs.Renaming
import CellCalc.Proofs.Renderings

/-!
# CaseVariants — the case of letters in names

The names of cells and of functions may be written in either case. A formula with other cases for
some letters of its names splits into lexemes in the same places, and its tokens are the same but
for the case of names. No store and no registry tells such names apart, so the formula has the same
value; where it fails, it fails for the same cause.

* `Text.CaseVariant` — a text that differs only in the case of letters at free places.
* `Token.InName` — the places that lie inside the names of a formula.
* `Renaming.upperCase`, `Renaming.invisible_upperCase` — names in upper case, which no store and no
  registry tells from the names themselves.
* `Piece.exists_caseVariant` — the split of a variant.
* `Environment.evaluate_caseVariant` — a variant of a formula has its value.
-/

namespace CellCalc

/-! ## Variants of a text -/

namespace Text

/-- A trailing blank is one with nothing but trailing blanks behind it. -/
theorem dropTrailingBlanks_cons (c : Char) (t : Text) :
    dropTrailingBlanks (c :: t) =
      if isBlank c = true ∧ dropTrailingBlanks t = [] then [] else c :: dropTrailingBlanks t := by
  rw [dropTrailingBlanks, dropTrailingBlanks, dropBlanks, List.reverse_cons, List.dropWhile_append,
    dropBlanks]
  cases hc : isBlank c <;> cases hrest : t.reverse.dropWhile isBlank <;> simp [hc]

/-- The second text is the first one, which begins at this place, but for the case of ASCII letters
at free places. -/
inductive CaseVariant (free : Int → Prop) : Int → Text → Text → Prop
  | nil {place : Int} : CaseVariant free place [] []
  | cons {place : Int} {c d : Char} {t u : Text} : (c = d ∨ free place ∧ c.toUpper = d.toUpper) →
      CaseVariant free (place + 1) t u → CaseVariant free place (c :: t) (d :: u)

namespace CaseVariant

variable {free free' : Int → Prop} {place : Int} {t u : Text}

/-- Whether a text is a variant is decided character by character. -/
instance decidable [DecidablePred free] : ∀ place t u, Decidable (CaseVariant free place t u)
  | _, [], [] => isTrue .nil
  | _, [], _ :: _ => isFalse (by rintro ⟨⟩)
  | _, _ :: _, [] => isFalse (by rintro ⟨⟩)
  | place, c :: t, d :: u =>
      have := decidable (place + 1) t u
      decidable_of_iff ((c = d ∨ free place ∧ c.toUpper = d.toUpper) ∧
          CaseVariant free (place + 1) t u)
        ⟨fun ⟨hchar, hrest⟩ => .cons hchar hrest, fun | .cons hchar hrest => ⟨hchar, hrest⟩⟩

theorem toUpper_eq {c d : Char} (h : c = d ∨ free place ∧ c.toUpper = d.toUpper) :
    c.toUpper = d.toUpper :=
  h.elim (congrArg Char.toUpper) And.right

theorem map_toUpper (h : CaseVariant free place t u) : t.map Char.toUpper = u.map Char.toUpper := by
  induction h with
  | nil => rfl
  | cons hchar _ ih => rw [List.map_cons, List.map_cons, toUpper_eq hchar, ih]

theorem length_eq (h : CaseVariant free place t u) : t.length = u.length := by
  simpa using congrArg List.length h.map_toUpper

theorem mono (h : CaseVariant free place t u) (hfree : ∀ i, place ≤ i → free i → free' i) :
    CaseVariant free' place t u := by
  induction h with
  | nil => exact .nil
  | @cons place c d t u hchar _ ih =>
      refine .cons (hchar.imp_right fun h => ⟨hfree place (Int.le_refl place) h.1, h.2⟩) ?_
      exact ih fun i hi => hfree i (by omega)

/-- Where no place is free, nothing differs. -/
theorem eq_of_not_free (h : CaseVariant free place t u)
    (hfixed : ∀ i, place ≤ i → i < place + t.length → ¬free i) : t = u := by
  induction h with
  | nil => rfl
  | @cons place c d t u hchar _ ih =>
      rw [List.length_cons] at hfixed
      obtain rfl : c = d := hchar.resolve_right fun h => hfixed place (by omega) (by omega) h.1
      rw [ih fun i hi hlt => hfixed i (by omega) (by omega)]

/-- A variant of two texts in a row is a variant of each. -/
theorem exists_append {t₁ t₂ : Text} (h : CaseVariant free place (t₁ ++ t₂) u) :
    ∃ u₁ u₂, u = u₁ ++ u₂ ∧ CaseVariant free place t₁ u₁ ∧
      CaseVariant free (place + t₁.length) t₂ u₂ := by
  induction t₁ generalizing place u with
  | nil => exact ⟨[], u, rfl, .nil, by simpa using h⟩
  | cons c t₁ ih =>
      cases h with
      | @cons _ _ d _ u hchar hrest =>
          obtain ⟨u₁, u₂, rfl, hfirst, hsecond⟩ := ih hrest
          refine ⟨d :: u₁, u₂, rfl, .cons hchar hfirst, ?_⟩
          have hplace : place + 1 + t₁.length = place + (c :: t₁).length := by
            rw [List.length_cons]
            omega
          rwa [hplace] at hsecond

/-! ## Blanks at the ends -/

theorem isBlank_of_isAlpha (c : Char) (h : c.isAlpha = true) : isBlank c = false :=
  not_isBlank_of_isWordChar (isWordChar_of_isAlpha h)

theorem dropBlanks (h : CaseVariant free place t u) :
    CaseVariant free (place + (t.takeWhile isBlank).length) (Text.dropBlanks t)
      (Text.dropBlanks u) := by
  induction h with
  | nil => exact .nil
  | @cons place c d t u hchar hrest ih =>
      have hblank : isBlank c = isBlank d := eq_of_toUpper_eq isBlank_of_isAlpha (toUpper_eq hchar)
      rw [Text.dropBlanks, Text.dropBlanks, List.dropWhile_cons, List.dropWhile_cons,
        List.takeWhile_cons, ← hblank]
      split
      · have hplace : place + 1 + (t.takeWhile isBlank).length =
            place + (c :: t.takeWhile isBlank).length := by
          rw [List.length_cons]
          omega
        rwa [hplace] at ih
      · simpa using hrest.cons hchar

theorem dropTrailingBlanks (h : CaseVariant free place t u) :
    CaseVariant free place (Text.dropTrailingBlanks t) (Text.dropTrailingBlanks u) := by
  induction h with
  | nil => exact .nil
  | @cons place c d t u hchar _ ih =>
      have hblank : isBlank c = isBlank d := eq_of_toUpper_eq isBlank_of_isAlpha (toUpper_eq hchar)
      have hempty : Text.dropTrailingBlanks t = [] ↔ Text.dropTrailingBlanks u = [] := by
        rw [← List.length_eq_zero_iff, ih.length_eq, List.length_eq_zero_iff]
      rw [dropTrailingBlanks_cons, dropTrailingBlanks_cons, hblank]
      simp only [hempty]
      split
      · exact .nil
      · exact ih.cons hchar

theorem trim (h : CaseVariant free place t u) :
    CaseVariant free (place + (t.takeWhile isBlank).length) (Text.trim t) (Text.trim u) :=
  h.dropBlanks.dropTrailingBlanks

end CaseVariant
end Text

/-! ## Ids in either case -/

theorem isAlpha_comp_toUpper : Char.isAlpha ∘ Char.toUpper = Char.isAlpha :=
  funext fun c => Text.eq_of_toUpper_eq (fun _ h => h) (Text.toUpper_toUpper c)

theorem isCellId_map_toUpper (t : Text) : isCellId (t.map Char.toUpper) = isCellId t := by
  have hdigit : Char.isDigit ∘ Char.toUpper = Char.isDigit := funext fun c =>
    Text.eq_of_toUpper_eq (fun _ => Text.isDigit_eq_false_of_isAlpha) (Text.toUpper_toUpper c)
  simp [isCellId, List.takeWhile_map, List.dropWhile_map, isAlpha_comp_toUpper, hdigit]

/-- An id has its address in either case. -/
theorem Address.ofText_map_toUpper (id : Text) : ofText (id.map Char.toUpper) = ofText id := by
  rw [ofText, ofText, isCellId_map_toUpper, List.takeWhile_map, List.dropWhile_map,
    isAlpha_comp_toUpper, List.length_map, Text.upper_map_toUpper]
  cases h : isCellId id with
  | false => rfl
  | true =>
      -- the digits of an id have one case
      have hdigits : ∀ c ∈ id.dropWhile Char.isAlpha, c.isDigit = true := by
        simp only [isCellId, Bool.and_eq_true] at h
        exact List.all_eq_true.1 h.2
      have hsame : (id.dropWhile Char.isAlpha).map Char.toUpper = id.dropWhile Char.isAlpha :=
        (List.map_congr_left fun c hc =>
          Text.toUpper_of_not_isAlpha (Text.isAlpha_eq_false_of_isDigit (hdigits c hc))).trans
            (List.map_id _)
      rw [hsame]

/-! ## Names in upper case -/

namespace Renaming

/-- All names in upper case. -/
def upperCase : Renaming := ⟨List.map Char.toUpper, List.map Char.toUpper⟩

theorem readRange_upperCase {cell : Text → Except Failure Value} (start stop : Text) :
    CellSource.readRange cell (upperCase.cell start) (upperCase.cell stop) =
      CellSource.readRange cell start stop := by
  unfold CellSource.readRange rangeIds upperCase
  rw [Address.ofText_map_toUpper, Address.ofText_map_toUpper]
  -- the spelling of corners that are none is not kept
  cases Address.ofText start with
  | error cause => rfl
  | ok first =>
      cases Address.ofText stop with
      | error cause => rfl
      | ok last => cases first <;> cases last <;> rfl

/-- No store and no registry tells a name from the name in upper case. -/
theorem invisible_upperCase (functions : Registry FormulaFunction) (store : Store) :
    upperCase.Invisible ⟨functions, store.source⟩ where
  cell id := by
    cases store with
    | table t =>
        change Except.ok (t.get (id.map Char.toUpper)) = .ok (t.get id)
        rw [Table.get, Table.get, Text.upper_map_toUpper]
    | sheet s =>
        change s.get (id.map Char.toUpper) = s.get id
        rw [Sheet.get, Sheet.get, Address.ofText_map_toUpper]
    | worksheet w =>
        change w.get (id.map Char.toUpper) = w.get id
        rw [Worksheet.get, Worksheet.get, Address.ofText_map_toUpper]
    | failing message => rfl
  range start stop := by
    change store.source.range _ _ = store.source.range _ _
    rw [store.range_eq, store.range_eq, readRange_upperCase]
  function name := by
    change Registry.find? functions (name.map Char.toUpper) = functions.find? name
    rw [Registry.find?, Registry.find?, Text.upper_map_toUpper]

end Renaming

/-! ## Lexemes in either case -/

namespace Text

variable {rest rest' : Text}

theorem exists_head?_of_map_toUpper (h : rest.map Char.toUpper = rest'.map Char.toUpper) :
    ∀ d ∈ rest'.head?, ∃ c ∈ rest.head?, c.toUpper = d.toUpper := by
  intro d hd
  have hheads := congrArg List.head? h
  rw [List.head?_map, List.head?_map, Option.mem_def.1 hd] at hheads
  simpa using hheads

/-- The character in front is the same unless it is a letter. -/
theorem head?_eq_of_map_toUpper {c : Char} (hc : c.isAlpha = false)
    (h : rest.map Char.toUpper = rest'.map Char.toUpper) (hhead : rest'.head? = some c) :
    rest.head? = some c := by
  obtain ⟨d, hd, hsame⟩ := exists_head?_of_map_toUpper h c hhead
  rcases eq_or_isAlpha_of_toUpper_eq hsame with rfl | ⟨-, halpha⟩
  · exact hd
  · rw [hc] at halpha
    cases halpha

end Text

namespace Lexeme

variable {rest rest' : Text}

theorem NameEnds.congr (hends : NameEnds rest)
    (h : rest.map Char.toUpper = rest'.map Char.toUpper) : NameEnds rest' := by
  intro d hd
  obtain ⟨c, hc, hsame⟩ := Text.exists_head?_of_map_toUpper h d hd
  rw [← Text.eq_of_toUpper_eq (fun _ => Text.isWordChar_of_isAlpha) hsame]
  exact hends c hc

theorem NumeralEnds.congr {written : Text} (hends : NumeralEnds written rest)
    (h : rest.map Char.toUpper = rest'.map Char.toUpper) : NumeralEnds written rest' := by
  intro d hd
  obtain ⟨c, hc, hsame⟩ := Text.exists_head?_of_map_toUpper h d hd
  refine ⟨?_, ?_⟩
  · rw [← Text.eq_of_toUpper_eq (fun _ => Text.isDigit_eq_false_of_isAlpha) hsame]
    exact (hends c hc).1
  · rintro rfl
    exact (hends '.' (Text.head?_eq_of_map_toUpper rfl h hd)).2 rfl

/-- What stands after a lexeme may be written in either case. -/
theorem Spelled.congr_rest {kind : TokenKind} {text written : Text}
    (hspelled : Spelled kind text written rest)
    (h : rest.map Char.toUpper = rest'.map Char.toUpper) : Spelled kind text written rest' := by
  cases hspelled with
  | number hnumeral hends => exact .number hnumeral (hends.congr h)
  | string hinside => exact .string hinside
  | function hname hends hparen =>
      exact .function hname (hends.congr h) (Text.head?_eq_of_map_toUpper rfl h.symm hparen)
  | cell hlabel hdigits halpha hdigit hends hparen =>
      exact .cell hlabel hdigits halpha hdigit (hends.congr h) fun hparen' =>
        hparen (Text.head?_eq_of_map_toUpper rfl h hparen')
  | leftParen => exact .leftParen
  | rightParen => exact .rightParen
  | comma => exact .comma
  | colon => exact .colon
  | operator hc => exact .operator hc

/-- A name may be written in either case. -/
theorem Spelled.congr_name {kind : TokenKind} {text written written' : Text}
    (hspelled : Spelled kind text written rest) (hname : kind = .cell ∨ kind = .function)
    (h : written.map Char.toUpper = written'.map Char.toUpper) :
    text = written ∧ Spelled kind written' written' rest := by
  cases hspelled with
  | function hname hends hparen =>
      refine ⟨rfl, .function ⟨?_, ?_⟩ hends hparen⟩
      · obtain ⟨c, hc, halpha⟩ := hname.1
        obtain ⟨d, hd, hsame⟩ := Text.exists_head?_of_map_toUpper h.symm c hc
        exact ⟨d, hd, (Text.eq_of_toUpper_eq (fun _ h => h) hsame).trans halpha⟩
      · intro d hd
        have hupper : d.toUpper ∈ written'.map Char.toUpper := List.mem_map_of_mem hd
        rw [← h] at hupper
        obtain ⟨c, hc, hsame⟩ := List.mem_map.1 hupper
        rw [← Text.eq_of_toUpper_eq (fun _ => Text.isWordChar_of_isAlpha) hsame]
        exact hname.2 c hc
  | @cell label digits _ hlabel hdigits halpha hdigit hends hparen =>
      have hid : CellCalc.isCellId written' = true := by
        rw [← isCellId_map_toUpper, ← h, isCellId_map_toUpper]
        exact isCellId_iff.2 ⟨label, digits, rfl, hlabel, hdigits, halpha, hdigit⟩
      obtain ⟨label', digits', rfl, hlabel', hdigits', halpha', hdigit'⟩ := isCellId_iff.1 hid
      exact ⟨rfl, .cell hlabel' hdigits' halpha' hdigit' hends hparen⟩
  | number | string | leftParen | rightParen | comma | colon | operator => simp at hname

end Lexeme

/-! ## Variants of a formula -/

/-- The place lies inside the name of a cell or of a function among the tokens. -/
def Token.InName (ts : List Token) (place : Int) : Prop :=
  ∃ t ∈ ts, (t.kind = .cell ∨ t.kind = .function) ∧
    t.position ≤ place ∧ place < t.position + t.text.length

instance (ts : List Token) : DecidablePred (Token.InName ts) :=
  fun _ => inferInstanceAs (Decidable (∃ t ∈ ts, _ ∧ _ ∧ _))

namespace Piece

open Token (InName)

theorem le_position {place : Nat} {ps : List Piece} {tail : Text} {t : Token}
    (h : t ∈ tokensFrom place ps tail) : (place : Int) ≤ t.position := by
  induction ps generalizing place with
  | nil =>
      obtain rfl : t = Token.final (place + tail.length) := by simpa [tokensFrom] using h
      simp only [Token.final]
      omega
  | cons p ps ih =>
      rcases List.mem_cons.1 h with rfl | h
      · dsimp only
        omega
      · have hplace := ih h
        omega

/-- No name begins before the first lexeme. -/
theorem not_inName {place : Nat} {ps : List Piece} {tail : Text} {i : Int} (h : i < place) :
    ¬InName (tokensFrom place ps tail) i := by
  rintro ⟨t, ht, -, hplace, -⟩
  have hfirst := le_position ht
  omega

/-- A variant of a lexeme is a lexeme with the same token but for the case of a name. -/
theorem exists_spelled_caseVariant {kind : TokenKind} {text written written' rest : Text}
    {free : Int → Prop} {place : Int} (h : Lexeme.Spelled kind text written rest)
    (hvariant : Text.CaseVariant free place written written')
    (hfixed : ¬(kind = .cell ∨ kind = .function) →
      ∀ i, place ≤ i → i < place + written.length → ¬free i) :
    ∃ text', Lexeme.Spelled kind text' written' rest ∧ ∀ position,
      Renaming.upperCase.token ⟨kind, text', position⟩ =
        Renaming.upperCase.token ⟨kind, text, position⟩ := by
  by_cases hname : kind = .cell ∨ kind = .function
  · obtain ⟨rfl, hspelled⟩ := h.congr_name hname hvariant.map_toUpper
    refine ⟨written', hspelled, fun position => ?_⟩
    rcases hname with rfl | rfl <;>
      simp [Renaming.token, Renaming.upperCase, hvariant.map_toUpper]
  · obtain rfl := hvariant.eq_of_not_free (hfixed hname)
    exact ⟨text, h, fun _ => rfl⟩

/-- A variant of a text with its split has a split with the same tokens but for the case of
names. -/
theorem exists_caseVariant {ps : List Piece} {tail t : Text} (h : Splits ps tail) {place : Nat}
    (hvariant : Text.CaseVariant (InName (tokensFrom place ps tail)) place (joined ps tail) t) :
    ∃ ps', t = joined ps' tail ∧ Splits ps' tail ∧
      (tokensFrom place ps' tail).map Renaming.upperCase.token =
        (tokensFrom place ps tail).map Renaming.upperCase.token := by
  induction ps generalizing place t with
  | nil =>
      refine ⟨[], (hvariant.eq_of_not_free fun i _ _ => ?_).symm, h, rfl⟩
      simp [InName, tokensFrom, Token.final]
  | cons p ps ih =>
      rcases h with ⟨hgap, hspelled, hrest⟩
      obtain ⟨gap', t', rfl, hgapVariant, hothers⟩ := hvariant.exists_append
      obtain ⟨written', t'', rfl, hwritten, hothers⟩ := hothers.exists_append
      have hfree : ∀ i, InName (tokensFrom place (p :: ps) tail) i →
          ((p.kind = .cell ∨ p.kind = .function) ∧ place + p.gap.length ≤ i ∧
            i < place + p.gap.length + p.text.length) ∨
          InName (tokensFrom (place + p.gap.length + p.written.length) ps tail) i := by
        rintro i ⟨t, ht, hkind, hle, hlt⟩
        rcases List.mem_cons.1 ht with rfl | ht
        · exact Or.inl ⟨hkind, by simpa using hle, by simpa using hlt⟩
        · exact Or.inr ⟨t, ht, hkind, hle, hlt⟩
      -- neither the gap nor a lexeme that is no name can differ
      obtain rfl : p.gap = gap' := by
        refine hgapVariant.eq_of_not_free fun i _ hi hin => ?_
        rcases hfree i hin with ⟨-, hle, -⟩ | hin
        · omega
        · exact not_inName (by omega) hin
      have hfixed : ¬(p.kind = .cell ∨ p.kind = .function) → ∀ i, (place + p.gap.length : Int) ≤ i →
          i < place + p.gap.length + p.written.length →
            ¬InName (tokensFrom place (p :: ps) tail) i := by
        intro hname i _ hi hin
        rcases hfree i hin with ⟨hkind, -⟩ | hin
        · exact hname hkind
        · exact not_inName (by omega) hin
      obtain ⟨text', hspelled', htoken⟩ := exists_spelled_caseVariant hspelled hwritten hfixed
      -- behind the lexeme only the names of the other ones are free
      have hlater : Text.CaseVariant
          (InName (tokensFrom (place + p.gap.length + p.written.length) ps tail))
          (place + p.gap.length + p.written.length : Nat) (joined ps tail) t'' := by
        refine hothers.mono fun i hi hin => ?_
        rcases hfree i hin with ⟨hname, -, hlt⟩ | hin
        · rw [(hspelled.congr_name hname rfl).1] at hlt
          omega
        · exact hin
      obtain ⟨ps', rfl, hsplits, htokens⟩ := ih hrest hlater
      refine ⟨⟨p.gap, p.kind, text', written'⟩ :: ps', rfl,
        ⟨hgap, hspelled'.congr_rest hlater.map_toUpper, hsplits⟩, ?_⟩
      rw [tokensFrom, tokensFrom, List.map_cons, List.map_cons, htoken, ← hwritten.length_eq,
        htokens]

end Piece

theorem Token.exists_ofText_caseVariant {body body' : Text} {ts : List Token}
    (h : ofText body = .ok ts) (hvariant : Text.CaseVariant (InName ts) 0 body body') :
    ∃ ts', ofText body' = .ok ts' ∧
      ts'.map Renaming.upperCase.token = ts.map Renaming.upperCase.token := by
  obtain ⟨ps, tail, rfl, hsplits, rfl⟩ := Piece.exists_splits 0 h
  obtain ⟨ps', rfl, hsplits', htokens⟩ := Piece.exists_caseVariant hsplits hvariant
  exact ⟨_, Piece.readFrom_joined hsplits' 0, htokens⟩

theorem Expr.ne_noArguments_of_ofText {body : Text} {cause : Failure}
    (h : ofText body = .error cause) (name : Text) : cause ≠ .noArguments name := by
  rintro rfl
  rcases cause_of_ofText_error h with ⟨-, hkind⟩ | ⟨_, -, hgrammar | ⟨_, -, -, -, -, hnumber⟩⟩
  · cases hkind
  · rcases hgrammar with ⟨found, hcause⟩ | hcause | hcause <;> cases hcause
  · cases hnumber

namespace Environment

/-- A variant of a body has the outcome of the body. -/
theorem outcome_evalBody_caseVariant {env : Environment} (henv : Renaming.upperCase.Invisible env)
    {body body' : Text} {ts : List Token} (hread : Token.ofText body = .ok ts)
    (hknown : ∀ t ∈ ts, t.kind = .function → (env.functions.find? t.text).isSome = true)
    (hvariant : Text.CaseVariant (Token.InName ts) 0 body body') :
    (env.evalBody body').outcome = (env.evalBody body).outcome := by
  obtain ⟨ts', hread', htokens⟩ := Token.exists_ofText_caseVariant hread hvariant
  -- the trees are the same in upper case
  have htrees : Renaming.upperCase.outcome Renaming.upperCase.expr (Expr.ofText body') =
      Renaming.upperCase.outcome Renaming.upperCase.expr (Expr.ofText body) := by
    rw [Expr.ofText_of_tokens hread, Expr.ofText_of_tokens hread',
      ← Renaming.ofTokens_token, ← Renaming.ofTokens_token, htokens]
  cases he : Expr.ofText body with
  | error cause =>
      cases he' : Expr.ofText body' with
      | ok e' =>
          rw [he, he'] at htrees
          cases htrees
      | error cause' =>
          rw [he, he'] at htrees
          have hcauses := Except.error.inj htrees
          rw [Renaming.failure_eq _ (Expr.ne_noArguments_of_ofText he),
            Renaming.failure_eq _ (Expr.ne_noArguments_of_ofText he')] at hcauses
          rw [evalBody_of_error env he, evalBody_of_error env he', hcauses]
  | ok e =>
      cases he' : Expr.ofText body' with
      | error cause' =>
          rw [he, he'] at htrees
          cases htrees
      | ok e' =>
          rw [he, he'] at htrees
          have hsame : Renaming.upperCase.expr e' = Renaming.upperCase.expr e :=
            Except.ok.inj htrees
          have hcalls : ∀ name ∈ e.calls, (env.functions.find? name).isSome = true := by
            intro name hname
            rw [Expr.ofText_of_tokens hread] at he
            obtain ⟨t, ht, hkind, rfl⟩ := Renaming.exists_token_of_mem_calls he hname
            exact hknown t ht hkind
          -- a name is known if it is in upper case
          have hcalls' : ∀ name ∈ e'.calls, (env.functions.find? name).isSome = true := by
            intro name' hname'
            have hupper := List.mem_map_of_mem (f := Renaming.upperCase.function) hname'
            rw [← Renaming.calls_expr, hsame, Renaming.calls_expr] at hupper
            obtain ⟨name, hname, hnames⟩ := List.mem_map.1 hupper
            rw [← henv.function, ← hnames, henv.function]
            exact hcalls name hname
          rw [evalBody_of_ok env he', evalBody_of_ok env he, ← henv.eval_expr e' hcalls', hsame,
            henv.eval_expr e hcalls]

/-- The case of letters does not matter in the names of cells and functions. If the body of a
formula has tokens and all of its functions are known, the formula has its value also with other
cases for some ASCII letters of its names, over every store: the value of its tree, or the words of
the failure. Places count from the start of the body, so that the blanks in front of it come before
zero. -/
theorem evaluate_caseVariant {functions : Registry FormulaFunction} {rest rest' : Text}
    {ts : List Token} (hread : Token.ofText (Text.trim rest) = .ok ts)
    (hknown : ∀ t ∈ ts, t.kind = .function → (functions.find? t.text).isSome = true)
    (hvariant : Text.CaseVariant (Token.InName ts) (-(rest.takeWhile Text.isBlank).length)
      rest rest') (store : Store) :
    (evaluate ⟨functions, store.source⟩ ('=' :: rest')).value =
      (evaluate ⟨functions, store.source⟩ ('=' :: rest)).value := by
  have hbody : Text.CaseVariant (Token.InName ts) 0 (Text.trim rest) (Text.trim rest') := by
    have htrimmed := hvariant.trim
    rwa [Int.add_left_neg] at htrimmed
  have henv := Renaming.invisible_upperCase functions store
  rw [value_evaluate, value_evaluate, outcome_evalBody_caseVariant henv hread hknown hbody]

/-- A function and a cell in other cases, next to a string that looks like the cell. -/
theorem evaluate_caseVariant_sum :
    let rest : Text := " Sum(a1,\"a1\") "
    let rest' : Text := " sUM(A1,\"a1\") "
    let ts : List Token := [⟨.function, "Sum", 0⟩, ⟨.leftParen, "(", 3⟩, ⟨.cell, "a1", 4⟩,
      ⟨.comma, ",", 6⟩, ⟨.string, "a1", 7⟩, ⟨.rightParen, ")", 11⟩, ⟨.endOfFormula, "", 12⟩]
    let store : Store := .table (.ofList [("a1", .number (.int 2))])
    Token.ofText (Text.trim rest) = .ok ts ∧
      (∀ t ∈ ts, t.kind = .function → (Registry.builtins.find? t.text).isSome = true) ∧
      Text.CaseVariant (Token.InName ts) (-(rest.takeWhile Text.isBlank).length) rest rest' ∧
      (evaluate ⟨.builtins, store.source⟩ ('=' :: rest)).value = .number (.int 2) ∧
      (evaluate ⟨.builtins, store.source⟩ ('=' :: rest')).value = .number (.int 2) := by
  intro rest rest' ts store
  have hread : Token.ofText (Text.trim rest) = .ok ts := by decide +kernel
  have hknown : ∀ t ∈ ts, t.kind = .function →
      (Registry.builtins.find? t.text).isSome = true := by
    decide +kernel
  have hvariant : Text.CaseVariant (Token.InName ts) (-(rest.takeWhile Text.isBlank).length)
      rest rest' := by
    decide +kernel
  have hvalue : (evaluate ⟨.builtins, store.source⟩ ('=' :: rest)).value = .number (.int 2) := by
    decide +kernel
  exact ⟨hread, hknown, hvariant, hvalue,
    (evaluate_caseVariant hread hknown hvariant store).trans hvalue⟩

end Environment

end CellCalc

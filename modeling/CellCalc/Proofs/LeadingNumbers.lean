import CellCalc.Proofs.DecimalNotation
import CellCalc.Proofs.DecimalValue
import CellCalc.Value.Coercion

/-!
# LeadingNumbers — the longest number at the front of a text

A text counts by the longest literal at its front. A literal is a sign, perhaps, and then the word
for an infinity or decimal notation. By itself it is read as the same double, which is never the one
that is not a number.

* `Double.DenotedBy` — the double that a literal denotes; `IsLiteral` — the literals.
* `readLiteral` — reading a literal by itself.
* `LongestLiteral` — the longest literal at the front of a text.
* `readLeadingNumber_exact` — this is the one that counts.
-/

namespace CellCalc

/-! ## Literals -/

/-- A double is denoted by a literal: a sign, perhaps, and then the word for an infinity or decimal
notation, which denotes the nearest double. -/
inductive Double.DenotedBy : Double → Text → Prop
  | infinity {negative : Bool} {s : Text} : Decimal.IsSign negative s →
      DenotedBy (.infinite negative) (s ++ infinityWord)
  | decimal {negative : Bool} {coefficient : Nat} {exponent : Int} {s w : Text} :
      Decimal.IsSign negative s → Decimal.IsUnsigned coefficient exponent w →
        DenotedBy (Decimal.toDouble ⟨negative, coefficient, exponent⟩) (s ++ w)

/-- The text is a literal. -/
def IsLiteral (t : Text) : Prop :=
  ∃ x : Double, x.DenotedBy t

/-- The double of a literal that is read by itself: after the signs there is the word for an
infinity, or else it is a decimal numeral. -/
def readLiteral (literal : Text) : Except Failure Double :=
  if literal.dropWhile (fun c => c == '+' || c == '-') = infinityWord then
    .ok (.infinite (literal.head? == some '-'))
  else Numeral.readDecimal literal

theorem Double.isNaN_ofRank (negative : Bool) (rank : Nat) :
    (Double.ofRank negative rank).isNaN = false := by
  unfold Double.ofRank
  split
  · rfl
  · rfl

theorem Double.DenotedBy.isNaN_eq_false {x : Double} {t : Text} (h : x.DenotedBy t) :
    x.isNaN = false := by
  cases h with
  | infinity => rfl
  | decimal => rw [Decimal.toDouble_eq, Double.isNaN_ofRank]

theorem Double.DenotedBy.chars {x : Double} {t : Text} (h : x.DenotedBy t) :
    ∀ c ∈ t, 32 < c.toNat ∧ c.toNat < 128 ∧ c ≠ '_' := by
  have hmarks : ∀ c ∈ ['+', '-', '.', 'e', 'E'], 32 < c.toNat ∧ c.toNat < 128 ∧ c ≠ '_' := by
    simp
  have hletters : ∀ c ∈ infinityWord, c.isAlpha = true := List.all_eq_true.1 rfl
  intro c hc
  cases h with
  | infinity hs =>
      rcases (List.mem_append.1 hc).imp (hs.chars c) (hletters c) with hmark | hletter
      · exact hmarks c hmark
      · have hbounds := Text.isAlpha_iff.1 hletter
        refine ⟨by omega, by omega, ?_⟩
        rintro rfl
        cases hletter
  | decimal hs hw =>
      rcases (List.mem_append.1 hc).imp (hs.chars c) (hw.chars c) with hmark | hdigit | hmark
      · exact hmarks c hmark
      · have hbounds := Text.isDigit_iff.1 hdigit
        refine ⟨by omega, by omega, ?_⟩
        rintro rfl
        cases hdigit
      · exact hmarks c hmark

theorem Numeral.readDecimal_of_isUnsigned {negative : Bool} {coefficient : Nat} {exponent : Int}
    {s w : Text} (hs : Decimal.IsSign negative s) (hw : Decimal.IsUnsigned coefficient exponent w) :
    readDecimal (s ++ w) = .ok (Decimal.toDouble ⟨negative, coefficient, exponent⟩) := by
  have hchars := (Double.DenotedBy.decimal hs hw).chars
  have hseparator : '_' ∉ s ++ w := fun hmem => (hchars '_' hmem).2.2 rfl
  have hsign : Decimal.sign (s ++ w) = (negative, w) := by
    have hhead := hw.head? []
    rw [List.append_nil] at hhead
    exact Decimal.sign_append hs fun c hc => ⟨(hhead c hc).1, (hhead c hc).2.1⟩
  -- nothing is taken away, and all of it is notation
  unfold readDecimal
  rw [plain_of_ascii fun c hc => ⟨(hchars c hc).1, (hchars c hc).2.1⟩]
  dsimp only
  rw [dropSeparators_eq_self hseparator, hsign]
  dsimp only
  rw [separatorsInside_of_notMem hseparator, Decimal.scan_of_isUnsigned hw]

/-- A literal by itself is read as the double that it denotes. -/
theorem Double.DenotedBy.readLiteral_eq {x : Double} {t : Text} (h : x.DenotedBy t) :
    readLiteral t = .ok x := by
  cases h with
  | infinity hs =>
      cases hs with
      | none => rfl
      | plus => rfl
      | minus => rfl
  | @decimal negative coefficient exponent s w hs hw =>
      have hhead := hw.head? []
      rw [List.append_nil] at hhead
      have hsigns : ∀ c ∈ s, (c == '+' || c == '-') = true := by
        cases hs with
        | none => simp
        | plus => simp
        | minus => simp
      have hrest : ∀ c ∈ w.head?, (c == '+' || c == '-') = false := fun c hc => by
        simp [(hhead c hc).1, (hhead c hc).2.1]
      have hword : w ≠ infinityWord := by
        rintro rfl
        exact (hhead 'I' rfl).2.2 rfl
      rw [readLiteral, Text.dropWhile_append hsigns hrest, if_neg hword,
        Numeral.readDecimal_of_isUnsigned hs hw]

/-! ## The longest literal -/

/-- The longest literal at the front of a text. -/
structure LongestLiteral (literal t : Text) : Prop where
  isLiteral : IsLiteral literal
  front : literal <+: t
  longest : ∀ p, p <+: t → IsLiteral p → p.length ≤ literal.length

theorem LongestLiteral.unique {literal literal' t : Text} (h : LongestLiteral literal t)
    (h' : LongestLiteral literal' t) : literal = literal' := by
  have hlength : literal.length = literal'.length :=
    Nat.le_antisymm (h'.longest _ h.front h.isLiteral) (h.longest _ h'.front h'.isLiteral)
  exact (List.prefix_of_prefix_length_le h.front h'.front (Nat.le_of_eq hlength)).eq_of_length hlength

/-- A literal at the front of a text stands there after the sign that is read. -/
theorem IsLiteral.exists_unsigned {p : Text} (h : IsLiteral p) (rest : Text) :
    ∃ q, (Decimal.sign (p ++ rest)).2 = q ++ rest ∧
      (q = infinityWord ∨ ∃ coefficient exponent, Decimal.IsUnsigned coefficient exponent q) := by
  obtain ⟨x, hx⟩ := h
  cases hx with
  | infinity hs =>
      have hhead : ∀ c ∈ (infinityWord ++ rest).head?, c ≠ '+' ∧ c ≠ '-' := by
        intro c hc
        obtain rfl : 'I' = c := Option.some.inj hc
        decide
      refine ⟨infinityWord, ?_, Or.inl rfl⟩
      rw [List.append_assoc, Decimal.sign_append hs hhead]
  | decimal hs hw =>
      refine ⟨_, ?_, Or.inr ⟨_, _, hw⟩⟩
      have hhead := hw.head? rest
      rw [List.append_assoc, Decimal.sign_append hs fun c hc => ⟨(hhead c hc).1, (hhead c hc).2.1⟩]

theorem infinityWord_isPrefixOf_iff {t : Text} :
    infinityWord.isPrefixOf t = true ↔ ∃ rest, t = infinityWord ++ rest := by
  rw [List.isPrefixOf_iff_prefix]
  exact ⟨fun ⟨rest, h⟩ => ⟨rest, h.symm⟩, fun ⟨rest, h⟩ => ⟨rest, h.symm⟩⟩

/-- Where a number is read it is the one of the longest literal. -/
theorem longest_of_leadingNumber {t : Text} {x : Double} (h : leadingNumber? t = some x) :
    ∃ literal, x.DenotedBy literal ∧ LongestLiteral literal (Text.dropBlanks t) := by
  unfold leadingNumber? at h
  generalize Text.dropBlanks t = u at h ⊢
  obtain ⟨s, hsplit, hs⟩ := Decimal.exists_isSign u
  dsimp only at h
  split at h
  · next hword =>
      obtain ⟨rest, hrest⟩ := infinityWord_isPrefixOf_iff.1 hword
      obtain rfl := Option.some.inj h
      have hfront : u = s ++ infinityWord ++ rest := by rw [hsplit, hrest, List.append_assoc]
      refine ⟨_, .infinity hs, ⟨_, .infinity hs⟩, ⟨rest, hfront.symm⟩, ?_⟩
      rintro p ⟨after, hp⟩ hliteral
      obtain ⟨q, hunsigned, hq⟩ := hliteral.exists_unsigned after
      rw [hp, hrest] at hunsigned
      -- decimal notation does not begin with the letter of the word
      have hsame : q = infinityWord := by
        refine hq.resolve_right fun ⟨coefficient, exponent, hw⟩ => ?_
        have hhead := hw.head? after
        rw [← hunsigned] at hhead
        exact (hhead 'I' rfl).2.2 rfl
      rw [hsame] at hunsigned
      have hlengths := congrArg List.length (hp.trans hfront)
      obtain rfl := List.append_cancel_left hunsigned
      simp only [List.length_append] at hlengths ⊢
      omega
  · next hword =>
      obtain ⟨⟨d, rest⟩, hscan, rfl⟩ := Option.map_eq_some_iff.1 h
      obtain ⟨w, hrest, hnegative, hw⟩ := Decimal.exists_isUnsigned hscan
      have hfront : u = s ++ w ++ rest := by rw [hsplit, hrest, List.append_assoc]
      have hdenoted : d.toDouble.DenotedBy (s ++ w) := by
        rw [← hnegative] at hs
        exact .decimal hs hw
      refine ⟨_, hdenoted, ⟨_, hdenoted⟩, ⟨rest, hfront.symm⟩, ?_⟩
      rintro p ⟨after, hp⟩ hliteral
      obtain ⟨q, hunsigned, hq⟩ := hliteral.exists_unsigned after
      rw [hp] at hunsigned
      rcases hq with rfl | ⟨coefficient, exponent, hq⟩
      · exact absurd (infinityWord_isPrefixOf_iff.2 ⟨after, hunsigned⟩) hword
      · -- at least as much has been read
        obtain ⟨d', rest', hscan', hle⟩ := Decimal.scan_append hq (Decimal.sign u).1 after
        rw [← hunsigned, hscan] at hscan'
        obtain ⟨-, rfl⟩ := Prod.mk.inj (Option.some.inj hscan')
        have hlengths := congrArg List.length (hp.trans hfront)
        simp only [List.length_append] at hlengths ⊢
        omega

/-- Where no number is read there is no literal. -/
theorem not_isLiteral_of_leadingNumber {t p : Text} (h : leadingNumber? t = none)
    (hp : p <+: Text.dropBlanks t) : ¬IsLiteral p := by
  unfold leadingNumber? at h
  obtain ⟨after, hp⟩ := hp
  intro hliteral
  obtain ⟨q, hunsigned, hq⟩ := hliteral.exists_unsigned after
  rw [hp] at hunsigned
  dsimp only at h
  split at h
  · cases h
  · next hword =>
      rcases hq with rfl | ⟨coefficient, exponent, hq⟩
      · exact hword (infinityWord_isPrefixOf_iff.2 ⟨after, hunsigned⟩)
      · obtain ⟨d, rest, hscan, -⟩ :=
          Decimal.scan_append hq (Decimal.sign (Text.dropBlanks t)).1 after
        rw [hunsigned, hscan] at h
        cases h

/-! ## All of it -/

theorem readLeadingNumber_of_longest {literal t : Text}
    (h : LongestLiteral literal (Text.dropBlanks t)) :
    readLeadingNumber t = readLiteral literal := by
  unfold readLeadingNumber
  cases hread : leadingNumber? t with
  | none => exact absurd h.isLiteral (not_isLiteral_of_leadingNumber hread h.front)
  | some x =>
      obtain ⟨literal', hdenoted, hlongest⟩ := longest_of_leadingNumber hread
      obtain rfl := h.unique hlongest
      rw [hdenoted.readLiteral_eq]
      rfl

theorem IsLiteral.ne_nil {t : Text} (h : IsLiteral t) : t ≠ [] := by
  rintro rfl
  obtain ⟨q, hsign, hq⟩ := h.exists_unsigned []
  obtain rfl : q = [] := by simpa [Decimal.sign] using hsign.symm
  rcases hq with hword | ⟨coefficient, exponent, hw⟩
  · exact absurd hword (by decide)
  · obtain ⟨m, n, e, hsplit, hm, -⟩ := hw.exists_numeral
    obtain ⟨c, more, rfl, -⟩ := hm.starts []
    cases hsplit

/-- No blank stands in front of a literal. -/
theorem IsLiteral.dropBlanks_append {t : Text} (h : IsLiteral t) (rest : Text) :
    Text.dropBlanks (t ++ rest) = t ++ rest := by
  obtain ⟨d, more, rfl⟩ := List.exists_cons_of_ne_nil h.ne_nil
  obtain ⟨x, hx⟩ := h
  refine Text.dropWhile_eq_self fun c hc => ?_
  obtain rfl : d = c := by simpa using hc
  obtain ⟨hspace, hascii, -⟩ := hx.chars d (by simp)
  rw [← Bool.not_eq_true, Text.isBlank_iff_of_ascii hascii]
  omega

/-- A literal that what follows does not make longer is the longest one. -/
theorem IsLiteral.longest_append {t rest : Text} (h : IsLiteral t)
    (hends : ∀ more, more <+: rest → more ≠ [] → ¬IsLiteral (t ++ more)) :
    LongestLiteral t (Text.dropBlanks (t ++ rest)) := by
  rw [h.dropBlanks_append]
  refine ⟨h, List.prefix_append t rest, fun p hp hliteral => Nat.le_of_not_lt fun hlonger => ?_⟩
  obtain ⟨more, rfl⟩ :=
    List.prefix_of_prefix_length_le (List.prefix_append t rest) hp (Nat.le_of_lt hlonger)
  refine hends more ((List.prefix_append_right_inj t).1 hp) ?_ hliteral
  rintro rfl
  simp at hlonger

/-- A text counts by the longest literal at its front, behind leading blanks, and this literal is
always read, and never as what is not a number. It has no number just if no literal stands there,
and its failure names it. So nothing that comes after a literal and does not make it longer changes
its number. -/
theorem readLeadingNumber_exact (t : Text) :
    (∀ p, p <+: Text.dropBlanks t → IsLiteral p → ∃ literal x,
      LongestLiteral literal (Text.dropBlanks t) ∧ x.DenotedBy literal ∧
        readLiteral literal = .ok x ∧ x.isNaN = false ∧ readLeadingNumber t = .ok x) ∧
    ((∃ cause, readLeadingNumber t = .error cause ∧ cause.kind = .coercion) ↔
      ∀ p, p <+: Text.dropBlanks t → ¬IsLiteral p) ∧
    (∀ cause, readLeadingNumber t = .error cause → cause = .notNumericText t) ∧
    (IsLiteral t → ∀ rest, (∀ more, more <+: rest → more ≠ [] → ¬IsLiteral (t ++ more)) →
      readLeadingNumber (t ++ rest) = readLeadingNumber t) := by
  have hfails : ∀ cause, readLeadingNumber t = .error cause →
      cause = .notNumericText t ∧ leadingNumber? t = none := by
    intro cause h
    unfold readLeadingNumber at h
    cases hread : leadingNumber? t with
    | none =>
        rw [hread] at h
        exact ⟨(Except.error.inj h).symm, rfl⟩
    | some x =>
        rw [hread] at h
        cases h
  refine ⟨?_, ⟨?_, ?_⟩, fun cause h => (hfails cause h).1, ?_⟩
  · intro p hp hliteral
    cases hread : leadingNumber? t with
    | none => exact absurd hliteral (not_isLiteral_of_leadingNumber hread hp)
    | some x =>
        obtain ⟨literal, hdenoted, hlongest⟩ := longest_of_leadingNumber hread
        refine ⟨literal, x, hlongest, hdenoted, hdenoted.readLiteral_eq, hdenoted.isNaN_eq_false, ?_⟩
        rw [readLeadingNumber_of_longest hlongest, hdenoted.readLiteral_eq]
  · rintro ⟨cause, h, -⟩ p hp
    exact not_isLiteral_of_leadingNumber (hfails cause h).2 hp
  · intro hnone
    cases hread : leadingNumber? t with
    | none =>
        refine ⟨.notNumericText t, ?_, rfl⟩
        rw [readLeadingNumber, hread]
        rfl
    | some x =>
        obtain ⟨literal, -, hlongest⟩ := longest_of_leadingNumber hread
        exact absurd hlongest.isLiteral (hnone literal hlongest.front)
  · intro hliteral rest hends
    have halone : LongestLiteral t (Text.dropBlanks (t ++ [])) :=
      hliteral.longest_append fun more hmore hne => absurd (List.prefix_nil.1 hmore) hne
    rw [List.append_nil] at halone
    rw [readLeadingNumber_of_longest (hliteral.longest_append hends),
      readLeadingNumber_of_longest halone]

/-- A point and a sign that are not part of the number in front of them. -/
example : leadingNumber? " -1.5e+.5" = leadingNumber? "-1.5" := by
  decide +kernel

end CellCalc

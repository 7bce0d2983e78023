import CellCalc.Proofs.Lexemes

/-!
# DecimalNotation — what decimal notation stands for, and how much of a text it is

Decimal notation is a run of digits with at most one point, and perhaps an exponent with a sign of
its own. A half-written exponent is none, and a point alone is no number, so what is left over may
look like more of one. Reading takes the longest notation at the front of a text, and the notation
read alone stands for the same decimal.

* `Decimal.IsSign`, `Decimal.IsExponent`, `Decimal.IsUnsigned` — the parts of a decimal as they are
  written, each with what it stands for.
* `Decimal.scan_of_isUnsigned` — notation alone is read as what it stands for.
* `Decimal.exists_isUnsigned` — what is read at the front of a text is notation.
* `Decimal.scan_append` — where there is notation at least as much is read.
-/

namespace CellCalc

/-! ## Signs -/

namespace Decimal

/-- A sign, or none; is it the one of negative numbers? -/
inductive IsSign : Bool → Text → Prop
  | none : IsSign false []
  | plus : IsSign false ['+']
  | minus : IsSign true ['-']

theorem exists_isSign (t : Text) : ∃ s, t = s ++ (sign t).2 ∧ IsSign (sign t).1 s := by
  unfold sign
  split
  · exact ⟨['-'], rfl, .minus⟩
  · exact ⟨['+'], rfl, .plus⟩
  · exact ⟨[], rfl, .none⟩

theorem sign_append {negative : Bool} {s t : Text} (h : IsSign negative s)
    (ht : ∀ c ∈ t.head?, c ≠ '+' ∧ c ≠ '-') : sign (s ++ t) = (negative, t) := by
  cases h with
  | plus => rfl
  | minus => rfl
  | none =>
      rw [List.nil_append]
      unfold sign
      split
      · exact absurd rfl (ht '-' rfl).2
      · exact absurd rfl (ht '+' rfl).1
      · rfl

/-! ## Exponents -/

/-- The number with this sign. -/
def signed (negative : Bool) (n : Nat) : Int :=
  if negative then -(n : Int) else n

/-- An exponent with its value, or none, which stands for zero. -/
inductive IsExponent : Int → Text → Prop
  | none : IsExponent 0 []
  | written {mark : Char} {negative : Bool} {s digits : Text} : mark = 'e' ∨ mark = 'E' →
      IsSign negative s → digits ≠ [] → (∀ c ∈ digits, c.isDigit = true) →
        IsExponent (signed negative (digitsValue digits)) (mark :: (s ++ digits))

theorem ne_mark_of_digit {c : Char} (h : c.isDigit = true ∨ c = '.') :
    c ≠ '+' ∧ c ≠ '-' ∧ c ≠ 'I' := by
  refine ⟨?_, ?_, ?_⟩
  · rintro rfl
    exact absurd h (by decide)
  · rintro rfl
    exact absurd h (by decide)
  · rintro rfl
    exact absurd h (by decide)

theorem head?_run_ne_sign {run : Text} (hne : run ≠ []) (h : ∀ c ∈ run, c.isDigit = true)
    (rest : Text) : ∀ c ∈ (run ++ rest).head?, c ≠ '+' ∧ c ≠ '-' := by
  obtain ⟨d, run, rfl⟩ := List.exists_cons_of_ne_nil hne
  intro c hc
  obtain rfl : d = c := by simpa using hc
  have hmarks := ne_mark_of_digit (Or.inl (h d (by simp)))
  exact ⟨hmarks.1, hmarks.2.1⟩

/-- An exponent is read up to the first character that is no digit. -/
theorem exponentPart_of_written {mark : Char} {negative : Bool} {s run rest : Text}
    (hmark : mark = 'e' ∨ mark = 'E') (hs : IsSign negative s) (hne : run ≠ [])
    (hrun : ∀ c ∈ run, c.isDigit = true) (hrest : ∀ c ∈ rest.head?, c.isDigit = false) :
    exponentPart (mark :: (s ++ run) ++ rest) = (signed negative (digitsValue run), rest) := by
  have hsign := sign_append hs (head?_run_ne_sign hne hrun rest)
  rw [List.cons_append, List.append_assoc, exponentPart, hsign]
  simp only [digits_append_of_digit hrun hrest]
  rw [if_pos ⟨hmark, hne⟩, signed]

theorem exponentPart_of_isExponent {n : Int} {e : Text} (h : IsExponent n e) :
    exponentPart e = (n, []) := by
  cases h with
  | none => rfl
  | written hmark hs hne hdigits =>
      have hend : ∀ c ∈ ([] : Text).head?, c.isDigit = false := by simp
      have hread := exponentPart_of_written hmark hs hne hdigits hend
      rwa [List.append_nil] at hread

/-- What is read at the front of a text is an exponent, or there is none. -/
theorem exists_isExponent (t : Text) :
    ∃ e, t = e ++ (exponentPart t).2 ∧ IsExponent (exponentPart t).1 e := by
  cases t with
  | nil => exact ⟨[], rfl, .none⟩
  | cons c rest =>
      obtain ⟨s, hsplit, hs⟩ := exists_isSign rest
      have hrun : ∀ d ∈ (sign rest).2.takeWhile Char.isDigit, d.isDigit = true := fun d hd =>
        Text.of_mem_takeWhile hd
      have hafter : ∀ d ∈ ((sign rest).2.dropWhile Char.isDigit).head?, d.isDigit = false :=
        fun d hd => Text.of_mem_head?_dropWhile hd
      by_cases hexponent : (c = 'e' ∨ c = 'E') ∧ (sign rest).2.takeWhile Char.isDigit ≠ []
      · -- the sign, the digits, and what follows them
        have hwhole : c :: rest = c :: (s ++ (sign rest).2.takeWhile Char.isDigit) ++
            (sign rest).2.dropWhile Char.isDigit := by
          rw [List.cons_append, List.append_assoc, List.takeWhile_append_dropWhile, ← hsplit]
        have hread := exponentPart_of_written hexponent.1 hs hexponent.2 hrun hafter
        rw [← hwhole] at hread
        rw [hread]
        exact ⟨_, hwhole, .written hexponent.1 hs hexponent.2 hrun⟩
      · have hread : exponentPart (c :: rest) = (0, c :: rest) := if_neg hexponent
        rw [hread]
        exact ⟨[], rfl, .none⟩

/-! ## Decimal notation -/

/-- Decimal notation without a sign, with its coefficient and its exponent: digits with at most one
point among them or at either end, and perhaps an exponent. -/
inductive IsUnsigned : Nat → Int → Text → Prop
  | whole {digits e : Text} {n : Int} : digits ≠ [] → (∀ c ∈ digits, c.isDigit = true) →
      IsExponent n e → IsUnsigned (digitsValue digits) n (digits ++ e)
  | pointed {digits after e : Text} {n : Int} : digits ≠ [] ∨ after ≠ [] →
      (∀ c ∈ digits, c.isDigit = true) → (∀ c ∈ after, c.isDigit = true) → IsExponent n e →
        IsUnsigned (digitsValue (digits ++ after)) (n - after.length) (digits ++ '.' :: (after ++ e))

theorem IsExponent.head? {n : Int} {e : Text} (h : IsExponent n e) :
    ∀ c ∈ e.head?, c.isDigit = false ∧ c ≠ '.' := by
  cases h with
  | none => simp
  | written hmark =>
      intro c hc
      obtain rfl := Option.some.inj hc
      rcases hmark with rfl | rfl
      · decide
      · decide

/-- Decimal notation alone is read as what it stands for. -/
theorem scan_of_isUnsigned {coefficient : Nat} {exponent : Int} {w : Text}
    (h : IsUnsigned coefficient exponent w) (negative : Bool) :
    scan negative w = some (⟨negative, coefficient, exponent⟩, []) := by
  cases h with
  | whole hne hdigits he =>
      rw [scan_whole negative hne hdigits he.head?, exponentPart_of_isExponent he]
  | pointed hne hdigits hafter he =>
      rw [scan_pointed negative hne hdigits hafter fun c hc => (he.head? c hc).1,
        exponentPart_of_isExponent he]

/-! ## Decimal notation at the front of a text -/

/-- A number that what follows cannot make longer is read to its end, and then its exponent. -/
theorem scan_numeral {m after : Text} (hm : Lexeme.IsNumeral m) (hends : Lexeme.NumeralEnds m after)
    (negative : Bool) : ∃ (coefficient places : Nat),
      scan negative (m ++ after) = some (⟨negative, coefficient, (exponentPart after).1 - places⟩,
        (exponentPart after).2) ∧
      ∀ n e, IsExponent n e → IsUnsigned coefficient (n - places) (m ++ e) := by
  have hdigit : ∀ c ∈ after.head?, c.isDigit = false := fun c hc => (hends c hc).1
  cases hm with
  | whole hne hdigits =>
      have hpoint : ∀ c ∈ after.head?, c.isDigit = false ∧ c ≠ '.' := by
        intro c hc
        refine ⟨hdigit c hc, fun hsame => ?_⟩
        exact absurd (hdigits '.' ((hends c hc).2 hsame)) (by decide)
      refine ⟨digitsValue m, 0, ?_, fun n e he => ?_⟩
      · rw [scan_whole negative hne hdigits hpoint, Int.natCast_zero, Int.sub_zero]
      · rw [Int.natCast_zero, Int.sub_zero]
        exact .whole hne hdigits he
  | @pointed digits part hne hdigits hpart =>
      refine ⟨digitsValue (digits ++ part), part.length, ?_, fun n e he => ?_⟩
      · rw [List.append_assoc, List.cons_append,
          scan_pointed negative (Or.inl hne) hdigits hpart hdigit]
      · rw [List.append_assoc, List.cons_append]
        exact .pointed (Or.inl hne) hdigits hpart he
  | @fraction part hne hpart =>
      have hnone : ∀ c ∈ ([] : Text), c.isDigit = true := by simp
      exact ⟨digitsValue part, part.length,
        scan_pointed negative (Or.inr hne) hnone hpart hdigit,
        fun n e he => .pointed (Or.inr hne) hnone hpart he⟩

theorem startsNumeral_of_scan {negative : Bool} {c : Char} {rest after : Text} {d : Decimal}
    (h : scan negative (c :: rest) = some (d, after)) : Lexeme.startsNumeral c rest = true := by
  cases hdigit : c.isDigit with
  | true => simp [Lexeme.startsNumeral, hdigit]
  | false =>
      have hdigits : digits (c :: rest) = ([], c :: rest) := by simp [digits, hdigit]
      by_cases hpoint : c = '.'
      · subst hpoint
        -- a point alone needs a digit after it
        cases hhead : rest.head?.any Char.isDigit with
        | true => simp [Lexeme.startsNumeral, hhead]
        | false =>
            have hpart : rest.takeWhile Char.isDigit = [] := by
              cases rest with
              | nil => rfl
              | cons d rest =>
                  have hd : d.isDigit = false := by simpa using hhead
                  simp [hd]
            simp [scan, fraction, digits, hpart] at h
      · have hfraction : fraction (c :: rest) = ([], c :: rest) := by
          unfold fraction
          split
          · next heq => exact absurd (List.cons.inj heq).1 hpoint
          · rfl
        simp [scan, hdigits, hfraction] at h

/-- What is read at the front of a text is decimal notation. -/
theorem exists_isUnsigned {negative : Bool} {t rest : Text} {d : Decimal}
    (h : scan negative t = some (d, rest)) :
    ∃ w, t = w ++ rest ∧ d.negative = negative ∧ IsUnsigned d.coefficient d.exponent w := by
  cases t with
  | nil => simp [scan, digits, fraction] at h
  | cons c u =>
      obtain ⟨after, hsplit, hm, hends⟩ := Lexeme.exists_numeral (startsNumeral_of_scan h)
      obtain ⟨e, hafter, he⟩ := exists_isExponent after
      obtain ⟨coefficient, places, hscan, hwritten⟩ := scan_numeral hm hends negative
      rw [← hsplit, h] at hscan
      obtain ⟨rfl, rfl⟩ := Prod.mk.inj (Option.some.inj hscan)
      refine ⟨_, ?_, rfl, hwritten _ e he⟩
      rw [List.append_assoc, ← hafter, ← hsplit]

theorem length_exponentPart_append {n : Int} {e : Text} (h : IsExponent n e) (rest : Text) :
    (exponentPart (e ++ rest)).2.length ≤ rest.length := by
  cases h with
  | none =>
      obtain ⟨e, hsplit, -⟩ := exists_isExponent rest
      have hlength := congrArg List.length hsplit
      rw [List.length_append] at hlength
      rw [List.nil_append]
      omega
  | @written mark negative s digits hmark hs hne hdigits =>
      -- the digits go on as far as they can
      have hrun : ∀ c ∈ digits ++ rest.takeWhile Char.isDigit, c.isDigit = true := by
        intro c hc
        exact (List.mem_append.1 hc).elim (hdigits c) Text.of_mem_takeWhile
      have hend : ∀ c ∈ (rest.dropWhile Char.isDigit).head?, c.isDigit = false := fun c hc =>
        Text.of_mem_head?_dropWhile hc
      have hread := exponentPart_of_written hmark hs (by simp [hne]) hrun hend
      rw [List.cons_append, List.append_assoc, List.append_assoc,
        List.takeWhile_append_dropWhile] at hread
      rw [List.cons_append, List.append_assoc, hread]
      exact (List.dropWhile_suffix _).length_le

theorem IsUnsigned.exists_numeral {coefficient : Nat} {exponent : Int} {w : Text}
    (h : IsUnsigned coefficient exponent w) :
    ∃ m n e, w = m ++ e ∧ Lexeme.IsNumeral m ∧ IsExponent n e := by
  cases h with
  | whole hne hdigits he => exact ⟨_, _, _, rfl, .whole hne hdigits, he⟩
  | @pointed digits after e n hne hdigits hafter he =>
      refine ⟨digits ++ '.' :: after, n, e, by simp, ?_, he⟩
      by_cases hwhole : digits = []
      · subst hwhole
        exact .fraction (hne.resolve_left fun h => h rfl) hafter
      · exact .pointed hwhole hdigits hafter

/-- Where decimal notation stands at the front of a text, at least as much is read. -/
theorem scan_append {coefficient : Nat} {exponent : Int} {w : Text}
    (h : IsUnsigned coefficient exponent w) (negative : Bool) (rest : Text) :
    ∃ d after, scan negative (w ++ rest) = some (d, after) ∧ after.length ≤ rest.length := by
  obtain ⟨m, n, e, rfl, hm, he⟩ := h.exists_numeral
  cases e with
  | nil =>
      -- the number may go on, and an exponent may follow it
      obtain ⟨c, more, rfl, -, hstarts⟩ := hm.starts rest
      obtain ⟨after, hsplit, hm', hends⟩ := Lexeme.exists_numeral hstarts
      obtain ⟨coefficient, places, hscan, -⟩ := scan_numeral hm' hends negative
      rw [← hsplit] at hscan
      have hlonger := hends.longest hm hsplit
      have hexponent := length_exponentPart_append .none after
      have hlength := congrArg List.length hsplit
      rw [List.nil_append] at hexponent
      simp only [List.length_append, List.length_cons] at hlength hlonger
      rw [List.append_nil, List.cons_append]
      exact ⟨_, _, hscan, by omega⟩
  | cons mark e =>
      -- the exponent ends the number, but its digits may go on
      have hends : Lexeme.NumeralEnds m (mark :: e ++ rest) := by
        intro c hc
        obtain ⟨hdigit, hpoint⟩ := he.head? c hc
        exact ⟨hdigit, fun hsame => absurd hsame hpoint⟩
      obtain ⟨coefficient, places, hscan, -⟩ := scan_numeral hm hends negative
      rw [List.append_assoc]
      exact ⟨_, _, hscan, length_exponentPart_append he rest⟩

/-! ## The characters of decimal notation -/

theorem IsSign.chars {negative : Bool} {s : Text} (h : IsSign negative s) :
    ∀ c ∈ s, c ∈ ['+', '-', '.', 'e', 'E'] := by
  cases h with
  | none => simp
  | plus => simp
  | minus => simp

theorem IsUnsigned.chars {coefficient : Nat} {exponent : Int} {w : Text}
    (h : IsUnsigned coefficient exponent w) :
    ∀ c ∈ w, c.isDigit = true ∨ c ∈ ['+', '-', '.', 'e', 'E'] := by
  obtain ⟨m, n, e, rfl, hm, he⟩ := h.exists_numeral
  intro c hc
  rcases List.mem_append.1 hc with hc | hc
  · rcases hm.chars c hc with hdigit | rfl
    · exact Or.inl hdigit
    · exact Or.inr (by simp)
  · cases he with
    | none => cases hc
    | written hmark hs _ hdigits =>
        rcases List.mem_cons.1 hc with rfl | hc
        · exact Or.inr (by rcases hmark with rfl | rfl <;> simp)
        · exact (List.mem_append.1 hc).elim (fun hc => Or.inr (hs.chars c hc)) fun hc =>
            Or.inl (hdigits c hc)

/-- Decimal notation begins with a digit or a point, so neither with a sign nor with the word for an
infinity. -/
theorem IsUnsigned.head? {coefficient : Nat} {exponent : Int} {w : Text}
    (h : IsUnsigned coefficient exponent w) (rest : Text) :
    ∀ c ∈ (w ++ rest).head?, c ≠ '+' ∧ c ≠ '-' ∧ c ≠ 'I' := by
  obtain ⟨m, n, e, rfl, hm, -⟩ := h.exists_numeral
  obtain ⟨d, more, rfl, -, -⟩ := hm.starts []
  intro c hc
  obtain rfl : d = c := by simpa using hc
  exact ne_mark_of_digit (hm.chars d (by simp))

end Decimal

end CellCalc

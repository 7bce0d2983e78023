import CellCalc.Proofs.CellIds
import CellCalc.Token.Lexer

/-!
# Lexemes — how each lexeme is written, and what may stand after it

The kinds of lexemes are told apart by how they are written and by the character that follows. A
number and a name reach as far as they can, and a name calls a function just where an opening
parenthesis follows at once.

* `Lexeme.Spelled` — a lexeme of a kind, as it is written before some rest.
* `Lexeme.NumeralEnds.longest` — where a number ends it is the longest one.
* `Lexeme.front_of_spelled` — a lexeme at the front of a text is read.
* `Lexeme.spelled_of_front` — what is read at the front of a text is a lexeme.
* `Lexeme.Refused`, `Lexeme.refused_of_front` — what is no lexeme, and how much of it is taken.
-/

namespace CellCalc
namespace Lexeme

/-! ## The written forms -/

/-- Digits with at most one point among them or at either end. -/
inductive IsNumeral : Text → Prop
  | whole {digits : Text} : digits ≠ [] → (∀ c ∈ digits, c.isDigit = true) → IsNumeral digits
  | pointed {digits after : Text} : digits ≠ [] → (∀ c ∈ digits, c.isDigit = true) →
      (∀ c ∈ after, c.isDigit = true) → IsNumeral (digits ++ '.' :: after)
  | fraction {after : Text} : after ≠ [] → (∀ c ∈ after, c.isDigit = true) →
      IsNumeral ('.' :: after)

/-- What follows cannot make a number longer. -/
def NumeralEnds (written rest : Text) : Prop :=
  ∀ c ∈ rest.head?, c.isDigit = false ∧ (c = '.' → '.' ∈ written)

/-- A letter, then letters, digits and underscores. -/
def IsName (written : Text) : Prop :=
  (∃ c ∈ written.head?, c.isAlpha = true) ∧ ∀ c ∈ written, Text.isWordChar c = true

/-- What follows cannot make a name longer. -/
def NameEnds (rest : Text) : Prop :=
  ∀ c ∈ rest.head?, Text.isWordChar c = false

/-- A lexeme of a kind, with the text that its token holds, as it is written before some rest. -/
inductive Spelled : TokenKind → Text → Text → Text → Prop
  | number {written rest : Text} : IsNumeral written → NumeralEnds written rest →
      Spelled .number written written rest
  | string {inside rest : Text} : '"' ∉ inside → Spelled .string inside ('"' :: inside ++ ['"']) rest
  | function {written rest : Text} : IsName written → NameEnds rest → rest.head? = some '(' →
      Spelled .function written written rest
  | cell {label digits rest : Text} : label ≠ [] → digits ≠ [] →
      (∀ c ∈ label, c.isAlpha = true) → (∀ c ∈ digits, c.isDigit = true) → NameEnds rest →
        rest.head? ≠ some '(' → Spelled .cell (label ++ digits) (label ++ digits) rest
  | leftParen {rest : Text} : Spelled .leftParen ['('] ['('] rest
  | rightParen {rest : Text} : Spelled .rightParen [')'] [')'] rest
  | comma {rest : Text} : Spelled .comma [','] [','] rest
  | colon {rest : Text} : Spelled .colon [':'] [':'] rest
  | operator {c : Char} {rest : Text} : c ∈ ['+', '-', '*', '/'] → Spelled .operator [c] [c] rest

/-! ## Numbers -/

theorem IsNumeral.starts {written : Text} (h : IsNumeral written) (rest : Text) :
    ∃ c more, written = c :: more ∧ Text.isBlank c = false ∧
      startsNumeral c (more ++ rest) = true := by
  -- a digit is a word character, hence not blank
  have hdigit : ∀ c : Char, c.isDigit = true → Text.isBlank c = false := fun c hc =>
    Text.not_isBlank_of_isWordChar (Text.isWordChar_of_isDigit hc)
  cases h with
  | whole hne hdigits =>
      obtain ⟨c, more, rfl⟩ := List.exists_cons_of_ne_nil hne
      have hc := hdigits c (by simp)
      exact ⟨c, more, rfl, hdigit c hc, by simp [startsNumeral, hc]⟩
  | @pointed digits after hne hdigits _ =>
      obtain ⟨c, more, rfl⟩ := List.exists_cons_of_ne_nil hne
      have hc := hdigits c (by simp)
      exact ⟨c, more ++ '.' :: after, rfl, hdigit c hc, by simp [startsNumeral, hc]⟩
  | @fraction after hne hafter =>
      obtain ⟨c, more, rfl⟩ := List.exists_cons_of_ne_nil hne
      have hc := hafter c (by simp)
      exact ⟨'.', c :: more, rfl, by decide, by simp [startsNumeral, hc]⟩

theorem numeral_append {written rest : Text} (h : IsNumeral written)
    (hends : NumeralEnds written rest) : numeral (written ++ rest) = written := by
  have hstop : ∀ c ∈ rest.head?, c.isDigit = false := fun c hc => (hends c hc).1
  have hpoint : ∀ after : Text, ∀ c ∈ ('.' :: after).head?, c.isDigit = false := by
    intro after c hc
    obtain rfl : '.' = c := by simpa using hc
    rfl
  cases h with
  | whole hne hdigits =>
      unfold numeral
      rw [Text.takeWhile_append hdigits hstop, Text.dropWhile_append hdigits hstop]
      split
      · -- a point after digits alone would be a part of the number
        rename_i after
        have hmem := (hends '.' rfl).2 rfl
        exact absurd (hdigits '.' hmem) (by decide)
      · rfl
  | @pointed digits after hne hdigits hafter =>
      -- the digits end at the point, and those after it where the number does
      unfold numeral
      rw [List.append_assoc, List.cons_append, Text.takeWhile_append hdigits (hpoint _),
        Text.dropWhile_append hdigits (hpoint _)]
      simp only [Text.takeWhile_append hafter hstop]
  | @fraction after hne hafter =>
      have hempty : ∀ c ∈ ([] : Text), c.isDigit = true := by simp
      unfold numeral
      rw [← List.nil_append ('.' :: after ++ rest), List.cons_append,
        Text.takeWhile_append hempty (hpoint _), Text.dropWhile_append hempty (hpoint _)]
      simp only [Text.takeWhile_append hafter hstop, List.nil_append]

theorem exists_numeral {c : Char} {rest : Text} (h : startsNumeral c rest = true) :
    ∃ after, c :: rest = numeral (c :: rest) ++ after ∧ IsNumeral (numeral (c :: rest)) ∧
      NumeralEnds (numeral (c :: rest)) after := by
  have hsplit := List.takeWhile_append_dropWhile (p := Char.isDigit) (l := c :: rest)
  have hdigits : ∀ d ∈ (c :: rest).takeWhile Char.isDigit, d.isDigit = true := fun d hd =>
    Text.of_mem_takeWhile hd
  unfold numeral
  split
  · rename_i after hdrop
    -- the digits end at a point, which takes the digits after it along
    have hafter := List.takeWhile_append_dropWhile (p := Char.isDigit) (l := after)
    have hdigitsAfter : ∀ d ∈ after.takeWhile Char.isDigit, d.isDigit = true := fun d hd =>
      Text.of_mem_takeWhile hd
    refine ⟨after.dropWhile Char.isDigit, ?_, ?_, ?_⟩
    · rw [List.append_assoc, List.cons_append, hafter, ← hdrop, hsplit]
    · by_cases hwhole : (c :: rest).takeWhile Char.isDigit = []
      · -- no digit before the point, so one after it
        rw [hwhole, List.nil_append] at hsplit
        have hcons : c :: rest = '.' :: after := hsplit.symm.trans hdrop
        obtain ⟨rfl, rfl⟩ := List.cons.inj hcons
        have hhead : rest.head?.any Char.isDigit = true := by simpa [startsNumeral] using h
        rw [hwhole]
        refine .fraction ?_ hdigitsAfter
        cases rest with
        | nil => simp at hhead
        | cons d rest =>
            have hd : d.isDigit = true := by simpa using hhead
            simp [hd]
      · exact .pointed hwhole hdigits hdigitsAfter
    · intro d hd
      exact ⟨Text.of_mem_head?_dropWhile hd, fun _ => by simp⟩
  · rename_i hnot
    -- no point follows the digits, so there is at least one of them
    refine ⟨(c :: rest).dropWhile Char.isDigit, hsplit.symm, ?_, ?_⟩
    · refine .whole ?_ hdigits
      intro hwhole
      have hc := Text.eq_false_of_takeWhile_eq_nil hwhole
      have hpoint : c = '.' := by
        simp only [startsNumeral, hc, Bool.false_or, Bool.and_eq_true, beq_iff_eq] at h
        exact h.1
      exact hnot rest (by simp [hpoint])
    · intro d hd
      refine ⟨Text.of_mem_head?_dropWhile hd, ?_⟩
      rintro rfl
      cases hdrop : (c :: rest).dropWhile Char.isDigit with
      | nil => simp [hdrop] at hd
      | cons e after =>
          obtain rfl : e = '.' := by simpa [hdrop] using hd
          exact absurd hdrop (hnot after)

theorem IsNumeral.chars {m : Text} (h : IsNumeral m) : ∀ c ∈ m, c.isDigit = true ∨ c = '.' := by
  cases h with
  | whole _ hdigits => exact fun c hc => Or.inl (hdigits c hc)
  | pointed _ hdigits hafter =>
      intro c hc
      rcases List.mem_append.1 hc with hc | hc
      · exact Or.inl (hdigits c hc)
      · exact (List.mem_cons.1 hc).elim Or.inr fun hc => Or.inl (hafter c hc)
  | fraction _ hafter =>
      exact fun c hc => (List.mem_cons.1 hc).elim Or.inr fun hc => Or.inl (hafter c hc)

theorem IsNumeral.count_point_le {m : Text} (h : IsNumeral m) : m.count '.' ≤ 1 := by
  have hnone : ∀ {run : Text}, (∀ c ∈ run, c.isDigit = true) → run.count '.' = 0 := by
    intro run hrun
    refine List.count_eq_zero.2 fun hmem => ?_
    exact absurd (hrun '.' hmem) (by decide)
  cases h with
  | whole _ hdigits => simp [hnone hdigits]
  | pointed _ hdigits hafter => simp [List.count_append, hnone hdigits, hnone hafter]
  | fraction _ hafter => simp [hnone hafter]

/-- A number that what follows cannot make longer is the longest one. -/
theorem NumeralEnds.longest {m after m' rest : Text} (hends : NumeralEnds m after)
    (h : IsNumeral m') (hsame : m' ++ rest = m ++ after) : m'.length ≤ m.length := by
  refine Nat.le_of_not_lt fun hlonger => ?_
  rcases List.append_eq_append_iff.1 hsame with ⟨more, rfl, -⟩ | ⟨more, rfl, rfl⟩
  · rw [List.length_append] at hlonger
    omega
  · -- the next character would be a second point
    cases more with
    | nil => simp at hlonger
    | cons c more =>
        obtain ⟨hdigit, hpoint⟩ := hends c rfl
        have hc : c = '.' := by
          refine (h.chars c (by simp)).resolve_left ?_
          rw [hdigit]
          decide
        subst hc
        have hfirst : 0 < m.count '.' := List.count_pos_iff.2 (hpoint rfl)
        have hcount := h.count_point_le
        rw [List.count_append, List.count_cons_self] at hcount
        omega

/-! ## Strings, names and symbols -/

theorem string_append {inside rest : Text} (h : '"' ∉ inside) :
    string (inside ++ '"' :: rest) = .token .string inside (inside.length + 1) := by
  have hinside : ∀ c ∈ inside, decide (c ≠ '"') = true := by
    intro c hc
    refine decide_eq_true ?_
    rintro rfl
    exact h hc
  unfold string
  rw [Text.takeWhile_append hinside (by simp), if_pos (by simp)]

theorem exists_string {rest text : Text} {kind : TokenKind} {more : Nat}
    (h : string rest = .token kind text more) :
    ∃ after, rest = text ++ '"' :: after ∧ '"' ∉ text ∧ kind = .string ∧
      more = text.length + 1 := by
  have hsplit := List.takeWhile_append_dropWhile (p := fun c => decide (c ≠ '"')) (l := rest)
  unfold string at h
  dsimp only at h
  split at h
  · rename_i hshorter
    simp only [Lexeme.token.injEq] at h
    rcases h with ⟨rfl, rfl, rfl⟩
    have hquote : '"' ∉ rest.takeWhile fun c => decide (c ≠ '"') := by
      intro hmem
      have hne := Text.of_mem_takeWhile hmem
      simp at hne
    -- what is left after the inside starts with the closing quote
    cases hdrop : rest.dropWhile fun c => decide (c ≠ '"') with
    | nil =>
        rw [hdrop, List.append_nil] at hsplit
        rw [hsplit] at hshorter
        exact absurd hshorter (Nat.lt_irrefl _)
    | cons c after =>
        have hc := Text.of_mem_head?_dropWhile (c := c) (t := rest) (by rw [hdrop]; rfl)
        obtain rfl : c = '"' := by simpa using hc
        exact ⟨after, by rw [← hdrop, hsplit], hquote, rfl, rfl⟩
  · cases h

/-- A name reaches to the first character that cannot be part of one. -/
theorem ofName_append {written rest : Text} (h : IsName written) (hends : NameEnds rest) :
    ofName (written ++ rest) =
      if rest.head? = some '(' then .token .function written written.tail.length
      else if isCellId written then .token .cell written written.tail.length
      else .failure (.unknownName written) written.length := by
  have hname : name (written ++ rest) = written := Text.takeWhile_append h.2 hends
  unfold ofName
  simp only [hname, List.drop_left]

theorem exists_name {c : Char} (h : c.isAlpha = true) (rest : Text) :
    ∃ after, c :: rest = name (c :: rest) ++ after ∧ IsName (name (c :: rest)) ∧
      NameEnds after := by
  have hc : Text.isWordChar c = true := Text.isWordChar_of_isAlpha h
  refine ⟨(c :: rest).dropWhile Text.isWordChar, ?_, ⟨⟨c, ?_, h⟩, ?_⟩, ?_⟩
  · exact List.takeWhile_append_dropWhile.symm
  · simp [name, hc]
  · intro d hd
    exact Text.of_mem_takeWhile hd
  · intro d hd
    exact Text.of_mem_head?_dropWhile hd

theorem not_startsNumeral_of_isAlpha {c : Char} (h : c.isAlpha = true) (rest : Text) :
    startsNumeral c rest = false ∧ c ≠ '"' := by
  -- letters stand apart from digits, points and quotes
  have hdigit : c.isDigit = false := Text.isDigit_eq_false_of_isAlpha h
  have hmark : ∀ d : Char, d.isAlpha = false → c ≠ d := by
    rintro d hd rfl
    rw [h] at hd
    cases hd
  exact ⟨by simp [startsNumeral, hdigit, hmark '.' rfl], hmark '"' rfl⟩

theorem front_of_isAlpha {c : Char} (h : c.isAlpha = true) (rest : Text) :
    front c rest = ofName (c :: rest) := by
  rcases not_startsNumeral_of_isAlpha h rest with ⟨hnumeral, hquote⟩
  simp [front, hnumeral, hquote, h]

/-! ## One lexeme -/

theorem IsName.of_cell {label digits : Text} (hne : label ≠ [])
    (hlabel : ∀ c ∈ label, c.isAlpha = true) (hdigits : ∀ c ∈ digits, c.isDigit = true) :
    IsName (label ++ digits) := by
  obtain ⟨c, more, rfl⟩ := List.exists_cons_of_ne_nil hne
  refine ⟨⟨c, rfl, hlabel c (by simp)⟩, ?_⟩
  intro d hd
  rcases List.mem_append.1 hd with hd | hd
  · exact Text.isWordChar_of_isAlpha (hlabel d hd)
  · exact Text.isWordChar_of_isDigit (hdigits d hd)

theorem IsName.exists_cons {written : Text} (h : IsName written) :
    ∃ c more, written = c :: more ∧ c.isAlpha = true ∧ Text.isBlank c = false := by
  rcases h.1 with ⟨c, hc, halpha⟩
  cases written with
  | nil => cases hc
  | cons d more =>
      obtain rfl : d = c := by simpa using hc
      exact ⟨d, more, rfl, halpha, Text.not_isBlank_of_isWordChar (h.2 d (by simp))⟩

/-- A lexeme at the front of a text is read as what it is. -/
theorem front_of_spelled {kind : TokenKind} {text written rest : Text}
    (h : Spelled kind text written rest) :
    ∃ c more, written = c :: more ∧ Text.isBlank c = false ∧
      front c (more ++ rest) = .token kind text more.length := by
  cases h with
  | number hnumeral hends =>
      rcases hnumeral.starts rest with ⟨c, more, rfl, hblank, hstarts⟩
      have hread := numeral_append hnumeral hends
      rw [List.cons_append] at hread
      exact ⟨c, more, rfl, hblank, by simp [front, hstarts, hread]⟩
  | string hinside =>
      refine ⟨'"', text ++ ['"'], rfl, by decide, ?_⟩
      have hfront : ∀ t : Text, front '"' t = string t := fun _ => rfl
      rw [hfront, List.append_assoc, List.singleton_append, string_append hinside,
        List.length_append]
      rfl
  | function hname hends hparen =>
      rcases hname.exists_cons with ⟨c, more, rfl, halpha, hblank⟩
      refine ⟨c, more, rfl, hblank, ?_⟩
      rw [front_of_isAlpha halpha, ← List.cons_append, ofName_append hname hends, if_pos hparen]
      rfl
  | @cell label digits _ hlabel hdigits halpha hdigit hends hparen =>
      -- an id is a name too, and no function without its parenthesis
      have hname := IsName.of_cell hlabel halpha hdigit
      have hid := isCellId_iff.2 ⟨label, digits, rfl, hlabel, hdigits, halpha, hdigit⟩
      rcases hname.exists_cons with ⟨c, more, hcons, hc, hblank⟩
      rw [hcons] at hname hid ⊢
      refine ⟨c, more, rfl, hblank, ?_⟩
      rw [front_of_isAlpha hc, ← List.cons_append, ofName_append hname hends, if_neg hparen,
        if_pos hid]
      rfl
  | leftParen => exact ⟨'(', [], rfl, by decide, rfl⟩
  | rightParen => exact ⟨')', [], rfl, by decide, rfl⟩
  | comma => exact ⟨',', [], rfl, by decide, rfl⟩
  | colon => exact ⟨':', [], rfl, by decide, rfl⟩
  | @operator c _ hc =>
      simp only [List.mem_cons, List.not_mem_nil, or_false] at hc
      rcases hc with rfl | rfl | rfl | rfl
      · exact ⟨'+', [], rfl, by decide, rfl⟩
      · exact ⟨'-', [], rfl, by decide, rfl⟩
      · exact ⟨'*', [], rfl, by decide, rfl⟩
      · exact ⟨'/', [], rfl, by decide, rfl⟩

theorem spelled_of_symbolKind? {c : Char} {kind : TokenKind} (h : symbolKind? c = some kind)
    (rest : Text) : Spelled kind [c] [c] rest := by
  unfold symbolKind? at h
  split at h
  · next hc => cases h; subst hc; exact .leftParen
  split at h
  · next hc => cases h; subst hc; exact .rightParen
  split at h
  · next hc => cases h; subst hc; exact .comma
  split at h
  · next hc => cases h; subst hc; exact .colon
  split at h
  · next hc =>
      cases h
      exact .operator (by simpa [isOperator, or_assoc] using hc)
  · cases h

/-- Reading goes on with what stands after a lexeme. -/
theorem drop_of_split {c : Char} {rest written after : Text} {more : Nat}
    (hsplit : c :: rest = written ++ after) (hlength : written.length = more + 1) :
    rest.drop more = after := by
  have hdrop := congrArg (List.drop (more + 1)) hsplit
  rwa [List.drop_succ_cons, ← hlength, List.drop_left] at hdrop

/-- What is read at the front of a text is a lexeme, and covers what it says. -/
theorem spelled_of_front {c : Char} {rest text : Text} {kind : TokenKind} {more : Nat}
    (h : front c rest = .token kind text more) :
    ∃ written after, c :: rest = written ++ after ∧ written.length = more + 1 ∧
      Spelled kind text written after := by
  unfold front at h
  split at h
  · next hstarts =>
      rcases exists_numeral hstarts with ⟨after, hsplit, hnumeral, hends⟩
      rcases hnumeral.starts after with ⟨d, tail, hcons, -, -⟩
      simp only [Lexeme.token.injEq] at h
      rcases h with ⟨rfl, rfl, rfl⟩
      exact ⟨_, after, hsplit, by simp [hcons], .number hnumeral hends⟩
  split at h
  · next hquote =>
      rcases exists_string h with ⟨after, rfl, hinside, rfl, rfl⟩
      exact ⟨'"' :: text ++ ['"'], after, by simp [hquote], by simp, .string hinside⟩
  split at h
  · next halpha =>
      rcases exists_name halpha rest with ⟨after, hsplit, hname, hends⟩
      rcases hname.exists_cons with ⟨d, tail, hcons, -, -⟩
      rw [hsplit, ofName_append hname hends] at h
      split at h
      · next hparen =>
          simp only [Lexeme.token.injEq] at h
          rcases h with ⟨rfl, rfl, rfl⟩
          exact ⟨_, after, hsplit, by simp [hcons], .function hname hends hparen⟩
      split at h
      · next hparen hid =>
          simp only [Lexeme.token.injEq] at h
          rcases h with ⟨rfl, rfl, rfl⟩
          refine ⟨_, after, hsplit, by simp [hcons], ?_⟩
          rcases isCellId_iff.1 hid with ⟨label, digits, hword, hlabel, hdigits, hall, hdigit⟩
          rw [hword]
          exact .cell hlabel hdigits hall hdigit hends hparen
      · cases h
  · split at h
    · next kind' hkind =>
        simp only [Lexeme.token.injEq] at h
        rcases h with ⟨rfl, rfl, rfl⟩
        exact ⟨[c], rest, rfl, rfl, spelled_of_symbolKind? hkind rest⟩
    · cases h

/-! ## What is no lexeme -/

/-- What stands at the front of a text and is no lexeme, for this cause: the part that is taken of
it, and the rest. -/
inductive Refused : Failure → Text → Text → Prop
  | character {c : Char} {rest : Text} : Text.isBlank c = false → startsNumeral c rest = false →
      c ≠ '"' → c.isAlpha = false → symbolKind? c = none →
        Refused (.unknownCharacter c) [] (c :: rest)
  | string {inside : Text} : '"' ∉ inside → Refused .unclosedString ['"'] inside
  | name {written rest : Text} : IsName written → NameEnds rest → rest.head? ≠ some '(' →
      isCellId written = false → Refused (.unknownName written) written rest

theorem notMem_of_string_failure {rest : Text} {cause : Failure} {width : Nat}
    (h : string rest = .failure cause width) : '"' ∉ rest ∧ cause = .unclosedString ∧ width = 1 := by
  unfold string at h
  dsimp only at h
  split at h
  · cases h
  · next hall =>
      injection h with hcause hwidth
      -- the inside reaches to the end of the text
      have hrest : rest.takeWhile (fun c => decide (c ≠ '"')) = rest :=
        (List.takeWhile_prefix _).eq_of_length_le (Nat.le_of_not_lt hall)
      refine ⟨?_, hcause.symm, hwidth.symm⟩
      intro hmem
      rw [← hrest] at hmem
      have hne := Text.of_mem_takeWhile hmem
      simp at hne

theorem refused_of_front {c : Char} {rest : Text} {cause : Failure} {width : Nat}
    (hblank : Text.isBlank c = false) (h : front c rest = .failure cause width) :
    ∃ taken after, c :: rest = taken ++ after ∧ taken.length = width ∧
      Refused cause taken after := by
  unfold front at h
  split at h
  · cases h
  next hnumeral =>
  split at h
  · next hquote =>
      rcases notMem_of_string_failure h with ⟨hinside, rfl, rfl⟩
      exact ⟨['"'], rest, by rw [hquote]; rfl, rfl, .string hinside⟩
  next hquote =>
  split at h
  · next halpha =>
      rcases exists_name halpha rest with ⟨after, hsplit, hname, hends⟩
      rw [hsplit, ofName_append hname hends] at h
      split at h
      · cases h
      split at h
      · cases h
      next hparen hid =>
      injection h with hcause hwidth
      subst hcause hwidth
      exact ⟨_, after, hsplit, rfl, .name hname hends hparen (by simpa using hid)⟩
  next halpha =>
  split at h
  · cases h
  next hsymbol =>
  injection h with hcause hwidth
  subst hcause hwidth
  exact ⟨[], c :: rest, rfl, rfl,
    .character hblank (by simpa using hnumeral) hquote (by simpa using halpha) hsymbol⟩

theorem Refused.kind {cause : Failure} {taken after : Text} (h : Refused cause taken after) :
    cause.kind = .lexical := by
  cases h <;> rfl

end Lexeme
end CellCalc

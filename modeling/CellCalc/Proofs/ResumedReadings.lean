import CellCalc.Proofs.LexerExact

/-!
# ResumedReadings — a reader that is asked again and again

A reading stops at the end of its text or at something that is no lexeme. What it leaves differs: an
unknown character stays where it is, of an open string only the quote is gone, and of a name all of
it. So the next reading fails again, or begins in what was meant as the inside of a string, or after
the name. Each failure but the first kind moves the reader on, so the readings *settle*: after as
many of them as the text has characters nothing changes any more.

* `Lexeme.Refused.of_character`, `Lexeme.Refused.taken_ne_nil` — an unknown character stays, and of
  anything else something is taken.
* `Token.Stops`, `Token.stops_readFrom` — where a reading stops.
* `Lexer.after` — the reader after several readings.
* `Lexer.Settled`, `Lexer.settled_after` — a reader that every reading leaves as it is.
* `Lexer.readings_resume` — what each of several readings finds and leaves.
-/

namespace CellCalc

/-! ## What is left of something that is no lexeme -/

namespace Lexeme

/-- An unknown character is left where it is, and refused again by a reading that begins there. -/
theorem Refused.of_character {c : Char} {taken after : Text}
    (h : Refused (.unknownCharacter c) taken after) :
    taken = [] ∧ ∃ rest, after = c :: rest ∧
      ∀ place, Token.readFrom place (c :: rest) = (.error (.unknownCharacter c), place) := by
  cases h with
  | @character _ rest hblank hnumeral hquote halpha hsymbol =>
      have hfront : front c rest = .failure (.unknownCharacter c) 0 := by
        simp [front, hnumeral, hquote, halpha, hsymbol]
      refine ⟨rfl, rest, rfl, fun place => ?_⟩
      rw [Token.readFrom, hblank, if_neg (by decide), hfront]
      rfl

theorem Refused.taken_ne_nil {cause : Failure} {taken after : Text}
    (h : Refused cause taken after) : (∃ c, cause = .unknownCharacter c) ∨ taken ≠ [] := by
  cases h with
  | character => exact Or.inl ⟨_, rfl⟩
  | string => exact Or.inr (by simp)
  | name hname =>
      rcases hname.exists_cons with ⟨c, more, rfl, -, -⟩
      exact Or.inr (by simp)

end Lexeme

/-! ## Where a reading stops -/

namespace Token

/-- A reading of a text from a place on stops at the end, or after what is taken of something that
is no lexeme. -/
inductive Stops (f : Text) (start : Nat) : Except Failure (List Token) → Nat → Prop
  | atEnd {ts : List Token} : Stops f start (.ok ts) f.length
  | refused {before taken after : Text} {cause : Failure} : f = before ++ (taken ++ after) →
      start ≤ before.length → Lexeme.Refused cause taken after →
        Stops f start (.error cause) (before.length + taken.length)

theorem Stops.mono {f : Text} {start start' : Nat} {outcome : Except Failure (List Token)}
    {stop : Nat} (h : Stops f start outcome stop) (hstart : start' ≤ start) :
    Stops f start' outcome stop := by
  cases h with
  | atEnd => exact .atEnd
  | refused hf hbefore hrefused => exact .refused hf (Nat.le_trans hstart hbefore) hrefused

theorem Stops.map {f : Text} {start stop : Nat} {outcome : Except Failure (List Token)}
    (h : Stops f start outcome stop) (g : List Token → List Token) :
    Stops f start (outcome.map g) stop := by
  cases h with
  | atEnd => exact .atEnd
  | refused hf hbefore hrefused => exact .refused hf hbefore hrefused

theorem stops_readFrom (before t : Text) :
    Stops (before ++ t) before.length (readFrom before.length t).1
      (readFrom before.length t).2 := by
  -- along the reading, with what has been read so far standing before the place
  generalize hplace : before.length = place
  fun_induction readFrom place t generalizing before with
  | case1 place =>
      rw [List.append_nil, ← hplace]
      exact .atEnd
  | case2 place c rest hblank ih =>
      have hnext := ih (before ++ [c]) (by simp [hplace])
      rw [List.append_assoc, List.singleton_append] at hnext
      exact hnext.mono (Nat.le_succ place)
  | case3 place c rest hblank kind text more hfront tokens stop hread ih =>
      rcases Lexeme.spelled_of_front hfront with ⟨written, after, hsplit, hlength, -⟩
      have hafter : rest.drop more = after := Lexeme.drop_of_split hsplit hlength
      have hnext := ih (before ++ written) (by rw [List.length_append, hplace, hlength]; omega)
      rw [hread, hafter, List.append_assoc, ← hsplit] at hnext
      exact (hnext.mono (by omega)).map _
  | case4 place c rest hblank cause width hfront =>
      rcases Lexeme.refused_of_front (by simpa using hblank) hfront
        with ⟨taken, after, hsplit, rfl, hrefused⟩
      subst hplace
      exact .refused (congrArg (before ++ ·) hsplit) (Nat.le_refl _) hrefused

end Token

/-! ## Several readings -/

namespace Lexer

/-- The reader after so many readings. -/
def after (l : Lexer) : Nat → Lexer
  | 0 => l
  | times + 1 => l.read.2.after times

theorem after_add (l : Lexer) (times more : Nat) :
    l.after (times + more) = (l.after times).after more := by
  induction times generalizing l with
  | zero => rw [Nat.zero_add, after]
  | succ times ih => rw [Nat.succ_add, after, after, ih]

theorem after_succ (l : Lexer) (times : Nat) : l.after (times + 1) = (l.after times).read.2 :=
  after_add l times 1

theorem readings_eq (l : Lexer) (times : Nat) :
    l.readings times =
      (List.range times).map fun i => ((l.after i).read.1, (l.after i).read.2.place) := by
  induction times generalizing l with
  | zero => rfl
  | succ times ih =>
      rw [readings, ih, List.range_succ_eq_map, List.map_cons, List.map_map]
      rfl

/-- A reader reads as one at the start of what is left of its text, with the places moved. -/
theorem read_eq_shift (l : Lexer) :
    l.read = ((ofText (l.text.drop l.place)).read.1.map (List.map (Token.shift l.place)),
      { l with place := (ofText (l.text.drop l.place)).read.2.place + l.place }) := by
  have hshift := Token.readFrom_shift 0 l.place (l.text.drop l.place)
  rw [Nat.zero_add] at hshift
  simp only [read, ofText, hshift, List.drop_zero]

/-! ## One reading -/

/-- The reader has not gone beyond the end of its text. -/
def Inside (l : Lexer) : Prop :=
  l.place ≤ l.text.length

theorem stops_read {l : Lexer} (h : l.Inside) :
    Token.Stops l.text l.place l.read.1 l.read.2.place := by
  have hstops := Token.stops_readFrom (l.text.take l.place) (l.text.drop l.place)
  rwa [List.take_append_drop, List.length_take_of_le h] at hstops

theorem place_read {l : Lexer} (h : l.Inside) :
    l.place ≤ l.read.2.place ∧ l.read.2.place ≤ l.text.length := by
  have hstops := stops_read h
  generalize l.read.1 = outcome, l.read.2.place = stop at hstops
  cases hstops with
  | atEnd => exact ⟨h, Nat.le_refl _⟩
  | refused hf hbefore hrefused =>
      rw [hf]
      simp only [List.length_append]
      omega

theorem Inside.read {l : Lexer} (h : l.Inside) : l.read.2.Inside :=
  (place_read h).2

theorem Inside.after {l : Lexer} (h : l.Inside) (times : Nat) :
    (l.after times).Inside ∧ (l.after times).text = l.text ∧ l.place ≤ (l.after times).place := by
  induction times generalizing l with
  | zero => exact ⟨h, rfl, Nat.le_refl _⟩
  | succ times ih =>
      rcases ih h.read with ⟨hinside, htext, hplace⟩
      exact ⟨hinside, htext, Nat.le_trans (place_read h).1 hplace⟩

/-- A reading that fails stops at something that is no lexeme. -/
theorem exists_refused {l : Lexer} (h : l.Inside) {cause : Failure} (hread : l.read.1 = .error cause) :
    ∃ before taken after, l.text = before ++ (taken ++ after) ∧ l.place ≤ before.length ∧
      Lexeme.Refused cause taken after ∧ l.read.2.place = before.length + taken.length := by
  have hstops := stops_read h
  rw [hread] at hstops
  generalize l.read.2.place = stop at hstops ⊢
  cases hstops with
  | refused hf hbefore hrefused => exact ⟨_, _, _, hf, hbefore, hrefused, rfl⟩

theorem read_of_ok {l : Lexer} (h : l.Inside) {ts : List Token} (hread : l.read.1 = .ok ts) :
    l.read.2 = ⟨l.text, l.text.length⟩ := by
  have hstops := stops_read h
  rw [hread] at hstops
  have hstop : l.read.2.place = l.text.length := by
    generalize l.read.2.place = stop at hstops ⊢
    cases hstops
    rfl
  rw [← hstop]
  rfl

/-- Every failure but that at an unknown character moves the reader on. -/
theorem place_lt_of_error {l : Lexer} (h : l.Inside) {cause : Failure}
    (hread : l.read.1 = .error cause) :
    (∃ c, cause = .unknownCharacter c) ∨ l.place < l.read.2.place := by
  rcases exists_refused h hread with ⟨before, taken, after, -, hbefore, hrefused, hstop⟩
  rcases hrefused.taken_ne_nil with hcharacter | htaken
  · exact Or.inl hcharacter
  · have hpos := List.length_pos_iff.2 htaken
    exact Or.inr (by omega)

/-! ## Readers that have settled -/

/-- Reading once more finds the same and leaves the reader where it is. -/
def Settled (l : Lexer) : Prop :=
  l.read.2.read = l.read

theorem Settled.read_after {l : Lexer} (h : l.Settled) (times : Nat) :
    (l.after times).read = l.read := by
  induction times with
  | zero => rfl
  | succ times ih => rw [after_succ, ih, h]

theorem Settled.after {l : Lexer} (h : l.Settled) (times : Nat) : (l.after times).Settled := by
  rw [Settled, h.read_after, h]

theorem read_at_end (f : Text) :
    (Lexer.mk f f.length).read = (.ok [Token.final f.length], ⟨f, f.length⟩) := by
  rw [read, List.drop_length, Token.readFrom]

theorem settled_at_end (f : Text) : (Lexer.mk f f.length).Settled := by
  rw [Settled, read_at_end, read_at_end]

theorem settled_of_unknownCharacter {l : Lexer} (h : l.Inside) {c : Char}
    (hread : l.read.1 = .error (.unknownCharacter c)) :
    l.text[l.read.2.place]? = some c ∧ l.Settled := by
  rcases exists_refused h hread with ⟨before, taken, after, htext, -, hrefused, hstop⟩
  rcases hrefused.of_character with ⟨rfl, rest, rfl, hagain⟩
  rw [List.length_nil, Nat.add_zero] at hstop
  rw [List.nil_append] at htext
  constructor
  · rw [hstop, htext, List.getElem?_append_right (Nat.le_refl _), Nat.sub_self]
    rfl
  · -- the next reading begins at the character itself
    have hdrop : l.text.drop before.length = c :: rest := by rw [htext, List.drop_left]
    have hleft : l.read.2 = ⟨l.text, before.length⟩ := by
      rw [← hstop]
      rfl
    have hnext : (Lexer.mk l.text before.length).read =
        (.error (.unknownCharacter c), ⟨l.text, before.length⟩) := by
      simp only [read, hdrop, hagain]
    rw [Settled, hleft, hnext, ← hleft, ← hread]

/-- After as many readings as there are characters left nothing changes any more. -/
theorem settled_after {l : Lexer} (h : l.Inside) {times : Nat}
    (htimes : l.text.length - l.place ≤ times) : (l.after times).Settled := by
  induction times generalizing l with
  | zero =>
      have hplace : l.place = l.text.length := Nat.le_antisymm h (by omega)
      have hend : l = ⟨l.text, l.text.length⟩ := by rw [← hplace]
      rw [hend]
      exact settled_at_end l.text
  | succ times ih =>
      cases hread : l.read.1 with
      | ok ts =>
          rw [after, read_of_ok h hread]
          exact (settled_at_end l.text).after times
      | error cause =>
          rcases place_lt_of_error h hread with ⟨c, rfl⟩ | hplace
          · exact (settled_of_unknownCharacter h hread).2.after (times + 1)
          · -- the reader has moved on, so one reading less is needed
            have htext : l.read.2.text = l.text := rfl
            refine ih h.read ?_
            rw [htext]
            omega

/-! ## What the readings after it find -/

/-- After a reading that has found everything there is only the end to be found. -/
theorem read_after_ok {l : Lexer} (h : l.Inside) {ts : List Token} (hread : l.read.1 = .ok ts)
    (more : Nat) :
    (l.read.2.after more).read = (.ok [Token.final l.text.length], ⟨l.text, l.text.length⟩) := by
  rw [read_of_ok h hread, (settled_at_end l.text).read_after, read_at_end]

/-- Behind the quote of an open string no other one is found open. -/
theorem read_ne_unclosedString {l : Lexer} (h : l.Inside) {before inside : Text}
    (htext : l.text = before ++ '"' :: inside) (hplace : before.length + 1 ≤ l.place)
    (hinside : '"' ∉ inside) : l.read.1 ≠ .error .unclosedString := by
  intro hread
  rcases exists_refused h hread with ⟨before', taken, after, htext', hbefore', hrefused, -⟩
  cases hrefused with
  | string _ =>
      -- the quote would be one of those inside
      have hdrop : inside = before'.drop (before.length + 1) ++ (['"'] ++ after) := by
        rw [← List.drop_append_of_le_length (Nat.le_trans hplace hbefore'), ← htext', htext,
          ← List.singleton_append, ← List.append_assoc]
        exact (List.drop_left' (by simp)).symm
      exact hinside (by simp [hdrop])

/-- What a failure leaves behind: an unknown character comes next, and later readings fail there
for the same cause; or the quote of an open string has been taken, and no later reading finds a
string open; or a name has been taken to its end. -/
theorem left_of_error {l : Lexer} (h : l.Inside) {cause : Failure}
    (hread : l.read.1 = .error cause) :
    (∃ c, cause = .unknownCharacter c ∧ l.text[l.read.2.place]? = some c ∧
      ∀ more, (l.after more).read = l.read) ∨
    (cause = .unclosedString ∧
      (∃ before inside, l.text = before ++ '"' :: inside ∧ l.place ≤ before.length ∧
        '"' ∉ inside ∧ l.read.2.place = before.length + 1) ∧
      ∀ more, (l.read.2.after more).read.1 ≠ .error .unclosedString) ∨
    ∃ before name rest, cause = .unknownName name ∧ l.text = before ++ (name ++ rest) ∧
      l.place ≤ before.length ∧ Lexeme.IsName name ∧ Lexeme.NameEnds rest ∧
        l.read.2.place = before.length + name.length := by
  rcases exists_refused h hread with ⟨before, taken, after, htext, hbefore, hrefused, hstop⟩
  cases hrefused with
  | character =>
      obtain ⟨hcharacter, hsettled⟩ := settled_of_unknownCharacter h hread
      exact Or.inl ⟨_, rfl, hcharacter, hsettled.read_after⟩
  | string hquote =>
      refine Or.inr (Or.inl ⟨rfl, ⟨before, after, htext, hbefore, hquote, hstop⟩, fun more => ?_⟩)
      obtain ⟨hinside, hsame, hplace⟩ := h.read.after more
      exact read_ne_unclosedString hinside (hsame.trans htext) (hstop ▸ hplace) hquote
  | name hname hends =>
      exact Or.inr (Or.inr ⟨before, taken, after, rfl, htext, hbefore, hname, hends, hstop⟩)

/-! ## All of it -/

/-- Any number of readings of a text, one after the other. Each reads as a reader at the start of
what is left, and never moves back or beyond the end. What it finds says what it leaves: everything
is read, and later readings find nothing but the end; or an unknown character comes next, and later
readings fail there for the same cause; or the quote of an open string has been taken, and no later
reading finds a string open; or a name has been taken to its end. After as many readings as the text
has characters, what is found and where it stops no longer changes. -/
theorem readings_resume (f : Text) (times : Nat) :
    (ofText f).readings times = (List.range times).map (fun i =>
      (((ofText f).after i).read.1, ((ofText f).after i).read.2.place)) ∧
    (let l := (ofText f).after times
    l.text = f ∧ l.place ≤ l.read.2.place ∧ l.read.2.place ≤ f.length ∧
    l.read = ((ofText (f.drop l.place)).read.1.map (List.map (Token.shift l.place)),
      { l with place := (ofText (f.drop l.place)).read.2.place + l.place }) ∧
    (∀ ts, l.read.1 = .ok ts → l.read.2.place = f.length ∧
      ∀ more, (l.read.2.after more).read = (.ok [Token.final f.length], ⟨f, f.length⟩)) ∧
    ∀ cause, l.read.1 = .error cause →
      (∃ c, cause = .unknownCharacter c ∧ f[l.read.2.place]? = some c ∧
        ∀ more, (l.after more).read = l.read) ∨
      (cause = .unclosedString ∧
        (∃ before inside, f = before ++ '"' :: inside ∧ l.place ≤ before.length ∧
          '"' ∉ inside ∧ l.read.2.place = before.length + 1) ∧
        ∀ more, (l.read.2.after more).read.1 ≠ .error .unclosedString) ∨
      ∃ before name rest, cause = .unknownName name ∧ f = before ++ (name ++ rest) ∧
        l.place ≤ before.length ∧ Lexeme.IsName name ∧ Lexeme.NameEnds rest ∧
          l.read.2.place = before.length + name.length) ∧
    ∀ more, ((ofText f).after (f.length + more)).read = ((ofText f).after f.length).read := by
  have hstart : (ofText f).Inside := Nat.zero_le _
  refine ⟨readings_eq _ times, ?_, fun more => ?_⟩
  · obtain ⟨hinside, htext, -⟩ := hstart.after times
    generalize (ofText f).after times = l at hinside htext
    obtain rfl : l.text = f := htext
    obtain ⟨hforward, hend⟩ := place_read hinside
    refine ⟨rfl, hforward, hend, read_eq_shift l, fun ts hread => ?_, fun cause hread =>
      left_of_error hinside hread⟩
    exact ⟨congrArg place (read_of_ok hinside hread), read_after_ok hinside hread⟩
  · rw [after_add]
    exact (settled_after hstart (Nat.le_refl _)).read_after more

/-- A name, the quote of an open string, the cell inside it, and then nothing more. -/
example : ((ofText "ab\"c1").readings 4).map Prod.snd = [2, 3, 5, 5] := by
  decide +kernel

end Lexer
end CellCalc

import CellCalc.Expr.Outline
import CellCalc.Proofs.PrintedTrees

/-!
# DistinctOutlines — trees told apart by their outlines

The outline of a node is its margin, a label for the kind of node, what the node holds, and the
outlines of its parts below it. No label starts another, and what a node holds ends at a character
that it does not contain: a text at its closing quote, everything else at the end of the line. Only
the list of a call's arguments has no end of its own. It ends where a line starts further left than
the heading of one more argument would, as the lines that can follow a node do.

* `Outline.LeftOf` — the text starts further left than some margin.
* `Outline.Block.text_append_inj` — the node, and where its parts begin, are recovered from the text.
* `Outline.Drawn`, `hasBlock_of_regular` — the outlines of regular trees, part by part.
* `Drawn.determined` — an outline that is followed further left determines its tree and its end.
* `Expr.outlineText_injective` — regular trees of integers with one outline are equal.
-/

namespace CellCalc

/-- A text is split in one way at the first place where a character stands. -/
theorem Text.split_unique {c : Char} {t u x y : Text} (ht : c ∉ t) (hu : c ∉ u)
    (h : t ++ c :: x = u ++ c :: y) : t = u ∧ x = y := by
  induction t generalizing u with
  | nil =>
      cases u with
      | nil => exact ⟨rfl, (List.cons.inj h).2⟩
      | cons d u => exact absurd (List.cons.inj h).1 (List.ne_of_not_mem_cons hu)
  | cons a t ih =>
      cases u with
      | nil => exact absurd (List.cons.inj h).1.symm (List.ne_of_not_mem_cons ht)
      | cons d u =>
          obtain ⟨rfl, hrest⟩ := List.cons.inj h
          obtain ⟨rfl, hsame⟩ :=
            ih (List.not_mem_of_not_mem_cons ht) (List.not_mem_of_not_mem_cons hu) hrest
          exact ⟨rfl, hsame⟩

namespace Outline

/-! ## Margins -/

/-- The blanks of a line that starts some steps from the left. -/
def margin (k : Nat) : Text :=
  List.replicate (2 * k) ' '

theorem margin_add (j k : Nat) : margin (j + k) = margin j ++ margin k := by
  rw [margin, margin, margin, List.replicate_append_replicate, Nat.mul_add]

/-- The text starts further left than a line that is `k` steps from the left. -/
def LeftOf (k : Nat) (t : Text) : Prop :=
  ¬margin k <+: t

theorem not_leftOf_margin (k : Nat) (t : Text) : ¬LeftOf k (margin k ++ t) :=
  fun h => h (List.prefix_append _ _)

theorem LeftOf.nil (k : Nat) : LeftOf (k + 1) [] := by
  rw [LeftOf, List.prefix_nil]
  exact List.cons_ne_nil _ _

theorem LeftOf.mono {j k : Nat} {t : Text} (h : LeftOf j t) (hle : j ≤ k) : LeftOf k t := by
  obtain ⟨i, rfl⟩ := Nat.exists_eq_add_of_le hle
  rw [LeftOf, margin_add]
  exact fun hprefix => h ((List.prefix_append _ _).trans hprefix)

theorem leftOf_margin {c : Char} (hc : c ≠ ' ') {j k : Nat} (hlt : j < k) (t : Text) :
    LeftOf k (margin j ++ c :: t) := by
  obtain ⟨i, rfl⟩ := Nat.exists_eq_add_of_lt hlt
  rw [LeftOf, Nat.add_assoc, margin_add, List.prefix_append_right_inj]
  -- one more step would have to start with the character
  exact fun hprefix => hc (List.cons_prefix_cons.1 hprefix).1.symm

/-! ## The text of one node -/

/-- The kinds of nodes of a formula. -/
inductive NodeKind
  | number
  | text
  | cell
  | range
  | binary
  | call
  deriving DecidableEq

namespace NodeKind

/-- What the line of a node starts with. -/
def label : NodeKind → Text
  | number => "Number: "
  | text => "String: \""
  | cell => "Cell Reference: "
  | range => "Cell Range: "
  | binary => "Binary Operation: "
  | call => "Function: "

/-- The character after what a node holds. -/
def closing : NodeKind → Char
  | text => '"'
  | _ => '\n'

theorem eq_of_label_isPrefix {a b : NodeKind} (h : a.label <+: b.label) : a = b := by
  revert h
  cases a <;> cases b <;> decide

theorem label_append_inj {a b : NodeKind} {t u : Text} (h : a.label ++ t = b.label ++ u) :
    a = b ∧ t = u := by
  have hkinds : a = b := by
    rcases List.prefix_or_prefix_of_prefix ⟨t, h⟩ (List.prefix_append b.label u) with hab | hba
    · exact eq_of_label_isPrefix hab
    · exact (eq_of_label_isPrefix hba).symm
  subst hkinds
  exact ⟨rfl, List.append_cancel_left h⟩

end NodeKind

/-- A node of an outline: its kind, what it holds, and the text below it. -/
structure Block where
  kind : NodeKind
  holds : Text
  below : Text

namespace Block

/-- The text of a node that starts some steps from the left. -/
def text (k : Nat) (b : Block) : Text :=
  margin k ++ (b.kind.label ++ (b.holds ++ b.kind.closing :: b.below))

/-- What the node holds ends where it is closed. -/
def Closed (b : Block) : Prop :=
  b.kind.closing ∉ b.holds

theorem text_append_inj {b d : Block} (hb : b.Closed) (hd : d.Closed) {k : Nat} {rest rest' : Text}
    (h : b.text k ++ rest = d.text k ++ rest') :
    b.kind = d.kind ∧ b.holds = d.holds ∧ b.below ++ rest = d.below ++ rest' := by
  simp only [text, List.append_assoc, List.cons_append] at h
  obtain ⟨hkind, hheld⟩ := NodeKind.label_append_inj (List.append_cancel_left h)
  rw [Closed, ← hkind] at hd
  rw [← hkind] at hheld
  exact ⟨hkind, Text.split_unique hb hd hheld⟩

end Block

/-! ## The texts below a node -/

/-- The heading of a part of a node that starts some steps from the left. -/
def heading (k : Nat) (title : Text) : Text :=
  margin (k + 1) ++ (title ++ ['\n'])

/-- The parts of a call, each under its heading and numbered from `index` on. -/
def numbered (k index : Nat) : List Text → Text
  | [] => []
  | t :: rest =>
      heading k ("Argument ".toList ++ Nat.toDigits 10 index ++ [':']) ++
        (t ++ numbered k (index + 1) rest)

/-- The parts of a binary operation under their headings. -/
def sides (k : Nat) (left right : Text) : Text :=
  heading k "Left:" ++ (left ++ (heading k "Right:" ++ right))

theorem leftOf_heading {c : Char} (hc : c ≠ ' ') (k : Nat) (title rest : Text) :
    LeftOf (k + 3) (heading k (c :: title) ++ rest) := by
  rw [heading, List.append_assoc]
  exact leftOf_margin hc (by omega) _

theorem not_leftOf_numbered (k index : Nat) (t : Text) (ts : List Text) (rest : Text) :
    ¬LeftOf (k + 1) (numbered k index (t :: ts) ++ rest) := by
  simp only [numbered, heading, List.append_assoc]
  exact not_leftOf_margin (k + 1) _

/-- What follows an argument is another one or what follows all of them, either way further left
than a part of the argument would be. -/
theorem leftOf_numbered {k : Nat} {rest : Text} (h : LeftOf (k + 1) rest) (index : Nat)
    (ts : List Text) : LeftOf (k + 3) (numbered k index ts ++ rest) := by
  cases ts with
  | nil => exact h.mono (by omega)
  | cons t ts =>
      rw [numbered, List.append_assoc]
      exact leftOf_heading (by decide) k _ _

/-! ## The outlines of trees -/

/-- The block is the outline of the tree, some steps from the left. -/
inductive Drawn : Nat → Expr → Block → Prop
  | number {k v : Nat} : Drawn k (.number (.int v)) ⟨.number, Nat.toDigits 10 v, []⟩
  | text {k : Nat} {t : Text} : '"' ∉ t → Drawn k (.text t) ⟨.text, t, ['\n']⟩
  | cell {k : Nat} {id : Text} : isCellId id = true → Drawn k (.cell id) ⟨.cell, id, []⟩
  | range {k : Nat} {start stop : Text} : isCellId start = true → isCellId stop = true →
      Drawn k (.range start stop) ⟨.range, start ++ ':' :: stop, []⟩
  | binary {k : Nat} {tier : Tier} {operator : Text} {left right : Expr} {l r : Block} :
      operator ∈ tier.operators → Drawn (k + 2) left l → Drawn (k + 2) right r →
        Drawn k (.binary operator left right)
          ⟨.binary, operator, sides k (l.text (k + 2)) (r.text (k + 2))⟩
  | call {k : Nat} {name : Text} {parts : List (Expr × Block)} : Lexeme.IsName name →
      (∀ p ∈ parts, Drawn (k + 2) p.1 p.2) →
        Drawn k (.call name (parts.map (·.1)))
          ⟨.call, name, numbered k 1 (parts.map fun p => p.2.text (k + 2))⟩

theorem notMem_of_isName {name : Text} (h : Lexeme.IsName name) {c : Char}
    (hc : Text.isWordChar c = false) : c ∉ name :=
  fun hmem => absurd (h.2 c hmem) (by simp [hc])

theorem notMem_of_isCellId {id : Text} (h : isCellId id = true) {c : Char}
    (hc : Text.isWordChar c = false) : c ∉ id := by
  obtain ⟨label, digits, rfl, hlabel, -, halpha, hdigit⟩ := isCellId_iff.1 h
  exact notMem_of_isName (.of_cell hlabel halpha hdigit) hc

namespace Drawn

theorem closed {k : Nat} {e : Expr} {b : Block} (h : Drawn k e b) : b.Closed := by
  have hline : Text.isWordChar '\n' = false := by decide
  cases h with
  | number =>
      intro (hmem : '\n' ∈ _)
      exact absurd (Nat.isDigit_of_mem_toDigits (by decide) (by decide) hmem) (by decide)
  | text ht => exact ht
  | cell hid => exact notMem_of_isCellId hid hline
  | range hstart hstop =>
      intro (hmem : '\n' ∈ _)
      rcases List.mem_append.1 hmem with hmem | hmem
      · exact notMem_of_isCellId hstart hline hmem
      · exact notMem_of_isCellId hstop hline (List.mem_of_ne_of_mem (by decide) hmem)
  | binary hoperator _ _ =>
      obtain ⟨c, hc, rfl⟩ := Tier.exists_eq_of_mem_operators hoperator
      intro (hmem : '\n' ∈ [c])
      rw [← List.mem_singleton.1 hmem] at hc
      exact absurd hc (by decide)
  | call hname _ => exact notMem_of_isName hname hline

theorem text_append_inj {k : Nat} {e f : Expr} {b d : Block} (h : Drawn k e b) (hf : Drawn k f d)
    {rest rest' : Text} (hsame : b.text k ++ rest = d.text k ++ rest') :
    b.kind = d.kind ∧ b.holds = d.holds ∧ b.below ++ rest = d.below ++ rest' :=
  Block.text_append_inj h.closed hf.closed hsame

/-- The outline determines the tree and its own end if a text follows that starts further left than
a heading below the tree. -/
def Determined (k : Nat) (e : Expr) (b : Block) : Prop :=
  ∀ {f : Expr} {d : Block} {rest rest' : Text}, Drawn k f d → LeftOf (k + 1) rest →
    LeftOf (k + 1) rest' → b.text k ++ rest = d.text k ++ rest' → e = f ∧ rest = rest'

/-- The parts of a call are told apart one by one, and their end is found where a line starts too
far left for one more heading. -/
theorem numbered_append_inj {k : Nat} {parts : List (Expr × Block)}
    (hparts : ∀ p ∈ parts, Determined (k + 2) p.1 p.2) {others : List (Expr × Block)}
    (hothers : ∀ p ∈ others, Drawn (k + 2) p.1 p.2) {index : Nat} {rest rest' : Text}
    (hrest : LeftOf (k + 1) rest) (hrest' : LeftOf (k + 1) rest')
    (h : numbered k index (parts.map fun p => p.2.text (k + 2)) ++ rest =
      numbered k index (others.map fun p => p.2.text (k + 2)) ++ rest') :
    parts.map (·.1) = others.map (·.1) ∧ rest = rest' := by
  induction parts generalizing others index with
  | nil =>
      cases others with
      | nil => exact ⟨rfl, h⟩
      | cons q others =>
          have hheading : rest = _ := h
          exact absurd (hheading ▸ hrest) (not_leftOf_numbered _ _ _ _ _)
  | cons p parts ih =>
      cases others with
      | nil =>
          have hheading : _ = rest' := h
          exact absurd (hheading ▸ hrest') (not_leftOf_numbered _ _ _ _ _)
      | cons q others =>
          -- both headings have the same number, and what comes after the argument is further left
          simp only [List.map_cons, numbered, List.append_assoc] at h
          obtain ⟨hfirst, hmore⟩ := hparts p (by simp) (hothers q (by simp))
            (leftOf_numbered hrest _ _) (leftOf_numbered hrest' _ _) (List.append_cancel_left h)
          obtain ⟨hothers', hsame⟩ := ih (fun p hp => hparts p (List.mem_cons_of_mem _ hp))
            (fun p hp => hothers p (List.mem_cons_of_mem _ hp)) hmore
          exact ⟨by rw [List.map_cons, List.map_cons, hfirst, hothers'], hsame⟩

/-- By the parts of the tree: once the kinds agree the texts below are those of the same parts. -/
theorem determined {k : Nat} {e : Expr} {b : Block} (h : Drawn k e b) : Determined k e b := by
  induction h with
  | @number k v =>
      intro f d rest rest' hf _ _ hsame
      obtain ⟨hkind, hholds, hrest⟩ := number.text_append_inj hf hsame
      cases hf with
      | @number _ w =>
          have hvalue : v = w := by
            rw [← Decimal.digitsValue_toDigits v, ← Decimal.digitsValue_toDigits w]
            exact congrArg Decimal.digitsValue hholds
          exact ⟨by rw [hvalue], hrest⟩
      | _ => cases hkind
  | @text k t ht =>
      intro f d rest rest' hf _ _ hsame
      obtain ⟨hkind, hholds, hrest⟩ := (text ht).text_append_inj hf hsame
      cases hf with
      | text _ => exact ⟨congrArg Expr.text hholds, (List.cons.inj hrest).2⟩
      | _ => cases hkind
  | @cell k id hid =>
      intro f d rest rest' hf _ _ hsame
      obtain ⟨hkind, hholds, hrest⟩ := (cell hid).text_append_inj hf hsame
      cases hf with
      | cell _ => exact ⟨congrArg Expr.cell hholds, hrest⟩
      | _ => cases hkind
  | @range k start stop hstart hstop =>
      intro f d rest rest' hf _ _ hsame
      obtain ⟨hkind, hholds, hrest⟩ := (range hstart hstop).text_append_inj hf hsame
      cases hf with
      | range hstart' _ =>
          -- no id contains the colon
          obtain ⟨rfl, rfl⟩ := Text.split_unique (notMem_of_isCellId hstart (by decide))
            (notMem_of_isCellId hstart' (by decide)) hholds
          exact ⟨rfl, hrest⟩
      | _ => cases hkind
  | @binary k _ operator left right l r hoperator hl hr ihLeft ihRight =>
      intro f d rest rest' hf hleft hleft' hsame
      obtain ⟨hkind, hholds, hrest⟩ := (binary hoperator hl hr).text_append_inj hf hsame
      cases hf with
      | binary _ hl' hr' =>
          obtain rfl : operator = _ := hholds
          -- a heading follows the left side, and what follows the whole tree follows the right one
          simp only [sides, List.append_assoc] at hrest
          obtain ⟨rfl, hright⟩ := ihLeft hl' (leftOf_heading (by decide) k _ _)
            (leftOf_heading (by decide) k _ _) (List.append_cancel_left hrest)
          obtain ⟨rfl, hend⟩ := ihRight hr' (hleft.mono (by omega)) (hleft'.mono (by omega))
            (List.append_cancel_left hright)
          exact ⟨rfl, hend⟩
      | _ => cases hkind
  | @call k name parts hname hparts ih =>
      intro f d rest rest' hf hleft hleft' hsame
      obtain ⟨hkind, hholds, hrest⟩ := (call hname hparts).text_append_inj hf hsame
      cases hf with
      | call _ hothers =>
          obtain ⟨hargs, hend⟩ := numbered_append_inj ih hothers hleft hleft' hrest
          exact ⟨by rw [show name = _ from hholds, hargs], hend⟩
      | _ => cases hkind

end Drawn

/-! ## Drawing a tree -/

/-- Lines, each of them ended. -/
def ended (ls : List Text) : Text :=
  ls.flatMap (· ++ ['\n'])

@[simp] theorem ended_cons (t : Text) (ls : List Text) :
    ended (t :: ls) = t ++ '\n' :: ended ls := by
  simp [ended]

@[simp] theorem ended_append (ls ms : List Text) : ended (ls ++ ms) = ended ls ++ ended ms :=
  List.flatMap_append

theorem ended_heading (k : Nat) (title : Text) (ls : List Text) :
    ended (Expr.line (k + 1) title :: ls) = heading k title ++ ended ls := by
  have hline : Expr.line (k + 1) title = margin (k + 1) ++ title := rfl
  rw [ended_cons, hline, heading]
  simp

/-- The lines of the tree are those of its block. -/
def HasBlock (k : Nat) (e : Expr) : Prop :=
  ∃ b ls, Drawn k e b ∧ Expr.outline k e = .ok ls ∧ ended ls = b.text k

/-- The block of a node from its line and the lines below. -/
theorem HasBlock.of_lines {k : Nat} {e : Expr} {b : Block} (h : Drawn k e b) {t : Text}
    {ls : List Text} (hlines : Expr.outline k e = .ok (Expr.line k t :: ls))
    (htext : t ++ '\n' :: ended ls = b.kind.label ++ (b.holds ++ b.kind.closing :: b.below)) :
    HasBlock k e := by
  have hline : Expr.line k t = margin k ++ t := rfl
  exact ⟨b, _, h, hlines, by rw [ended_cons, Block.text, ← htext, hline, List.append_assoc]⟩

theorem exists_numbered {k : Nat} {args : List Expr} (h : ∀ a ∈ args, HasBlock (k + 2) a)
    (index : Nat) : ∃ (parts : List (Expr × Block)) (ls : List Text), parts.map (·.1) = args ∧
      (∀ p ∈ parts, Drawn (k + 2) p.1 p.2) ∧ Expr.outlineArguments k index args = .ok ls ∧
        ended ls = numbered k index (parts.map fun p => p.2.text (k + 2)) := by
  induction args generalizing index with
  | nil => exact ⟨[], [], rfl, by simp, rfl, rfl⟩
  | cons a args ih =>
      obtain ⟨b, first, hdrawn, hfirst, htext⟩ := h a (by simp)
      obtain ⟨parts, others, hargs, hparts, hothers, htexts⟩ :=
        ih (fun a ha => h a (List.mem_cons_of_mem _ ha)) (index + 1)
      let title : Text := "Argument ".toList ++ Nat.toDigits 10 index ++ [':']
      refine ⟨(a, b) :: parts, Expr.line (k + 1) title :: (first ++ others),
        by rw [List.map_cons, hargs], List.forall_mem_cons.2 ⟨hdrawn, hparts⟩, ?_, ?_⟩
      · have hfirst : Expr.outline (k + 2) a = .ok first := hfirst
        rw [Expr.outlineArguments, hfirst, hothers]
        rfl
      · rw [ended_heading, ended_append, htext, htexts, List.map_cons, numbered]

theorem hasBlock_of_regular {e : Expr} (h : e.Regular) (hintegers : e.IntegersOnly) (k : Nat) :
    HasBlock k e := by
  induction h generalizing k with
  | @number n hn =>
      obtain ⟨i, rfl, hwritable⟩ := hintegers n (by simp [Expr.numbers])
      obtain ⟨v, rfl⟩ := Int.eq_ofNat_of_zero_le hn
      have hwrite : (Number.int v).write = .ok (Nat.toDigits 10 v) :=
        Numeral.writeInteger_eq_ok_iff.2 ⟨hwritable, rfl⟩
      have houtline : Expr.outline k (.number (.int v)) =
          .ok [Expr.line k ("Number: ".toList ++ Nat.toDigits 10 v)] := by
        rw [Expr.outline, Value.plainText_number, hwrite]
        rfl
      exact .of_lines .number houtline (by simp; rfl)
  | text ht => exact .of_lines (.text ht) (by rw [Expr.outline]) (by simp; rfl)
  | cell hid => exact .of_lines (.cell hid) (by rw [Expr.outline]) (by simp; rfl)
  | range hstart hstop =>
      exact .of_lines (.range hstart hstop) (by rw [Expr.outline]) (by simp; rfl)
  | @binary tier operator left right hoperator _ _ ihLeft ihRight =>
      obtain ⟨l, ls, hl, hlines, htext⟩ := ihLeft hintegers.left (k + 2)
      obtain ⟨r, rs, hr, hlines', htext'⟩ := ihRight hintegers.right (k + 2)
      have hlines : Expr.outline (k + 2) left = .ok ls := hlines
      have hlines' : Expr.outline (k + 2) right = .ok rs := hlines'
      have houtline : Expr.outline k (.binary operator left right) =
          .ok (Expr.line k ("Binary Operation: ".toList ++ operator) ::
            (Expr.line (k + 1) "Left:" :: (ls ++ Expr.line (k + 1) "Right:" :: rs))) := by
        rw [Expr.outline, hlines, hlines']
        rfl
      refine .of_lines (.binary hoperator hl hr) houtline ?_
      rw [ended_heading, ended_append, ended_heading, htext, htext', List.append_assoc]
      rfl
  | @call name args hname _ ih =>
      have hargs : ∀ a ∈ args, HasBlock (k + 2) a := fun a ha =>
        ih a ha (hintegers.argument ha) (k + 2)
      obtain ⟨parts, ls, rfl, hparts, hlines, htext⟩ := exists_numbered hargs 1
      refine .of_lines (.call hname hparts) (by rw [Expr.outline, hlines]; rfl) ?_
      rw [htext, List.append_assoc]
      rfl

end Outline

namespace Expr

open Outline

/-- Two regular trees of integers that have the same outline are equal. -/
theorem outlineText_injective {e f : Expr} (he : e.Regular) (hf : f.Regular)
    (hintegers : e.IntegersOnly) (hintegers' : f.IntegersOnly) {steps : Int} (hsteps : 0 ≤ steps) :
    ∃ t u, outlineText steps e = .ok t ∧ outlineText steps f = .ok u ∧ (t = u ↔ e = f) := by
  obtain ⟨k, rfl⟩ := Int.eq_ofNat_of_zero_le hsteps
  obtain ⟨b, ls, hb, hlines, htext⟩ := hasBlock_of_regular he hintegers k
  obtain ⟨d, ms, hd, hlines', htext'⟩ := hasBlock_of_regular hf hintegers' k
  have hprinted : outlineText k e = .ok (ended ls) := by rw [outlineText, hlines]; rfl
  have hprinted' : outlineText k f = .ok (ended ms) := by rw [outlineText, hlines']; rfl
  refine ⟨ended ls, ended ms, hprinted, hprinted', ?_⟩
  constructor
  · intro hsame
    have htexts : b.text k ++ [] = d.text k ++ [] := by rw [← htext, ← htext', hsame]
    exact (hb.determined hd (.nil k) (.nil k) htexts).1
  · rintro rfl
    exact Except.ok.inj (hprinted.symm.trans hprinted')

/-- A text that goes on with the lines of a second argument is told apart from two arguments. -/
theorem outlineText_injective_imitated_argument :
    (Expr.call "F" [.text "x\n  Argument 2:\n    Number: 1"]).Regular ∧
      (Expr.call "F" [.text "x", .number (.int 1)]).Regular ∧
      (Expr.call "F" [.text "x\n  Argument 2:\n    Number: 1"]).IntegersOnly ∧
      (Expr.call "F" [.text "x", .number (.int 1)]).IntegersOnly ∧
        ∃ t u, outlineText 0 (.call "F" [.text "x\n  Argument 2:\n    Number: 1"]) = .ok t ∧
          outlineText 0 (.call "F" [.text "x", .number (.int 1)]) = .ok u ∧ t ≠ u := by
  have hname : Lexeme.IsName "F".toList := ⟨⟨'F', rfl, rfl⟩, List.all_eq_true.1 rfl⟩
  have he : (Expr.call "F" [.text "x\n  Argument 2:\n    Number: 1"]).Regular := by
    refine .call hname fun a ha => ?_
    obtain rfl := List.mem_singleton.1 ha
    exact .text (by decide)
  have hf : (Expr.call "F" [.text "x", .number (.int 1)]).Regular := by
    refine .call hname fun a ha => ?_
    obtain rfl | rfl : a = .text "x" ∨ a = .number (.int 1) := by simpa using ha
    · exact .text (by decide)
    · exact .number (by decide : (0 : Int) ≤ 1)
  have hintegers : (Expr.call "F" [.text "x\n  Argument 2:\n    Number: 1"]).IntegersOnly := by
    intro n hn
    simp [numbers, numbersAll] at hn
  have hintegers' : (Expr.call "F" [.text "x", .number (.int 1)]).IntegersOnly := by
    intro n hn
    obtain rfl : n = .int 1 := by simpa [numbers, numbersAll] using hn
    exact ⟨1, rfl, by decide⟩
  obtain ⟨t, u, ht, hu, hiff⟩ :=
    outlineText_injective he hf hintegers hintegers' (by decide : (0 : Int) ≤ 0)
  exact ⟨he, hf, hintegers, hintegers', t, u, ht, hu, fun hsame => absurd (hiff.1 hsame) (by decide)⟩

end Expr
end CellCalc

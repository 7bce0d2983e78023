import CellCalc.Evaluation.Report
import CellCalc.Proofs.RegularTrees

/-!
# Renderings — every way to write a tree as text

A tree can be written in many ways: with more parentheses than it needs, and with blanks between
its tokens. Parentheses are needed only around a sum that is an operand of a product, and around a
right operand of the tier of its parent, because operators of one tier join from left to right.
Every such text is read as the tree it was written for.

* `Slot` — where an expression stands, and which operations need parentheses there.
* `Renders`, `Rendering` — the texts that write a tree, inside a formula and as a whole one.
* `Renders.readsAs` — a text that writes a tree is read as tokens of that tree.
* `Rendering.ofText_eq` — such a text has that tree.
* `Environment.evaluate_rendering` — and as a formula it has the value of the tree.
-/

namespace CellCalc

open Grammar

/-! ## Where parentheses are needed -/

/-- Where an expression stands: alone, or as an operand of an operation of a tier. -/
inductive Slot
  | whole
  | left (parent : Tier)
  | right (parent : Tier)
  deriving DecidableEq, Repr

namespace Slot

/-- An operation of this tier needs parentheses here: a sum as an operand of a product, and a right
operand of the tier of its parent. -/
def NeedsParens : Slot → Tier → Prop
  | whole, _ => False
  | left parent, tier => parent = .product ∧ tier = .sum
  | right parent, tier => (parent = .product ∧ tier = .sum) ∨ tier = parent

/-- The tokens are an expression that may stand here as it is. -/
def Derives : Slot → List Token → Expr → Prop
  | whole, ts, e => Sentence ts e
  | left parent, ts, e => Chain parent ts e
  | right parent, ts, e => TierOperand parent ts e

theorem derives_of_chain {slot : Slot} {tier : Tier} (hslot : ¬slot.NeedsParens tier)
    {ts : List Token} {e : Expr} (h : Chain tier ts e) : slot.Derives ts e := by
  -- a product is a sum too
  have hsentence : Sentence ts e := by
    cases tier with
    | sum => exact h
    | product => exact .first (.product h)
  cases slot with
  | whole => exact hsentence
  | left parent =>
      cases parent with
      | sum => exact hsentence
      | product =>
          cases tier with
          | sum => exact absurd ⟨rfl, rfl⟩ hslot
          | product => exact h
  | right parent =>
      have hother : tier ≠ parent := fun hsame => hslot (Or.inr hsame)
      cases parent with
      | sum =>
          cases tier with
          | sum => exact absurd rfl hother
          | product => exact .product h
      | product =>
          cases tier with
          | sum => exact absurd (Or.inl ⟨rfl, rfl⟩) hslot
          | product => exact absurd rfl hother

theorem derives_of_operand (slot : Slot) {ts : List Token} {e : Expr} (h : Operand ts e) :
    slot.Derives ts e := by
  have hproduct : Chain .product ts e := .first (.operand h)
  cases slot with
  | whole => exact .first (.product hproduct)
  | left parent =>
      cases parent with
      | sum => exact .first (.product hproduct)
      | product => exact hproduct
  | right parent =>
      cases parent with
      | sum => exact .product hproduct
      | product => exact .operand h

end Slot

/-! ## The texts of a tree -/

open Text (IsGap)

mutual

/-- The text writes the tree where it stands, without blanks at its ends. -/
inductive Renders : Slot → Expr → Text → Prop
  | integer {slot : Slot} {digits : Text} : digits ≠ [] → (∀ c ∈ digits, c.isDigit = true) →
      digits.length ≤ Numeral.digitLimit →
        Renders slot (.number (.int (Decimal.digitsValue digits))) digits
  | text {slot : Slot} {t : Text} : '"' ∉ t → Renders slot (.text t) ('"' :: t ++ ['"'])
  | cell {slot : Slot} {id : Text} : isCellId id = true → Renders slot (.cell id) id
  | range {slot : Slot} {start stop gap gap' : Text} : isCellId start = true →
      isCellId stop = true → IsGap gap → IsGap gap' →
        Renders slot (.range start stop) (start ++ ((gap ++ ([':'] ++ gap')) ++ stop))
  | call {slot : Slot} {name t : Text} {args : List Expr} : Lexeme.IsName name →
      RendersArguments args t → Renders slot (.call name args) (name ++ '(' :: t ++ [')'])
  | binary {slot : Slot} {tier : Tier} {operator l r gap gap' : Text} {left right : Expr} :
      operator ∈ tier.operators → ¬slot.NeedsParens tier → Renders (.left tier) left l →
        Renders (.right tier) right r → IsGap gap → IsGap gap' →
          Renders slot (.binary operator left right) (l ++ ((gap ++ (operator ++ gap')) ++ r))
  | enclosed {slot : Slot} {e : Expr} {t gap gap' : Text} : Renders .whole e t → IsGap gap →
      IsGap gap' → Renders slot e ('(' :: (gap ++ (t ++ gap')) ++ [')'])

/-- The text writes the arguments of a call, between its parentheses. -/
inductive RendersArguments : List Expr → Text → Prop
  | none {gap : Text} : IsGap gap → RendersArguments [] gap
  | some {args : List Expr} {t : Text} : RendersList args t → RendersArguments args t

/-- The text writes some trees with commas between them. -/
inductive RendersList : List Expr → Text → Prop
  | first {e : Expr} {t gap gap' : Text} : Renders .whole e t → IsGap gap → IsGap gap' →
      RendersList [e] (gap ++ (t ++ gap'))
  | more {args : List Expr} {e : Expr} {t u gap gap' : Text} : RendersList args t →
      Renders .whole e u → IsGap gap → IsGap gap' →
        RendersList (args ++ [e]) (t ++ ([','] ++ (gap ++ (u ++ gap'))))

end

/-- The text writes the tree, with blanks at its ends. -/
def Rendering (e : Expr) (r : Text) : Prop :=
  ∃ gap t gap', IsGap gap ∧ Renders .whole e t ∧ IsGap gap' ∧ r = gap ++ (t ++ gap')

/-! ## Reading a text of a tree -/

namespace ReadsAs

variable {t : Text} {P : List Token → Prop}

/-- Blanks at both ends of a part leave no tokens. -/
theorem padded {gap gap' : Text} (hgap : IsGap gap) (h : ReadsAs t [] P) (hgap' : IsGap gap') :
    ReadsAs (gap ++ (t ++ gap')) [] P := by
  refine of_yields fun rest hrest place => ?_
  rcases h.tokens (by simp) (gap' ++ rest) (Token.Closes.gap_append hgap' hrest)
    (place + gap.length) with ⟨ts, hts, hP⟩
  have hfront := Token.Yields.of_blanks hgap place ((t ++ gap') ++ rest)
  have hback := Token.Yields.of_blanks hgap' (place + gap.length + t.length) rest
  have hwhole := hfront.append (hts.append hback)
  rw [List.nil_append, List.append_nil] at hwhole
  exact ⟨ts, hwhole, hP⟩

theorem of_integer {digits : Text} (hne : digits ≠ []) (h : ∀ c ∈ digits, c.isDigit = true)
    (hshort : digits.length ≤ Numeral.digitLimit) :
    ReadsAs digits [] fun ts => Operand ts (.number (.int (Decimal.digitsValue digits))) := by
  refine of_yields fun rest hrest place => ?_
  have hspelled : Lexeme.Spelled .number digits digits rest :=
    .number (.whole hne h) (hrest.numeralEnds digits)
  have hvalue : Number.ofText digits = .ok (.int (Decimal.digitsValue digits)) := by
    rw [Number.ofText_digits hne h, if_neg (by omega)]
  exact ⟨_, Token.Yields.of_spelled hspelled, .number rfl hvalue⟩

/-- A cell id, as the token it is read as. -/
theorem of_cellId {id : Text} (hid : isCellId id = true) :
    ReadsAs id [] fun ts => ∃ tok : Token, ts = [tok] ∧ tok.kind = .cell ∧ tok.text = id :=
  of_yields fun _ hrest place =>
    ⟨_, yields_cell hid hrest.nameEnds hrest.head?_ne place, _, rfl, rfl, rfl⟩

theorem of_spaced_range {start stop gap gap' : Text} (hstart : isCellId start = true)
    (hstop : isCellId stop = true) (hgap : IsGap gap) (hgap' : IsGap gap') :
    ReadsAs (start ++ ((gap ++ ([':'] ++ gap')) ++ stop)) [] fun ts =>
      Operand ts (.range start stop) := by
  have hcolon : Separates [':'] .colon [':'] :=
    separates_symbol (fun _ => .colon) (by decide) (by decide) (by decide)
  refine (separated (hcolon.padded hgap hgap') (of_cellId hstart) (of_cellId hstop)).mono ?_
  rintro _ ⟨_, colon, _, rfl, ⟨first, rfl, hfirst, rfl⟩, hkind, -, ⟨last, rfl, hlast, rfl⟩⟩
  exact .range hfirst hkind hlast

/-- Two operands and the operator between them make a chain of its tier. -/
theorem of_operation {tier : Tier} {operator l r gap gap' : Text} {left right : Expr}
    (hoperator : operator ∈ tier.operators) (hgap : IsGap gap) (hgap' : IsGap gap')
    (hl : ReadsAs l [] fun ts => Chain tier ts left)
    (hr : ReadsAs r [] fun ts => TierOperand tier ts right) :
    ReadsAs (l ++ ((gap ++ (operator ++ gap')) ++ r)) [] fun ts =>
      Chain tier ts (.binary operator left right) := by
  obtain ⟨c, hc, rfl⟩ := Tier.exists_eq_of_mem_operators hoperator
  refine (separated ((separates_operator hc).padded hgap hgap') hl hr).mono ?_
  rintro _ ⟨ls, op, rs, rfl, hls, hkind, htext, hrs⟩
  have hjoins : tier.joins op = true := by
    simp [Tier.joins, hkind, htext, hoperator]
  rw [← htext]
  exact .join hls hjoins hrs

end ReadsAs

open ReadsAs

mutual

/-- A text that writes a tree is read as tokens that derive it. -/
theorem Renders.readsAs : ∀ {slot : Slot} {e : Expr} {t : Text}, Renders slot e t →
    ReadsAs t [] fun ts => slot.Derives ts e
  | slot, _, _, .integer hne hdigits hshort =>
      (of_integer hne hdigits hshort).mono fun _ => slot.derives_of_operand
  | slot, _, _, .text hquote => (of_text hquote).mono fun _ => slot.derives_of_operand
  | slot, _, _, .cell hid => (of_cell hid).mono fun _ => slot.derives_of_operand
  | slot, _, _, .range hstart hstop hgap hgap' =>
      (of_spaced_range hstart hstop hgap hgap').mono fun _ => slot.derives_of_operand
  | slot, _, _, .call hname hargs =>
      (ReadsAs.call hname hargs.readsAs).mono fun _ => slot.derives_of_operand
  | _, _, _, .binary hoperator hslot hl hr hgap hgap' =>
      (of_operation hoperator hgap hgap' hl.readsAs hr.readsAs).mono fun _ =>
        Slot.derives_of_chain hslot
  | slot, _, _, .enclosed h hgap hgap' =>
      (padded hgap h.readsAs hgap').parenthesised.mono fun _ => slot.derives_of_operand

theorem RendersArguments.readsAs : ∀ {args : List Expr} {t : Text}, RendersArguments args t →
    ReadsAs t [] fun ts => Arguments ts args
  | _, _, .none hgap =>
      of_yields fun rest _ place => ⟨[], Token.Yields.of_blanks hgap place rest, .none⟩
  | _, _, .some h => h.readsAs.mono fun _ => .some

theorem RendersList.readsAs : ∀ {args : List Expr} {t : Text}, RendersList args t →
    ReadsAs t [] fun ts => ArgumentList ts args
  | _, _, .first h hgap hgap' => (padded hgap h.readsAs hgap').mono fun _ => .first
  | _, _, .more hargs h hgap hgap' => by
      refine (separated separates_comma hargs.readsAs (padded hgap h.readsAs hgap')).mono ?_
      rintro _ ⟨ls, comma, rs, rfl, hls, hcomma, -, hrs⟩
      exact .more hls hcomma hrs

end

/-- A text that writes a tree has that tree. -/
theorem Rendering.ofText_eq {e : Expr} {r : Text} (h : Rendering e r) : Expr.ofText r = .ok e := by
  obtain ⟨gap, t, gap', hgap, ht, hgap', rfl⟩ := h
  rcases (padded hgap ht.readsAs hgap').tokens (by simp) [] Token.Closes.nil 0 with
    ⟨ts, hyields, hsentence⟩
  exact Expr.ofText_of_sentence hsentence hyields

/-! ## The ends of a text of a tree -/

namespace Text

/-- No blank stands at either end. -/
structure Tight (t : Text) : Prop where
  first : ∃ c ∈ t.head?, isBlank c = false
  last : ∃ c ∈ t.getLast?, isBlank c = false

theorem Tight.of_ends {c d : Char} (hc : isBlank c = false) (hd : isBlank d = false) (t : Text) :
    Tight (c :: t ++ [d]) :=
  ⟨⟨c, rfl, hc⟩, ⟨d, List.getLast?_concat, hd⟩⟩

theorem Tight.of_forall {t : Text} (hne : t ≠ []) (h : ∀ c ∈ t, isBlank c = false) : Tight t :=
  ⟨⟨t.head hne, List.head?_eq_some_head hne, h _ (List.head_mem hne)⟩,
    ⟨t.getLast hne, List.getLast?_eq_some_getLast hne, h _ (List.getLast_mem hne)⟩⟩

theorem Tight.join {t u : Text} (ht : Tight t) (hu : Tight u) (m : Text) :
    Tight (t ++ (m ++ u)) := by
  obtain ⟨c, hc, hblank⟩ := ht.first
  obtain ⟨d, hd, hblank'⟩ := hu.last
  refine ⟨⟨c, ?_, hblank⟩, ⟨d, ?_, hblank'⟩⟩
  · rw [List.head?_append, Option.mem_def.1 hc]
    rfl
  · rw [← List.append_assoc, List.getLast?_append, Option.mem_def.1 hd]
    rfl

/-- Trimming takes away just the blanks around a tight text. -/
theorem trim_padded {gap t gap' : Text} (hgap : IsGap gap) (ht : Tight t) (hgap' : IsGap gap') :
    trim (gap ++ (t ++ gap')) = t := by
  obtain ⟨c, hc, hblank⟩ := ht.first
  obtain ⟨d, hd, hblank'⟩ := ht.last
  have hfront : dropBlanks (t ++ gap') = t ++ gap' := by
    refine dropWhile_eq_self fun x hx => ?_
    rw [List.head?_append, Option.mem_def.1 hc] at hx
    obtain rfl : c = x := by simpa using hx
    exact hblank
  have hback : dropBlanks t.reverse = t.reverse := by
    refine dropWhile_eq_self fun x hx => ?_
    rw [List.head?_reverse, Option.mem_def.1 hd] at hx
    obtain rfl : d = x := by simpa using hx
    exact hblank'
  have hgapReversed : ∀ x ∈ gap'.reverse, isBlank x = true := fun x hx =>
    hgap' x (List.mem_reverse.1 hx)
  rw [trim, dropBlanks_append hgap, hfront, dropTrailingBlanks, List.reverse_append,
    dropBlanks_append hgapReversed, hback, List.reverse_reverse]

end Text

theorem tight_of_cellId {id : Text} (h : isCellId id = true) : Text.Tight id := by
  rcases isCellId_iff.1 h with ⟨label, digits, rfl, hlabel, -, halpha, hdigit⟩
  have hname := Lexeme.IsName.of_cell hlabel halpha hdigit
  exact .of_forall (by simp [hlabel]) fun c hc => Text.not_isBlank_of_isWordChar (hname.2 c hc)

theorem Renders.tight : ∀ {slot : Slot} {e : Expr} {t : Text}, Renders slot e t → Text.Tight t
  | _, _, _, .integer hne hdigits _ =>
      .of_forall hne fun c hc =>
        Text.not_isBlank_of_isWordChar (Text.isWordChar_of_isDigit (hdigits c hc))
  | _, _, _, .text _ => .of_ends (by decide) (by decide) _
  | _, _, _, .cell hid => tight_of_cellId hid
  | _, _, _, .range hstart hstop _ _ => (tight_of_cellId hstart).join (tight_of_cellId hstop) _
  | _, _, _, @Renders.call _ _ t _ hname _ => by
      rcases hname.exists_cons with ⟨c, more, rfl, -, hblank⟩
      have hends : Text.Tight (c :: (more ++ '(' :: t) ++ [')']) := .of_ends hblank (by decide) _
      exact hends
  | _, _, _, .binary _ _ hl hr _ _ => hl.tight.join hr.tight _
  | _, _, _, .enclosed _ _ _ => .of_ends (by decide) (by decide) _

/-! ## The value of a text of a tree -/

namespace Environment

/-- What is shown for a formula whose evaluation ended so. -/
def answer : Except Failure Value → Value
  | .ok (.list _) => .text Value.errorText
  | .ok v => v
  | .error cause => cause.value

theorem value_evaluate (env : Environment) (rest : Text) :
    (env.evaluate ('=' :: rest)).value = answer (env.evalBody (Text.trim rest)).outcome := by
  rw [evaluate]
  cases (env.evalBody (Text.trim rest)).outcome with
  | error cause => rfl
  | ok v => cases v <;> rfl

/-- A text that writes a tree has that tree. As a formula it has the value of the tree; an error
stands in for a range, and for a failure by its words if it has any. -/
theorem evaluate_rendering {e : Expr} {r : Text} (h : Rendering e r) :
    Expr.ofText r = .ok e ∧ ∀ env : Environment,
      (∀ v, (env.eval e).outcome = .ok v →
        (env.evaluate ('=' :: r)).value = if v.isList then .text "#ERROR" else v) ∧
      ∀ cause, (env.eval e).outcome = .error cause →
        (env.evaluate ('=' :: r)).value =
          .text (if cause.message = [] then "#ERROR" else "#ERROR: ".toList ++ cause.message) := by
  refine ⟨h.ofText_eq, fun env => ?_⟩
  -- the text without the blanks around it writes the tree too
  have hbody : Expr.ofText (Text.trim r) = .ok e := by
    obtain ⟨gap, t, gap', hgap, ht, hgap', rfl⟩ := h
    rw [Text.trim_padded hgap ht.tight hgap']
    exact Rendering.ofText_eq ⟨[], t, [], Text.IsGap.nil, ht, Text.IsGap.nil, by simp⟩
  have hvalue : (env.evaluate ('=' :: r)).value = answer (env.eval e).outcome := by
    rw [value_evaluate, evalBody_of_ok env hbody]
  refine ⟨?_, ?_⟩
  · intro v hv
    rw [hvalue, hv]
    cases v <;> rfl
  · intro cause hcause
    rw [hvalue, hcause, answer, Failure.value_eq]

/-- The text ` 7 *( A1-(2)) ` and the tree it writes. -/
theorem evaluate_rendering_difference :
    Rendering (.binary "*" (.number (.int 7)) (.binary "-" (.cell "A1") (.number (.int 2))))
        " 7 *( A1-(2)) " ∧
      Expr.ofText " 7 *( A1-(2)) " =
        .ok (.binary "*" (.number (.int 7)) (.binary "-" (.cell "A1") (.number (.int 2)))) := by
  have hseven : Renders (.left .product) (.number (.int 7)) "7" :=
    @Renders.integer _ "7" (by decide) (List.all_eq_true.1 rfl) (by decide)
  have htwo : Renders .whole (.number (.int 2)) "2" :=
    @Renders.integer _ "2" (by decide) (List.all_eq_true.1 rfl) (by decide)
  have hcell : Renders (.left .sum) (.cell "A1") "A1" := .cell (by decide)
  have hgroup : Renders (.right .sum) (.number (.int 2)) "(2)" :=
    .enclosed htwo Text.IsGap.nil Text.IsGap.nil
  have hdifference : Renders .whole (.binary "-" (.cell "A1") (.number (.int 2))) "A1-(2)" :=
    @Renders.binary _ .sum "-" _ _ [] [] _ _ (by decide) id hcell hgroup Text.IsGap.nil
      Text.IsGap.nil
  have hproduct : Renders .whole
      (.binary "*" (.number (.int 7)) (.binary "-" (.cell "A1") (.number (.int 2))))
      "7 *( A1-(2))" :=
    @Renders.binary _ .product "*" _ _ [' '] [] _ _ (by decide) id hseven
      (.enclosed hdifference Text.IsGap.space Text.IsGap.nil) Text.IsGap.space Text.IsGap.nil
  have hrendering : Rendering
      (.binary "*" (.number (.int 7)) (.binary "-" (.cell "A1") (.number (.int 2))))
      " 7 *( A1-(2)) " :=
    ⟨[' '], _, [' '], Text.IsGap.space, hproduct, Text.IsGap.space, rfl⟩
  exact ⟨hrendering, (evaluate_rendering hrendering).1⟩

end Environment

end CellCalc

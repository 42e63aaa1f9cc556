import ScriptDeps.Proofs.Cache.Transparency
import ScriptDeps.Proofs.Syntax.Faithful

namespace ScriptDeps.Syntax

open Text (encode lit toBytes)

/-! # How far the compact text depends on the layout of the source

The compact text does not tell how wide a gap between two tokens is or whether a comment stands in
it, but it tells whether there is one: where a blank may stand, it stands exactly if there is a gap.
So the same tokens have the same compact text if they have gaps at the same places, and in any case
up to blanks. Main statements:

* `layoutAfter_eq_of_partAlike`: with the same gaps, the layout is the same;
* `partAlike_of_layoutAfter_eq`: with the same layout, the gaps are the same;
* `compact_of_sameTexts`: the compact texts of two nodes whose tokens have the same texts.
-/

/-! ## Gaps -/

/-- A blank may stand between the texts. -/
def MayPart (t u : Text) : Prop := t ∉ noBlankBehind ∧ u ∉ noBlankBefore

/-- Where a blank may stand between neighbours, there is a gap in both lists or in neither. -/
def PartAlike (ws ws' : List Written) : Prop :=
  List.Forall₂ (fun p q => MayPart p.1.text p.2.text →
    (p.1.stop < p.2.start ↔ q.1.stop < q.2.start)) (ws.zip ws.tail) (ws'.zip ws'.tail)

/-- The tokens have the same texts. -/
def SameTexts (ws ws' : List Written) : Prop := List.Forall₂ (fun a b => a.text = b.text) ws ws'

theorem mayPart_iff {t u : Text} :
    (noBlankBehind.contains t = false ∧ noBlankBefore.contains u = false) ↔ MayPart t u := by
  rw [Bool.eq_false_iff, Bool.eq_false_iff, ne_eq, ne_eq, List.contains_iff_mem,
    List.contains_iff_mem, MayPart]

instance (t u : Text) : Decidable (MayPart t u) := decidable_of_iff _ mayPart_iff

instance (ws ws' : List Written) : Decidable (PartAlike ws ws') := by
  unfold PartAlike
  infer_instance

instance (ws ws' : List Written) : Decidable (SameTexts ws ws') := by
  unfold SameTexts
  infer_instance

section

variable {a a' b b' : Written} {ws ws' : List Written}

theorem partAlike_cons_cons : PartAlike (a :: b :: ws) (a' :: b' :: ws') ↔
    (MayPart a.text b.text → (a.stop < b.start ↔ a'.stop < b'.start)) ∧
      PartAlike (b :: ws) (b' :: ws') :=
  List.forall₂_cons

theorem spaced_iff : spaced a b = true ↔ a.stop < b.start ∧ MayPart a.text b.text := by
  simp [spaced, ← mayPart_iff, and_assoc]

/-- The same texts are parted in the same way exactly if both pairs have a gap, or neither does, or
no blank may stand there. -/
theorem spaced_eq_iff (ha : a.text = a'.text) (hb : b.text = b'.text) :
    spaced a b = spaced a' b' ↔
      (MayPart a.text b.text → (a.stop < b.start ↔ a'.stop < b'.start)) := by
  rw [Bool.eq_iff_iff, spaced_iff, spaced_iff, ← ha, ← hb]
  constructor
  · intro h hmay
    simpa [hmay] using h
  · intro h
    exact and_congr_left h

/-! ## Gaps and layouts -/

theorem layoutAfter_eq_of_partAlike (ha : a.text = a'.text) (htexts : SameTexts ws ws')
    (h : PartAlike (a :: ws) (a' :: ws')) : layoutAfter a ws = layoutAfter a' ws' := by
  induction htexts generalizing a a' with
  | nil => rfl
  | cons hb _ ih =>
    obtain ⟨hgap, hrest⟩ := partAlike_cons_cons.1 h
    rw [layoutAfter, layoutAfter, (spaced_eq_iff ha hb).2 hgap, hb, ih hb hrest]

/-- Before a text that begins with no blank, a blank can be told from none. -/
theorem eq_of_blank_append {p q : Bool} {c : Nat} {t u : Text} (hc : c ≠ 0x20)
    (h : (if p then [0x20] else []) ++ c :: t = (if q then [0x20] else []) ++ c :: u) : p = q := by
  cases p with
  | false =>
    cases q with
    | false => rfl
    | true => exact absurd (List.cons.inj h).1 hc
  | true =>
    cases q with
    | false => exact absurd (List.cons.inj h).1.symm hc
    | true => rfl

/-- If no token begins with a blank, the layout tells where the gaps are. -/
theorem partAlike_of_layoutAfter_eq (ha : a.text = a'.text) (htexts : SameTexts ws ws')
    (hfull : ∀ w ∈ ws, w.text ≠ [] ∧ w.text.head? ≠ some 0x20)
    (h : layoutAfter a ws = layoutAfter a' ws') : PartAlike (a :: ws) (a' :: ws') := by
  induction htexts generalizing a a' with
  | nil => exact .nil
  | @cons b b' ws ws' hb _ ih =>
    obtain ⟨⟨hne, hhead⟩, hothers⟩ := List.forall_mem_cons.1 hfull
    rw [layoutAfter, layoutAfter, ← hb, List.append_assoc, List.append_assoc] at h
    obtain ⟨c, t, htext⟩ := List.exists_cons_of_ne_nil hne
    have hc : c ≠ 0x20 := fun hc => hhead (by rw [htext, hc, List.head?_cons])
    -- what comes first, a blank or the text, tells whether there is a blank
    have hspaced : spaced a b = spaced a' b' := by
      rw [htext] at h
      exact eq_of_blank_append hc h
    rw [hspaced] at h
    have hrest := List.append_cancel_left (List.append_cancel_left h)
    exact partAlike_cons_cons.2 ⟨(spaced_eq_iff ha hb).1 hspaced, ih hb hothers hrest⟩

theorem layout_eq_of_partAlike (htexts : SameTexts ws ws') (h : PartAlike ws ws') :
    layout ws = layout ws' := by
  cases htexts with
  | nil => rfl
  | cons ha hrest => rw [layout, layout, ha, layoutAfter_eq_of_partAlike ha hrest h]

theorem partAlike_of_layout_eq (htexts : SameTexts ws ws')
    (hfull : ∀ w ∈ ws, w.text ≠ [] ∧ w.text.head? ≠ some 0x20) (h : layout ws = layout ws') :
    PartAlike ws ws' := by
  cases htexts with
  | nil => exact .nil
  | cons ha hrest =>
    rw [layout, layout, ha] at h
    exact partAlike_of_layoutAfter_eq ha hrest (List.forall_mem_cons.1 hfull).2
      (List.append_cancel_left h)

theorem map_text_of_sameTexts (h : SameTexts ws ws') : ws.map (·.text) = ws'.map (·.text) := by
  induction h with
  | nil => rfl
  | cons ha _ ih => rw [List.map_cons, List.map_cons, ha, ih]

end

/-! ## Compact texts -/

/-- Two nodes whose tokens have the same texts have compact texts that differ at most in blanks. They
do not differ if the tokens are parted alike, and only then if no token begins with a blank. -/
theorem compact_of_sameTexts {source source' : ByteArray} {n n' : Node} {ws ws' : List Written}
    (hws : writtenTokens source n.tokenNodes = .ok ws)
    (hws' : writtenTokens source' n'.tokenNodes = .ok ws') (htexts : SameTexts ws ws') :
    ∃ t t', n.compact source = .ok t ∧ n'.compact source' = .ok t' ∧
      t.filter (· != 0x20) = t'.filter (· != 0x20) ∧
      (PartAlike ws ws' → t = t') ∧
      ((∀ w ∈ ws, w.text.head? ≠ some 0x20) → t = t' → PartAlike ws ws') := by
  have hcompact : n.compact source = .ok (layout ws) := by
    rw [Node.compact, Node.tokens_eq_tokenNodes, hws]
    rfl
  have hcompact' : n'.compact source' = .ok (layout ws') := by
    rw [Node.compact, Node.tokens_eq_tokenNodes, hws']
    rfl
  have hblanks : (layout ws).filter (· != 0x20) = (layout ws').filter (· != 0x20) := by
    have hjoined := joined_layout ws
    rw [map_text_of_sameTexts htexts] at hjoined
    have hsame := hjoined.filter (· == 0x20) rfl
    rw [← (joined_layout ws').filter (· == 0x20) rfl] at hsame
    exact hsame
  refine ⟨_, _, hcompact, hcompact', hblanks, layout_eq_of_partAlike htexts, fun hhead => ?_⟩
  exact partAlike_of_layout_eq htexts fun w hw =>
    ⟨(text_of_mem_writtenTokens hws hw).1, hhead w hw⟩

/-! ## Layouts of a sum -/

/-- The source `a + b;`. -/
def looseSum : ByteArray := toBytes (encode (lit "a + b;"))

/-- The source `a  /**/+ b ;`. -/
def remarkedSum : ByteArray := toBytes (encode (lit "a  /**/+ b ;"))

/-- A gap may have any width, and a comment, and before the semicolon there need not be one. -/
theorem compact_remarkedSum :
    ∃ t t', (Parse.parse looseSum).compact looseSum = .ok t ∧
      (Parse.parse remarkedSum).compact remarkedSum = .ok t' ∧ t = t' := by
  let ws : List Written := [⟨lit "a", 0, 1⟩, ⟨lit "+", 2, 3⟩, ⟨lit "b", 4, 5⟩, ⟨lit ";", 5, 6⟩]
  let ws' : List Written := [⟨lit "a", 0, 1⟩, ⟨lit "+", 7, 8⟩, ⟨lit "b", 9, 10⟩, ⟨lit ";", 11, 12⟩]
  have hws : writtenTokens looseSum (Parse.parse looseSum).tokenNodes = .ok ws := by
    decide +kernel
  have hws' : writtenTokens remarkedSum (Parse.parse remarkedSum).tokenNodes = .ok ws' := by
    decide +kernel
  obtain ⟨t, t', ht, ht', -, hsame, -⟩ := compact_of_sameTexts hws hws' (by decide)
  exact ⟨t, t', ht, ht', hsame (by decide)⟩

/-- The source `a+b; a + b;`. -/
def twoSums : ByteArray := toBytes (encode (lit "a+b; a + b;"))

/-- In scripts without syntax errors, nodes with the same tokens and nothing but blanks and comments
between them may have different compact texts. -/
theorem not_all_layouts_alike : ¬ ∀ (s s' : Script) (up up' : List Node) (n n' : Node)
    (ts : List Text), Script.read s.source = .ok s → Script.read s'.source = .ok s' →
    s.root.Covered (· == 0x20) s.source → s'.root.Covered (· == 0x20) s'.source →
    s.root.Occurs up n → s'.root.Occurs up' n' →
    HaveTexts s.source n.tokenNodes ts → HaveTexts s'.source n'.tokenNodes ts →
    n.compact s.source = n'.compact s'.source := by
  intro h
  let ts : List Text := [lit "a", lit "+", lit "b", lit ";"]
  -- decided at once, so that the source is parsed once
  have hscript : let s := Script.ofSource twoSums
      s.error? = none ∧ s.root.Covered (· == 0x20) twoSums ∧
        ∃ n ∈ s.root.children, ∃ n' ∈ s.root.children,
          HaveTexts twoSums n.tokenNodes ts ∧ HaveTexts twoSums n'.tokenNodes ts ∧
            n.compact twoSums ≠ n'.compact twoSums := by
    decide +kernel
  obtain ⟨herror, hcovered, n, hn, n', hn', htexts, htexts', hother⟩ := hscript
  have hread := Script.read_eq_ok.2 ⟨rfl, herror⟩
  exact hother (h (.ofSource twoSums) (.ofSource twoSums) _ _ n n' ts hread hread hcovered hcovered
    (.child .root hn) (.child .root hn') htexts htexts')

end ScriptDeps.Syntax

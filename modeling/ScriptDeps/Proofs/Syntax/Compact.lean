import ScriptDeps.Proofs.Gather
import ScriptDeps.Proofs.Text.Utf8
import ScriptDeps.Syntax.Compact

namespace ScriptDeps.Syntax

open Text (IsEncodable bytesBetween decode decode_part encode encode_append lit toBytes)

/-! # Compact text read again

The layout puts every token somewhere in the compact text. Cut out of it there, the tokens have the
same texts as before, and laid out once more, they result in the same compact text. Main statements:

* `layout_placed`: tokens that stand where the layout puts them have that layout;
* `readsBack_placed`: in a text that contains the layout, the tokens can be read where they were
  put;
* `writtenTokens_of_standAt`: nodes that divide such a text at these places are the tokens.
-/

/-! ## Where the layout puts tokens -/

/-- The tokens behind `a`, which ends at `stop`, with the bounds that they have in the layout. -/
def placedAfter (a : Written) (stop : Nat) : List Written → List Written
  | [] => []
  | b :: rest =>
    let start := if spaced a b then stop + 1 else stop
    ⟨b.text, start, start + (encode b.text).length⟩ ::
      placedAfter b (start + (encode b.text).length) rest

/-- The tokens with the bounds that they have in the layout, which begins at `start`. -/
def placed (start : Nat) : List Written → List Written
  | [] => []
  | a :: rest =>
    ⟨a.text, start, start + (encode a.text).length⟩ ::
      placedAfter a (start + (encode a.text).length) rest

theorem map_text_placedAfter (a : Written) (stop : Nat) (ws : List Written) :
    (placedAfter a stop ws).map (·.text) = ws.map (·.text) := by
  induction ws generalizing a stop with
  | nil => rfl
  | cons b rest ih => rw [placedAfter, List.map_cons, ih, List.map_cons]

theorem map_text_placed (start : Nat) (ws : List Written) :
    (placed start ws).map (·.text) = ws.map (·.text) := by
  cases ws with
  | nil => rfl
  | cons a rest => rw [placed, List.map_cons, map_text_placedAfter, List.map_cons]

/-- There is a blank between two tokens in the layout if there is one between them when they stand
where the layout puts them. -/
theorem spaced_placed (a b : Written) (start stop stop' : Nat) :
    spaced ⟨a.text, start, stop⟩ ⟨b.text, if spaced a b then stop + 1 else stop, stop'⟩ =
      spaced a b := by
  cases h : spaced a b with
  | false => simp [spaced]
  | true =>
    simp only [spaced, Bool.and_eq_true, decide_eq_true_eq] at h ⊢
    exact ⟨⟨Nat.lt_succ_self stop, h.1.2⟩, h.2⟩

theorem layoutAfter_placedAfter (a : Written) (start stop : Nat) (ws : List Written) :
    layoutAfter ⟨a.text, start, stop⟩ (placedAfter a stop ws) = layoutAfter a ws := by
  induction ws generalizing a start stop with
  | nil => rfl
  | cons b rest ih => rw [placedAfter, layoutAfter, layoutAfter, spaced_placed, ih]

/-- Laid out once more, the tokens of a layout result in the same text. -/
theorem layout_placed (start : Nat) (ws : List Written) : layout (placed start ws) = layout ws := by
  cases ws with
  | nil => rfl
  | cons a rest => rw [placed, layout, layout, layoutAfter_placedAfter]

/-! ## Reading the tokens of a layout -/

/-- The text can be read at the bounds of the token. -/
def ReadsBack (source : ByteArray) (w : Written) : Prop :=
  decode (bytesBetween source w.start w.stop) = .ok w.text

theorem readsBack_part {before behind t : Text} (h : IsEncodable (before ++ t ++ behind)) :
    ReadsBack (toBytes (encode (before ++ t ++ behind)))
      ⟨t, (encode before).length, (encode before).length + (encode t).length⟩ :=
  decode_part h

/-- Behind a token, the others can be read where the layout puts them. -/
theorem readsBack_placedAfter {before behind : Text} {a : Written} {ws : List Written}
    (h : IsEncodable (before ++ layoutAfter a ws ++ behind)) :
    ∀ w ∈ placedAfter a (encode before).length ws,
      ReadsBack (toBytes (encode (before ++ layoutAfter a ws ++ behind))) w := by
  induction ws generalizing a before with
  | nil => exact fun w hw => absurd hw List.not_mem_nil
  | cons b rest ih =>
    let blank : Text := if spaced a b then [0x20] else []
    have hstart : (if spaced a b then (encode before).length + 1 else (encode before).length) =
        (encode (before ++ blank)).length := by
      rw [encode_append, List.length_append]
      show _ = (encode before).length + (encode (if spaced a b then [0x20] else [])).length
      cases spaced a b with
      | false => rfl
      | true => rfl
    have hstop : (encode (before ++ blank)).length + (encode b.text).length =
        (encode (before ++ blank ++ b.text)).length := by
      rw [encode_append _ b.text, List.length_append]
    have hsplit : before ++ layoutAfter a (b :: rest) ++ behind =
        before ++ blank ++ b.text ++ (layoutAfter b rest ++ behind) := by
      rw [layoutAfter]
      simp only [blank, List.append_assoc]
    have hrest : before ++ layoutAfter a (b :: rest) ++ behind =
        before ++ blank ++ b.text ++ layoutAfter b rest ++ behind := by
      rw [hsplit, List.append_assoc _ (layoutAfter b rest) behind]
    -- the next token stands behind the blank, the others behind that token
    intro w hw
    rw [placedAfter, hstart, List.mem_cons] at hw
    rcases hw with rfl | hw
    · rw [hsplit]
      exact readsBack_part (hsplit ▸ h)
    · rw [hstop] at hw
      rw [hrest]
      exact ih (hrest ▸ h) w hw

/-- In a text that contains the layout, the tokens can be read where the layout puts them. -/
theorem readsBack_placed {before behind : Text} {ws : List Written}
    (h : IsEncodable (before ++ layout ws ++ behind)) :
    ∀ w ∈ placed (encode before).length ws,
      ReadsBack (toBytes (encode (before ++ layout ws ++ behind))) w := by
  cases ws with
  | nil => exact fun w hw => absurd hw List.not_mem_nil
  | cons a rest =>
    have hsplit : before ++ layout (a :: rest) ++ behind =
        before ++ a.text ++ (layoutAfter a rest ++ behind) := by
      rw [layout]
      simp only [List.append_assoc]
    have hrest : before ++ layout (a :: rest) ++ behind =
        before ++ a.text ++ layoutAfter a rest ++ behind := by
      rw [hsplit, List.append_assoc _ (layoutAfter a rest) behind]
    intro w hw
    rw [placed, List.mem_cons] at hw
    rcases hw with rfl | hw
    · rw [hsplit]
      exact readsBack_part (hsplit ▸ h)
    · have hstop : (encode before).length + (encode a.text).length =
          (encode (before ++ a.text)).length := by
        rw [encode_append, List.length_append]
      rw [hstop] at hw
      rw [hrest]
      exact readsBack_placedAfter (hrest ▸ h) w hw

/-! ## The tokens of nodes -/

theorem text_eq_ok {source : ByteArray} {n : Node} {t : Text} :
    n.text source = .ok t ↔ decode (bytesBetween source n.start n.stop) = .ok t := by
  unfold Node.text
  cases decode (bytesBetween source n.start n.stop) with
  | error e => simp
  | ok u => simp

theorem bytes_of_text {source : ByteArray} {n : Node} {t : Text} (ht : n.text source = .ok t) :
    bytesBetween source n.start n.stop = encode t :=
  (Text.encode_of_decode (text_eq_ok.1 ht)).symm

theorem writtenTokens_cons_eq_ok {source : ByteArray} {n : Node} {ns : List Node}
    {ws : List Written} :
    writtenTokens source (n :: ns) = .ok ws ↔
      ∃ t others, n.text source = .ok t ∧ writtenTokens source ns = .ok others ∧
        ws = if t.isEmpty then others else ⟨t, n.start, n.stop⟩ :: others := by
  rw [writtenTokens, andThen_ok_iff]
  constructor
  · rintro ⟨t, ht, h⟩
    obtain ⟨others, hothers, hws⟩ := andThen_ok_iff.1 h
    cases hws
    exact ⟨t, others, ht, hothers, rfl⟩
  · rintro ⟨t, others, ht, hothers, rfl⟩
    exact ⟨t, ht, andThen_ok_iff.2 ⟨others, hothers, rfl⟩⟩

/-- The texts of tokens are not empty, and can be encoded. -/
theorem text_of_mem_writtenTokens {source : ByteArray} {ns : List Node} {ws : List Written}
    (h : writtenTokens source ns = .ok ws) {w : Written} (hw : w ∈ ws) :
    w.text ≠ [] ∧ IsEncodable w.text := by
  induction ns generalizing ws with
  | nil =>
    cases h
    exact absurd hw List.not_mem_nil
  | cons n rest ih =>
    obtain ⟨t, others, ht, hothers, rfl⟩ := writtenTokens_cons_eq_ok.1 h
    split at hw
    · exact ih hothers hw
    · next hempty =>
      rcases List.mem_cons.1 hw with rfl | hw
      · refine ⟨?_, Text.isEncodable_of_decode (text_eq_ok.1 ht)⟩
        simpa using hempty
      · exact ih hothers hw

/-- The layout can be encoded if the texts of the tokens can. -/
theorem isEncodable_layoutAfter {a : Written} {ws : List Written}
    (h : ∀ w ∈ ws, IsEncodable w.text) : IsEncodable (layoutAfter a ws) := by
  induction ws generalizing a with
  | nil => exact fun c hc => absurd hc List.not_mem_nil
  | cons b rest ih =>
    intro c hc
    rw [layoutAfter, List.mem_append, List.mem_append] at hc
    rcases hc with (hc | hc) | hc
    · split at hc
      · rw [List.mem_singleton.1 hc]
        exact Or.inl (by decide)
      · exact absurd hc List.not_mem_nil
    · exact h b List.mem_cons_self c hc
    · exact ih (fun w hw => h w (List.mem_cons_of_mem b hw)) c hc

theorem isEncodable_layout {ws : List Written} (h : ∀ w ∈ ws, IsEncodable w.text) :
    IsEncodable (layout ws) := by
  cases ws with
  | nil => exact fun c hc => absurd hc List.not_mem_nil
  | cons a rest =>
    intro c hc
    rw [layout, List.mem_append] at hc
    rcases hc with hc | hc
    · exact h a List.mem_cons_self c hc
    · exact isEncodable_layoutAfter (fun w hw => h w (List.mem_cons_of_mem a hw)) c hc

theorem isEncodable_of_writtenTokens {source : ByteArray} {ns : List Node} {ws : List Written}
    (h : writtenTokens source ns = .ok ws) : IsEncodable (layout ws) :=
  isEncodable_layout fun _ hw => (text_of_mem_writtenTokens h hw).2

/-- The tokens have their texts where the layout puts them, too. -/
theorem exists_text_of_mem_placed {start : Nat} {ws : List Written} {w : Written}
    (hw : w ∈ placed start ws) : ∃ v ∈ ws, v.text = w.text := by
  have htext : w.text ∈ (placed start ws).map (·.text) := List.mem_map_of_mem hw
  rw [map_text_placed] at htext
  exact List.mem_map.1 htext

/-- The nodes that are not empty have the bounds of the tokens. -/
def StandAt (ns : List Node) (ws : List Written) : Prop :=
  (ns.filter fun n => n.start < n.stop).map (fun n => (n.start, n.stop)) =
    ws.map fun w => (w.start, w.stop)

instance (ns : List Node) (ws : List Written) : Decidable (StandAt ns ws) := by
  unfold StandAt
  infer_instance

/-- Nodes that stand where tokens can be read are these tokens. -/
theorem writtenTokens_of_standAt {source : ByteArray} {ns : List Node} {ws : List Written}
    (hstand : StandAt ns ws) (hreads : ∀ w ∈ ws, ReadsBack source w)
    (hfull : ∀ w ∈ ws, w.text ≠ []) : writtenTokens source ns = .ok ws := by
  induction ns generalizing ws with
  | nil =>
    have hnil : ws = [] := List.map_eq_nil_iff.1 hstand.symm
    rw [hnil, writtenTokens]
  | cons n rest ih =>
    -- nodes without text are left out, and have none
    by_cases hn : n.start < n.stop
    · rw [StandAt, List.filter_cons_of_pos (by simpa using hn), List.map_cons] at hstand
      cases ws with
      | nil => cases hstand
      | cons w others =>
        obtain ⟨hspan, hothers⟩ := List.cons.inj hstand
        obtain ⟨hstart, hstop⟩ := Prod.mk.inj hspan
        have hread := hreads w List.mem_cons_self
        rw [ReadsBack, ← hstart, ← hstop] at hread
        have hrest := ih hothers (fun v hv => hreads v (List.mem_cons_of_mem w hv))
          fun v hv => hfull v (List.mem_cons_of_mem w hv)
        refine writtenTokens_cons_eq_ok.2 ⟨w.text, others, text_eq_ok.2 hread, hrest, ?_⟩
        rw [if_neg (by simpa using hfull w List.mem_cons_self), hstart, hstop]
    · rw [StandAt, List.filter_cons_of_neg (by simpa using hn)] at hstand
      have hempty : bytesBetween source n.start n.stop = [] := by
        have hextract : source.data.extract n.start n.stop = #[] :=
          Array.extract_eq_empty_of_le (by omega)
        rw [bytesBetween, ByteArray.data_extract, hextract]
        rfl
      have htext : n.text source = .ok [] := text_eq_ok.2 (by rw [hempty]; rfl)
      exact writtenTokens_cons_eq_ok.2 ⟨[], ws, htext, ih hstand hreads hfull, rfl⟩

end ScriptDeps.Syntax

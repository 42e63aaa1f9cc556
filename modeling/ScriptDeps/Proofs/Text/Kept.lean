import ScriptDeps.Proofs.Text.Synchrony

namespace ScriptDeps.Text

open Source (byteAt glyphAt)

/-! # Bytes that are kept

A part of a source is what is left of its bytes when those at some offsets are put aside. Blanks can
be put aside in the bytes of a text or in the text itself. Main statements:

* `isBlankAt_iff`: the bytes of blanks;
* `bytesWhere_append`: bytes are gathered piece by piece;
* `exists_text_of_bytesWhere`: what is left of a text where code points are kept as a whole;
* `bytesWhere_text`: without the bytes of blanks, the bytes of a text are those of the text without
  blanks.
-/

/-! ## The bytes at some offsets -/

/-- The bytes from `start` to `stop` at the offsets that are kept. -/
def bytesWhere (source : ByteArray) (kept : Nat → Bool) (start stop : Nat) : List Nat :=
  ((List.range' start (stop - start)).filter kept).filterMap (byteAt source)

section

variable {source : ByteArray} {kept kept' : Nat → Bool} {start middle stop : Nat}

theorem bytesWhere_append (hstart : start ≤ middle) (hstop : middle ≤ stop) :
    bytesWhere source kept start middle ++ bytesWhere source kept middle stop =
      bytesWhere source kept start stop := by
  have hlength : stop - start = (middle - start) + (stop - middle) := by omega
  have hmiddle : start + (middle - start) = middle := by omega
  rw [bytesWhere, bytesWhere, bytesWhere, ← List.filterMap_append, ← List.filter_append, hlength,
    ← List.range'_append_1, hmiddle]

theorem bytesWhere_congr (h : ∀ i, start ≤ i → i < stop → kept i = kept' i) :
    bytesWhere source kept start stop = bytesWhere source kept' start stop := by
  rw [bytesWhere, bytesWhere]
  congr 1
  refine List.filter_congr fun i hi => ?_
  obtain ⟨hstart, hstop⟩ := List.mem_range'_1.1 hi
  exact h i hstart (by omega)

theorem bytesWhere_eq_nil (h : ∀ i, start ≤ i → i < stop → kept i = false) :
    bytesWhere source kept start stop = [] := by
  have hnone : (List.range' start (stop - start)).filter kept = [] := by
    refine List.filter_eq_nil_iff.2 fun i hi => ?_
    obtain ⟨hstart, hstop⟩ := List.mem_range'_1.1 hi
    rw [h i hstart (by omega)]
    exact Bool.false_ne_true
  rw [bytesWhere, hnone, List.filterMap_nil]

theorem filterMap_byteAt (source : ByteArray) (start n : Nat) :
    (List.range' start n).filterMap (byteAt source) =
      ((source.data.toList.map UInt8.toNat).drop start).take n := by
  induction n generalizing start with
  | zero => rfl
  | succ n ih =>
    rw [List.range'_succ, List.filterMap_cons, ih, byteAt_eq]
    cases hb : (source.data.toList.map UInt8.toNat)[start]? with
    | none =>
      have hend := List.getElem?_eq_none_iff.1 hb
      rw [List.drop_eq_nil_of_le hend, List.drop_eq_nil_of_le (Nat.le_succ_of_le hend)]
      simp
    | some b =>
      obtain ⟨hstart, hb⟩ := List.getElem?_eq_some_iff.1 hb
      rw [List.drop_eq_getElem_cons hstart, hb, List.take_succ_cons]

/-- Where nothing is put aside, all bytes are kept. -/
theorem bytesWhere_eq_bytesBetween (h : ∀ i, start ≤ i → i < stop → kept i = true) :
    bytesWhere source kept start stop = bytesBetween source start stop := by
  have hall : (List.range' start (stop - start)).filter kept =
      List.range' start (stop - start) := by
    refine List.filter_eq_self.2 fun i hi => ?_
    obtain ⟨hstart, hstop⟩ := List.mem_range'_1.1 hi
    exact h i hstart (by omega)
  rw [bytesWhere, hall, filterMap_byteAt, bytesBetween_eq]

/-- Where there are no bytes, none are kept. -/
theorem bytesWhere_of_bytesBetween (h : bytesBetween source start stop = []) :
    bytesWhere source kept start stop = [] := by
  have hall : (List.range' start (stop - start)).filterMap (byteAt source) = [] := by
    rw [filterMap_byteAt, ← bytesBetween_eq, h]
  rw [bytesWhere, List.filterMap_eq_nil_iff]
  intro i hi
  exact List.filterMap_eq_nil_iff.1 hall i (List.mem_filter.1 hi).1

theorem bytesBetween_split {front back : List Nat} (hne : front ≠ [])
    (h : bytesBetween source start stop = front ++ back) :
    start + front.length ≤ stop ∧ bytesBetween source start (start + front.length) = front ∧
      bytesBetween source (start + front.length) stop = back := by
  rw [bytesBetween_eq] at h
  have hpos : 0 < front.length := List.length_pos_iff.2 hne
  have hle : front.length ≤ stop - start := by
    have hlength := congrArg List.length h
    rw [List.length_take, List.length_append] at hlength
    omega
  have hfront : start + front.length - start = front.length := by omega
  have hback : stop - (start + front.length) = stop - start - front.length := by omega
  refine ⟨by omega, ?_, ?_⟩
  · have htake := congrArg (List.take front.length) h
    rw [List.take_take, Nat.min_eq_left hle, List.take_left] at htake
    rw [bytesBetween_eq, hfront, htake]
  · rw [bytesBetween_eq, hback, ← List.drop_drop, ← List.drop_take, h, List.drop_left]

end

/-! ## Blanks -/

/-- The byte at the offset belongs to a code point that is blank. -/
def isBlankAt (blank : Nat → Bool) (source : ByteArray) (i : Nat) : Bool :=
  (List.range (i + 1)).any fun j =>
    match glyphAt source j with
    | (.code c, width) => blank c && decide (i < j + width)
    | _ => false

section

variable {blank : Nat → Bool} {source : ByteArray} {c i j : Nat}

theorem isBlankAt_iff :
    isBlankAt blank source i = true ↔ ∃ c j, StandsAt source c j ∧ j ≤ i ∧
      i < j + (encodeOne c).length ∧ blank c = true := by
  rw [isBlankAt, List.any_eq_true]
  constructor
  · rintro ⟨j, hj, hblank⟩
    split at hblank
    · next c width hglyph =>
      obtain ⟨hstands, rfl⟩ := glyphAt_eq_code_iff.1 hglyph
      rw [Bool.and_eq_true, decide_eq_true_eq] at hblank
      exact ⟨c, j, hstands, Nat.lt_succ_iff.1 (List.mem_range.1 hj), hblank.2, hblank.1⟩
    · cases hblank
  · rintro ⟨c, j, hstands, hj, hi, hc⟩
    refine ⟨j, List.mem_range.2 (Nat.lt_succ_iff.2 hj), ?_⟩
    rw [hstands.glyphAt]
    simp [hc, hi]

/-- The bytes of a code point are those of a blank if it is one. -/
theorem StandsAt.isBlankAt (h : StandsAt source c j) (hj : j ≤ i)
    (hi : i < j + (encodeOne c).length) : isBlankAt blank source i = blank c := by
  cases hc : blank c with
  | true => exact isBlankAt_iff.2 ⟨c, j, h, hj, hi, hc⟩
  | false =>
    refine Bool.eq_false_iff.2 fun hblank => ?_
    obtain ⟨d, k, hd, hk, hi', hdb⟩ := isBlankAt_iff.1 hblank
    obtain ⟨-, rfl⟩ := h.unique hd hj hi hk hi'
    rw [hc] at hdb
    cases hdb

/-- If all bytes of a code point are treated alike, they are kept or left out together. -/
theorem StandsAt.bytesWhere_eq (h : StandsAt source c j) {kept : Nat → Bool} {keep : Bool}
    (hkept : ∀ i, j ≤ i → i < j + (encodeOne c).length → kept i = keep) :
    bytesWhere source kept j (j + (encodeOne c).length) = if keep then encodeOne c else [] := by
  cases keep with
  | true => exact (bytesWhere_eq_bytesBetween hkept).trans h.bytes
  | false => exact bytesWhere_eq_nil hkept

/-- Of every code point, all bytes are kept or none. -/
def KeepsWhole (source : ByteArray) (kept : Nat → Bool) : Prop :=
  ∀ c j i, StandsAt source c j → j ≤ i → i < j + (encodeOne c).length → kept i = kept j

/-- If code points are kept as a whole, what is left of a text is a text, and without the bytes of
blanks it is that text without blanks. -/
theorem exists_text_of_bytesWhere (blank : Nat → Bool) {kept : Nat → Bool}
    (hwhole : KeepsWhole source kept) {t : Text} (ht : IsEncodable t) {start stop : Nat}
    (h : bytesBetween source start stop = encode t) :
    ∃ u, IsEncodable u ∧ bytesWhere source kept start stop = encode u ∧
      bytesWhere source (fun i => kept i && !Text.isBlankAt blank source i) start stop =
        encode (u.filter fun c => !blank c) := by
  induction t generalizing start with
  | nil =>
    refine ⟨[], fun c hc => absurd hc List.not_mem_nil, ?_, ?_⟩ <;>
      exact bytesWhere_of_bytesBetween h
  | cons c t ih =>
    obtain ⟨hmiddle, hone, hrest⟩ :=
      bytesBetween_split (encodeOne_ne_nil c) (h.trans (encode_cons c t))
    have hstands : StandsAt source c start := ⟨ht c List.mem_cons_self, hone⟩
    obtain ⟨u, hu, hkept, hfull⟩ := ih (fun d hd => ht d (List.mem_cons_of_mem c hd)) hrest
    have hsame : ∀ i, start ≤ i → i < start + (encodeOne c).length → kept i = kept start :=
      fun i hi hi' => hwhole c start i hstands hi hi'
    have hblank : ∀ i, start ≤ i → i < start + (encodeOne c).length →
        (kept i && !Text.isBlankAt blank source i) = (kept start && !blank c) := by
      intro i hi hi'
      rw [hsame i hi hi', hstands.isBlankAt hi hi']
    rw [← bytesWhere_append (Nat.le_add_right _ _) hmiddle, hkept, hstands.bytesWhere_eq hsame,
      ← bytesWhere_append (Nat.le_add_right _ _) hmiddle, hfull, hstands.bytesWhere_eq hblank]
    -- the first code point is left out, or it is kept
    cases hkeep : kept start with
    | false => exact ⟨u, hu, rfl, rfl⟩
    | true =>
      refine ⟨c :: u, List.forall_mem_cons.2 ⟨hstands.scalar, hu⟩, rfl, ?_⟩
      cases hc : blank c with
      | true =>
        rw [List.filter_cons_of_neg (by simp [hc])]
        rfl
      | false =>
        rw [List.filter_cons_of_pos (by simp [hc]), encode_cons]
        rfl

/-- Without the bytes of blanks, the bytes of a text are those of the text without blanks. -/
theorem bytesWhere_text {t : Text} (ht : IsEncodable t) {start stop : Nat}
    (h : bytesBetween source start stop = encode t) :
    bytesWhere source (fun i => !Text.isBlankAt blank source i) start stop =
      encode (t.filter fun c => !blank c) := by
  have hwhole : KeepsWhole source fun _ => true := fun _ _ _ _ _ _ => rfl
  obtain ⟨u, hu, hkept, hfull⟩ := exists_text_of_bytesWhere blank hwhole ht h
  rw [bytesWhere_eq_bytesBetween fun _ _ _ => rfl, h] at hkept
  obtain rfl : t = u := encode_injective ht hu hkept
  exact hfull

end

end ScriptDeps.Text

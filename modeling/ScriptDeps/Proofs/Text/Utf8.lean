import ScriptDeps.Proofs.Source.Reading
import ScriptDeps.Text.Utf8

namespace ScriptDeps.Text

open Source (Between byteAt continuation longSequence glyphAt)

/-! # Sources that are texts

The bytes of a text without surrogates decode to the text, and the glyphs of such a source are the
code points of the text. What lies between two glyphs is a text, too. Main statements:

* `decode_encode`: the bytes of a text denote it;
* `encode_eq_of_decode`: the bytes that denote a text are its bytes, and it has no surrogates;
* `exists_split_of_between`: between glyphs is behind the bytes of the first code points;
* `exists_decode_between`: what lies between two glyphs is a text;
* `decode_part`: the bytes of a part of a text denote the part.
-/

/-- The code point is no surrogate and not above `10FFFF`. -/
def IsScalar (c : Nat) : Prop := c < 0xD800 ∨ 0xDFFF < c ∧ c ≤ 0x10FFFF

/-- The text can be encoded. -/
def IsEncodable (t : Text) : Prop := ∀ c ∈ t, IsScalar c

instance (c : Nat) : Decidable (IsScalar c) := by
  unfold IsScalar
  infer_instance

instance (t : Text) : Decidable (IsEncodable t) := by
  unfold IsEncodable
  infer_instance

/-! ## The bytes of a code point -/

theorem encodeOne_one {c : Nat} (hhigh : c < 0x80) : encodeOne c = [c] := by
  rw [encodeOne, if_pos hhigh]

theorem encodeOne_two {c : Nat} (hlow : 0x80 ≤ c) (hhigh : c < 0x800) :
    encodeOne c = [0xC0 + c / 0x40, 0x80 + c % 0x40] := by
  rw [encodeOne, if_neg (by omega), if_pos hhigh]

theorem encodeOne_three {c : Nat} (hlow : 0x800 ≤ c) (hhigh : c < 0x10000) :
    encodeOne c = [0xE0 + c / 0x1000, 0x80 + c / 0x40 % 0x40, 0x80 + c % 0x40] := by
  rw [encodeOne, if_neg (by omega), if_neg (by omega), if_pos hhigh]

theorem encodeOne_four {c : Nat} (hlow : 0x10000 ≤ c) :
    encodeOne c = [0xF0 + c / 0x40000, 0x80 + c / 0x1000 % 0x40, 0x80 + c / 0x40 % 0x40,
      0x80 + c % 0x40] := by
  rw [encodeOne, if_neg (by omega), if_neg (by omega), if_neg (by omega)]

/-! ## Decoding -/

theorem decodeFrom_wait {surrogates : Bool} {pos b : Nat} {p : Option Partial} {q : Partial}
    (h : nextStep surrogates p pos b = .wait q) (rest : List Nat) :
    decodeFrom surrogates pos p (b :: rest) = decodeFrom surrogates (pos + 1) (some q) rest := by
  rw [decodeFrom, h]

theorem decodeFrom_done {surrogates : Bool} {pos b c : Nat} {p : Option Partial}
    (h : nextStep surrogates p pos b = .done c) (rest : List Nat) :
    decodeFrom surrogates pos p (b :: rest) =
      (decodeFrom surrogates (pos + 1) none rest).map (c :: ·) := by
  rw [decodeFrom, h]

/-- A byte within the bounds goes on with the code point. -/
theorem decodeFrom_more {surrogates : Bool} {p : Partial} {pos b : Nat} (hlow : p.low ≤ b)
    (hhigh : b ≤ p.high) (hleft : 1 < p.left) (rest : List Nat) :
    decodeFrom surrogates pos (some p) (b :: rest) = decodeFrom surrogates (pos + 1) (some
      { start := p.start, first := p.first, value := p.value * 0x40 + (b - 0x80)
        left := p.left - 1 }) rest := by
  refine decodeFrom_wait ?_ rest
  show p.step pos b = _
  unfold Partial.step
  rw [if_pos ⟨hlow, hhigh⟩]
  dsimp only
  rw [if_neg (by omega)]

/-- The last byte within the bounds completes the code point. -/
theorem decodeFrom_last {surrogates : Bool} {p : Partial} {pos b c : Nat} (hlow : p.low ≤ b)
    (hhigh : b ≤ p.high) (hleft : p.left = 1) (hc : p.value * 0x40 + (b - 0x80) = c)
    (rest : List Nat) : decodeFrom surrogates pos (some p) (b :: rest) =
      (decodeFrom surrogates (pos + 1) none rest).map (c :: ·) := by
  refine decodeFrom_done ?_ rest
  show p.step pos b = _
  unfold Partial.step
  rw [if_pos ⟨hlow, hhigh⟩]
  dsimp only
  rw [if_pos (by omega), hc]

theorem startStep_two {pos b : Nat} (hlow : 0xC2 ≤ b) (hhigh : b < 0xE0) :
    nextStep false none pos b = .wait { start := pos, first := b, value := b - 0xC0, left := 1 } := by
  show startStep false pos b = _
  unfold startStep
  rw [if_neg (by omega), if_neg (by omega), if_pos hhigh]

theorem startStep_three {pos b : Nat} (hlow : 0xE0 ≤ b) (hhigh : b < 0xF0) :
    nextStep false none pos b = .wait
      { start := pos, first := b, value := b - 0xE0, left := 2
        low := if b = 0xE0 then 0xA0 else 0x80, high := if b = 0xED then 0x9F else 0xBF } := by
  show startStep false pos b = _
  unfold startStep
  rw [if_neg (by omega), if_neg (by omega), if_neg (by omega), if_pos hhigh]
  simp only [Bool.not_false, and_true]

theorem startStep_four {pos b : Nat} (hlow : 0xF0 ≤ b) (hhigh : b < 0xF5) :
    nextStep false none pos b = .wait
      { start := pos, first := b, value := b - 0xF0, left := 3
        low := if b = 0xF0 then 0x90 else 0x80, high := if b = 0xF4 then 0x8F else 0xBF } := by
  show startStep false pos b = _
  unfold startStep
  rw [if_neg (by omega), if_neg (by omega), if_neg (by omega), if_neg (by omega), if_pos hhigh]

/-- The bytes of a code point decode to it. -/
theorem decodeFrom_encodeOne {c : Nat} (hc : IsScalar c) (pos : Nat) (rest : List Nat) :
    decodeFrom false pos none (encodeOne c ++ rest) =
      (decodeFrom false (pos + (encodeOne c).length) none rest).map (c :: ·) := by
  unfold IsScalar at hc
  -- the first byte tells how many bytes follow
  by_cases h1 : c < 0x80
  · have hstart : nextStep false none pos c = .done c := if_pos h1
    rw [encodeOne_one h1]
    exact decodeFrom_done hstart rest
  by_cases h2 : c < 0x800
  · have hlow : 0xC2 ≤ 0xC0 + c / 0x40 := by omega
    have hhigh : 0xC0 + c / 0x40 < 0xE0 := by omega
    rw [encodeOne_two (by omega) h2, List.cons_append,
      decodeFrom_wait (startStep_two hlow hhigh)]
    refine decodeFrom_last ?_ ?_ rfl ?_ rest <;> dsimp only <;> omega
  by_cases h3 : c < 0x10000
  · have hlow : 0xE0 ≤ 0xE0 + c / 0x1000 := by omega
    have hhigh : 0xE0 + c / 0x1000 < 0xF0 := by omega
    rw [encodeOne_three (by omega) h3, List.cons_append,
      decodeFrom_wait (startStep_three hlow hhigh), List.cons_append,
      decodeFrom_more ?_ ?_ Nat.one_lt_two]
    · refine decodeFrom_last ?_ ?_ rfl ?_ rest <;> dsimp only <;> omega
    · dsimp only
      split <;> omega
    · dsimp only
      split <;> omega
  · have hlow : 0xF0 ≤ 0xF0 + c / 0x40000 := by omega
    have hhigh : 0xF0 + c / 0x40000 < 0xF5 := by omega
    rw [encodeOne_four (by omega), List.cons_append,
      decodeFrom_wait (startStep_four hlow hhigh), List.cons_append,
      decodeFrom_more ?_ ?_ (Nat.lt_of_sub_eq_succ rfl), List.cons_append,
      decodeFrom_more ?_ ?_ Nat.one_lt_two]
    · refine decodeFrom_last ?_ ?_ rfl ?_ rest <;> dsimp only <;> omega
    · dsimp only
      omega
    · dsimp only
      omega
    · dsimp only
      split <;> omega
    · dsimp only
      split <;> omega

/-- The bytes of a text denote it. -/
theorem decode_encode {t : Text} (ht : IsEncodable t) : decode (encode t) = .ok t := by
  have hfrom : ∀ pos, decodeFrom false pos none (encode t) = .ok t := by
    induction t with
    | nil => exact fun _ => rfl
    | cons c rest ih =>
      intro pos
      have hrest : IsEncodable rest := fun d hd => ht d (List.mem_cons_of_mem c hd)
      have hencode : encode (c :: rest) = encodeOne c ++ encode rest := rfl
      rw [hencode, decodeFrom_encodeOne (ht c List.mem_cons_self), ih hrest]
      rfl
  exact hfrom 0

/-! ## What is decoded -/

/-- Whatever bytes come next, so many of them, they complete the bytes of a code point. -/
def LeadsTo : Nat → Nat → List Nat → Prop
  | 0, value, seen => IsScalar value ∧ encodeOne value = seen
  | left + 1, value, seen => ∀ d < 0x40, LeadsTo left (value * 0x40 + d) (seen ++ [0x80 + d])

/-- The bytes that were read are the first ones of a code point, whatever bytes follow. -/
structure Partial.LeadsOn (p : Partial) (seen : List Nat) : Prop where
  low : 0x80 ≤ p.low
  high : p.high < 0xC0
  left : 0 < p.left
  next : ∀ d, p.low ≤ 0x80 + d → 0x80 + d ≤ p.high →
    LeadsTo (p.left - 1) (p.value * 0x40 + d) (seen ++ [0x80 + d])

/-- The step leads to a code point with the bytes that were read. -/
def Utf8Step.LeadsOn (seen : List Nat) : Utf8Step → Prop
  | .done c => LeadsTo 0 c seen
  | .wait p => p.LeadsOn seen
  | .fail _ => True

theorem leadsOn_two {pos b : Nat} (hlow : 0xC2 ≤ b) (hhigh : b < 0xE0) :
    (nextStep false none pos b).LeadsOn [b] := by
  rw [startStep_two hlow hhigh]
  refine ⟨Nat.le_refl _, Nat.lt_succ_self 0xBF, Nat.one_pos, fun d hd hd' => ?_⟩
  dsimp only at hd hd' ⊢
  refine ⟨Or.inl (by omega), ?_⟩
  rw [encodeOne_two (by omega) (by omega)]
  simp only [List.cons_append, List.nil_append, List.cons.injEq, and_true]
  omega

/-- The bounds for the second byte leave out what needs fewer bytes, and surrogates. -/
theorem leadsOn_three {pos b : Nat} (hlow : 0xE0 ≤ b) (hhigh : b < 0xF0) :
    (nextStep false none pos b).LeadsOn [b] := by
  rw [startStep_three hlow hhigh]
  refine ⟨?_, ?_, Nat.two_pos, fun d hd hd' e he => ?_⟩
  · dsimp only
    split <;> omega
  · dsimp only
    split <;> omega
  · dsimp only at hd hd' ⊢
    have hscalar : IsScalar (((b - 0xE0) * 0x40 + d) * 0x40 + e) := by
      unfold IsScalar
      split at hd <;> split at hd' <;> omega
    have hlarge : 0x800 ≤ ((b - 0xE0) * 0x40 + d) * 0x40 + e := by
      split at hd <;> omega
    have hsmall : d < 0x40 := by
      split at hd' <;> omega
    refine ⟨hscalar, ?_⟩
    rw [encodeOne_three hlarge (by omega)]
    simp only [List.cons_append, List.nil_append, List.cons.injEq, and_true]
    omega

/-- The bounds for the second byte leave out what needs fewer bytes, and what is too large. -/
theorem leadsOn_four {pos b : Nat} (hlow : 0xF0 ≤ b) (hhigh : b < 0xF5) :
    (nextStep false none pos b).LeadsOn [b] := by
  rw [startStep_four hlow hhigh]
  refine ⟨?_, ?_, Nat.succ_pos 2, fun d hd hd' e he g hg => ?_⟩
  · dsimp only
    split <;> omega
  · dsimp only
    split <;> omega
  · dsimp only at hd hd' ⊢
    have hscalar : IsScalar ((((b - 0xF0) * 0x40 + d) * 0x40 + e) * 0x40 + g) := by
      unfold IsScalar
      split at hd <;> split at hd' <;> omega
    have hlarge : 0x10000 ≤ (((b - 0xF0) * 0x40 + d) * 0x40 + e) * 0x40 + g := by
      split at hd <;> omega
    have hsmall : d < 0x40 := by
      split at hd' <;> omega
    refine ⟨hscalar, ?_⟩
    rw [encodeOne_four hlarge]
    simp only [List.cons_append, List.nil_append, List.cons.injEq, and_true]
    omega

/-- The first byte of a code point leads on. -/
theorem leadsOn_start (pos b : Nat) : (nextStep false none pos b).LeadsOn [b] := by
  by_cases h1 : b < 0x80
  · have hstart : nextStep false none pos b = .done b := if_pos h1
    rw [hstart]
    exact ⟨Or.inl (by omega), encodeOne_one h1⟩
  by_cases h2 : b < 0xC2
  · have hstart : nextStep false none pos b = .fail ⟨.utf8, pos, pos + 1, b, .badStart⟩ :=
      (if_neg h1).trans (if_pos h2)
    rw [hstart]
    trivial
  by_cases h3 : b < 0xE0
  · exact leadsOn_two (by omega) h3
  by_cases h4 : b < 0xF0
  · exact leadsOn_three (by omega) h4
  by_cases h5 : b < 0xF5
  · exact leadsOn_four (by omega) h5
  · have hstart : nextStep false none pos b = .fail ⟨.utf8, pos, pos + 1, b, .badStart⟩ :=
      (if_neg h1).trans ((if_neg h2).trans ((if_neg h3).trans ((if_neg h4).trans (if_neg h5))))
    rw [hstart]
    trivial

/-- Every further byte leads on. -/
theorem Partial.LeadsOn.step {p : Partial} {seen : List Nat} (h : p.LeadsOn seen) (pos b : Nat) :
    (nextStep false (some p) pos b).LeadsOn (seen ++ [b]) := by
  show (p.step pos b).LeadsOn (seen ++ [b])
  unfold Partial.step
  by_cases hb : p.low ≤ b ∧ b ≤ p.high
  · have hlow := h.low
    have hhigh := h.high
    obtain ⟨d, rfl⟩ : ∃ d, b = 0x80 + d := ⟨b - 0x80, by omega⟩
    have hnext := h.next d hb.1 hb.2
    rw [if_pos hb, Nat.add_sub_cancel_left]
    dsimp only
    -- the byte is the last one, or more are to come
    by_cases hleft : p.left ≤ 1
    · rw [Nat.sub_eq_zero_of_le hleft] at hnext
      rw [if_pos hleft]
      exact hnext
    · obtain ⟨left, hmore⟩ : ∃ left, p.left = left + 2 := ⟨p.left - 2, by omega⟩
      rw [hmore] at hnext
      rw [if_neg hleft]
      refine ⟨Nat.le_refl _, Nat.lt_succ_self 0xBF, ?_, fun e _ he => ?_⟩
      · dsimp only
        omega
      · dsimp only at he ⊢
        rw [hmore]
        exact hnext e (by omega)
  · rw [if_neg hb]
    trivial

/-- The bytes that were read of the code point that was begun, if there is one. -/
def Pending (seen : List Nat) : Option Partial → Prop
  | none => seen = []
  | some p => p.LeadsOn seen

theorem Pending.step {seen : List Nat} {p : Option Partial} (h : Pending seen p) (pos b : Nat) :
    (nextStep false p pos b).LeadsOn (seen ++ [b]) := by
  cases p with
  | none =>
    cases h
    exact leadsOn_start pos b
  | some q => exact Partial.LeadsOn.step h pos b

/-- The bytes of a code point that was begun go before the others. -/
theorem encode_eq_of_decodeFrom {bytes seen : List Nat} {p : Option Partial} {pos : Nat} {t : Text}
    (hp : Pending seen p) (h : decodeFrom false pos p bytes = .ok t) :
    IsEncodable t ∧ encode t = seen ++ bytes := by
  induction bytes generalizing pos p seen t with
  | nil =>
    cases p with
    | none =>
      cases h
      cases hp
      exact ⟨fun c hc => absurd hc List.not_mem_nil, rfl⟩
    | some q => cases h
  | cons b rest ih =>
    have hstep := hp.step pos b
    rw [decodeFrom] at h
    -- a byte completes a code point or joins the bytes that were read of it
    cases hnext : nextStep false p pos b with
    | done c =>
      rw [hnext] at h hstep
      dsimp only at h
      cases hrest : decodeFrom false (pos + 1) none rest with
      | error e =>
        rw [hrest] at h
        cases h
      | ok u =>
        rw [hrest] at h
        cases h
        obtain ⟨hu, hbytes⟩ := ih (p := none) rfl hrest
        obtain ⟨hc, hseen⟩ := hstep
        have hencode : encode (c :: u) = encodeOne c ++ encode u := rfl
        refine ⟨List.forall_mem_cons.2 ⟨hc, hu⟩, ?_⟩
        rw [hencode, hseen, hbytes, List.append_assoc]
        rfl
    | wait q =>
      rw [hnext] at h hstep
      obtain ⟨ht, hbytes⟩ := ih (p := some q) hstep h
      exact ⟨ht, by rw [hbytes, List.append_assoc]; rfl⟩
    | fail e =>
      rw [hnext] at h
      cases h

/-- The text that bytes denote can be encoded, and these are its bytes. -/
theorem encode_eq_of_decode {bytes : List Nat} {t : Text} (h : decode bytes = .ok t) :
    IsEncodable t ∧ encode t = bytes :=
  encode_eq_of_decodeFrom (p := none) rfl h

theorem isEncodable_of_decode {bytes : List Nat} {t : Text} (h : decode bytes = .ok t) :
    IsEncodable t :=
  (encode_eq_of_decode h).1

/-- The bytes that denote a text are its bytes. -/
theorem encode_of_decode {bytes : List Nat} {t : Text} (h : decode bytes = .ok t) :
    encode t = bytes :=
  (encode_eq_of_decode h).2

/-! ## Bytes -/

/-- The values are those of bytes. -/
def AreBytes (values : List Nat) : Prop := ∀ v ∈ values, v < 256

theorem areBytes_encodeOne {c : Nat} (hc : IsScalar c) : AreBytes (encodeOne c) := by
  unfold IsScalar at hc
  unfold encodeOne AreBytes
  split
  · simp only [List.mem_singleton, forall_eq]
    omega
  · split
    · simp only [List.mem_cons, List.not_mem_nil, or_false, forall_eq_or_imp, forall_eq]
      omega
    · split
      · simp only [List.mem_cons, List.not_mem_nil, or_false, forall_eq_or_imp, forall_eq]
        omega
      · simp only [List.mem_cons, List.not_mem_nil, or_false, forall_eq_or_imp, forall_eq]
        omega

theorem encode_append (t u : Text) : encode (t ++ u) = encode t ++ encode u :=
  List.flatMap_append

theorem areBytes_encode {t : Text} (ht : IsEncodable t) : AreBytes (encode t) := by
  intro v hv
  obtain ⟨c, hc, hv⟩ := List.mem_flatMap.1 hv
  exact areBytes_encodeOne (ht c hc) v hv

theorem values_toBytes {values : List Nat} (h : AreBytes values) :
    (toBytes values).data.toList.map UInt8.toNat = values := by
  show ((values.map UInt8.ofNat).map UInt8.toNat) = values
  rw [List.map_map]
  refine (List.map_congr_left fun v hv => ?_).trans values.map_id
  exact UInt8.toNat_ofNat_of_lt' (h v hv)

theorem byteAt_toBytes {values : List Nat} (h : AreBytes values) (i : Nat) :
    byteAt (toBytes values) i = values[i]? := by
  have hdata : byteAt (toBytes values) i =
      ((toBytes values).data.toList.map UInt8.toNat)[i]? := by
    unfold byteAt
    rw [List.getElem?_map, Array.getElem?_toList]
    rfl
  rw [hdata, values_toBytes h]

theorem bytesBetween_eq (bytes : ByteArray) (start stop : Nat) :
    bytesBetween bytes start stop =
      ((bytes.data.toList.map UInt8.toNat).drop start).take (stop - start) := by
  unfold bytesBetween
  rw [ByteArray.data_extract, Array.toList_extract, List.extract_eq_take_drop, List.map_take,
    List.map_drop]

theorem bytesBetween_toBytes {values : List Nat} (h : AreBytes values) (start stop : Nat) :
    bytesBetween (toBytes values) start stop = (values.drop start).take (stop - start) := by
  rw [bytesBetween_eq, values_toBytes h]

theorem length_bytesBetween {bytes : ByteArray} {stop : Nat} (h : stop ≤ bytes.size)
    (start : Nat) : (bytesBetween bytes start stop).length = stop - start := by
  have hsize : bytes.data.toList.length = bytes.size := Array.length_toList
  rw [bytesBetween_eq, List.length_take, List.length_drop, List.length_map, hsize]
  omega

/-- Bytes can be cut anywhere. -/
theorem bytesBetween_append {bytes : ByteArray} {start middle stop : Nat}
    (hstart : start ≤ middle) (hstop : middle ≤ stop) :
    bytesBetween bytes start middle ++ bytesBetween bytes middle stop =
      bytesBetween bytes start stop := by
  have hlength : stop - start = (middle - start) + (stop - middle) := by omega
  have hmiddle : start + (middle - start) = middle := by omega
  rw [bytesBetween_eq, bytesBetween_eq, bytesBetween_eq, hlength, List.take_add, List.drop_drop,
    hmiddle]

/-! ## Glyphs -/

theorem continuation_eq {bytes : ByteArray} {i b : Nat} (h : byteAt bytes i = some b)
    (hlow : 0x80 ≤ b) (hhigh : b < 0xC0) : continuation bytes i = some (b - 0x80) := by
  unfold continuation
  rw [h]
  exact if_pos ⟨hlow, hhigh⟩

section

variable {bytes : ByteArray} {i c : Nat}

theorem glyphAt_two (hlow : 0x80 ≤ c) (hhigh : c < 0x800)
    (hb : byteAt bytes i = some (0xC0 + c / 0x40))
    (hx : byteAt bytes (i + 1) = some (0x80 + c % 0x40)) : glyphAt bytes i = (.code c, 2) := by
  have hx' := continuation_eq hx (by omega) (by omega)
  have hvalue : (0xC0 + c / 0x40 - 0xC0) * 0x40 + (0x80 + c % 0x40 - 0x80) = c := by omega
  unfold glyphAt longSequence
  rw [hb]
  dsimp only
  rw [if_neg (by omega), if_neg (by omega), if_pos (by omega), hx']
  dsimp only [Option.bind_eq_bind, Option.bind_some]
  rw [hvalue]
  rfl

theorem glyphAt_three (hc : IsScalar c) (hlow : 0x800 ≤ c) (hhigh : c < 0x10000)
    (hb : byteAt bytes i = some (0xE0 + c / 0x1000))
    (hx : byteAt bytes (i + 1) = some (0x80 + c / 0x40 % 0x40))
    (hy : byteAt bytes (i + 2) = some (0x80 + c % 0x40)) : glyphAt bytes i = (.code c, 3) := by
  unfold IsScalar at hc
  have hx' := continuation_eq hx (by omega) (by omega)
  have hy' := continuation_eq hy (by omega) (by omega)
  have hvalue : ((0xE0 + c / 0x1000 - 0xE0) * 0x40 + (0x80 + c / 0x40 % 0x40 - 0x80)) * 0x40 +
      (0x80 + c % 0x40 - 0x80) = c := by omega
  unfold glyphAt longSequence
  rw [hb]
  dsimp only
  rw [if_neg (by omega), if_neg (by omega), if_neg (by omega), if_pos (by omega), hx', hy']
  dsimp only [Option.bind_eq_bind, Option.bind_some]
  rw [hvalue, if_neg (by omega)]

theorem glyphAt_four (hc : IsScalar c) (hlow : 0x10000 ≤ c)
    (hb : byteAt bytes i = some (0xF0 + c / 0x40000))
    (hx : byteAt bytes (i + 1) = some (0x80 + c / 0x1000 % 0x40))
    (hy : byteAt bytes (i + 2) = some (0x80 + c / 0x40 % 0x40))
    (hz : byteAt bytes (i + 3) = some (0x80 + c % 0x40)) : glyphAt bytes i = (.code c, 4) := by
  unfold IsScalar at hc
  have hx' := continuation_eq hx (by omega) (by omega)
  have hy' := continuation_eq hy (by omega) (by omega)
  have hz' := continuation_eq hz (by omega) (by omega)
  have hvalue : (((0xF0 + c / 0x40000 - 0xF0) * 0x40 + (0x80 + c / 0x1000 % 0x40 - 0x80)) * 0x40 +
      (0x80 + c / 0x40 % 0x40 - 0x80)) * 0x40 + (0x80 + c % 0x40 - 0x80) = c := by omega
  unfold glyphAt longSequence
  rw [hb]
  dsimp only
  rw [if_neg (by omega), if_neg (by omega), if_neg (by omega), if_neg (by omega),
    if_pos (by omega), hx', hy', hz']
  dsimp only [Option.bind_eq_bind, Option.bind_some]
  rw [hvalue, if_neg (by omega)]

/-- The glyph at the bytes of a code point is this code point. -/
theorem glyphAt_encodeOne (hc : IsScalar c)
    (h : ∀ k, k < (encodeOne c).length → byteAt bytes (i + k) = (encodeOne c)[k]?) :
    glyphAt bytes i = (.code c, (encodeOne c).length) := by
  by_cases h1 : c < 0x80
  · rw [encodeOne_one h1] at h ⊢
    have hb : byteAt bytes i = some c := h 0 Nat.zero_lt_one
    unfold glyphAt
    rw [hb]
    exact if_pos h1
  by_cases h2 : c < 0x800
  · have hlow : 0x80 ≤ c := Nat.le_of_not_lt h1
    rw [encodeOne_two hlow h2] at h ⊢
    exact glyphAt_two hlow h2 (h 0 Nat.zero_lt_two) (h 1 Nat.one_lt_two)
  by_cases h3 : c < 0x10000
  · have hlow : 0x800 ≤ c := Nat.le_of_not_lt h2
    rw [encodeOne_three hlow h3] at h ⊢
    have hlength : ∀ k, k < 3 → byteAt bytes (i + k) = _ := h
    exact glyphAt_three hc hlow h3 (hlength 0 (by omega)) (hlength 1 (by omega))
      (hlength 2 (by omega))
  · have hlow : 0x10000 ≤ c := Nat.le_of_not_lt h3
    rw [encodeOne_four hlow] at h ⊢
    have hlength : ∀ k, k < 4 → byteAt bytes (i + k) = _ := h
    exact glyphAt_four hc hlow (hlength 0 (by omega)) (hlength 1 (by omega))
      (hlength 2 (by omega)) (hlength 3 (by omega))

end

/-- Between two glyphs of a text is behind the bytes of its first code points. -/
theorem exists_split_of_between {t : Text} (ht : IsEncodable t) {i : Nat}
    (h : Between (toBytes (encode t)) i) :
    ∃ done rest, t = done ++ rest ∧ i = (encode done).length := by
  -- every glyph takes one code point of the rest
  induction h with
  | start => exact ⟨[], t, rfl, rfl⟩
  | @behind i _ ih =>
    obtain ⟨done, rest, hsplit, rfl⟩ := ih
    have hbyte := byteAt_toBytes (areBytes_encode ht)
    have hencode : encode t = encode done ++ encode rest := by
      rw [hsplit, encode_append]
    cases rest with
    | nil =>
      -- nothing stands at the end of the source
      have hnone : byteAt (toBytes (encode t)) (encode done).length = none := by
        rw [hbyte, hencode]
        exact List.getElem?_eq_none (by rw [List.length_append]; exact Nat.le_refl _)
      refine ⟨done, [], hsplit, ?_⟩
      unfold Source.glyphAt
      rw [hnone]
      rfl
    | cons c rest =>
      have hc : IsScalar c := ht c (by rw [hsplit]; exact List.mem_append_right _ List.mem_cons_self)
      have hglyph : (glyphAt (toBytes (encode t)) (encode done).length).2 = (encodeOne c).length := by
        refine congrArg Prod.snd (glyphAt_encodeOne hc fun k hk => ?_)
        have hrest : encode (c :: rest) = encodeOne c ++ encode rest := rfl
        rw [hbyte, hencode, hrest, List.getElem?_append_right (Nat.le_add_right _ _),
          Nat.add_sub_cancel_left, List.getElem?_append_left hk]
      refine ⟨done ++ [c], rest, ?_, ?_⟩
      · rw [hsplit, List.append_assoc]
        rfl
      · have hone : encode [c] = encodeOne c := List.flatMap_singleton ..
        rw [hglyph, encode_append, hone, List.length_append]

/-- What lies between two glyphs of a text is a text. -/
theorem exists_decode_between {t : Text} (ht : IsEncodable t) {start stop : Nat}
    (hstart : Between (toBytes (encode t)) start) (hstop : Between (toBytes (encode t)) stop) :
    ∃ u, decode (bytesBetween (toBytes (encode t)) start stop) = .ok u := by
  obtain ⟨before, rest, hsplit, rfl⟩ := exists_split_of_between ht hstart
  obtain ⟨before', rest', hsplit', rfl⟩ := exists_split_of_between ht hstop
  have hdrop : (encode t).drop (encode before).length = encode rest := by
    rw [hsplit, encode_append, List.drop_left]
  rw [bytesBetween_toBytes (areBytes_encode ht), hdrop]
  rcases List.append_eq_append_iff.1 (hsplit.symm.trans hsplit') with
    ⟨inside, rfl, rfl⟩ | ⟨inside, rfl, rfl⟩
  · -- the second place is behind the first
    have hlength : (encode (before ++ inside)).length - (encode before).length =
        (encode inside).length := by
      rw [encode_append, List.length_append, Nat.add_sub_cancel_left]
    rw [hlength, encode_append, List.take_left]
    refine ⟨inside, decode_encode fun c hc => ht c ?_⟩
    rw [hsplit]
    exact List.mem_append_right before (List.mem_append_left rest' hc)
  · -- the second place is before the first, so that nothing lies between them
    have hnothing : (encode before').length - (encode (before' ++ inside)).length = 0 := by
      rw [encode_append, List.length_append]
      omega
    rw [hnothing]
    exact ⟨[], rfl⟩

/-- A part of a text stands between the bytes of what is before it and behind it. -/
theorem decode_part {before t behind : Text} (h : IsEncodable (before ++ t ++ behind)) :
    decode (bytesBetween (toBytes (encode (before ++ t ++ behind))) (encode before).length
      ((encode before).length + (encode t).length)) = .ok t := by
  have ht : IsEncodable t := fun c hc => h c (by simp [hc])
  rw [bytesBetween_toBytes (areBytes_encode h), encode_append, encode_append, List.append_assoc,
    List.drop_left, Nat.add_sub_cancel_left, List.take_left, decode_encode ht]
end ScriptDeps.Text

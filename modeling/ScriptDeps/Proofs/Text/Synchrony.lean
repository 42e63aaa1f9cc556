import ScriptDeps.Proofs.Text.Utf8

namespace ScriptDeps.Text

open Source (Between Glyph byteAt continuation glyphAt longSequence)

/-! # Code points in a source

The first byte of a code point is none of the later bytes of another one, and it tells how many bytes
there are. So code points that share a byte are the same, wherever the reading began. Main
statements:

* `glyphAt_eq_code_iff`: the glyph at an offset is a code point exactly if its bytes stand there;
* `StandsAt.unique`: code points that share a byte of a source are the same;
* `isInfix_of_encode`: a text whose bytes stand among those of another is a part of it.
-/

/-! ## First and later bytes -/

/-- The byte goes on with a code point. -/
def IsLater (b : Nat) : Prop := 0x80 ≤ b ∧ b < 0xC0

/-- How many bytes a code point has that begins with this one. -/
def widthOf (first : Nat) : Nat :=
  if first < 0x80 then 1 else if first < 0xE0 then 2 else if first < 0xF0 then 3 else 4

theorem encodeOne_eq_cons (c : Nat) : ∃ first later, encodeOne c = first :: later ∧
    ¬ IsLater first ∧ (∀ b ∈ later, IsLater b) ∧ (encodeOne c).length = widthOf first := by
  unfold encodeOne IsLater widthOf
  split
  · next h1 => exact ⟨c, [], rfl, by omega, by simp, by rw [if_pos h1]; rfl⟩
  · split
    · next h1 h2 =>
      refine ⟨_, _, rfl, by omega, ?_, ?_⟩
      · simp only [List.mem_singleton, forall_eq]
        omega
      · rw [if_neg (by omega), if_pos (by omega)]
        rfl
    · split
      · next h1 h2 h3 =>
        refine ⟨_, _, rfl, by omega, ?_, ?_⟩
        · simp only [List.mem_cons, List.not_mem_nil, or_false, forall_eq_or_imp, forall_eq]
          omega
        · rw [if_neg (by omega), if_neg (by omega), if_pos (by omega)]
          rfl
      · next h1 h2 h3 =>
        refine ⟨_, _, rfl, by omega, ?_, ?_⟩
        · simp only [List.mem_cons, List.not_mem_nil, or_false, forall_eq_or_imp, forall_eq]
          omega
        · rw [if_neg (by omega), if_neg (by omega), if_neg (by omega)]
          rfl

theorem encodeOne_ne_nil (c : Nat) : encodeOne c ≠ [] := by
  obtain ⟨first, later, h, -⟩ := encodeOne_eq_cons c
  rw [h]
  exact List.cons_ne_nil first later

theorem encode_singleton (c : Nat) : encode [c] = encodeOne c := List.flatMap_singleton ..

theorem encode_cons (c : Nat) (t : Text) : encode (c :: t) = encodeOne c ++ encode t := rfl

theorem encode_injective {t u : Text} (ht : IsEncodable t) (hu : IsEncodable u)
    (h : encode t = encode u) : t = u := by
  have hread := decode_encode ht
  rw [h, decode_encode hu] at hread
  exact (Except.ok.inj hread).symm

theorem encodeOne_injective {c d : Nat} (hc : IsScalar c) (hd : IsScalar d)
    (h : encodeOne c = encodeOne d) : c = d := by
  rw [← encode_singleton, ← encode_singleton] at h
  exact List.singleton_inj.1
    (encode_injective (by simpa [IsEncodable] using hc) (by simpa [IsEncodable] using hd) h)

/-- Two code points whose bytes begin the same bytes are the same. -/
theorem eq_of_encodeOne_append {c d : Nat} (hc : IsScalar c) (hd : IsScalar d) {xs ys : List Nat}
    (h : encodeOne c ++ xs = encodeOne d ++ ys) : c = d ∧ xs = ys := by
  obtain ⟨b, later, hb, -, -, hwidth⟩ := encodeOne_eq_cons c
  obtain ⟨b', later', hb', -, -, hwidth'⟩ := encodeOne_eq_cons d
  have hfirst : b = b' := by
    rw [hb, hb'] at h
    exact (List.cons.inj h).1
  have hlength : (encodeOne c).length = (encodeOne d).length := by
    rw [hwidth, hwidth', hfirst]
  obtain ⟨hone, hrest⟩ := List.append_inj h hlength
  exact ⟨encodeOne_injective hc hd hone, hrest⟩

/-! ## Where code points stand -/

/-- The bytes of the code point stand at the offset. -/
structure StandsAt (source : ByteArray) (c j : Nat) : Prop where
  scalar : IsScalar c
  bytes : bytesBetween source j (j + (encodeOne c).length) = encodeOne c

section

variable {source : ByteArray} {c d i j k : Nat}

theorem byteAt_eq (bytes : ByteArray) (i : Nat) :
    byteAt bytes i = (bytes.data.toList.map UInt8.toNat)[i]? := by
  unfold byteAt
  rw [List.getElem?_map, Array.getElem?_toList]
  rfl

theorem getElem?_bytesBetween {start stop : Nat} (h : start + i < stop) :
    (bytesBetween source start stop)[i]? = byteAt source (start + i) := by
  rw [bytesBetween_eq, List.getElem?_take_of_lt (by omega), List.getElem?_drop, byteAt_eq]

theorem StandsAt.byteAt (h : StandsAt source c j) (hi : i < (encodeOne c).length) :
    byteAt source (j + i) = (encodeOne c)[i]? := by
  rw [← getElem?_bytesBetween (Nat.add_lt_add_left hi j), h.bytes]

theorem StandsAt.first (h : StandsAt source c j) : ∃ b, Source.byteAt source j = some b ∧
    ¬ IsLater b ∧ (encodeOne c).length = widthOf b := by
  obtain ⟨b, later, hb, hfirst, -, hwidth⟩ := encodeOne_eq_cons c
  have hbyte := h.byteAt (i := 0) (by rw [hb]; exact Nat.zero_lt_succ _)
  rw [hb] at hbyte
  exact ⟨b, hbyte, hfirst, hwidth⟩

theorem StandsAt.later (h : StandsAt source c j) (hj : j < i) (hi : i < j + (encodeOne c).length) :
    ∃ b, Source.byteAt source i = some b ∧ IsLater b := by
  obtain ⟨first, later, hc, -, hlater, -⟩ := encodeOne_eq_cons c
  obtain ⟨m, rfl⟩ : ∃ m, i = j + (m + 1) := ⟨i - j - 1, by omega⟩
  have hm : m < later.length := by
    rw [hc, List.length_cons] at hi
    omega
  have hbyte := h.byteAt (i := m + 1) (by omega)
  rw [hc, List.getElem?_cons_succ, List.getElem?_eq_getElem hm] at hbyte
  exact ⟨_, hbyte, hlater _ (List.getElem_mem hm)⟩

/-- A code point does not begin among the bytes of another. -/
theorem StandsAt.not_within (hc : StandsAt source c j) (hd : StandsAt source d k) :
    ¬ (j < k ∧ k < j + (encodeOne c).length) := by
  rintro ⟨hj, hk⟩
  obtain ⟨b, hb, hlater⟩ := hc.later hj hk
  obtain ⟨b', hb', hfirst, -⟩ := hd.first
  rw [hb] at hb'
  cases hb'
  exact hfirst hlater

/-- Code points that share a byte are the same. -/
theorem StandsAt.unique (hc : StandsAt source c j) (hd : StandsAt source d k) (hj : j ≤ i)
    (hi : i < j + (encodeOne c).length) (hk : k ≤ i) (hi' : i < k + (encodeOne d).length) :
    j = k ∧ c = d := by
  have hcd := hc.not_within hd
  have hdc := hd.not_within hc
  obtain rfl : j = k := by omega
  obtain ⟨b, hb, -, hwidth⟩ := hc.first
  obtain ⟨b', hb', -, hwidth'⟩ := hd.first
  rw [hb] at hb'
  cases hb'
  have hbytes : encodeOne c = encodeOne d := by
    rw [← hc.bytes, ← hd.bytes, hwidth, hwidth']
  exact ⟨rfl, encodeOne_injective hc.scalar hd.scalar hbytes⟩

end

/-! ## Glyphs -/

section

variable {source : ByteArray} {c j n : Nat}

theorem StandsAt.glyphAt (h : StandsAt source c j) :
    glyphAt source j = (.code c, (encodeOne c).length) :=
  glyphAt_encodeOne h.scalar fun _ hk => h.byteAt hk

theorem exists_byteAt_of_continuation {x : Nat} (h : continuation source j = some x) :
    byteAt source j = some (0x80 + x) ∧ x < 0x40 := by
  unfold continuation at h
  split at h
  · next b hb =>
    split at h
    · next hbounds =>
      obtain rfl : b - 0x80 = x := Option.some.inj h
      have hsum : b = 0x80 + (b - 0x80) := by omega
      exact ⟨hb.trans (congrArg some hsum), by omega⟩
    · cases h
  · cases h

theorem bytesBetween_cons {b : Nat} (h : byteAt source j = some b) (n : Nat) :
    bytesBetween source j (j + (n + 1)) = b :: bytesBetween source (j + 1) (j + 1 + n) := by
  have hget : (source.data.toList.map UInt8.toNat)[j]? = some b := by rw [← byteAt_eq, h]
  obtain ⟨hj, hb⟩ := List.getElem?_eq_some_iff.1 hget
  have hone : j + (n + 1) - j = n + 1 := by omega
  have htwo : j + 1 + n - (j + 1) = n := by omega
  rw [bytesBetween_eq, bytesBetween_eq, List.drop_eq_getElem_cons hj, hb, hone, htwo,
    List.take_succ_cons]

theorem bytesBetween_self : bytesBetween source j j = [] := by
  rw [bytesBetween_eq, Nat.sub_self, List.take_zero]

theorem standsAt_one {b : Nat} (h : byteAt source j = some b) (hb : b < 0x80) :
    StandsAt source b j := by
  have hbytes : encodeOne b = [b] := if_pos hb
  refine ⟨Or.inl (by omega), ?_⟩
  rw [hbytes]
  exact (bytesBetween_cons h 0).trans (congrArg _ bytesBetween_self)

theorem standsAt_two {b x : Nat} (h : byteAt source j = some b)
    (hx : continuation source (j + 1) = some x) (hlow : 0xC2 ≤ b) (hhigh : b < 0xE0) :
    StandsAt source ((b - 0xC0) * 0x40 + x) j := by
  obtain ⟨hx, hxl⟩ := exists_byteAt_of_continuation hx
  have hbytes : encodeOne ((b - 0xC0) * 0x40 + x) = [b, 0x80 + x] := by
    rw [encodeOne_two (by omega) (by omega)]
    congr 2 <;> omega
  refine ⟨Or.inl (by omega), ?_⟩
  rw [hbytes]
  show bytesBetween source j (j + (1 + 1)) = _
  rw [bytesBetween_cons h, bytesBetween_cons hx 0, Nat.add_zero, bytesBetween_self]

theorem standsAt_three {b x y : Nat} (h : byteAt source j = some b)
    (hx : continuation source (j + 1) = some x) (hy : continuation source (j + 2) = some y)
    (hhead : 0xE0 ≤ b ∧ b < 0xF0) (hlow : 0x800 ≤ ((b - 0xE0) * 0x40 + x) * 0x40 + y)
    (hscalar : IsScalar (((b - 0xE0) * 0x40 + x) * 0x40 + y)) :
    StandsAt source (((b - 0xE0) * 0x40 + x) * 0x40 + y) j := by
  obtain ⟨hx, hxl⟩ := exists_byteAt_of_continuation hx
  obtain ⟨hy, hyl⟩ := exists_byteAt_of_continuation hy
  have hbytes : encodeOne (((b - 0xE0) * 0x40 + x) * 0x40 + y) = [b, 0x80 + x, 0x80 + y] := by
    rw [encodeOne_three hlow (by omega)]
    congr 2
    · omega
    · omega
    · congr 1
      omega
  refine ⟨hscalar, ?_⟩
  rw [hbytes]
  show bytesBetween source j (j + (2 + 1)) = _
  rw [bytesBetween_cons h, bytesBetween_cons hx 1, bytesBetween_cons hy 0, Nat.add_zero,
    bytesBetween_self]

theorem standsAt_four {b x y z : Nat} (h : byteAt source j = some b)
    (hx : continuation source (j + 1) = some x) (hy : continuation source (j + 2) = some y)
    (hz : continuation source (j + 3) = some z) (hhead : 0xF0 ≤ b)
    (hlow : 0x10000 ≤ (((b - 0xF0) * 0x40 + x) * 0x40 + y) * 0x40 + z)
    (hhigh : (((b - 0xF0) * 0x40 + x) * 0x40 + y) * 0x40 + z ≤ 0x10FFFF) :
    StandsAt source ((((b - 0xF0) * 0x40 + x) * 0x40 + y) * 0x40 + z) j := by
  obtain ⟨hx, hxl⟩ := exists_byteAt_of_continuation hx
  obtain ⟨hy, hyl⟩ := exists_byteAt_of_continuation hy
  obtain ⟨hz, hzl⟩ := exists_byteAt_of_continuation hz
  have hbytes : encodeOne ((((b - 0xF0) * 0x40 + x) * 0x40 + y) * 0x40 + z) =
      [b, 0x80 + x, 0x80 + y, 0x80 + z] := by
    rw [encodeOne_four hlow]
    congr 2
    · omega
    · omega
    · congr 1
      · omega
      · congr 1
        omega
  refine ⟨Or.inr ⟨by omega, hhigh⟩, ?_⟩
  rw [hbytes]
  show bytesBetween source j (j + (3 + 1)) = _
  rw [bytesBetween_cons h, bytesBetween_cons hx 2, bytesBetween_cons hy 1, bytesBetween_cons hz 0,
    Nat.add_zero, bytesBetween_self]

theorem standsAt_of_longSequence {b : Nat} (hb : byteAt source j = some b)
    (h : longSequence source j b = some (c, n)) : StandsAt source c j := by
  unfold longSequence at h
  -- the first byte tells how many bytes follow
  split at h
  · cases h
  · next h1 =>
    split at h
    · next h2 =>
      obtain ⟨x, hx, h⟩ := Option.bind_eq_some_iff.1 h
      obtain ⟨rfl, -⟩ := Prod.mk.inj (Option.some.inj h)
      exact standsAt_two hb hx (by omega) h2
    · next h2 =>
      split at h
      · next h3 =>
        obtain ⟨x, hx, h⟩ := Option.bind_eq_some_iff.1 h
        obtain ⟨y, hy, h⟩ := Option.bind_eq_some_iff.1 h
        dsimp only at h
        split at h
        · cases h
        · next hvalue =>
          obtain ⟨rfl, -⟩ := Prod.mk.inj (Option.some.inj h)
          have hxl := (exists_byteAt_of_continuation hx).2
          have hyl := (exists_byteAt_of_continuation hy).2
          exact standsAt_three hb hx hy (by omega) (by omega) (by unfold IsScalar; omega)
      · next h3 =>
        split at h
        · next h4 =>
          obtain ⟨x, hx, h⟩ := Option.bind_eq_some_iff.1 h
          obtain ⟨y, hy, h⟩ := Option.bind_eq_some_iff.1 h
          obtain ⟨z, hz, h⟩ := Option.bind_eq_some_iff.1 h
          dsimp only at h
          split at h
          · cases h
          · next hvalue =>
            obtain ⟨rfl, -⟩ := Prod.mk.inj (Option.some.inj h)
            exact standsAt_four hb hx hy hz (by omega) (by omega) (by omega)
        · cases h

/-- A glyph that is a code point stands where its bytes stand. -/
theorem standsAt_of_glyphAt (h : glyphAt source j = (.code c, n)) : StandsAt source c j := by
  unfold glyphAt at h
  split at h
  · cases h
  · next b hb =>
    split at h
    · next hlow =>
      obtain rfl : b = c := Glyph.code.inj (Prod.mk.inj h).1
      exact standsAt_one hb hlow
    · split at h
      · next v m hlong =>
        obtain rfl : v = c := Glyph.code.inj (Prod.mk.inj h).1
        exact standsAt_of_longSequence hb hlong
      · cases h

/-- The glyph at an offset is a code point exactly if the bytes of the code point stand there. -/
theorem glyphAt_eq_code_iff :
    glyphAt source j = (.code c, n) ↔ StandsAt source c j ∧ n = (encodeOne c).length := by
  constructor
  · intro h
    have hstands := standsAt_of_glyphAt h
    rw [hstands.glyphAt] at h
    exact ⟨hstands, (Prod.mk.inj h).2.symm⟩
  · rintro ⟨hstands, rfl⟩
    exact hstands.glyphAt

/-- What is no code point is at most one byte wide. -/
theorem width_glyphAt (source : ByteArray) (j : Nat) :
    (glyphAt source j).2 ≤ 1 ∨ ∃ c n, glyphAt source j = (.code c, n) := by
  unfold glyphAt
  split
  · exact Or.inl (Nat.zero_le 1)
  · split
    · exact Or.inl (Nat.le_refl 1)
    · split
      · next c n _ => exact Or.inr ⟨c, n, rfl⟩
      · exact Or.inl (Nat.le_refl 1)

/-- Between two glyphs, no code point is cut. -/
theorem StandsAt.not_cut (h : StandsAt source c j) {i : Nat} (hi : Between source i) :
    ¬ (j < i ∧ i < j + (encodeOne c).length) := by
  induction hi with
  | start => omega
  | @behind i _ ih =>
    intro hcut
    rcases width_glyphAt source i with hone | ⟨d, n, hd⟩
    · obtain rfl : i = j := by omega
      rw [h.glyphAt] at hcut
      omega
    · obtain ⟨hstands, rfl⟩ := glyphAt_eq_code_iff.1 hd
      have hbefore := hstands.not_within h
      rw [hd] at hcut
      obtain rfl : i = j := by omega
      rw [h.glyphAt] at hd
      obtain ⟨-, hwidth⟩ := Prod.mk.inj hd
      omega

end

/-! ## Parts of texts -/

/-- A text whose bytes begin those of another is the beginning of it. -/
theorem exists_append_of_encode {t u : Text} (ht : IsEncodable t) (hu : IsEncodable u)
    {rest : List Nat} (h : encode t = encode u ++ rest) : ∃ v, t = u ++ v := by
  induction u generalizing t with
  | nil => exact ⟨t, rfl⟩
  | cons d u ih =>
    rw [encode_cons, List.append_assoc] at h
    cases t with
    | nil =>
      obtain ⟨b, later, hd, -⟩ := encodeOne_eq_cons d
      rw [hd] at h
      cases h
    | cons c t =>
      rw [encode_cons] at h
      obtain ⟨rfl, hrest⟩ := eq_of_encodeOne_append (ht c List.mem_cons_self)
        (hu d List.mem_cons_self) h
      obtain ⟨v, rfl⟩ := ih (fun x hx => ht x (List.mem_cons_of_mem c hx))
        (fun x hx => hu x (List.mem_cons_of_mem c hx)) hrest
      exact ⟨v, rfl⟩

/-- A text whose bytes stand among those of another is a part of it. -/
theorem isInfix_of_encode {t u : Text} (ht : IsEncodable t) (hu : IsEncodable u)
    (h : encode u <:+: encode t) : u <:+: t := by
  obtain ⟨before, behind, h⟩ := h
  cases u with
  | nil => exact List.nil_infix
  | cons d u =>
    obtain ⟨start, others, hstart, hnot, -⟩ := encodeOne_eq_cons d
    rw [List.append_assoc] at h
    induction t generalizing before with
    | nil =>
      have hnil := (List.append_eq_nil_iff.1 (List.append_eq_nil_iff.1 h).2).1
      rw [encode_cons, hstart] at hnil
      cases hnil
    | cons c t ih =>
      have hrest : IsEncodable t := fun x hx => ht x (List.mem_cons_of_mem c hx)
      cases before with
      | nil =>
        obtain ⟨v, hv⟩ := exists_append_of_encode ht hu h.symm
        exact ⟨[], v, hv.symm⟩
      | cons b before =>
        rw [encode_cons c] at h
        rcases List.append_eq_append_iff.1 h with ⟨rest, hone, hothers⟩ | ⟨rest, hbefore, hothers⟩
        · cases rest with
          | nil =>
            obtain ⟨v, rfl⟩ := exists_append_of_encode hrest hu hothers.symm
            exact ⟨[c], v, rfl⟩
          | cons x rest =>
            -- the first byte of `d` would be a later one of `c`
            obtain ⟨first, later, hfirst, -, hlater, -⟩ := encodeOne_eq_cons c
            have hx : x ∈ later := by
              rw [hfirst] at hone
              rw [(List.cons.inj hone).2]
              exact List.mem_append_right before List.mem_cons_self
            rw [encode_cons, hstart] at hothers
            have hsame : start = x := (List.cons.inj hothers).1
            exact absurd (hlater x hx) (hsame ▸ hnot)
        · exact List.infix_cons (ih hrest rest hothers.symm)

end ScriptDeps.Text

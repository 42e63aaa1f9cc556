import ScriptDeps.Cluster.Url
import ScriptDeps.Proofs.Text.Utf8

namespace ScriptDeps.Cluster

open Text (lit IsEncodable AreBytes)

/-! # Percent-encoding

A name that is written as one segment is read back from it, and what has been written once for a
path stays as it is when it is written again. Main statements:

* `percentDecode_encodeSegment`: the bytes that a segment denotes are those of the name;
* `kept_percentEncode`: what is written needs no further encoding;
* `percentEncode_of_kept`: what needs no encoding is left alone.
-/

/-! ## Digits -/

theorem hexValue?_upperDigit {d : Nat} (h : d < 16) : Text.hexValue? (upperDigit d) = some d := by
  have hall : ∀ d < 16, Text.hexValue? (upperDigit d) = some d := by decide
  exact hall d h

theorem isUnreserved_upperDigit {d : Nat} (h : d < 16) : isUnreserved (upperDigit d) = true := by
  have hall : ∀ d < 16, isUnreserved (upperDigit d) = true := by decide +kernel
  exact hall d h

/-- What is never encoded: letters, digits and four marks. -/
theorem isUnreserved_iff {c : Nat} :
    isUnreserved c = true ↔
      0x30 ≤ c ∧ c ≤ 0x39 ∨ 0x41 ≤ c ∧ c ≤ 0x5A ∨ 0x61 ≤ c ∧ c ≤ 0x7A ∨
        c = 0x2D ∨ c = 0x2E ∨ c = 0x5F ∨ c = 0x7E := by
  have hmarks : lit "-._~" = [0x2D, 0x2E, 0x5F, 0x7E] := by decide
  rw [isUnreserved, hmarks]
  simp [Text.isDigit, or_assoc]

/-! ## Decoding -/

theorem percentDecode_percentByte {b : Nat} (h : b < 256) (rest : Text) :
    percentDecode (percentByte b ++ rest) = b :: percentDecode rest := by
  have hhigh : Text.hexValue? (upperDigit (b / 16)) = some (b / 16) :=
    hexValue?_upperDigit (by omega)
  have hlow : Text.hexValue? (upperDigit (b % 16)) = some (b % 16) :=
    hexValue?_upperDigit (by omega)
  have hvalue : 16 * (b / 16) + b % 16 = b := by omega
  show percentDecode (0x25 :: upperDigit (b / 16) :: upperDigit (b % 16) :: rest) = _
  rw [percentDecode, hhigh, hlow]
  show (16 * (b / 16) + b % 16) :: percentDecode rest = _
  rw [hvalue]

theorem percentDecode_bytes {bytes : List Nat} (h : AreBytes bytes) (rest : Text) :
    percentDecode (bytes.flatMap percentByte ++ rest) = bytes ++ percentDecode rest := by
  induction bytes with
  | nil => rfl
  | cons b bytes ih =>
    have hb : b < 256 := h b List.mem_cons_self
    have hbytes : AreBytes bytes := fun v hv => h v (List.mem_cons_of_mem b hv)
    rw [List.flatMap_cons, List.append_assoc, percentDecode_percentByte hb, ih hbytes]
    rfl

theorem percentDecode_unreserved {c : Nat} (h : isUnreserved c = true) (rest : Text) :
    percentDecode (c :: rest) = c :: percentDecode rest := by
  have hbounds := isUnreserved_iff.1 h
  have hone : Text.encodeOne c = [c] := by
    rw [Text.encodeOne, if_pos (by omega)]
  have hsign : c ≠ 0x25 := by omega
  rw [percentDecode, hone]
  · rfl
  · intro a b tail hc
    exact absurd hc hsign

/-- The bytes that the segment of a name denotes are those of the name. -/
theorem percentDecode_encodeSegment {t : Text} (h : IsEncodable t) :
    percentDecode (encodeSegment t) = Text.encode t := by
  induction t with
  | nil => rfl
  | cons c rest ih =>
    have hrest : IsEncodable rest := fun d hd => h d (List.mem_cons_of_mem c hd)
    have hsegment : encodeSegment (c :: rest) =
        (if isUnreserved c || false then [c] else percentEncoded c) ++ encodeSegment rest := rfl
    have hencode : Text.encode (c :: rest) = Text.encodeOne c ++ Text.encode rest := rfl
    rw [hsegment, hencode]
    cases hc : isUnreserved c with
    | true =>
      have hbounds := isUnreserved_iff.1 hc
      have hone : Text.encodeOne c = [c] := by
        rw [Text.encodeOne, if_pos (by omega)]
      show percentDecode (c :: encodeSegment rest) = _
      rw [percentDecode_unreserved hc, ih hrest, hone]
      rfl
    | false =>
      have hbytes : AreBytes (Text.encodeOne c) :=
        Text.areBytes_encodeOne (h c List.mem_cons_self)
      show percentDecode (percentEncoded c ++ encodeSegment rest) = _
      rw [percentEncoded, percentDecode_bytes hbytes, ih hrest]

/-! ## Encoding -/

section

variable {keeps : Nat → Bool}

/-- What is written: what is kept, and percent signs with digits. -/
theorem kept_percentEncode {t : Text} (h : IsEncodable t) {x : Nat}
    (hx : x ∈ percentEncode keeps t) : isUnreserved x = true ∨ keeps x = true ∨ x = 0x25 := by
  rcases List.mem_flatMap.1 hx with ⟨c, hc, hx⟩
  by_cases hkeep : (isUnreserved c || keeps c) = true
  · rw [if_pos hkeep, List.mem_singleton] at hx
    rw [hx]
    rcases Bool.or_eq_true_iff.1 hkeep with hun | hkeeps
    · exact Or.inl hun
    · exact Or.inr (Or.inl hkeeps)
  · rw [if_neg hkeep] at hx
    rcases List.mem_flatMap.1 hx with ⟨b, hb, hx⟩
    have hbyte : b < 256 := Text.areBytes_encodeOne (h c hc) b hb
    simp only [percentByte, List.mem_cons, List.not_mem_nil, or_false] at hx
    rcases hx with hx | hx | hx
    · exact Or.inr (Or.inr hx)
    · rw [hx]
      exact Or.inl (isUnreserved_upperDigit (by omega))
    · rw [hx]
      exact Or.inl (isUnreserved_upperDigit (by omega))

/-- What needs no encoding is left alone. -/
theorem percentEncode_of_kept {t : Text}
    (h : ∀ x ∈ t, isUnreserved x = true ∨ keeps x = true) : percentEncode keeps t = t := by
  induction t with
  | nil => rfl
  | cons c rest ih =>
    have hc : (isUnreserved c || keeps c) = true := Bool.or_eq_true_iff.2 (h c List.mem_cons_self)
    have hrest := ih fun x hx => h x (List.mem_cons_of_mem c hx)
    show (if isUnreserved c || keeps c then [c] else percentEncoded c) ++ percentEncode keeps rest = _
    rw [if_pos hc, hrest]
    rfl

theorem sign_mem_percentEncoded (c : Nat) : 0x25 ∈ percentEncoded c := by
  have hne : ∃ b, b ∈ Text.encodeOne c := by
    rw [Text.encodeOne]
    split
    · exact ⟨_, List.mem_cons_self⟩
    · split
      · exact ⟨_, List.mem_cons_self⟩
      · split
        · exact ⟨_, List.mem_cons_self⟩
        · exact ⟨_, List.mem_cons_self⟩
  rcases hne with ⟨b, hb⟩
  exact List.mem_flatMap.2 ⟨b, hb, List.mem_cons_self⟩

/-- Where nothing is encoded, everything is kept. -/
theorem percentEncode_of_no_sign {t : Text} (h : 0x25 ∉ percentEncode keeps t) :
    percentEncode keeps t = t := by
  refine percentEncode_of_kept fun c hc => ?_
  by_cases hkeep : (isUnreserved c || keeps c) = true
  · exact Bool.or_eq_true_iff.1 hkeep
  · have hsign : 0x25 ∈ percentEncode keeps t := by
      refine List.mem_flatMap.2 ⟨c, hc, ?_⟩
      rw [if_neg hkeep]
      exact sign_mem_percentEncoded c
    exact absurd hsign h

end

example : encodeSegment (lit "a/é") = lit "a%2F%C3%A9" := by decide +kernel

end ScriptDeps.Cluster

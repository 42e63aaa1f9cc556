import ScriptDeps.Proofs.Json.Strings

namespace ScriptDeps.Json

/-! # Reading numbers

A number is read as far as it goes, so what follows it must not go on with it. Main statements:

* `number_of_readNumber`: what is read is in the grammar;
* `Number.read`: what is in the grammar is read.
-/

/-! ## Digits -/

theorem leadingDigits_append_drop (t : Text) :
    leadingDigits t ++ t.drop (leadingDigits t).length = t := by
  have hsplit : leadingDigits t ++ t.dropWhile Text.isDigit = t := List.takeWhile_append_dropWhile
  calc leadingDigits t ++ t.drop (leadingDigits t).length
    _ = leadingDigits t ++ (leadingDigits t ++ t.dropWhile Text.isDigit).drop
          (leadingDigits t).length := by rw [hsplit]
    _ = t := by rw [List.drop_left, hsplit]

theorem isDigits_leadingDigits {t : Text} (h : ¬ (leadingDigits t).isEmpty = true) :
    IsDigits (leadingDigits t) :=
  ⟨fun hnil => h (List.isEmpty_iff.2 hnil), fun _ hc => List.mem_takeWhile_imp hc⟩

/-- Digits are read as far as they go. -/
theorem leadingDigits_append {ds rest : Text} (hds : IsDigits ds)
    (hrest : ∀ c ∈ rest.head?, Text.isDigit c = false) : leadingDigits (ds ++ rest) = ds := by
  rw [leadingDigits, List.takeWhile_append_of_pos hds.2]
  cases rest with
  | nil => exact List.append_nil ds
  | cons c rest =>
    rw [List.takeWhile_cons_of_neg (by simp [hrest c rfl]), List.append_nil]

theorem IsDigits.isEmpty_eq {ds : Text} (h : IsDigits ds) : ds.isEmpty = false :=
  List.isEmpty_eq_false_iff.2 h.1

/-! ## The parts of a number -/

/-- The digits before the decimal point with which a text starts. -/
def wholePart (t : Text) : Text :=
  match t with
  | 0x30 :: _ => [0x30]
  | t => leadingDigits t

/-- Reads a number behind its sign. -/
def readUnsigned (negative : Bool) (r start : Rest) : Except Failure (Json × Rest) :=
  let whole := wholePart start.text
  if whole.isEmpty then r.fail .noValue
  else
    let behind := start.skip whole.length
    let (fraction, fractionLength) := fractionPart behind.text
    let behind := behind.skip fractionLength
    match fractionLength, exponentPart behind.text with
    | 0, none =>
      if whole.length > digitLimit then .error (.tooManyDigits whole.length)
      else
        let n : Int := Text.valueOf 10 whole
        .ok (int (if negative then -n else n), behind)
    | _, e =>
      let (e, length) := e.getD (0, 0)
      let x := Binary64.ofDecimal negative (Text.valueOf 10 (whole ++ fraction))
        (e - fraction.length)
      .ok (real x, behind.skip length)

theorem readNumber_eq (r : Rest) :
    readNumber r = readUnsigned (decide (r.text.head? = some 0x2D)) r
      (if r.text.head? = some 0x2D then r.skip 1 else r) := by
  unfold readNumber readUnsigned
  by_cases h : r.text.head? = some 0x2D
  · simp only [h, if_true, decide_true]
    rfl
  · simp only [h, if_false, decide_false]
    rfl

theorem wholePart_eq (t : Text) :
    wholePart t = if t.head? = some 0x30 then [0x30] else leadingDigits t := by
  unfold wholePart
  split
  · exact (if_pos rfl).symm
  · next hzero =>
    rw [if_neg]
    intro hhead
    obtain ⟨rest, rfl⟩ := List.head?_eq_some_iff.1 hhead
    exact hzero rest rfl

theorem wholePart_append_drop (t : Text) :
    wholePart t ++ t.drop (wholePart t).length = t := by
  rw [wholePart_eq]
  split
  · next hhead =>
    obtain ⟨rest, rfl⟩ := List.head?_eq_some_iff.1 hhead
    rfl
  · exact leadingDigits_append_drop t

theorem isWhole_wholePart {t : Text} (h : ¬ (wholePart t).isEmpty = true) :
    IsWhole (wholePart t) := by
  rw [wholePart_eq] at h ⊢
  by_cases hzero : t.head? = some 0x30
  · rw [if_pos hzero]
    exact ⟨⟨by decide, by decide⟩, fun _ => rfl⟩
  · rw [if_neg hzero] at h ⊢
    have hds : IsDigits (leadingDigits t) := isDigits_leadingDigits h
    refine ⟨hds, fun hhead => absurd ?_ hzero⟩
    rw [← leadingDigits_append_drop t, List.head?_append_of_ne_nil _ hds.1, hhead]

theorem wholePart_append {ds rest : Text} (hds : IsWhole ds)
    (hrest : ∀ c ∈ rest.head?, Text.isDigit c = false) : wholePart (ds ++ rest) = ds := by
  rw [wholePart_eq, List.head?_append_of_ne_nil _ hds.1.1]
  split
  · next hzero => exact (hds.2 hzero).symm
  · exact leadingDigits_append hds.1 hrest

/-- A fraction at the start of a text. -/
theorem fraction_fractionPart (t : Text) :
    ∃ f, t = f ++ t.drop (fractionPart t).2 ∧ f.length = (fractionPart t).2 ∧
      Fraction f (fractionPart t).1 := by
  unfold fractionPart
  split
  · next rest =>
    dsimp only
    by_cases hds : (leadingDigits rest).isEmpty = true
    · rw [if_pos hds]
      exact ⟨[], rfl, rfl, .none⟩
    · rw [if_neg hds]
      refine ⟨0x2E :: leadingDigits rest, ?_, rfl, .digits (isDigits_leadingDigits hds)⟩
      rw [List.drop_succ_cons, List.cons_append, leadingDigits_append_drop]
  · exact ⟨[], rfl, rfl, .none⟩

theorem Fraction.fractionPart_eq {f fraction rest : Text} (h : Fraction f fraction)
    (hrest : ∀ c ∈ rest.head?, Text.isDigit c = false ∧ c ≠ 0x2E) :
    fractionPart (f ++ rest) = (fraction, f.length) := by
  cases h with
  | none =>
    unfold fractionPart
    split
    · next heq =>
      rw [List.nil_append] at heq
      exact absurd rfl (hrest 0x2E (by rw [heq]; rfl)).2
    · rfl
  | digits hds =>
    have hread := leadingDigits_append hds fun c hc => (hrest c hc).1
    rw [List.cons_append, fractionPart, hread, hds.isEmpty_eq]
    rfl

/-- Whether an exponent starts with a minus sign, and how long its sign is. -/
def exponentSign (t : Text) : Bool × Nat :=
  match t with
  | 0x2D :: _ => (true, 1)
  | 0x2B :: _ => (false, 1)
  | _ => (false, 0)

theorem exponentPart_cons {c : Nat} (hc : c = 0x65 ∨ c = 0x45) (rest : Text) :
    exponentPart (c :: rest) =
      if (leadingDigits (rest.drop (exponentSign rest).2)).isEmpty then none
      else some (if (exponentSign rest).1
          then -(Text.valueOf 10 (leadingDigits (rest.drop (exponentSign rest).2)) : Int)
          else (Text.valueOf 10 (leadingDigits (rest.drop (exponentSign rest).2)) : Int),
        1 + (exponentSign rest).2 + (leadingDigits (rest.drop (exponentSign rest).2)).length) :=
  if_pos hc

/-- The sign of an exponent stands before the rest of it. -/
theorem exists_exponentSign (t : Text) :
    ∃ sign, t = sign ++ t.drop (exponentSign t).2 ∧ sign.length = (exponentSign t).2 ∧
      (sign = minus (exponentSign t).1 ∨ sign = [0x2B] ∧ (exponentSign t).1 = false) := by
  unfold exponentSign
  split
  · exact ⟨[0x2D], rfl, rfl, .inl rfl⟩
  · exact ⟨[0x2B], rfl, rfl, .inr ⟨rfl, rfl⟩⟩
  · exact ⟨[], rfl, rfl, .inl rfl⟩

theorem exponentSign_append {sign t : Text} {negative : Bool}
    (hsign : sign = minus negative ∨ sign = [0x2B] ∧ negative = false)
    (ht : ∀ c ∈ t.head?, Text.isDigit c = true) :
    exponentSign (sign ++ t) = (negative, sign.length) := by
  rcases hsign with rfl | ⟨rfl, rfl⟩
  · cases negative with
    | true => rfl
    | false =>
      -- no digit is a sign
      show exponentSign t = (false, 0)
      unfold exponentSign
      split
      · exact absurd (ht 0x2D rfl) (by decide)
      · exact absurd (ht 0x2B rfl) (by decide)
      · rfl
  · rfl

/-- An exponent at the start of a text. -/
theorem exponent_of_exponentPart {t : Text} {e : Int} {n : Nat}
    (h : exponentPart t = some (e, n)) :
    ∃ x, t = x ++ t.drop n ∧ x ≠ [] ∧ Exponent x e := by
  cases t with
  | nil => cases h
  | cons c rest =>
    by_cases hc : c = 0x65 ∨ c = 0x45
    · rw [exponentPart_cons hc] at h
      obtain ⟨sign, hsplit, hlength, hsign⟩ := exists_exponentSign rest
      -- what is behind the sign does not depend on which sign it is
      generalize exponentSign rest = found at h hsplit hlength hsign
      obtain ⟨negative, n'⟩ := found
      subst hlength
      dsimp only at h hsplit hsign
      generalize rest.drop sign.length = behind at h hsplit
      subst hsplit
      split at h
      · cases h
      next hds =>
      obtain ⟨rfl, rfl⟩ := Prod.mk.inj (Option.some.inj h)
      refine ⟨c :: sign ++ leadingDigits behind, ?_, List.cons_ne_nil _ _,
        .digits hc hsign (isDigits_leadingDigits hds)⟩
      have hdrop : (c :: (sign ++ behind)).drop (1 + sign.length + (leadingDigits behind).length) =
          behind.drop (leadingDigits behind).length := by
        rw [← List.drop_drop, Nat.add_comm 1, List.drop_succ_cons, List.drop_left]
      rw [hdrop, List.append_assoc, leadingDigits_append_drop, List.cons_append]
    · exact absurd (h.symm.trans (if_neg hc)) (Option.some_ne_none _)

/-- No exponent starts with something else than its letter. -/
theorem exponentPart_eq_none {rest : Text} (hrest : ∀ c ∈ rest.head?, ¬ (c = 0x65 ∨ c = 0x45)) :
    exponentPart rest = none := by
  cases rest with
  | nil => rfl
  | cons c rest => exact if_neg (hrest c rfl)

theorem Exponent.exponentPart_eq {x rest : Text} {e : Int} (h : Exponent x e) (hx : x ≠ [])
    (hrest : ∀ c ∈ rest.head?, Text.isDigit c = false) :
    exponentPart (x ++ rest) = some (e, x.length) := by
  cases h with
  | none => exact absurd rfl hx
  | @digits letter sign ds negative hletter hsign hds =>
    have hdigit : ∀ c ∈ (ds ++ rest).head?, Text.isDigit c = true := by
      intro c hc
      rw [List.head?_append_of_ne_nil _ hds.1] at hc
      exact hds.2 c (List.mem_of_head? hc)
    rw [List.append_assoc, List.cons_append, exponentPart_cons hletter,
      exponentSign_append hsign hdigit, List.drop_left, leadingDigits_append hds hrest,
      hds.isEmpty_eq]
    simp only [Bool.false_eq_true, if_false, List.length_append, List.length_cons]
    rw [Nat.add_comm 1]

/-! ## Numbers -/

/-- Whatever is read behind the sign makes a number of the grammar. -/
theorem number_of_readUnsigned {negative : Bool} {r start r' : Rest} {j : Json}
    (h : readUnsigned negative r start = .ok (j, r')) :
    ∃ t, start.text = t ++ r'.text ∧ Number (minus negative ++ t) j := by
  unfold readUnsigned at h
  dsimp only at h
  by_cases hempty : (wholePart start.text).isEmpty = true
  · rw [if_pos hempty] at h
    cases h
  rw [if_neg hempty] at h
  have hwhole : IsWhole (wholePart start.text) := isWhole_wholePart hempty
  have hsplit : wholePart start.text ++ (start.skip (wholePart start.text).length).text =
      start.text := wholePart_append_drop start.text
  -- from here on only what is known of the three parts matters, not how they were found
  generalize wholePart start.text = whole at h hwhole hsplit
  generalize start.skip whole.length = next at h hsplit
  obtain ⟨f, hf, hlength, hfraction⟩ := fraction_fractionPart next.text
  generalize fractionPart next.text = found at h hf hlength hfraction
  obtain ⟨fraction, n⟩ := found
  dsimp only at h hf hlength hfraction
  subst hlength
  rw [← skip_text] at hf
  generalize next.skip f.length = behind at h hf
  split at h
  · next hnone hexponent =>
    -- neither a fraction nor an exponent
    rw [List.length_eq_zero_iff.1 hnone, List.nil_append] at hf
    split at h
    · cases h
    next hlimit =>
    cases h
    refine ⟨whole, ?_, .int hwhole (Nat.le_of_not_lt hlimit)⟩
    rw [← hf, hsplit]
  · next hsome =>
    cases hx : exponentPart behind.text with
    | none =>
      rw [hx] at h
      cases h
      have hne : f ≠ [] := fun hnil => hsome (List.length_eq_zero_iff.2 hnil) hx
      refine ⟨whole ++ f, ?_, ?_⟩
      · rw [← hsplit, hf, List.append_assoc]
        rfl
      · have hnumber : Number (minus negative ++ whole ++ f ++ []) _ :=
          Number.real hwhole hfraction .none (.inl hne)
        rwa [List.append_nil, List.append_assoc] at hnumber
    | some found =>
      obtain ⟨e, n⟩ := found
      obtain ⟨x, hsplitx, hne, hexponent⟩ := exponent_of_exponentPart hx
      rw [hx, Option.getD_some] at h
      cases h
      refine ⟨whole ++ f ++ x, ?_, ?_⟩
      · rw [← hsplit, hf, List.append_assoc, List.append_assoc, skip_text, ← hsplitx]
      · have hnumber : Number (minus negative ++ whole ++ f ++ x) _ :=
          Number.real hwhole hfraction hexponent (.inr hne)
        simpa only [List.append_assoc] using hnumber

theorem number_of_readNumber {r r' : Rest} {j : Json} (h : readNumber r = .ok (j, r')) :
    ∃ t, r.text = t ++ r'.text ∧ Number t j := by
  rw [readNumber_eq] at h
  obtain ⟨t, ht, hnumber⟩ := number_of_readUnsigned h
  refine ⟨_, ?_, hnumber⟩
  by_cases hminus : r.text.head? = some 0x2D
  · rw [if_pos hminus, skip_text] at ht
    rw [decide_eq_true hminus, List.append_assoc, ← ht]
    obtain ⟨rest, hrest⟩ := List.head?_eq_some_iff.1 hminus
    rw [hrest]
    rfl
  · rw [if_neg hminus] at ht
    rw [decide_eq_false hminus, List.append_assoc, ← ht]
    rfl

/-- A number is not gone on with: it is followed by a blank, a comma, a bracket or nothing. -/
def Ends (rest : Text) : Prop := ∀ c ∈ rest.head?, c ∈ [0x20, 0x09, 0x0A, 0x0D, 0x2C, 0x5D, 0x7D]

theorem Ends.not_digit {rest : Text} (h : Ends rest) :
    ∀ c ∈ rest.head?, Text.isDigit c = false ∧ c ≠ 0x2E := by
  have hall : ∀ c ∈ [0x20, 0x09, 0x0A, 0x0D, 0x2C, 0x5D, 0x7D],
      Text.isDigit c = false ∧ c ≠ 0x2E := by decide
  exact fun c hc => hall c (h c hc)

theorem Ends.not_exponent {rest : Text} (h : Ends rest) :
    ∀ c ∈ rest.head?, ¬ (c = 0x65 ∨ c = 0x45) := by
  have hall : ∀ c ∈ [0x20, 0x09, 0x0A, 0x0D, 0x2C, 0x5D, 0x7D], ¬ (c = 0x65 ∨ c = 0x45) := by
    decide
  exact fun c hc => hall c (h c hc)

/-- An exponent starts with neither a digit nor a point. -/
theorem Exponent.not_digit {x rest : Text} {e : Int} (h : Exponent x e) (hrest : Ends rest) :
    ∀ c ∈ (x ++ rest).head?, Text.isDigit c = false ∧ c ≠ 0x2E := by
  cases h with
  | none => exact hrest.not_digit
  | digits hletter hsign hds =>
    intro c hc
    cases hc
    rcases hletter with rfl | rfl <;> decide

theorem Fraction.not_digit {f fraction rest : Text} (h : Fraction f fraction)
    (hrest : ∀ c ∈ rest.head?, Text.isDigit c = false) :
    ∀ c ∈ (f ++ rest).head?, Text.isDigit c = false := by
  cases h with
  | none => exact hrest
  | digits hds =>
    intro c hc
    cases hc
    rfl

/-- What stands behind the sign of a number of the grammar. -/
theorem readUnsigned_int {negative : Bool} {r start : Rest} {whole rest : Text}
    (hstart : start.text = whole ++ rest) (hwhole : IsWhole whole)
    (hlimit : whole.length ≤ digitLimit) (hrest : Ends rest) :
    ∃ r', readUnsigned negative r start = .ok (int (if negative
      then -(Text.valueOf 10 whole : Int) else (Text.valueOf 10 whole : Int)), r') ∧
      r'.text = rest := by
  have hnext : (start.skip whole.length).text = rest := by
    rw [skip_text, hstart, List.drop_left]
  have hread : wholePart start.text = whole := by
    rw [hstart]
    exact wholePart_append hwhole fun c hc => (hrest.not_digit c hc).1
  have hfraction : fractionPart (start.skip whole.length).text = ([], 0) := by
    rw [hnext]
    exact Fraction.none.fractionPart_eq hrest.not_digit
  have hexponent : exponentPart ((start.skip whole.length).skip 0).text = none :=
    exponentPart_eq_none (hnext ▸ hrest.not_exponent)
  refine ⟨(start.skip whole.length).skip 0, ?_, hnext⟩
  unfold readUnsigned
  dsimp only
  rw [hread, hwhole.1.isEmpty_eq, if_neg Bool.false_ne_true, hfraction]
  dsimp only
  rw [hexponent]
  exact if_neg (Nat.not_lt.2 hlimit)

theorem readUnsigned_real {negative : Bool} {r start : Rest} {whole f fraction x rest : Text}
    {e : Int} (hstart : start.text = whole ++ (f ++ (x ++ rest))) (hwhole : IsWhole whole)
    (hfraction : Fraction f fraction) (hexponent : Exponent x e) (hreal : f ≠ [] ∨ x ≠ [])
    (hrest : Ends rest) :
    ∃ r', readUnsigned negative r start = .ok (real (Binary64.ofDecimal negative
      (Text.valueOf 10 (whole ++ fraction)) (e - fraction.length)), r') ∧ r'.text = rest := by
  have hnext : (start.skip whole.length).text = f ++ (x ++ rest) := by
    rw [skip_text, hstart, List.drop_left]
  have hbehind : ((start.skip whole.length).skip f.length).text = x ++ rest := by
    rw [skip_text, hnext, List.drop_left]
  have hdigit := hexponent.not_digit hrest
  have hread : wholePart start.text = whole := by
    rw [hstart]
    exact wholePart_append hwhole (hfraction.not_digit fun c hc => (hdigit c hc).1)
  have hpart : fractionPart (start.skip whole.length).text = (fraction, f.length) := by
    rw [hnext]
    exact hfraction.fractionPart_eq hdigit
  unfold readUnsigned
  dsimp only
  rw [hread, hwhole.1.isEmpty_eq, if_neg Bool.false_ne_true, hpart]
  dsimp only
  rw [hbehind]
  cases hx : x with
  | nil =>
    -- the fraction makes the number a real one
    subst hx
    cases hexponent
    obtain ⟨c, f, rfl⟩ := List.exists_cons_of_ne_nil (hreal.resolve_right fun h => h rfl)
    rw [List.nil_append, exponentPart_eq_none hrest.not_exponent]
    exact ⟨_, rfl, hbehind⟩
  | cons c y =>
    have hpart : exponentPart (c :: y ++ rest) = some (e, x.length) := by
      rw [← hx]
      exact hexponent.exponentPart_eq (hx ▸ List.cons_ne_nil c y) fun c hc =>
        (hrest.not_digit c hc).1
    rw [hpart]
    have hlast : (((start.skip whole.length).skip f.length).skip x.length).text = rest := by
      rw [skip_text, hbehind, List.drop_left]
    split
    · next h => cases h
    · exact ⟨_, rfl, hlast⟩

theorem readNumber_minus {negative : Bool} {r : Rest} {u : Text} (hr : r.text = minus negative ++ u)
    (hu : u.head? ≠ some 0x2D) :
    ∃ start, start.text = u ∧ readNumber r = readUnsigned negative r start := by
  rw [readNumber_eq]
  cases negative with
  | true =>
    have hminus : r.text.head? = some 0x2D := by
      rw [hr]
      rfl
    refine ⟨r.skip 1, ?_, ?_⟩
    · rw [skip_text, hr]
      rfl
    · rw [if_pos hminus, decide_eq_true hminus]
  | false =>
    have hminus : r.text.head? ≠ some 0x2D := by
      rw [hr]
      exact hu
    exact ⟨r, hr, by rw [if_neg hminus, decide_eq_false hminus]⟩

/-- No minus sign stands behind the first one. -/
theorem IsWhole.head?_ne_minus {whole : Text} (h : IsWhole whole) (rest : Text) :
    (whole ++ rest).head? ≠ some 0x2D := by
  rw [List.head?_append_of_ne_nil _ h.1.1]
  intro hhead
  exact absurd (h.1.2 0x2D (List.mem_of_head? hhead)) (by decide)

/-- A number of the grammar is read up to its end. -/
theorem Number.read {t rest : Text} {j : Json} (h : Number t j) {r : Rest}
    (hr : r.text = t ++ rest) (hrest : Ends rest) :
    ∃ r', readNumber r = .ok (j, r') ∧ r'.text = rest := by
  cases h with
  | int hwhole hlimit =>
    rw [List.append_assoc] at hr
    obtain ⟨start, hstart, hread⟩ := readNumber_minus hr (hwhole.head?_ne_minus rest)
    rw [hread]
    exact readUnsigned_int hstart hwhole hlimit hrest
  | @real negative whole f fraction x e hwhole hfraction hexponent hreal =>
    simp only [List.append_assoc] at hr
    obtain ⟨start, hstart, hread⟩ := readNumber_minus hr (hwhole.head?_ne_minus (f ++ (x ++ rest)))
    rw [hread]
    exact readUnsigned_real hstart hwhole hfraction hexponent hreal hrest

end ScriptDeps.Json

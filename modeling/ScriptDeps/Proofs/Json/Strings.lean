import ScriptDeps.Proofs.Json.Grammar

namespace ScriptDeps.Json

/-! # Reading strings

A reader that stands before the rest of a string reads what the grammar has there, and whatever it
reads is one of the strings of the grammar. Main statements:

* `exists_blanks` and `skipBlanks_eq`: blanks;
* `spells_of_readString`: what is read is in the grammar;
* `Spells.read`: what is in the grammar is read.
-/

/-- If two steps succeed, then so does the first one. -/
theorem exists_of_bind_eq_ok {ε α β : Type} {x : Except ε α} {f : α → Except ε β} {b : β}
    (h : x >>= f = .ok b) : ∃ a, x = .ok a ∧ f a = .ok b := by
  cases x with
  | error e => cases h
  | ok a => exact ⟨a, rfl, h⟩

theorem skip_text (r : Rest) (n : Nat) : (r.skip n).text = r.text.drop n := rfl

theorem take_append_skip (r : Rest) (n : Nat) : r.text.take n ++ (r.skip n).text = r.text :=
  List.take_append_drop n r.text

theorem skip_one {r : Rest} {c : Nat} {rest : Text} (hr : r.text = c :: rest) :
    (r.skip 1).text = rest := by
  rw [skip_text, hr, List.drop_succ_cons, List.drop_zero]

theorem skip_two {r : Rest} {c d : Nat} {rest : Text} (hr : r.text = c :: d :: rest) :
    (r.skip 2).text = rest := by
  rw [skip_text, hr, List.drop_succ_cons, List.drop_succ_cons, List.drop_zero]

/-! ## Blanks -/

theorem skipBlanks_text (r : Rest) : r.skipBlanks.text = r.text.dropWhile isBlank := by
  have hsplit : r.text.takeWhile isBlank ++ r.text.dropWhile isBlank = r.text :=
    List.takeWhile_append_dropWhile
  calc r.text.drop (r.text.takeWhile isBlank).length
    _ = (r.text.takeWhile isBlank ++ r.text.dropWhile isBlank).drop
          (r.text.takeWhile isBlank).length := by rw [hsplit]
    _ = r.text.dropWhile isBlank := List.drop_left

/-- What is skipped are blanks. -/
theorem exists_blanks (r : Rest) : ∃ b, Blanks b ∧ r.text = b ++ r.skipBlanks.text :=
  ⟨r.text.takeWhile isBlank, fun _ hc => List.mem_takeWhile_imp hc, by
    rw [skipBlanks_text, List.takeWhile_append_dropWhile]⟩

/-- Blanks are skipped. -/
theorem skipBlanks_eq {r : Rest} {b rest : Text} (hr : r.text = b ++ rest) (hb : Blanks b)
    (hrest : ∀ c ∈ rest.head?, isBlank c = false) : r.skipBlanks.text = rest := by
  rw [skipBlanks_text, hr, List.dropWhile_append_of_pos hb]
  cases rest with
  | nil => rfl
  | cons c rest => exact List.dropWhile_cons_of_neg (by simp [hrest c rfl])

/-- Blanks behind a mark are skipped with it. -/
theorem skipBlanks_behind {r : Rest} {c : Nat} {b rest : Text} (hr : r.text = c :: (b ++ rest))
    (hb : Blanks b) (hrest : ∀ d ∈ rest.head?, isBlank d = false) :
    (r.skip 1).skipBlanks.text = rest :=
  skipBlanks_eq (skip_one hr) hb hrest

/-! ## Strings -/

theorem length_of_codeUnit? {ds : Text} {v : Nat} (h : codeUnit? ds = some v) : ds.length = 4 := by
  unfold codeUnit? at h
  split at h
  · next hds => exact hds.1
  · cases h

/-- The digits of a unit are the next four code points. -/
theorem codeUnit_ahead {r : Rest} {digits rest : Text} {v : Nat} (hr : r.text = digits ++ rest)
    (hdigits : codeUnit? digits = some v) :
    r.text.take 4 = digits ∧ (r.skip 4).text = rest := by
  rw [skip_text, hr]
  exact ⟨List.take_left' (length_of_codeUnit? hdigits),
    List.drop_left' (length_of_codeUnit? hdigits)⟩

/-- The escape of a second half stands before `next`, and something behind it. -/
structure LowHalfAhead (next : Rest) (low : Nat) : Prop where
  escape : next.text.take 2 = [0x5C, 0x75]
  digits : codeUnit? ((next.skip 2).text.take 4) = some low
  low : IsLowHalf low
  more : next.text.drop 6 ≠ []

/-- Four digits are read. Only behind a first half, and where the second half is ahead, that is read
as well. -/
theorem readCodeUnit_cases {r r' : Rest} {v : Nat} (h : readCodeUnit r = .ok (v, r')) :
    ∃ high, codeUnit? ((r.skip 1).text.take 4) = some high ∧
      ((v = high ∧ r' = (r.skip 1).skip 4 ∧ (IsHighHalf high → ∀ low, ¬ LowHalfAhead r' low)) ∨
        ∃ low, IsHighHalf high ∧ LowHalfAhead ((r.skip 1).skip 4) low ∧
          v = 0x10000 + (high - 0xD800) * 0x400 + (low - 0xDC00) ∧
          r' = ((r.skip 1).skip 4).skip 6) := by
  unfold readCodeUnit at h
  dsimp only at h
  generalize (r.skip 1).skip 4 = next at h ⊢
  split at h
  · cases h
  · split at h
    · cases h
    · next high hhigh =>
      refine ⟨high, hhigh, ?_⟩
      split at h
      · next hpair =>
        obtain ⟨hge, hle, hmore, hescape⟩ := hpair
        split at h
        · cases h
        · next low hdigits =>
          split at h
          · next hlow =>
            obtain ⟨hv, hr'⟩ := Prod.mk.inj (Except.ok.inj h)
            have hahead : LowHalfAhead next low := ⟨hescape, hdigits, hlow, by simpa using hmore⟩
            exact Or.inr ⟨low, ⟨hge, hle⟩, hahead, hv.symm, hr'.symm⟩
          · next hlow =>
            -- the other escape is none of a second half
            cases h
            refine Or.inl ⟨rfl, rfl, fun _ low' hahead => hlow ?_⟩
            have heq : low = low' := Option.some.inj (hdigits.symm.trans hahead.digits)
            rw [heq]
            exact hahead.low
      · next hpair =>
        cases h
        refine Or.inl ⟨rfl, rfl, fun hhalf low hahead => hpair ?_⟩
        exact ⟨hhalf.1, hhalf.2, by simpa using hahead.more, hahead.escape⟩

/-- Where a text before a quote starts with a second half, that half is ahead. -/
theorem exists_lowHalfAhead {next : Rest} {t rest : Text} (hnext : next.text = t ++ 0x22 :: rest)
    (hstarts : StartsWithLowHalf t) : ∃ low, LowHalfAhead next low := by
  obtain ⟨digits, low, rest', rfl, hdigits, hlow⟩ := hstarts
  rw [List.append_assoc] at hnext
  obtain ⟨htake, hbehind⟩ := codeUnit_ahead (skip_two hnext) hdigits
  refine ⟨low, ⟨by rw [hnext]; rfl, by rw [htake, hdigits], hlow, ?_⟩⟩
  have hdrop : next.text.drop 6 = rest' ++ 0x22 :: rest := by
    rw [← hbehind, skip_text, skip_text, List.drop_drop]
  rw [hdrop]
  simp

/-- What stands before `next` where a second half is ahead. -/
theorem LowHalfAhead.text {next : Rest} {low : Nat} (h : LowHalfAhead next low) :
    next.text = 0x5C :: 0x75 :: (next.skip 2).text.take 4 ++ (next.skip 6).text := by
  have hbehind : (next.skip 2).text = (next.skip 2).text.take 4 ++ (next.skip 6).text := by
    have hskip : (next.skip 6).text = ((next.skip 2).skip 4).text :=
      (List.drop_drop (i := 4) (j := 2) (l := next.text)).symm
    rw [hskip, take_append_skip]
  calc next.text
    _ = next.text.take 2 ++ (next.skip 2).text := (take_append_skip next 2).symm
    _ = 0x5C :: 0x75 :: (next.skip 2).text := by rw [h.escape]; rfl
    _ = 0x5C :: 0x75 :: (next.skip 2).text.take 4 ++ (next.skip 6).text :=
      congrArg (fun t => 0x5C :: 0x75 :: t) hbehind

/-- An escape with digits is one item of a string, or two that are read at once. -/
theorem Spells.of_readCodeUnit {r next : Rest} {t s rest : Text} {v : Nat}
    (h : readCodeUnit r = .ok (v, next)) (hnext : next.text = t ++ 0x22 :: rest)
    (ht : Spells t s) :
    ∃ u, (r.skip 1).text = u ++ 0x22 :: rest ∧ Spells (0x5C :: 0x75 :: u) (v :: s) := by
  obtain ⟨high, hhigh, hread⟩ := readCodeUnit_cases h
  have hsplit := take_append_skip (r.skip 1) 4
  generalize (r.skip 1).text.take 4 = digits at hhigh hsplit
  rw [← hsplit]
  rcases hread with ⟨rfl, rfl, hsingle⟩ | ⟨low, hhalf, hahead, hv, rfl⟩
  · rw [hnext]
    refine ⟨digits ++ t, (List.append_assoc ..).symm, .unit hhigh (fun hhalf hstarts => ?_) ht⟩
    obtain ⟨low, hahead⟩ := exists_lowHalfAhead hnext hstarts
    exact hsingle hhalf low hahead
  · have hsecond := hahead.digits
    have htext := hahead.text
    generalize (((r.skip 1).skip 4).skip 2).text.take 4 = second at hsecond htext
    rw [htext, hnext, hv]
    refine ⟨digits ++ 0x5C :: 0x75 :: second ++ t, ?_, .pair hhigh hhalf hsecond hahead.low ht⟩
    simp only [List.append_assoc]

/-- Whatever is read as the rest of a string is one of the grammar. -/
theorem spells_of_readString {start n : Nat} {r r' : Rest} {s : Text}
    (h : readString start n r = .ok (s, r')) : ∃ t, r.text = t ++ 0x22 :: r'.text ∧ Spells t s := by
  -- by induction on the bound, with one case for each kind of item that the reader takes
  induction n generalizing r s with
  | zero => cases h
  | succ n ih =>
    -- the rest of the string behind one code point
    have hrest : ∀ {v : Nat} {next : Rest},
        (readString start n next >>= fun found => .ok (v :: found.1, found.2)) = .ok (s, r') →
        ∃ t s', next.text = t ++ 0x22 :: r'.text ∧ Spells t s' ∧ s = v :: s' := by
      intro v next h
      obtain ⟨⟨s', r''⟩, hread, heq⟩ := exists_of_bind_eq_ok h
      cases heq
      obtain ⟨t, ht, hspells⟩ := ih hread
      exact ⟨t, s', ht, hspells, rfl⟩
    rw [readString] at h
    split at h
    · cases h
    · next c rest hr =>
      split at h
      · next hquote =>
        cases h
        rw [skip_one hr, hr, hquote]
        exact ⟨[], rfl, .nil⟩
      · next hquote =>
        split at h
        · next hbackslash =>
          subst hbackslash
          split at h
          · cases h
          · next d rest =>
            split at h
            · next hu =>
              subst hu
              obtain ⟨⟨v, next⟩, hunit, h⟩ := exists_of_bind_eq_ok h
              obtain ⟨t, s', ht, hspells, rfl⟩ := hrest h
              obtain ⟨u, hdigits, hescape⟩ := Spells.of_readCodeUnit hunit ht hspells
              rw [skip_one (skip_one hr)] at hdigits
              exact ⟨_, by rw [hr, hdigits]; rfl, hescape⟩
            · split at h
              · cases h
              · next v hd =>
                obtain ⟨t, s', ht, hspells, rfl⟩ := hrest h
                rw [skip_two hr] at ht
                exact ⟨_, by rw [hr, ht]; rfl, .letter hd hspells⟩
        · next hbackslash =>
          split at h
          · cases h
          · next hcontrol =>
            obtain ⟨t, s', ht, hspells, rfl⟩ := hrest h
            rw [skip_one hr] at ht
            exact ⟨_, by rw [hr, ht]; rfl, .plain hquote hbackslash (Nat.le_of_not_lt hcontrol) hspells⟩

/-- A backslash and a `u` are followed by four digits. -/
theorem Spells.exists_codeUnit {t s rest : Text} (h : Spells t s)
    (hescape : (t ++ 0x22 :: rest).take 2 = [0x5C, 0x75]) :
    ∃ digits v u, t = 0x5C :: 0x75 :: digits ++ u ∧ codeUnit? digits = some v := by
  cases h with
  | nil => cases hescape
  | plain hquote hbackslash hcontrol h => exact absurd (List.cons.inj hescape).1 hbackslash
  | letter hd h =>
    obtain ⟨-, hletter⟩ := List.cons.inj hescape
    obtain ⟨rfl, -⟩ := List.cons.inj hletter
    cases hd
  | unit hdigits hsingle h => exact ⟨_, _, _, rfl, hdigits⟩
  | pair hfirst hhigh hsecond hlow h => exact ⟨_, _, _, List.append_assoc _ _ _, hfirst⟩

/-- Four digits that are one unit are read as such. -/
theorem readCodeUnit_unit {r : Rest} {digits t s rest : Text} {v : Nat}
    (hr : (r.skip 1).text = digits ++ (t ++ 0x22 :: rest)) (hdigits : codeUnit? digits = some v)
    (hsingle : IsHighHalf v → ¬ StartsWithLowHalf t) (ht : Spells t s) :
    ∃ r', readCodeUnit r = .ok (v, r') ∧ r'.text = t ++ 0x22 :: rest := by
  obtain ⟨htake, hnext⟩ := codeUnit_ahead hr hdigits
  have hlong : ¬ ((r.skip 1).text.drop 4).isEmpty = true := by
    rw [← skip_text, hnext]
    simp
  unfold readCodeUnit
  dsimp only
  rw [if_neg hlong, htake, hdigits]
  dsimp only
  generalize (r.skip 1).skip 4 = next at hnext ⊢
  split
  · next hpair =>
    -- another escape follows, but not that of the second half
    obtain ⟨hge, hle, -, hescape⟩ := hpair
    rw [hnext] at hescape
    obtain ⟨digits', low, u, rfl, hlow⟩ := ht.exists_codeUnit hescape
    rw [List.append_assoc] at hnext
    have hother : ¬ (0xDC00 ≤ low ∧ low ≤ 0xDFFF) := fun h =>
      hsingle ⟨hge, hle⟩ ⟨digits', low, u, rfl, hlow, h⟩
    rw [(codeUnit_ahead (skip_two hnext) hlow).1, hlow]
    dsimp only
    rw [if_neg hother]
    exact ⟨next, rfl, by rw [hnext, List.append_assoc]⟩
  · exact ⟨next, rfl, hnext⟩

/-- Both halves of a pair are read at once. -/
theorem readCodeUnit_pair {r : Rest} {first second rest : Text} {high low : Nat}
    (hr : (r.skip 1).text = first ++ (0x5C :: 0x75 :: (second ++ rest))) (hrest : rest ≠ [])
    (hfirst : codeUnit? first = some high) (hhigh : IsHighHalf high)
    (hsecond : codeUnit? second = some low) (hlow : IsLowHalf low) :
    ∃ r', readCodeUnit r = .ok (0x10000 + (high - 0xD800) * 0x400 + (low - 0xDC00), r') ∧
      r'.text = rest := by
  obtain ⟨htake, hnext⟩ := codeUnit_ahead hr hfirst
  have hlong : ¬ ((r.skip 1).text.drop 4).isEmpty = true := by
    rw [← skip_text, hnext]
    exact Bool.false_ne_true
  unfold readCodeUnit
  dsimp only
  rw [if_neg hlong, htake, hfirst]
  dsimp only
  generalize (r.skip 1).skip 4 = next at hnext ⊢
  obtain ⟨htake', hbehind⟩ := codeUnit_ahead (skip_two hnext) hsecond
  have hend : (next.skip 6).text = rest := by
    rw [← hbehind, skip_text, skip_text, skip_text, List.drop_drop]
  have hpair : 0xD800 ≤ high ∧ high ≤ 0xDBFF ∧ !(next.text.drop 6).isEmpty ∧
      next.text.take 2 = [0x5C, 0x75] := by
    refine ⟨hhigh.1, hhigh.2, ?_, ?_⟩
    · rw [← skip_text, hend]
      simpa using hrest
    · rw [hnext]
      rfl
  rw [if_pos hpair, htake', hsecond]
  dsimp only
  exact ⟨next.skip 6, if_pos hlow, hend⟩

/-- An escape with digits gives the first code unit of what is read. -/
theorem readString_codeUnit {start n v : Nat} {r next r' : Rest} {t s : Text}
    (hr : r.text = 0x5C :: 0x75 :: t) (hunit : readCodeUnit (r.skip 1) = .ok (v, next))
    (hread : readString start n next = .ok (s, r')) :
    readString start (n + 1) r = .ok (v :: s, r') := by
  rw [readString, hr]
  dsimp only
  rw [if_neg (by decide), if_pos rfl, if_pos rfl, hunit]
  dsimp only [bind, Except.bind]
  rw [hread]
  rfl

/-- A string of the grammar is read up to its quote. -/
theorem Spells.read {t s : Text} (h : Spells t s) {start n : Nat} {r : Rest} {rest : Text}
    (hn : t.length < n) (hr : r.text = t ++ 0x22 :: rest) :
    ∃ r', readString start n r = .ok (s, r') ∧ r'.text = rest := by
  -- by induction on the string; the bound goes down by one with each item
  induction h generalizing n r with
  | nil =>
    obtain ⟨n, rfl⟩ := Nat.exists_eq_succ_of_ne_zero (Nat.ne_zero_of_lt hn)
    refine ⟨r.skip 1, ?_, skip_one hr⟩
    rw [readString, hr]
    rfl
  | @plain c t s hquote hbackslash hcontrol h ih =>
    obtain ⟨n, rfl⟩ := Nat.exists_eq_succ_of_ne_zero (Nat.ne_zero_of_lt hn)
    obtain ⟨r', hread, hr'⟩ := ih (Nat.lt_of_succ_lt_succ hn) (skip_one hr)
    refine ⟨r', ?_, hr'⟩
    rw [readString, hr]
    dsimp only [List.cons_append]
    rw [if_neg hquote, if_neg hbackslash, if_neg (Nat.not_lt.2 hcontrol), hread]
    rfl
  | @letter d v t s hd h ih =>
    obtain ⟨n, rfl⟩ := Nat.exists_eq_succ_of_ne_zero (Nat.ne_zero_of_lt hn)
    have hu : d ≠ 0x75 := by
      rintro rfl
      cases hd
    have hlength : t.length < n := by
      simp only [List.length_cons] at hn
      omega
    obtain ⟨r', hread, hr'⟩ := ih hlength (skip_two hr)
    refine ⟨r', ?_, hr'⟩
    rw [readString, hr]
    dsimp only [List.cons_append]
    rw [if_neg (by decide), if_pos rfl, if_neg hu, hd]
    dsimp only
    rw [hread]
    rfl
  | @unit digits v t s hdigits hsingle h ih =>
    obtain ⟨n, rfl⟩ := Nat.exists_eq_succ_of_ne_zero (Nat.ne_zero_of_lt hn)
    have hlength : t.length < n := by
      simp only [List.length_append, List.length_cons] at hn
      omega
    rw [List.append_assoc] at hr
    obtain ⟨next, hunit, hbehind⟩ :=
      readCodeUnit_unit (skip_one (skip_one hr)) hdigits hsingle h
    obtain ⟨r', hread, hr'⟩ := ih hlength hbehind
    exact ⟨r', readString_codeUnit hr hunit hread, hr'⟩
  | @pair first second high low t s hfirst hhigh hsecond hlow h ih =>
    obtain ⟨n, rfl⟩ := Nat.exists_eq_succ_of_ne_zero (Nat.ne_zero_of_lt hn)
    have hlength : t.length < n := by
      simp only [List.length_append, List.length_cons] at hn
      omega
    rw [List.append_assoc, List.append_assoc] at hr
    obtain ⟨next, hunit, hbehind⟩ :=
      readCodeUnit_pair (skip_one (skip_one hr)) (by simp) hfirst hhigh hsecond hlow
    obtain ⟨r', hread, hr'⟩ := ih hlength hbehind
    exact ⟨r', readString_codeUnit hr hunit hread, hr'⟩

end ScriptDeps.Json

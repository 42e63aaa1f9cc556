import ScriptDeps.Cluster.Profile
import ScriptDeps.Proofs.Json.Reading

namespace ScriptDeps.Cluster

open Json (Blanks IsDigits Spells Number Writes Written Part)

/-! # Line ends

The lines of a file may end in any of three ways, which are unified before the file is read as JSON.
Line ends can only stand between the parts of a JSON text, so that makes no difference. Main
statements:

* `exists_split_of_unifyLineEnds`: what is unified can be divided as its result can;
* `written_unifyLineEnds_iff`: the text stands for the same value before and afterwards.
-/

/-! ## What becomes of a text -/

theorem unifyLineEnds_cons {c : Nat} (hc : c ≠ 0x0D) (t : Text) :
    unifyLineEnds (c :: t) = c :: unifyLineEnds t := by
  rw [unifyLineEnds]
  · exact fun _ h => absurd h hc
  · exact fun h => absurd h hc

theorem unifyLineEnds_return {t : Text} (ht : t.head? ≠ some 0x0A) :
    unifyLineEnds (0x0D :: t) = 0x0A :: unifyLineEnds t := by
  rw [unifyLineEnds]
  rintro rest rfl
  exact ht rfl

/-- A text consists of a line end or another code point and of the rest. -/
theorem lineEnds_induction {motive : Text → Prop} (nil : motive [])
    (both : ∀ t, motive t → motive (0x0D :: 0x0A :: t))
    (single : ∀ t, t.head? ≠ some 0x0A → motive t → motive (0x0D :: t))
    (other : ∀ c t, c ≠ 0x0D → motive t → motive (c :: t)) (t : Text) : motive t := by
  fun_induction unifyLineEnds t with
  | case1 t ih => exact both t ih
  | case2 t hnot ih =>
    refine single t (fun hhead => ?_) ih
    obtain ⟨rest, rfl⟩ := List.head?_eq_some_iff.1 hhead
    exact hnot rest rfl
  | case3 c t hboth hsingle ih => exact other c t (fun h => hsingle h) ih
  | case4 => exact nil

/-- Nothing changes where no line ends. -/
def Unbroken (t : Text) : Prop := ∀ c ∈ t, c ≠ 0x0A ∧ c ≠ 0x0D

theorem unifyLineEnds_of_unbroken {t : Text} (h : Unbroken t) : unifyLineEnds t = t := by
  induction t with
  | nil => rfl
  | cons c t ih =>
    have ht : Unbroken t := fun d hd => h d (List.mem_cons_of_mem c hd)
    rw [unifyLineEnds_cons (h c List.mem_cons_self).2, ih ht]

/-- What stands before and behind a place can be unified on its own, unless a line end goes across
the place. -/
theorem unifyLineEnds_append {t u : Text}
    (h : t.getLast? ≠ some 0x0D ∨ u.head? ≠ some 0x0A) :
    unifyLineEnds (t ++ u) = unifyLineEnds t ++ unifyLineEnds u := by
  -- only a return at the very end of `t` could belong to a line end that goes on in `u`
  induction t using lineEnds_induction with
  | nil => rfl
  | both t ih =>
    have ht : t.getLast? ≠ some 0x0D ∨ u.head? ≠ some 0x0A := by
      refine h.imp_left fun hlast hreturn => hlast ?_
      rw [List.getLast?_cons, List.getLast?_cons, hreturn]
      rfl
    show 0x0A :: unifyLineEnds (t ++ u) = 0x0A :: unifyLineEnds t ++ unifyLineEnds u
    rw [ih ht, List.cons_append]
  | single t hhead ih =>
    cases t with
    | nil =>
      have hu : u.head? ≠ some 0x0A := h.resolve_left (not_not_intro rfl)
      exact unifyLineEnds_return hu
    | cons c t =>
      have ht : (c :: t).getLast? ≠ some 0x0D ∨ u.head? ≠ some 0x0A := by
        rwa [List.getLast?_cons_cons] at h
      have hhead' : (c :: t ++ u).head? ≠ some 0x0A := hhead
      rw [List.cons_append, unifyLineEnds_return hhead', ih ht, unifyLineEnds_return hhead,
        List.cons_append]
  | other c t hc ih =>
    have ht : t.getLast? ≠ some 0x0D ∨ u.head? ≠ some 0x0A := by
      refine h.imp_left fun hlast hreturn => hlast ?_
      rw [List.getLast?_cons, hreturn]
      rfl
    rw [List.cons_append, unifyLineEnds_cons hc, unifyLineEnds_cons hc, ih ht, List.cons_append]

/-- What is unified can be divided as its result can. -/
theorem exists_split_of_unifyLineEnds {t a b : Text} (h : unifyLineEnds t = a ++ b) :
    ∃ u v, t = u ++ v ∧ unifyLineEnds u = a ∧ unifyLineEnds v = b := by
  -- every line end becomes one code point, which is on one side
  induction t using lineEnds_induction generalizing a with
  | nil =>
    obtain ⟨rfl, rfl⟩ := List.append_eq_nil_iff.1 h.symm
    exact ⟨[], [], rfl, rfl, rfl⟩
  | both t ih =>
    cases a with
    | nil => exact ⟨[], _, rfl, rfl, h⟩
    | cons c a =>
      obtain ⟨rfl, hrest⟩ := List.cons.inj h
      obtain ⟨u, v, rfl, rfl, rfl⟩ := ih hrest
      exact ⟨0x0D :: 0x0A :: u, v, rfl, rfl, rfl⟩
  | single t hhead ih =>
    rw [unifyLineEnds_return hhead] at h
    cases a with
    | nil => exact ⟨[], _, rfl, rfl, by rw [unifyLineEnds_return hhead, h, List.nil_append]⟩
    | cons c a =>
      obtain ⟨rfl, hrest⟩ := List.cons.inj h
      obtain ⟨u, v, rfl, rfl, rfl⟩ := ih hrest
      refine ⟨0x0D :: u, v, rfl, unifyLineEnds_return fun hu => hhead ?_, rfl⟩
      rw [List.head?_append, hu]
      rfl
  | other c t hc ih =>
    rw [unifyLineEnds_cons hc] at h
    cases a with
    | nil => exact ⟨[], _, rfl, rfl, by rw [unifyLineEnds_cons hc, h, List.nil_append]⟩
    | cons d a =>
      obtain ⟨rfl, hrest⟩ := List.cons.inj h
      obtain ⟨u, v, rfl, rfl, rfl⟩ := ih hrest
      exact ⟨c :: u, v, rfl, unifyLineEnds_cons hc u, rfl⟩

/-- What has no line ends afterwards had none before. -/
theorem eq_of_unifyLineEnds {t u : Text} (h : unifyLineEnds t = u) (hu : Unbroken u) : t = u := by
  induction t using lineEnds_induction generalizing u with
  | nil => exact h
  | both t ih =>
    subst h
    exact absurd rfl (hu 0x0A List.mem_cons_self).1
  | single t hhead ih =>
    rw [unifyLineEnds_return hhead] at h
    subst h
    exact absurd rfl (hu 0x0A List.mem_cons_self).1
  | other c t hc ih =>
    rw [unifyLineEnds_cons hc] at h
    subst h
    rw [← ih rfl fun d hd => hu d (List.mem_cons_of_mem c hd)]

/-- Blanks become blanks, and nothing else does. -/
theorem blanks_unifyLineEnds_iff {t : Text} : Blanks (unifyLineEnds t) ↔ Blanks t := by
  have hcons : ∀ (c : Nat) (u : Text), Blanks (c :: u) ↔ Json.isBlank c = true ∧ Blanks u :=
    fun c u => List.forall_mem_cons
  induction t using lineEnds_induction with
  | nil => exact Iff.rfl
  | both t ih =>
    show Blanks (0x0A :: unifyLineEnds t) ↔ _
    simp only [hcons, ih]
    simp [Json.isBlank]
  | single t hhead ih =>
    rw [unifyLineEnds_return hhead]
    simp only [hcons, ih]
    simp [Json.isBlank]
  | other c t hc ih =>
    rw [unifyLineEnds_cons hc]
    simp only [hcons, ih]

/-! ## Where no line ends -/

theorem unbroken_of_mem_words {t : Text} {j : Json} (h : (t, j) ∈ Json.words) : Unbroken t := by
  have hall : Json.words.all (fun w => w.1.all fun c => c != 0x0A && c != 0x0D) = true := by
    decide +kernel
  have hword := List.all_eq_true.1 hall _ h
  intro c hc
  simpa using List.all_eq_true.1 hword c hc

theorem Unbroken.append {t u : Text} (ht : Unbroken t) (hu : Unbroken u) : Unbroken (t ++ u) :=
  fun c hc => (List.mem_append.1 hc).elim (ht c) (hu c)

theorem Unbroken.cons {c : Nat} {t : Text} (hc : c ≠ 0x0A ∧ c ≠ 0x0D) (ht : Unbroken t) :
    Unbroken (c :: t) :=
  List.forall_mem_cons.2 ⟨hc, ht⟩

theorem unbroken_nil : Unbroken [] := fun _ hc => absurd hc List.not_mem_nil

theorem unbroken_mark {c : Nat} (hc : c ≠ 0x0A ∧ c ≠ 0x0D) : Unbroken [c] := .cons hc unbroken_nil

theorem unbroken_of_isDigits {ds : Text} (h : IsDigits ds) : Unbroken ds := by
  intro c hc
  have hdigit := h.2 c hc
  simp only [Text.isDigit, Bool.and_eq_true, decide_eq_true_eq] at hdigit
  omega

theorem unbroken_minus (negative : Bool) : Unbroken (Json.minus negative) := by
  cases negative <;> simp [Json.minus, Unbroken]

theorem unbroken_fraction {f fraction : Text} (h : Json.Fraction f fraction) : Unbroken f := by
  cases h with
  | none => exact unbroken_nil
  | digits hds => exact .cons (by decide) (unbroken_of_isDigits hds)

theorem unbroken_exponent {x : Text} {e : Int} (h : Json.Exponent x e) : Unbroken x := by
  cases h with
  | none => exact unbroken_nil
  | @digits letter sign ds negative hletter hsign hds =>
    have hfirst : letter ≠ 0x0A ∧ letter ≠ 0x0D := by omega
    have hsigned : Unbroken sign := by
      rcases hsign with rfl | ⟨rfl, -⟩
      · exact unbroken_minus negative
      · exact unbroken_mark (by decide)
    exact .append (.cons hfirst hsigned) (unbroken_of_isDigits hds)

theorem unbroken_number {t : Text} {j : Json} (h : Number t j) : Unbroken t := by
  cases h with
  | int hwhole hlimit => exact .append (unbroken_minus _) (unbroken_of_isDigits hwhole.1)
  | real hwhole hfraction hexponent hreal =>
    exact .append (.append (.append (unbroken_minus _) (unbroken_of_isDigits hwhole.1))
      (unbroken_fraction hfraction)) (unbroken_exponent hexponent)

theorem unbroken_codeUnit {ds : Text} {v : Nat} (h : Json.codeUnit? ds = some v) : Unbroken ds := by
  unfold Json.codeUnit? at h
  split at h
  · next hds =>
    intro c hc
    have hhex := List.all_eq_true.1 hds.2 c hc
    constructor
    · rintro rfl
      exact absurd hhex (by decide)
    · rintro rfl
      exact absurd hhex (by decide)
  · cases h

theorem unbroken_spells {k s : Text} (h : Spells k s) : Unbroken k := by
  induction h with
  | nil => exact unbroken_nil
  | plain hquote hbackslash hcontrol h ih => exact .cons (by omega) ih
  | @letter d v t s hd h ih =>
    have hletter : d ≠ 0x0A ∧ d ≠ 0x0D := by
      constructor
      · rintro rfl
        cases hd
      · rintro rfl
        cases hd
    exact .cons (by decide) (.cons hletter ih)
  | unit hdigits hsingle h ih =>
    exact .append (.cons (by decide) (.cons (by decide) (unbroken_codeUnit hdigits))) ih
  | pair hfirst hhigh hsecond hlow h ih =>
    exact .append (.append (.cons (by decide) (.cons (by decide) (unbroken_codeUnit hfirst)))
      (.cons (by decide) (.cons (by decide) (unbroken_codeUnit hsecond)))) ih

/-! ## The parts of a JSON text -/

theorem opens_head?_ne {t : Text} (h : Json.Opens t) : t.head? ≠ some 0x0A := fun hhead =>
  absurd (h.not_blank 0x0A hhead) (by decide)

/-- No value ends within a line end. -/
theorem getLast?_ne_of_writes {t : Text} {j : Json} (h : Writes t (.value j)) :
    t.getLast? ≠ some 0x0D := by
  have hunbroken : ∀ {u : Text}, Unbroken u → u.getLast? ≠ some 0x0D := fun hu hlast =>
    (hu 0x0D (List.mem_of_getLast? hlast)).2 rfl
  have hmark : ∀ {u : Text} {c : Nat}, c ≠ 0x0D → (u ++ [c]).getLast? ≠ some 0x0D := by
    intro u c hc hlast
    rw [List.getLast?_concat] at hlast
    exact hc (Option.some.inj hlast)
  cases h with
  | word h => exact hunbroken (unbroken_of_mem_words h)
  | number h => exact hunbroken (unbroken_number h)
  | string h => exact hmark (by decide)
  | emptyArray hb => exact hmark (by decide)
  | array hb h => exact hmark (by decide)
  | emptyObject hb => exact hmark (by decide)
  | object hb h => exact hmark (by decide)

/-- A part stands for the same afterwards. -/
theorem writes_unifyLineEnds {t : Text} {p : Part} (h : Writes t p) :
    Writes (unifyLineEnds t) p := by
  -- line ends stand in blanks only: wherever two parts meet, no line end is cut
  induction h with
  | word h =>
    rw [unifyLineEnds_of_unbroken (unbroken_of_mem_words h)]
    exact .word h
  | number h =>
    rw [unifyLineEnds_of_unbroken (unbroken_number h)]
    exact .number h
  | string h =>
    have hk := unbroken_spells h
    rw [unifyLineEnds_of_unbroken (.append (.cons (by decide) hk) (unbroken_mark (by decide)))]
    exact .string h
  | emptyArray hb =>
    rw [unifyLineEnds_append (.inr (by decide)), unifyLineEnds_cons (by decide)]
    exact .emptyArray (blanks_unifyLineEnds_iff.2 hb)
  | array hb h ih =>
    rw [unifyLineEnds_append (.inr (by decide)),
      unifyLineEnds_append (.inr (opens_head?_ne h.opens)), unifyLineEnds_cons (by decide)]
    exact .array (blanks_unifyLineEnds_iff.2 hb) ih
  | emptyObject hb =>
    rw [unifyLineEnds_append (.inr (by decide)), unifyLineEnds_cons (by decide)]
    exact .emptyObject (blanks_unifyLineEnds_iff.2 hb)
  | object hb h ih =>
    rw [unifyLineEnds_append (.inr (by decide)),
      unifyLineEnds_append (.inr (opens_head?_ne h.opens)), unifyLineEnds_cons (by decide)]
    exact .object (blanks_unifyLineEnds_iff.2 hb) ih
  | lastItem h hb ih =>
    rw [unifyLineEnds_append (.inl (getLast?_ne_of_writes h))]
    exact .lastItem ih (blanks_unifyLineEnds_iff.2 hb)
  | item h hb hb' hrest ih ihrest =>
    rw [unifyLineEnds_append (.inr (opens_head?_ne hrest.opens)),
      unifyLineEnds_append (.inr (by simp)), unifyLineEnds_append (.inl (getLast?_ne_of_writes h)),
      unifyLineEnds_cons (by decide)]
    exact .item ih (blanks_unifyLineEnds_iff.2 hb) (blanks_unifyLineEnds_iff.2 hb') ihrest
  | @named k name b b' t b'' j hname hb hb' h hb'' ih =>
    have hk := unbroken_spells hname
    rw [List.append_assoc, unifyLineEnds_append (.inr (opens_head?_ne (h.opens.append b''))),
      unifyLineEnds_append (.inl (getLast?_ne_of_writes h)),
      unifyLineEnds_append (.inr (by simp)), unifyLineEnds_append (.inr (by simp)),
      unifyLineEnds_cons (by decide), unifyLineEnds_cons (by decide),
      unifyLineEnds_cons (by decide), unifyLineEnds_of_unbroken hk, ← List.append_assoc]
    exact .named hname (blanks_unifyLineEnds_iff.2 hb) (blanks_unifyLineEnds_iff.2 hb') ih
      (blanks_unifyLineEnds_iff.2 hb'')
  | lastMember h ih => exact .lastMember ih
  | member h hb hrest ih ihrest =>
    rw [unifyLineEnds_append (.inr (opens_head?_ne hrest.opens)),
      unifyLineEnds_append (.inr (by simp)), unifyLineEnds_cons (by decide)]
    exact .member ih (blanks_unifyLineEnds_iff.2 hb) ihrest

/-- What starts with a mark afterwards, did so before. -/
theorem exists_cons_of_unifyLineEnds {t a : Text} {c : Nat} (hc : c ≠ 0x0A ∧ c ≠ 0x0D)
    (h : unifyLineEnds t = c :: a) : ∃ u, t = c :: u ∧ unifyLineEnds u = a := by
  obtain ⟨v, u, rfl, hv, hu⟩ := exists_split_of_unifyLineEnds (a := [c]) h
  exact ⟨u, by rw [eq_of_unifyLineEnds hv (unbroken_mark hc), List.singleton_append], hu⟩

/-- What is divided by a mark afterwards, was so before. -/
theorem exists_split_of_mark {t a b : Text} {c : Nat} (hc : c ≠ 0x0A ∧ c ≠ 0x0D)
    (h : unifyLineEnds t = a ++ c :: b) :
    ∃ u v, t = u ++ c :: v ∧ unifyLineEnds u = a ∧ unifyLineEnds v = b := by
  obtain ⟨u, w, rfl, hu, hw⟩ := exists_split_of_unifyLineEnds h
  obtain ⟨v, rfl, hv⟩ := exists_cons_of_unifyLineEnds hc hw
  exact ⟨u, v, rfl, hu, hv⟩

/-- A part stood for the same before. -/
theorem writes_of_unifyLineEnds {u : Text} {p : Part} (h : Writes u p) {t : Text}
    (ht : unifyLineEnds t = u) : Writes t p := by
  -- the text is divided at the marks of the part, and only its blanks may have been different
  induction h generalizing t with
  | word h =>
    rw [eq_of_unifyLineEnds ht (unbroken_of_mem_words h)]
    exact .word h
  | number h =>
    rw [eq_of_unifyLineEnds ht (unbroken_number h)]
    exact .number h
  | string h =>
    have hk := unbroken_spells h
    rw [eq_of_unifyLineEnds ht (.append (.cons (by decide) hk) (unbroken_mark (by decide)))]
    exact .string h
  | emptyArray hb =>
    obtain ⟨v, e, rfl, hv, he⟩ := exists_split_of_unifyLineEnds ht
    obtain ⟨v, rfl, rfl⟩ := exists_cons_of_unifyLineEnds (by decide) hv
    obtain rfl := eq_of_unifyLineEnds he (unbroken_mark (by decide))
    exact .emptyArray (blanks_unifyLineEnds_iff.1 hb)
  | array hb h ih =>
    obtain ⟨t₁, e, rfl, ht₁, he⟩ := exists_split_of_unifyLineEnds ht
    obtain ⟨v, u, rfl, hv, hu⟩ := exists_split_of_unifyLineEnds ht₁
    obtain ⟨v, rfl, rfl⟩ := exists_cons_of_unifyLineEnds (by decide) hv
    obtain rfl := eq_of_unifyLineEnds he (unbroken_mark (by decide))
    exact .array (blanks_unifyLineEnds_iff.1 hb) (ih hu)
  | emptyObject hb =>
    obtain ⟨v, e, rfl, hv, he⟩ := exists_split_of_unifyLineEnds ht
    obtain ⟨v, rfl, rfl⟩ := exists_cons_of_unifyLineEnds (by decide) hv
    obtain rfl := eq_of_unifyLineEnds he (unbroken_mark (by decide))
    exact .emptyObject (blanks_unifyLineEnds_iff.1 hb)
  | object hb h ih =>
    obtain ⟨t₁, e, rfl, ht₁, he⟩ := exists_split_of_unifyLineEnds ht
    obtain ⟨v, u, rfl, hv, hu⟩ := exists_split_of_unifyLineEnds ht₁
    obtain ⟨v, rfl, rfl⟩ := exists_cons_of_unifyLineEnds (by decide) hv
    obtain rfl := eq_of_unifyLineEnds he (unbroken_mark (by decide))
    exact .object (blanks_unifyLineEnds_iff.1 hb) (ih hu)
  | lastItem h hb ih =>
    obtain ⟨u, v, rfl, hu, rfl⟩ := exists_split_of_unifyLineEnds ht
    exact .lastItem (ih hu) (blanks_unifyLineEnds_iff.1 hb)
  | item h hb hb' hrest ih ihrest =>
    obtain ⟨t₁, u, rfl, ht₁, hu⟩ := exists_split_of_unifyLineEnds ht
    obtain ⟨t₂, v, rfl, ht₂, rfl⟩ := exists_split_of_mark (by decide) ht₁
    obtain ⟨t₃, w, rfl, ht₃, rfl⟩ := exists_split_of_unifyLineEnds ht₂
    exact .item (ih ht₃) (blanks_unifyLineEnds_iff.1 hb) (blanks_unifyLineEnds_iff.1 hb')
      (ihrest hu)
  | @named k name b b' t b'' j hname hb hb' h hb'' ih =>
    obtain ⟨t₁, w, rfl, ht₁, rfl⟩ := exists_split_of_unifyLineEnds ht
    obtain ⟨t₂, u, rfl, ht₂, hu⟩ := exists_split_of_unifyLineEnds ht₁
    obtain ⟨t₃, v, rfl, ht₃, rfl⟩ := exists_split_of_mark (by decide) ht₂
    obtain ⟨t₄, v', rfl, ht₄, rfl⟩ := exists_split_of_mark (by decide) ht₃
    obtain rfl := eq_of_unifyLineEnds ht₄ (.cons (by decide) (unbroken_spells hname))
    exact .named hname (blanks_unifyLineEnds_iff.1 hb) (blanks_unifyLineEnds_iff.1 hb') (ih hu)
      (blanks_unifyLineEnds_iff.1 hb'')
  | lastMember h ih => exact .lastMember (ih ht)
  | member h hb hrest ih ihrest =>
    obtain ⟨t₁, u, rfl, ht₁, hu⟩ := exists_split_of_unifyLineEnds ht
    obtain ⟨t₂, v, rfl, ht₂, rfl⟩ := exists_split_of_mark (by decide) ht₁
    exact .member (ih ht₂) (blanks_unifyLineEnds_iff.1 hb) (ihrest hu)

/-- A text stands for the same value before and afterwards. -/
theorem written_unifyLineEnds_iff {t : Text} {j : Json} :
    Written (unifyLineEnds t) j ↔ Written t j := by
  constructor
  · rintro ⟨b, u, b', ht, hb, hwrites, hb'⟩
    obtain ⟨t₁, v', rfl, ht₁, rfl⟩ := exists_split_of_unifyLineEnds ht
    obtain ⟨v, t₂, rfl, rfl, ht₂⟩ := exists_split_of_unifyLineEnds ht₁
    exact ⟨v, t₂, v', rfl, blanks_unifyLineEnds_iff.1 hb, writes_of_unifyLineEnds hwrites ht₂,
      blanks_unifyLineEnds_iff.1 hb'⟩
  · rintro ⟨b, u, b', rfl, hb, hwrites, hb'⟩
    refine ⟨unifyLineEnds b, unifyLineEnds u, unifyLineEnds b', ?_, blanks_unifyLineEnds_iff.2 hb,
      writes_unifyLineEnds hwrites, blanks_unifyLineEnds_iff.2 hb'⟩
    rw [List.append_assoc, unifyLineEnds_append (.inr (opens_head?_ne (hwrites.opens.append b'))),
      unifyLineEnds_append (.inl (getLast?_ne_of_writes hwrites)), List.append_assoc]

end ScriptDeps.Cluster

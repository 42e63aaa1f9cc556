import ScriptDeps.Parse.Stack

namespace ScriptDeps.Parse

/-! # What becomes of versions

Much of what is done with a stack does not look at the trees on it: versions are settled, halted,
removed and merged, change places, and ways down from them are followed. What becomes of the
versions then is said here once, for all that is to be shown of a stack. Main statements:

* `Stack.Stems`: every version stands where one of the versions before it stood;
* `Stack.Condenses`: versions are merged, too;
* `Stack.addSlice_adds`: how the end of a way is added to the slices;
* `Stack.Descent.Kept.descend`: what holds of all ways down, and of what is found along them.
-/

/-- The version stands where the other one does, and if it waits at a token, so does the other. -/
structure Head.StemsFrom (x h : Head) : Prop where
  joint : x.joint = h.joint
  waits : ∀ t, x.status = .paused t → h.status = .paused t

theorem Head.StemsFrom.refl (h : Head) : h.StemsFrom h := ⟨rfl, fun _ ht => ht⟩

theorem Head.StemsFrom.trans {x y z : Head} (h : x.StemsFrom y) (h' : y.StemsFrom z) :
    x.StemsFrom z :=
  ⟨h.joint.trans h'.joint, fun t ht => h'.waits t (h.waits t ht)⟩

/-- A member of a list after a change at one index. -/
theorem mem_modify {α : Type} {f : α → α} {xs : List α} {i : Nat} {x : α}
    (h : x ∈ xs.modify i f) : x ∈ xs ∨ ∃ y ∈ xs, x = f y := by
  obtain ⟨j, hj⟩ := List.mem_iff_getElem?.1 h
  rw [List.getElem?_modify] at hj
  cases hy : xs[j]? with
  | none =>
    rw [hy] at hj
    cases hj
  | some y =>
    rw [hy] at hj
    have hmem : y ∈ xs := List.mem_of_getElem? hy
    by_cases hij : i = j
    · simp only [hij, if_true, Option.map_eq_map, Option.map_some, Option.some.injEq] at hj
      exact Or.inr ⟨y, hmem, hj.symm⟩
    · simp only [hij, if_false, Option.map_eq_map, Option.map_some, Option.some.injEq] at hj
      exact Or.inl (hj ▸ hmem)

namespace Stack

variable {s s' s'' : Stack}

/-! ## Versions that stem from others -/

/-- The joints are the same, and every version of the second stack stems from one of the first. -/
structure Stems (s s' : Stack) : Prop where
  joints : s'.joints = s.joints
  heads : ∀ x ∈ s'.heads, ∃ v, x.StemsFrom (s.head v)

theorem exists_head {x : Head} (h : x ∈ s.heads) : ∃ v, s.head v = x := by
  obtain ⟨v, hv⟩ := List.mem_iff_getElem?.1 h
  refine ⟨v, ?_⟩
  rw [Stack.head, List.getD_eq_getElem?_getD, hv, Option.getD_some]

theorem stems_of_mem {heads : List Head}
    (h : ∀ x ∈ heads, x ∈ s.heads ∨ ∃ v, x.StemsFrom (s.head v)) : Stems s { s with heads } where
  joints := rfl
  heads := by
    intro x hx
    rcases h x hx with hx | hx
    · obtain ⟨v, rfl⟩ := exists_head hx
      exact ⟨v, .refl _⟩
    · exact hx

theorem stems_of_subset {heads : List Head} (h : ∀ x ∈ heads, x ∈ s.heads) :
    Stems s { s with heads } :=
  stems_of_mem fun x hx => Or.inl (h x hx)

theorem Stems.refl (s : Stack) : Stems s s := stems_of_subset fun _ hx => hx

theorem Stems.trans (h : Stems s s') (h' : Stems s' s'') : Stems s s'' where
  joints := h'.joints.trans h.joints
  heads := by
    intro x hx
    obtain ⟨v, hv⟩ := h'.heads x hx
    by_cases hlt : v < s'.heads.length
    · have hmem : s'.head v ∈ s'.heads := by
        rw [Stack.head, List.getD_eq_getElem?_getD, List.getElem?_eq_getElem hlt, Option.getD_some]
        exact List.getElem_mem hlt
      obtain ⟨w, hw⟩ := h.heads _ hmem
      exact ⟨w, hv.trans hw⟩
    · -- there is no such version in either stack
      have hnone : s'.head v = s.head s.heads.length := by
        rw [Stack.head, Stack.head, List.getD_eq_getElem?_getD, List.getD_eq_getElem?_getD,
          List.getElem?_eq_none (Nat.le_of_not_lt hlt), List.getElem?_eq_none (Nat.le_refl _)]
      exact ⟨s.heads.length, hnone ▸ hv⟩

theorem stems_modifyHead (s : Stack) (v : Nat) {f : Head → Head} (hf : ∀ h, (f h).StemsFrom h) :
    Stems s (s.modifyHead v f) := by
  refine stems_of_mem fun x hx => ?_
  rcases mem_modify hx with hx | ⟨y, hy, rfl⟩
  · exact Or.inl hx
  · obtain ⟨w, rfl⟩ := exists_head hy
    exact Or.inr ⟨w, hf _⟩

theorem stems_settle (s : Stack) (v : Nat) : Stems s (s.settle v) :=
  stems_modifyHead s v fun _ => ⟨rfl, fun _ ht => ht⟩

theorem stems_halt (s : Stack) (v : Nat) : Stems s (s.halt v) :=
  stems_modifyHead s v fun _ => ⟨rfl, fun _ ht => nomatch ht⟩

theorem stems_remove (s : Stack) (v : Nat) : Stems s (s.remove v) :=
  stems_of_subset fun _ hx => List.mem_of_mem_eraseIdx hx

theorem stems_moveTo (s : Stack) (v w : Nat) : Stems s (s.moveTo v w) := by
  unfold Stack.moveTo
  split
  · exact .refl s
  · refine stems_of_mem fun x hx => ?_
    rcases List.mem_or_eq_of_mem_set (List.mem_of_mem_eraseIdx hx) with hx | rfl
    · exact Or.inl hx
    · exact Or.inr ⟨v, rfl, fun _ ht => ht⟩

theorem stems_swap (s : Stack) (v w : Nat) : Stems s (s.swap v w) := by
  refine stems_of_mem fun x hx => ?_
  rcases List.mem_or_eq_of_mem_set hx with hx | rfl
  · rcases List.mem_or_eq_of_mem_set hx with hx | rfl
    · exact Or.inl hx
    · exact Or.inr ⟨w, .refl _⟩
  · exact Or.inr ⟨v, .refl _⟩

theorem stems_copy (s : Stack) (v : Nat) : Stems s (s.copy v) := by
  refine stems_of_mem fun x hx => ?_
  rcases List.mem_append.1 hx with hx | hx
  · exact Or.inl hx
  · rw [List.mem_singleton.1 hx]
    exact Or.inr ⟨v, rfl, fun _ ht => ht⟩

theorem size_modifyHead (s : Stack) (v : Nat) (f : Head → Head) : (s.modifyHead v f).size = s.size :=
  List.length_modify ..

theorem size_settle (s : Stack) (v : Nat) : (s.settle v).size = s.size := size_modifyHead ..

/-! ## Merging versions -/

/-- Versions are merged, or stem from others. -/
inductive Condenses (s : Stack) : Stack → Prop
  | refl : Condenses s s
  | stems {s' s'' : Stack} : Condenses s s' → Stems s' s'' → Condenses s s''
  | merge {s' s'' : Stack} {v w : Nat} : Condenses s s' → s'.merge v w = some s'' → Condenses s s''

theorem Condenses.trans (h : Condenses s s') (h' : Condenses s' s'') : Condenses s s'' := by
  induction h' with
  | refl => exact h
  | stems _ hstems ih => exact ih.stems hstems
  | merge _ hmerge ih => exact ih.merge hmerge

/-- A version that is looked for to be merged with, if it is found, is merged with. -/
theorem exists_merge_of_find {vs : List Nat} {skips : Nat → Prop} [DecidablePred skips] {v : Nat}
    (h : (vs.findSome? fun w => if skips w then none else s.merge w v) = some s') :
    ∃ w, s.merge w v = some s' := by
  obtain ⟨w, -, hw⟩ := List.exists_of_findSome?_eq_some h
  split at hw
  · cases hw
  · exact ⟨w, hw⟩

/-! ## Following ways down -/

/-- The end of a way is added behind a slice whose version ended at the same joint, or it becomes a
version. -/
inductive Adds (s : Stack) (slices : List Slice) (w : Way) : Stack → List Slice → Prop
  | shares {before after : List Slice} {y : Slice} : slices = before ++ y :: after →
      (s.head y.version).joint = w.joint →
      Adds s slices w s (before ++ y :: ⟨y.version, w.trees⟩ :: after)
  | opens {h : Head} : h.joint = w.joint → h.status = .active →
      Adds s slices w { s with heads := s.heads ++ [h] } (slices ++ [⟨s.size, w.trees⟩])

theorem addSlice_adds (s : Stack) (origin : Nat) (slices : List Slice) (w : Way) :
    Adds s slices w (s.addSlice origin slices w).1 (s.addSlice origin slices w).2 := by
  unfold Stack.addSlice
  split
  · next i hfind =>
    obtain ⟨hi, hsame, -⟩ := List.findIdx?_eq_some_iff_getElem.1 hfind
    rw [List.length_reverse] at hi
    rw [List.getElem_reverse, beq_iff_eq] at hsame
    -- what is found from the end is at that index from the start
    obtain ⟨j, hj⟩ : ∃ j, slices.length - i = j + 1 := ⟨slices.length - i - 1, by omega⟩
    have hlt : j < slices.length := by omega
    have hindex : slices.length - 1 - i = j := by omega
    simp only [hindex] at hsame
    have hsplit : slices = slices.take j ++ slices[j] :: slices.drop (j + 1) := by
      rw [← List.drop_eq_getElem_cons, List.take_append_drop]
    dsimp only
    rw [hj, Nat.add_sub_cancel, List.getD_eq_getElem?_getD, List.getElem?_eq_getElem hlt,
      Option.getD_some, List.take_succ_eq_append_getElem hlt]
    simp only [List.append_assoc, List.singleton_append]
    exact .shares hsplit hsame
  · exact .opens rfl rfl

section

variable {σ : Type} {origin : Nat} {judge : σ → Way → Verdict × σ} {I : Descent σ → Prop}
  {G : Way → Prop}

/-- What holds of a descent and of the ways that are followed in it, as long as they are. -/
structure Descent.Kept (origin : Nat) (judge : σ → Way → Verdict × σ) (I : Descent σ → Prop)
    (G : Way → Prop) : Prop where
  passed : ∀ {d : Descent σ} (memory : σ), I d → I { d with memory }
  found : ∀ {d : Descent σ} {w : Way} (memory : σ), I d → G w →
    (judge d.memory w).1.found = true →
    I ⟨(d.stack.addSlice origin d.slices w).1, (d.stack.addSlice origin d.slices w).2, memory⟩
  step : ∀ {d : Descent σ} {w : Way}, I d → G w → (judge d.memory w).1.stop = false →
    ∀ l ∈ (d.stack.joint w.joint).links, G (w.follow l)

theorem Descent.Kept.once (hkept : Kept origin judge I G) {todo kept added : List Way}
    {d : Descent σ} (hd : I d) (htodo : ∀ w ∈ todo, G w) (hafter : ∀ w ∈ kept, G w)
    (hadded : ∀ w ∈ added, G w) :
    (∀ w ∈ (descendOnce origin judge todo kept added d).1, G w) ∧
      I (descendOnce origin judge todo kept added d).2 := by
  induction todo generalizing kept added d with
  | nil =>
    refine ⟨fun w hw => ?_, hd⟩
    rcases List.mem_append.1 hw with hw | hw
    · exact hafter w (List.mem_reverse.1 hw)
    · exact hadded w (List.mem_reverse.1 hw)
  | cons w rest ih =>
    obtain ⟨hw, hrest⟩ := List.forall_mem_cons.1 htodo
    have hstep := hkept.step hd hw
    have hfound := fun memory => hkept.found memory hd hw
    unfold descendOnce
    generalize judge d.memory w = r at hstep hfound
    obtain ⟨verdict, memory⟩ := r
    dsimp only at hstep hfound ⊢
    have hnext : I (if verdict.found then
        { stack := (d.stack.addSlice origin d.slices w).1
          slices := (d.stack.addSlice origin d.slices w).2, memory : Descent σ }
        else { d with memory }) := by
      split
      · next h => exact hfound memory h
      · exact hkept.passed memory hd
    generalize (if verdict.found then
        { stack := (d.stack.addSlice origin d.slices w).1
          slices := (d.stack.addSlice origin d.slices w).2, memory : Descent σ }
        else { d with memory }) = e at hnext ⊢
    -- a way that ends or is not followed is dropped, any other goes on along all links
    split
    · exact ih hnext hrest hafter hadded
    · next l more hmore =>
      rw [hmore] at hstep
      split
      · exact ih hnext hrest hafter hadded
      · next hgo =>
        obtain ⟨hl, hothers⟩ := List.forall_mem_cons.1 (hstep (Bool.eq_false_iff.2 hgo))
        refine ih hnext hrest (List.forall_mem_cons.2 ⟨hl, hafter⟩) fun u hu => ?_
        rcases List.mem_append.1 hu with hu | hu
        · obtain ⟨m, hm, rfl⟩ := List.mem_map.1 (List.mem_reverse.1 hu)
          exact hothers m (List.mem_of_mem_take hm)
        · exact hadded u hu

theorem Descent.Kept.descend (hkept : Kept origin judge I G) (n : Nat) {ways : List Way}
    {d : Descent σ} (hd : I d) (hways : ∀ w ∈ ways, G w) : I (descend origin judge n ways d) := by
  induction n generalizing ways d with
  | zero => exact hd
  | succ n ih =>
    cases ways with
    | nil => exact hd
    | cons w rest =>
      unfold Stack.descend
      have hnone : ∀ w ∈ ([] : List Way), G w := fun w hw => absurd hw List.not_mem_nil
      obtain ⟨hnext, hafter⟩ := hkept.once hd hways hnone hnone
      exact ih hafter hnext

end

end Stack

end ScriptDeps.Parse

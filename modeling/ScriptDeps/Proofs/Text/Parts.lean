import ScriptDeps.Text.Basic

namespace ScriptDeps.Text

/-! # Parts of a text

A text that is split at a separator is its parts with the separator between them. Main statements:

* `splitOn_join` and `join_splitOn`: splitting and joining undo each other;
* `splitOn_append`: a text is split at each of its separators on its own;
* `splitOn_flatMap`: what leaves the separators alone changes part by part.
-/

section

variable {c : Nat} {t : Text}

/-! ## Splitting -/

theorem splitOn_of_not_mem (h : c ∉ t) : splitOn c t = [t] := by
  induction t with
  | nil => rfl
  | cons x t ih =>
    rw [List.mem_cons, not_or] at h
    rw [splitOn, if_neg (Ne.symm h.1), ih h.2]

theorem splitOn_ne_nil (c : Nat) (t : Text) : splitOn c t ≠ [] := by
  cases t with
  | nil => exact List.cons_ne_nil _ _
  | cons x t =>
    rw [splitOn]
    split
    · exact List.cons_ne_nil _ _
    · split
      · exact List.cons_ne_nil _ _
      · exact List.cons_ne_nil _ _

/-- The parts before a separator and those behind it are split on their own. -/
theorem splitOn_append (t u : Text) : splitOn c (t ++ c :: u) = splitOn c t ++ splitOn c u := by
  induction t with
  | nil =>
    show splitOn c (c :: u) = [] :: splitOn c u
    rw [splitOn, if_pos rfl]
  | cons x t ih =>
    rw [List.cons_append, splitOn, splitOn, ih]
    split
    · rfl
    · rcases List.exists_cons_of_ne_nil (splitOn_ne_nil c t) with ⟨v, vs, hv⟩
      rw [hv]
      rfl

/-- Parts that were joined are found again. -/
theorem splitOn_join {ts : List Text} (hne : ts ≠ []) (h : ∀ t ∈ ts, c ∉ t) :
    splitOn c (join [c] ts) = ts := by
  induction ts with
  | nil => exact absurd rfl hne
  | cons t ts ih =>
    have ht := h t List.mem_cons_self
    cases ts with
    | nil => exact splitOn_of_not_mem ht
    | cons u ts =>
      have hrest := ih (by simp) fun v hv => h v (List.mem_cons_of_mem t hv)
      rw [join, List.append_assoc, List.singleton_append, splitOn_append, splitOn_of_not_mem ht,
        hrest]
      · rfl
      · simp

/-- No part holds the separator. -/
theorem not_mem_of_mem_splitOn {u : Text} (h : u ∈ splitOn c t) : c ∉ u := by
  induction t generalizing u with
  | nil =>
    rw [splitOn, List.mem_singleton] at h
    rw [h]
    exact List.not_mem_nil
  | cons x t ih =>
    rw [splitOn] at h
    split at h
    · rcases List.mem_cons.1 h with rfl | h
      · exact List.not_mem_nil
      · exact ih h
    · next hx =>
      have hsingle : c ∉ [x] := by simpa using Ne.symm hx
      split at h
      · rw [List.mem_singleton] at h
        rw [h]
        exact hsingle
      · next v vs hsplit =>
        rw [hsplit] at ih
        rcases List.mem_cons.1 h with rfl | h
        · have hv := ih List.mem_cons_self
          simpa [hv] using hsingle
        · exact ih (List.mem_cons_of_mem v h)

/-! ## Joining -/

theorem join_cons {u : Text} {ts : List Text} (h : ts ≠ []) :
    join [c] (u :: ts) = u ++ c :: join [c] ts := by
  rw [join, List.append_assoc, List.singleton_append]
  exact h

/-- The parts with the separators between them are the text again. -/
theorem join_splitOn (c : Nat) (t : Text) : join [c] (splitOn c t) = t := by
  induction t with
  | nil => rfl
  | cons x t ih =>
    rw [splitOn]
    split
    · next hx => rw [join_cons (splitOn_ne_nil c t), ih, hx, List.nil_append]
    · rcases List.exists_cons_of_ne_nil (splitOn_ne_nil c t) with ⟨v, vs, hv⟩
      rw [hv] at ih ⊢
      show join [c] ((x :: v) :: vs) = x :: t
      rw [← ih]
      cases vs with
      | nil => rfl
      | cons w vs => rfl

theorem mem_join {x : Nat} {ts : List Text} (h : x ∈ join [c] ts) : x = c ∨ ∃ t ∈ ts, x ∈ t := by
  induction ts with
  | nil => exact absurd h List.not_mem_nil
  | cons t ts ih =>
    cases ts with
    | nil => exact Or.inr ⟨t, List.mem_cons_self, h⟩
    | cons u ts =>
      rw [join_cons (List.cons_ne_nil u ts), List.mem_append, List.mem_cons] at h
      rcases h with h | h | h
      · exact Or.inr ⟨t, List.mem_cons_self, h⟩
      · exact Or.inl h
      · rcases ih h with h | ⟨v, hv, h⟩
        · exact Or.inl h
        · exact Or.inr ⟨v, List.mem_cons_of_mem t hv, h⟩

theorem mem_of_mem_splitOn {u : Text} {x : Nat} (hu : u ∈ splitOn c t) (hx : x ∈ u) : x ∈ t := by
  have hjoin : ∀ ts : List Text, u ∈ ts → x ∈ join [c] ts := by
    intro ts hts
    induction ts with
    | nil => exact absurd hts List.not_mem_nil
    | cons v ts ih =>
      cases ts with
      | nil =>
        rw [List.mem_singleton.1 hts] at hx
        exact hx
      | cons w ts =>
        rw [join_cons (List.cons_ne_nil w ts), List.mem_append, List.mem_cons]
        rcases List.mem_cons.1 hts with rfl | hts
        · exact Or.inl hx
        · exact Or.inr (Or.inr (ih hts))
  rw [← join_splitOn c t]
  exact hjoin _ hu

theorem flatMap_join {f : Nat → Text} (hc : f c = [c]) (ts : List Text) :
    (join [c] ts).flatMap f = join [c] (ts.map (·.flatMap f)) := by
  induction ts with
  | nil => rfl
  | cons u ts ih =>
    cases ts with
    | nil => rfl
    | cons v ts =>
      have hne : (v :: ts).map (·.flatMap f) ≠ [] := by simp
      rw [List.map_cons, join_cons (List.cons_ne_nil v ts), join_cons hne, List.flatMap_append,
        List.flatMap_cons, hc, ih, List.singleton_append]

/-- What leaves the separators alone changes part by part. -/
theorem splitOn_flatMap {f : Nat → Text} (hc : f c = [c]) (hf : ∀ x ≠ c, c ∉ f x) (t : Text) :
    splitOn c (t.flatMap f) = (splitOn c t).map (·.flatMap f) := by
  have hparts : ∀ u ∈ (splitOn c t).map (·.flatMap f), c ∉ u := by
    intro u hu hmem
    rcases List.mem_map.1 hu with ⟨s, hs, rfl⟩
    rcases List.mem_flatMap.1 hmem with ⟨x, hx, hmem⟩
    have hne : x ≠ c := by
      rintro rfl
      exact not_mem_of_mem_splitOn hs hx
    exact hf x hne hmem
  calc splitOn c (t.flatMap f)
      = splitOn c ((join [c] (splitOn c t)).flatMap f) := by rw [join_splitOn]
    _ = splitOn c (join [c] ((splitOn c t).map (·.flatMap f))) := by rw [flatMap_join hc]
    _ = (splitOn c t).map (·.flatMap f) := by
      refine splitOn_join ?_ hparts
      simp [splitOn_ne_nil]

end

end ScriptDeps.Text

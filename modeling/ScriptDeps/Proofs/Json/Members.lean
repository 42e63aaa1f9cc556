import Mathlib.Data.List.Induction
import Mathlib.Data.List.Nodup
import ScriptDeps.Json.Basic

namespace ScriptDeps.Json

/-! # Members one after the other

Members that are added one after the other make an object in which every name stands once, where it
came up first, with the value that it came up with last. Main statements:

* `keys_collect`: the names of the object;
* `mem_collect_iff`: its members.
-/

/-- The members of an object to which these are added one after the other. -/
def collect (entries : List (Text × Json)) : List (Text × Json) :=
  entries.foldl (fun members x => insert x.1 x.2 members) []

theorem collect_concat (entries : List (Text × Json)) (x : Text × Json) :
    collect (entries ++ [x]) = insert x.1 x.2 (collect entries) := by
  rw [collect, List.foldl_append]
  rfl

section

variable {k : Text} {v : Json} {members entries : List (Text × Json)} {x : Text × Json}

/-! ## One member -/

/-- A new name comes last. -/
theorem keys_insert :
    (insert k v members).map (·.1) =
      if k ∈ members.map (·.1) then members.map (·.1) else members.map (·.1) ++ [k] := by
  induction members with
  | nil => rfl
  | cons y members ih =>
    obtain ⟨name, value⟩ := y
    rw [insert]
    by_cases hname : name = k
    · simp [hname]
    · rw [if_neg hname, List.map_cons, ih, List.map_cons]
      by_cases hk : k ∈ members.map (·.1)
      · rw [if_pos hk, if_pos (List.mem_cons_of_mem name hk)]
      · have hcons : k ∉ name :: members.map (·.1) := by
          intro hmem
          rcases List.mem_cons.1 hmem with rfl | hmem
          · exact hname rfl
          · exact hk hmem
        rw [if_neg hk, if_neg hcons]
        rfl

theorem nodup_keys_insert (h : (members.map (·.1)).Nodup) :
    ((insert k v members).map (·.1)).Nodup := by
  rw [keys_insert]
  split
  · exact h
  · next hk =>
    have hdisjoint : (members.map (·.1)).Disjoint [k] := by simpa using hk
    exact h.append (List.nodup_singleton k) hdisjoint

/-- The member takes the place of the one with its name. -/
theorem mem_insert_iff (h : (members.map (·.1)).Nodup) :
    x ∈ insert k v members ↔ x = (k, v) ∨ (x ∈ members ∧ x.1 ≠ k) := by
  induction members with
  | nil => simp [insert]
  | cons y members ih =>
    obtain ⟨name, value⟩ := y
    rw [List.map_cons, List.nodup_cons] at h
    rw [insert]
    by_cases hname : name = k
    · subst hname
      rw [if_pos rfl, List.mem_cons, List.mem_cons]
      constructor
      · rintro (rfl | hx)
        · exact Or.inl rfl
        · refine Or.inr ⟨Or.inr hx, ?_⟩
          intro hsame
          apply h.1
          rw [← hsame]
          exact List.mem_map.2 ⟨x, hx, rfl⟩
      · rintro (rfl | ⟨rfl | hx, hne⟩)
        · exact Or.inl rfl
        · exact absurd rfl hne
        · exact Or.inr hx
    · rw [if_neg hname, List.mem_cons, List.mem_cons, ih h.2]
      constructor
      · rintro (rfl | rfl | ⟨hx, hne⟩)
        · exact Or.inr ⟨Or.inl rfl, hname⟩
        · exact Or.inl rfl
        · exact Or.inr ⟨Or.inr hx, hne⟩
      · rintro (rfl | ⟨rfl | hx, hne⟩)
        · exact Or.inr (Or.inl rfl)
        · exact Or.inl rfl
        · exact Or.inr (Or.inr ⟨hx, hne⟩)

/-! ## All members -/

/-- Every name stands once, where it came up first. -/
theorem keys_collect : (collect entries).map (·.1) = (entries.map (·.1)).eraseDups := by
  induction entries using List.reverseRecOn with
  | nil => rfl
  | append_singleton entries x ih =>
    have hmem : x.1 ∈ (entries.map (·.1)).eraseDups ↔ x.1 ∈ entries.map (·.1) :=
      List.mem_eraseDups
    rw [collect_concat, keys_insert, ih, List.map_append, List.eraseDups_append]
    by_cases hx : x.1 ∈ entries.map (·.1)
    · have hgone : ([x].map (·.1)).removeAll (entries.map (·.1)) = [] := by
        simp only [List.map_cons, List.map_nil, List.removeAll]
        simpa using hx
      rw [if_pos (hmem.2 hx), hgone]
      simp
    · have hstays : ([x].map (·.1)).removeAll (entries.map (·.1)) = [x.1] := by
        simp only [List.map_cons, List.map_nil, List.removeAll]
        simpa using hx
      rw [if_neg fun h => hx (hmem.1 h), hstays]
      rfl

theorem nodup_keys_collect : ((collect entries).map (·.1)).Nodup := by
  induction entries using List.reverseRecOn with
  | nil => exact List.nodup_nil
  | append_singleton entries x ih =>
    rw [collect_concat]
    exact nodup_keys_insert ih

/-- Every name has the value that it came up with last. -/
theorem mem_collect_iff :
    x ∈ collect entries ↔
      ∃ before after, entries = before ++ x :: after ∧ x.1 ∉ after.map (·.1) := by
  induction entries using List.reverseRecOn generalizing x with
  | nil => exact iff_of_false List.not_mem_nil (by simp)
  | append_singleton entries y ih =>
    rw [collect_concat, mem_insert_iff nodup_keys_collect, ih]
    constructor
    · rintro (rfl | ⟨⟨before, after, rfl, hx⟩, hne⟩)
      · exact ⟨entries, [], rfl, List.not_mem_nil⟩
      · refine ⟨before, after ++ [y], by simp, ?_⟩
        rw [List.map_append, List.mem_append, not_or]
        exact ⟨hx, by simpa using hne⟩
    · rintro ⟨before, after, heq, hx⟩
      -- what stands behind `x` is empty or ends with `y`
      rcases List.eq_nil_or_concat after with rfl | ⟨after, z, rfl⟩
      · obtain ⟨-, hlast⟩ := List.append_inj' heq rfl
        cases hlast
        exact Or.inl rfl
      · have hsplit : entries ++ [y] = (before ++ x :: after) ++ [z] := by simp [heq]
        obtain ⟨rfl, hlast⟩ := List.append_inj' hsplit rfl
        cases hlast
        rw [List.concat_eq_append, List.map_append, List.mem_append, not_or] at hx
        exact Or.inr ⟨⟨before, after, rfl, hx.1⟩, by simpa using hx.2⟩

end

end ScriptDeps.Json

import Mathlib.Data.List.Nodup
import ScriptDeps.Text.NameSet

namespace ScriptDeps

/-! # Sorting by a key

Lists are sorted with a comparison that lets elements with equal keys stand as they are. If the keys
of a list are all different, they strictly increase afterwards. Main statements:

* `Orders.not_lt_trans`, `Orders.not_lt_total`: what sorting needs of the comparison;
* `Orders.strictly_sorted`: the keys increase.
-/

/-- The comparison is a strict order, and it decides between any two different values. -/
structure Orders {α : Type} (lt : α → α → Bool) : Prop where
  irrefl : ∀ a, lt a a = false
  trans : ∀ {a b c}, lt a b = true → lt b c = true → lt a c = true
  eq_of_not : ∀ {a b}, lt a b = false → lt b a = false → a = b

namespace Orders

variable {α β : Type} {lt : α → α → Bool}

theorem not_lt_trans (h : Orders lt) {a b c : α} (hab : (!lt b a) = true)
    (hbc : (!lt c b) = true) : (!lt c a) = true := by
  rw [Bool.not_eq_true'] at hab hbc ⊢
  by_cases hca : lt c a = true
  · by_cases hlt : lt a b = true
    · rw [h.trans hca hlt] at hbc
      cases hbc
    · have heq : a = b := h.eq_of_not (Bool.eq_false_iff.2 hlt) hab
      rw [heq, hbc] at hca
      cases hca
  · exact Bool.eq_false_iff.2 hca

theorem not_lt_total (h : Orders lt) (a b : α) : ((!lt b a) || !lt a b) = true := by
  by_cases hba : lt b a = true
  · have hab : lt a b = false := by
      refine Bool.eq_false_iff.2 fun hab => ?_
      have hself := h.trans hab hba
      rw [h.irrefl] at hself
      cases hself
    rw [hab, Bool.not_false, Bool.or_true]
  · rw [Bool.eq_false_iff.2 hba]
    rfl

/-- Sorted by keys that are all different, a list has increasing keys. -/
theorem strictly_sorted (h : Orders lt) (key : β → α) {xs : List β}
    (hdistinct : xs.Pairwise fun a b => key a ≠ key b) :
    (xs.mergeSort fun a b => !lt (key b) (key a)).Pairwise fun a b =>
      lt (key a) (key b) = true := by
  have htrans : ∀ a b c : β, (!lt (key b) (key a)) = true → (!lt (key c) (key b)) = true →
      (!lt (key c) (key a)) = true := fun _ _ _ => h.not_lt_trans
  have htotal : ∀ a b : β, (!lt (key b) (key a) || !lt (key a) (key b)) = true := fun a b =>
    h.not_lt_total (key a) (key b)
  have hsorted := List.pairwise_mergeSort htrans htotal xs
  have hdifferent := (List.mergeSort_perm xs fun a b => !lt (key b) (key a)).symm.pairwise
    hdistinct Ne.symm
  refine (hsorted.and hdifferent).imp ?_
  rintro a b ⟨hnot, hne⟩
  rw [Bool.not_eq_true'] at hnot
  by_cases hlt : lt (key a) (key b) = true
  · exact hlt
  · exact absurd (h.eq_of_not (Bool.eq_false_iff.2 hlt) hnot) hne

end Orders

/-- Texts are ordered by code points. -/
theorem Text.orders_before : Orders Text.before where
  irrefl := before_irrefl
  trans := before_trans
  eq_of_not := eq_of_not_before

end ScriptDeps

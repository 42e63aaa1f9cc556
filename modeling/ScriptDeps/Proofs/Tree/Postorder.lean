import Mathlib.Data.List.Perm.Basic
import ScriptDeps.Proofs.Tree.Place

namespace ScriptDeps.Syntax.Node

/-! # Places from below

A walk that takes a node only when everything below it is done passes the places of a tree in
another order than that of the document. `postorder` lists them in it. Main statements:

* `postorder_perm`: every place is passed once;
* `walkUp_eq_gather`: such a walk gathers the results of the places in this order;
* `postorder_in_order`: of two places, the second encloses the first or starts where that has ended.
-/

mutual

/-- The places of a tree that stands below `up`: each with the nodes around it, and behind all
places below it. -/
def postorder (up : List Node) : Node → List (List Node × Node)
  | ⟨kind, named, start, stop, missing, faulty, role, children⟩ =>
    let n : Node := ⟨kind, named, start, stop, missing, faulty, role, children⟩
    postorderAmong (n :: up) children ++ [(up, n)]

/-- The places of siblings. -/
def postorderAmong (up : List Node) : List Node → List (List Node × Node)
  | [] => []
  | n :: rest => postorder up n ++ postorderAmong up rest

end

theorem postorderAmong_eq_flatMap (up ns : List Node) :
    postorderAmong up ns = ns.flatMap (postorder up) := by
  induction ns with
  | nil => rfl
  | cons n rest ih => rw [postorderAmong, ih, List.flatMap_cons]

theorem postorder_eq (up : List Node) (n : Node) :
    postorder up n = n.children.flatMap (postorder (n :: up)) ++ [(up, n)] := by
  rw [← postorderAmong_eq_flatMap]
  cases n
  rw [postorder]

/-- From below, every place is passed once. -/
theorem postorder_perm (up : List Node) (n : Node) : (postorder up n).Perm (places up n) := by
  induction n using induct generalizing up with
  | step n ih =>
    rw [postorder_eq, places_eq, placesAmong_eq_flatMap]
    have hbelow := List.Perm.flatMap_left n.children fun c hc => ih c hc (n :: up)
    exact List.perm_append_comm.trans (hbelow.cons (up, n))

theorem mem_postorder_root {root m : Node} {vs : List Node} :
    (vs, m) ∈ postorder [] root ↔ Occurs root vs m := by
  rw [(postorder_perm [] root).mem_iff, mem_places_root]

/-- A walk that puts the results of a node behind those of its children gathers the results of all
places from below. -/
theorem walkUp_eq_gather {ε α : Type} (walk own : Node → Except ε (List α))
    (hwalk : ∀ n, walk n = (do
      let inner ← gather walk n.children
      let last ← own n
      return inner ++ last))
    (up : List Node) (n : Node) :
    walk n = gather (fun p => own p.2) (postorder up n) := by
  induction n using induct generalizing up with
  | step n ih =>
    rw [hwalk, postorder_eq, gather_append, gather_flatMap]
    rw [gather_congr fun c hc => ih c hc (n :: up)]
    congr 1
    funext inner
    rw [gather_singleton]

/-- Of two places from below, the second encloses the first or starts where that has ended. -/
theorem postorder_in_order {up : List Node} {n : Node} (h : SpansNest n) :
    (postorder up n).Pairwise fun p q => q.2 :: q.1 <:+ p.1 ∨ p.2.stop ≤ q.2.start := by
  induction n using induct generalizing up with
  | step n ih =>
    rw [postorder_eq, List.pairwise_append]
    refine ⟨?_, List.pairwise_singleton _ _, ?_⟩
    · refine List.pairwise_flatMap.2 ⟨fun c hc => ih c hc (h.child hc), ?_⟩
      refine (h _ _ .root).apart.imp_of_mem ?_
      intro a b ha hb hab
      rintro ⟨vs, m⟩ hm ⟨us, k⟩ hk
      -- the first lies in one child and the second in a later one
      obtain ⟨ws, hm, -⟩ := mem_places.1 ((postorder_perm _ _).mem_iff.1 hm)
      obtain ⟨xs, hk, -⟩ := mem_places.1 ((postorder_perm _ _).mem_iff.1 hk)
      have hma := (h.child ha).inside hm
      have hkb := (h.child hb).inside hk
      have hle : m.stop ≤ k.start := by omega
      exact Or.inr hle
    · rintro ⟨vs, m⟩ hm q hq
      rw [List.mem_singleton.1 hq]
      obtain ⟨c, hc, hm⟩ := List.mem_flatMap.1 hm
      obtain ⟨ws, -, rfl⟩ := mem_places.1 ((postorder_perm _ _).mem_iff.1 hm)
      exact Or.inl (List.suffix_append ws (n :: up))

end ScriptDeps.Syntax.Node

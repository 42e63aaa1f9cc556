import ScriptDeps.Proofs.Parse.Tree
import ScriptDeps.Proofs.Parse.Versions

namespace ScriptDeps.Parse

open Source (Position)

/-! # Places on the stack

The joints of a stack lie where the trees on them stop, and whatever is done with the versions of a
stack moves trees around without changing them. So if all bounds of the trees on a stack have a
property, the same holds of every stack that comes from it, and of all trees that are taken off it.
Main statements:

* `Stack.Within`: all places on a stack have a property;
* `Stack.Within.push`, `Stack.Within.merge`: putting on trees and merging versions keep the property;
* `Stack.Within.follow`: taking off trees along all ways keeps it.
-/

section

variable {P : Nat → Prop}

/-! ## The parts of a stack -/

/-- The tree on the link, if there is one, has the property. -/
def Link.Within (P : Nat → Prop) (l : Link) : Prop := ∀ t, l.tree = some t → t.Within P

/-- The joint and the trees right below it have the property. -/
structure Joint.Within (P : Nat → Prop) (j : Joint) : Prop where
  place : P j.place.offset
  links : ∀ l ∈ j.links, l.Within P

/-- The token that the version was paused at, if it was, has the property. -/
def Head.Within (P : Nat → Prop) (h : Head) : Prop := ∀ t, h.status = .paused t → t.Within P

/-- All places on a stack have the property. -/
structure Stack.Within (P : Nat → Prop) (s : Stack) : Prop where
  zero : P 0
  joints : ∀ j ∈ s.joints, j.Within P
  heads : ∀ h ∈ s.heads, h.Within P

/-- All trees in the list have the property. -/
def TreesWithin (P : Nat → Prop) (ts : List Tree) : Prop := ∀ t ∈ ts, t.Within P

/-- A version that is not paused holds no token. -/
theorem Head.within_of_active {h : Head} (hactive : h.status = .active) : h.Within P := by
  intro t ht
  rw [hactive] at ht
  cases ht

namespace Stack

variable {s : Stack}

/-! ## Looking -/

theorem Within.initial (hzero : P 0) : Within P initial where
  zero := hzero
  joints := by
    intro j hj
    rw [List.mem_singleton.1 (Array.mem_toList_iff.2 hj)]
    exact ⟨hzero, fun l hl => absurd hl List.not_mem_nil⟩
  heads := by
    intro h hh
    rw [List.mem_singleton.1 hh]
    exact Head.within_of_active rfl

theorem Within.joint (hs : Within P s) (n : Nat) : (s.joint n).Within P := by
  unfold Stack.joint
  rw [Array.getD_eq_getD_getElem?]
  cases hj : s.joints[n]? with
  | some j => exact hs.joints j (Array.mem_of_getElem? hj)
  | none => exact ⟨hs.zero, fun l hl => absurd hl List.not_mem_nil⟩

theorem Within.head (hs : Within P s) (v : Nat) : (s.head v).Within P := by
  unfold Stack.head
  rw [List.getD_eq_getElem?_getD]
  cases hh : s.heads[v]? with
  | some h => exact hs.heads h (List.mem_of_getElem? hh)
  | none => exact Head.within_of_active rfl

theorem Within.top (hs : Within P s) (v : Nat) : (s.top v).Within P := hs.joint _

/-! ## Changing versions -/

/-- The joints stay when the heads change. -/
theorem Within.withHeads (hs : Within P s) {heads : List Head} (h : ∀ x ∈ heads, x.Within P) :
    Within P { s with heads } :=
  ⟨hs.zero, hs.joints, h⟩

theorem Within.modifyHead (hs : Within P s) (v : Nat) {f : Head → Head}
    (hf : ∀ h : Head, h.Within P → (f h).Within P) : Within P (s.modifyHead v f) := by
  refine hs.withHeads fun x hx => ?_
  rcases mem_modify hx with hx | ⟨h, hh, rfl⟩
  · exact hs.heads x hx
  · exact hf h (hs.heads h hh)

/-- Versions that stem from others hold no other tokens. -/
theorem Within.of_stems {s' : Stack} (hs : Within P s) (h : Stems s s') : Within P s' where
  zero := hs.zero
  joints := by
    rw [h.joints]
    exact hs.joints
  heads := by
    intro x hx t ht
    obtain ⟨v, hv⟩ := h.heads x hx
    exact hs.head v t (hv.waits t ht)

theorem Within.settle (hs : Within P s) (v : Nat) : Within P (s.settle v) :=
  hs.of_stems (stems_settle s v)

theorem Within.halt (hs : Within P s) (v : Nat) : Within P (s.halt v) :=
  hs.of_stems (stems_halt s v)

theorem Within.remove (hs : Within P s) (v : Nat) : Within P (s.remove v) :=
  hs.of_stems (stems_remove s v)

theorem Within.moveTo (hs : Within P s) (v w : Nat) : Within P (s.moveTo v w) :=
  hs.of_stems (stems_moveTo s v w)

theorem Within.copy (hs : Within P s) (v : Nat) : Within P (s.copy v) :=
  hs.of_stems (stems_copy s v)

theorem Within.pause (hs : Within P s) (v : Nat) {lookahead : Tree} (h : lookahead.Within P) :
    Within P (s.pause v lookahead) := by
  refine hs.modifyHead v ?_
  rintro _ _ t ⟨⟩
  exact h

/-- The place above a tree is where the tree stops. -/
theorem Within.jointAbove (hs : Within P s) (below : Nat) {tree : Option Tree}
    (ht : ∀ t, tree = some t → t.Within P) (state : Nat) :
    (s.jointAbove below tree state).Within P := by
  have hlink : ∀ l ∈ [(⟨below, tree⟩ : Link)], l.Within P := by
    intro l hl
    rw [List.mem_singleton.1 hl]
    exact ht
  cases tree with
  | none => exact ⟨(hs.joint below).place, hlink⟩
  | some t => exact ⟨(ht t rfl).stop, hlink⟩

theorem Within.push (hs : Within P s) (v : Nat) {tree : Option Tree}
    (ht : ∀ t, tree = some t → t.Within P) (state : Nat) : Within P (s.push v tree state) := by
  unfold Stack.push
  refine ⟨hs.zero, fun j hj => ?_, fun x hx => ?_⟩
  · rcases Array.mem_push.1 hj with hj | rfl
    · exact hs.joints j hj
    · exact hs.jointAbove _ ht state
  · rcases mem_modify hx with hx | ⟨h, hh, rfl⟩
    · exact hs.heads x hx
    · exact hs.heads h hh

theorem Within.pushTree (hs : Within P s) (v : Nat) {t : Tree} (ht : t.Within P) (state : Nat) :
    Within P (s.push v (some t) state) := by
  refine hs.push v ?_ state
  rintro _ ⟨⟩
  exact ht

theorem Within.pushAll (hs : Within P s) (v : Nat) {ts : List Tree} (hts : TreesWithin P ts)
    (state : Nat) : Within P (s.pushAll v ts state) := by
  unfold Stack.pushAll
  exact List.foldlRecOn (motive := Within P) ts _ hs
    fun _ hs' t ht => hs'.pushTree v (hts t ht) state

theorem Within.finish (hs : Within P s) (v : Nat) {t : Tree} (ht : t.Within P) :
    Within P (s.finish v t) := by
  unfold Stack.finish
  refine ⟨hs.zero, fun j hj => ?_, fun x hx => ?_⟩
  · rcases Array.mem_push.1 hj with hj | rfl
    · exact hs.joints j hj
    · exact ⟨ht.stop, fun l hl => absurd hl List.not_mem_nil⟩
  · rcases mem_modify hx with hx | ⟨h, hh, rfl⟩
    · exact hs.heads x hx
    · exact hs.heads h hh

/-! ## Merging -/

theorem Within.setJoint (hs : Within P s) (n : Nat) {j : Joint} (hj : j.Within P) :
    Within P (s.setJoint n j) := by
  refine ⟨hs.zero, fun k hk => ?_, hs.heads⟩
  rcases Array.mem_or_eq_of_mem_setIfInBounds hk with hk | rfl
  · exact hs.joints k hk
  · exact hj

/-- Adding the links of a joint one after another keeps the property if adding each of them does. -/
theorem Within.addLinks {add : Stack → Link → Stack} (hs : Within P s) {ls : List Link}
    (hls : ∀ l ∈ ls, l.Within P)
    (hadd : ∀ {s : Stack} {l : Link}, Within P s → l.Within P → Within P (add s l)) :
    Within P (ls.foldl add s) :=
  List.foldlRecOn (motive := Within P) ls add hs fun _ hs' l hl => hadd hs' (hls l hl)

theorem Within.addLink (fuel : Nat) (hs : Within P s) (n : Nat) {link : Link}
    (hlink : link.Within P) : Within P (addLink fuel s n link) := by
  -- on the fuel, since joints far below may be merged, too
  induction fuel generalizing s n link with
  | zero => exact hs
  | succ fuel ih =>
    unfold Stack.addLink
    dsimp only
    split
    · exact hs
    · split
      · next i _ =>
        split
        · split
          · -- the new tree takes the place of the one that is there
            refine hs.setJoint n ⟨(hs.joint n).place, fun l hl => ?_⟩
            rcases List.mem_or_eq_of_mem_set hl with hl | rfl
            · exact (hs.joint n).links l hl
            · exact hlink
          · exact hs
        · -- the joints below are merged
          have hmerged := hs.addLinks (hs.joint link.below).links
            fun {_ _} hs' hl => ih hs' ((s.joint n).links.getD i default).below hl
          exact hmerged.setJoint n ⟨(hmerged.joint n).place, (hmerged.joint n).links⟩
      · split
        · exact hs
        · refine hs.setJoint n ⟨(hs.joint n).place, fun l hl => ?_⟩
          rcases List.mem_append.1 hl with hl | hl
          · exact (hs.joint n).links l hl
          · rw [List.mem_singleton.1 hl]
            exact hlink

theorem Within.merge {s' : Stack} (hs : Within P s) {v w : Nat} (h : s.merge v w = some s') :
    Within P s' := by
  unfold Stack.merge at h
  dsimp only at h
  split at h
  · cases h
    have hlinks := hs.addLinks (hs.top w).links
      fun {_ _} hs' hl => hs'.addLink (s.joints.size + 1) (s.head v).joint hl
    refine Within.remove ?_ w
    split
    · exact hlinks.modifyHead v fun _ hh => hh
    · exact hlinks
  · cases h

theorem Within.of_condenses {s' : Stack} (hs : Within P s) (h : Condenses s s') : Within P s' := by
  induction h with
  | refl => exact hs
  | stems _ hstems ih => exact ih.of_stems hstems
  | merge _ hmerge ih => exact ih.merge hmerge

/-! ## Ways down -/

/-- The trees on the way have the property. -/
def Way.Within (P : Nat → Prop) (w : Way) : Prop := TreesWithin P w.trees

/-- The trees of all slices have the property. -/
def SlicesWithin (P : Nat → Prop) (slices : List Slice) : Prop := ∀ x ∈ slices, TreesWithin P x.trees

theorem Way.Within.follow {w : Way} (hw : w.Within P) {l : Link} (hl : l.Within P) :
    (w.follow l).Within P := by
  unfold Way.follow
  split
  · next t ht =>
    intro u hu
    rcases List.mem_cons.1 hu with rfl | hu
    · exact hl _ ht
    · exact hw u hu
  · exact hw

/-- A new slice has the trees of the way that ends there, and its version is active. -/
theorem Within.adds (hs : Within P s) {s' : Stack} {slices slices' : List Slice}
    (hslices : SlicesWithin P slices) {w : Way} (hw : w.Within P) (h : Adds s slices w s' slices') :
    Within P s' ∧ SlicesWithin P slices' := by
  cases h with
  | @shares before after y hsplit _ =>
    rw [hsplit] at hslices
    obtain ⟨hbefore, hrest⟩ := List.forall_mem_append.1 hslices
    obtain ⟨hy, hafter⟩ := List.forall_mem_cons.1 hrest
    exact ⟨hs, List.forall_mem_append.2
      ⟨hbefore, List.forall_mem_cons.2 ⟨hy, List.forall_mem_cons.2 ⟨hw, hafter⟩⟩⟩⟩
  | opens _ hactive =>
    exact ⟨hs.withHeads (List.forall_mem_append.2
        ⟨hs.heads, List.forall_mem_singleton.2 (Head.within_of_active hactive)⟩),
      List.forall_mem_append.2 ⟨hslices, List.forall_mem_singleton.2 hw⟩⟩

section

variable {σ : Type} (judge : σ → Way → Verdict × σ)

/-- The stack and the slices of a descent have the property. -/
structure Descent.Within (P : Nat → Prop) (d : Descent σ) : Prop where
  stack : Stack.Within P d.stack
  slices : SlicesWithin P d.slices

theorem Descent.Within.kept (origin : Nat) :
    Kept origin judge (Descent.Within P) (Way.Within P) where
  passed _ hd := ⟨hd.stack, hd.slices⟩
  found := by
    intro d w _ hd hw _
    obtain ⟨hstack, hslices⟩ := hd.stack.adds hd.slices hw (addSlice_adds _ origin _ w)
    exact ⟨hstack, hslices⟩
  step := by
    intro d w hd hw _ l hl
    exact hw.follow ((hd.stack.joint w.joint).links l hl)

/-- Following the ways down from a version keeps the property, and all trees on the ways have it. -/
theorem Within.follow (hs : Within P s) (v : Nat) (memory : σ) :
    Within P (s.follow v memory judge).1 ∧ SlicesWithin P (s.follow v memory judge).2.1 := by
  have hstart : Descent.Within P (⟨s, [], memory⟩ : Descent σ) :=
    ⟨hs, fun x hx => absurd hx List.not_mem_nil⟩
  have hway : ∀ w ∈ [({ joint := (s.head v).joint } : Way)], w.Within P := by
    intro w hw
    rw [List.mem_singleton.1 hw]
    exact fun t ht => absurd ht List.not_mem_nil
  obtain ⟨hstack, hslices⟩ :=
    (Descent.Within.kept judge v).descend (s.joints.size + 1) hstart hway
  exact ⟨hstack, hslices⟩

end

/-! ## Taking off trees -/

theorem Within.pop (hs : Within P s) (v depth : Nat) :
    Within P (s.pop v depth).1 ∧ SlicesWithin P (s.pop v depth).2 := hs.follow _ v ()

theorem Within.popAll (hs : Within P s) (v : Nat) :
    Within P (s.popAll v).1 ∧ SlicesWithin P (s.popAll v).2 := hs.follow _ v ()

theorem Within.popError (hs : Within P s) (v : Nat) :
    Within P (s.popError v).1 ∧ ∀ t, (s.popError v).2 = some t → t.Within P := by
  have hnone : ∀ t : Tree, none = some t → t.Within P := fun t ht => nomatch ht
  unfold Stack.popError
  split
  · have hfollow := fun judge => hs.follow judge v false
    dsimp only
    generalize hr : s.follow v false _ = r
    have hfollowed := hr ▸ hfollow _
    obtain ⟨s', slices, found⟩ := r
    obtain ⟨hstack, hslices⟩ := hfollowed
    cases slices with
    | nil => exact ⟨hstack, hnone⟩
    | cons x rest =>
      refine ⟨hstack.moveTo x.version v, fun t ht => ?_⟩
      exact hslices x List.mem_cons_self t (List.mem_of_head? ht)
  · exact ⟨hs, hnone⟩

theorem Within.summarize (hs : Within P s) (v : Nat) : Within P (s.summarize v) :=
  (hs.follow _ v []).1.modifyHead v fun _ hh => hh

end Stack

end

end ScriptDeps.Parse

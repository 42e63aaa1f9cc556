import ScriptDeps.Proofs.Parse.Names
import ScriptDeps.Proofs.Parse.Stack

namespace ScriptDeps.Parse

open Grammar (Leads)

/-! # The stack follows the automaton

Between two joints of the stack lies a tree whose symbol leads from the state of the one to the state
of the other. Only where an error was met, or where a tree cannot stand, the stack goes on in the
state in which errors are passed over, and from there no symbol leads on. Main statements:

* `Stack.Linked`: all trees on the stack lead from one state to the next;
* `Stack.Keeps`: the first versions stay where they are, in the same states;
* `Stack.Linked.push`, `Stack.Linked.merge`: changing the stack keeps it linked.
-/

/-- What lies on a link leads from the state below to the state above. Trees that belong to no rule
stay in the state, and behind what cannot stand there, errors are passed over. -/
def Fits (p : Nat) (tree : Option Tree) (q : Nat) : Prop :=
  match tree with
  | none => q = 0
  | some t => t.Sound ∧ if t.extra then q = p else q = 0 ∨ Leads p t.symbol q

/-- The tree is a token. The end of the source is the only one that belongs to no rule, and it is no
word. -/
structure Tree.IsToken (t : Tree) : Prop where
  children : t.children = []
  nodes : t.nodes = []
  extra : t.extra = true ↔ t.symbol = Grammar.endSymbol
  keyword : t.keyword = true → t.extra = false

theorem Tree.IsToken.sound {t : Tree} (h : t.IsToken) : t.Sound := by
  refine .of_token h.children h.nodes fun hextra => ?_
  have hend : t.symbol = Grammar.endSymbol := h.extra.1 hextra
  refine ⟨by rw [hend]; decide, fun n hn => ?_⟩
  obtain ⟨hvisible, -⟩ := Tree.kind_of_shown h.nodes hn
  rw [hend, Tree.visible_endSymbol] at hvisible
  cases hvisible

/-- A token that is taken by a rule. -/
theorem Tree.IsToken.taken {t : Tree} (h : t.IsToken) : Tree.Sound { t with extra := false } :=
  .of_token h.children h.nodes fun hextra => nomatch hextra

/-- A token that belongs to no rule, where some state allows that, is no identifier. -/
theorem Tree.IsToken.besides {t : Tree} {p : Nat} (h : t.IsToken)
    (hextra : .extra ∈ (Grammar.state p).actions t.symbol) : Tree.Sound { t with extra := true } := by
  have hlt : t.symbol < errorRun := Nat.lt_trans (Grammar.lt_tokenCount hextra) (by decide)
  refine .of_token h.children h.nodes fun _ => ⟨Nat.ne_of_lt hlt, fun n hn hid => ?_⟩
  obtain ⟨hvisible, hkind⟩ := Tree.kind_of_shown h.nodes hn
  have hplain := Tree.isPlain_info (Grammar.isPlain_of_extra hextra) hvisible
  rw [Grammar.SymbolInfo.isPlain, hvisible, Bool.true_and, Bool.not_eq_true'] at hplain
  rw [hkind] at hid
  exact absurd (List.contains_iff_mem.2 hid) (Bool.eq_false_iff.1 hplain)

/-- The top of a version is a joint, and what it waits at is a token. -/
structure Head.Stands (size : Nat) (h : Head) : Prop where
  joint : h.joint < size
  waits : ∀ t, h.status = .paused t → t.IsToken

/-- All trees on the stack lead from one state to the next. -/
structure Stack.Linked (s : Stack) : Prop where
  nonempty : 0 < s.joints.size
  heads : ∀ h ∈ s.heads, h.Stands s.joints.size
  links : ∀ n, ∀ l ∈ (s.joint n).links,
    l.below < s.joints.size ∧ Fits (s.joint l.below).state l.tree (s.joint n).state

/-- The first versions are where they were, in the same states. -/
structure Stack.Keeps (k : Nat) (s s' : Stack) : Prop where
  size : s.joints.size ≤ s'.joints.size
  states : ∀ n, n < s.joints.size → (s'.joint n).state = (s.joint n).state
  heads : ∀ v, v < k → (s'.head v).joint = (s.head v).joint
  versions : k ≤ s'.size

/-- At most links between the joints have been added. -/
structure Stack.Relinks (s s' : Stack) : Prop where
  size : s'.joints.size = s.joints.size
  heads : s'.heads = s.heads
  states : ∀ n, (s'.joint n).state = (s.joint n).state

namespace Stack

variable {s s' s'' : Stack} {k v w : Nat}

/-! ## Looking -/

theorem linked_initial : Linked initial where
  nonempty := Nat.one_pos
  heads := by
    intro h hh
    rw [List.mem_singleton.1 hh]
    exact ⟨Nat.one_pos, fun t ht => nomatch ht⟩
  links := by
    intro n l hl
    have hnone : (initial.joint n).links = [] := by
      match n with
      | 0 => rfl
      | n + 1 => rfl
    rw [hnone] at hl
    cases hl

theorem Linked.head (hs : Linked s) (v : Nat) : (s.head v).Stands s.joints.size := by
  unfold Stack.head
  rw [List.getD_eq_getElem?_getD]
  cases hh : s.heads[v]? with
  | some h => exact hs.heads h (List.mem_of_getElem? hh)
  | none => exact ⟨hs.nonempty, fun t ht => nomatch ht⟩

theorem Keeps.trans (h : Keeps k s s') (h' : Keeps k s' s'') : Keeps k s s'' where
  size := Nat.le_trans h.size h'.size
  states n hn := (h'.states n (Nat.lt_of_lt_of_le hn h.size)).trans (h.states n hn)
  heads v hv := (h'.heads v hv).trans (h.heads v hv)
  versions := h'.versions

theorem Keeps.refl (h : k ≤ s.size) : Keeps k s s := ⟨Nat.le_refl _, fun _ _ => rfl, fun _ _ => rfl, h⟩

theorem Keeps.mono (h : Keeps k s s') (hv : v ≤ k) : Keeps v s s' where
  size := h.size
  states := h.states
  heads w hw := h.heads w (Nat.lt_of_lt_of_le hw hv)
  versions := Nat.le_trans hv h.versions

/-- The versions that are kept are in the same states. -/
theorem Keeps.top (h : Keeps k s s') (hs : Linked s) (hv : v < k) :
    (s'.top v).state = (s.top v).state := by
  rw [Stack.top, h.heads v hv, h.states _ (hs.head v).joint, Stack.top]

theorem Relinks.refl (s : Stack) : Relinks s s := ⟨rfl, rfl, fun _ => rfl⟩

theorem Relinks.trans (h : Relinks s s') (h' : Relinks s' s'') : Relinks s s'' :=
  ⟨h'.size.trans h.size, h'.heads.trans h.heads, fun n => (h'.states n).trans (h.states n)⟩

/-! ## Changing versions -/

/-- The joints stay when the heads change. -/
theorem Linked.withHeads (hs : Linked s) {heads : List Head}
    (h : ∀ x ∈ heads, x.Stands s.joints.size) : Linked { s with heads } :=
  ⟨hs.nonempty, h, hs.links⟩

theorem Linked.modifyHead (hs : Linked s) (v : Nat) {f : Head → Head}
    (hf : ∀ h : Head, h.Stands s.joints.size → (f h).Stands s.joints.size) :
    Linked (s.modifyHead v f) := by
  refine hs.withHeads fun x hx => ?_
  rcases mem_modify hx with hx | ⟨h, hh, rfl⟩
  · exact hs.heads x hx
  · exact hf h (hs.heads h hh)

/-- Versions that stem from others stand on the same joints and wait at the same tokens. -/
theorem Linked.of_stems (hs : Linked s) (h : Stems s s') : Linked s' := by
  have hlinked : Linked { s with heads := s'.heads } := by
    refine hs.withHeads fun x hx => ?_
    obtain ⟨v, hv⟩ := h.heads x hx
    exact ⟨hv.joint ▸ (hs.head v).joint, fun t ht => (hs.head v).waits t (hv.waits t ht)⟩
  rwa [← h.joints] at hlinked

theorem Linked.settle (hs : Linked s) (v : Nat) : Linked (s.settle v) :=
  hs.of_stems (stems_settle s v)

theorem Linked.halt (hs : Linked s) (v : Nat) : Linked (s.halt v) :=
  hs.of_stems (stems_halt s v)

theorem Linked.remove (hs : Linked s) (v : Nat) : Linked (s.remove v) :=
  hs.of_stems (stems_remove s v)

theorem Linked.moveTo (hs : Linked s) (v w : Nat) : Linked (s.moveTo v w) :=
  hs.of_stems (stems_moveTo s v w)

theorem Linked.copy (hs : Linked s) (v : Nat) : Linked (s.copy v) :=
  hs.of_stems (stems_copy s v)

theorem Linked.pause (hs : Linked s) (v : Nat) {lookahead : Tree} (h : lookahead.IsToken) :
    Linked (s.pause v lookahead) := by
  refine hs.modifyHead v fun _ hh => ⟨hh.joint, ?_⟩
  rintro t ⟨⟩
  exact h

theorem size_halt (s : Stack) (v : Nat) : (s.halt v).size = s.size := size_modifyHead ..

theorem size_remove (h : v < s.size) : (s.remove v).size = s.size - 1 := List.length_eraseIdx_of_lt h

/-- The version that takes the place of another is in the state that it was in. -/
theorem top_moveTo (hw : w < v) (hv : v < s.size) : (s.moveTo v w).top w = s.top v := by
  have hhead : ((s.moveTo v w).head w).joint = (s.head v).joint := by
    unfold Stack.moveTo
    rw [if_neg (Nat.ne_of_gt hw)]
    simp only [Stack.head, List.getD_eq_getElem?_getD]
    rw [List.getElem?_eraseIdx_of_lt hw, List.getElem?_set_self (Nat.lt_trans hw hv)]
    rfl
  rw [Stack.top, hhead, Stack.top]
  unfold Stack.moveTo
  split <;> rfl

theorem le_size_moveTo (s : Stack) (v w : Nat) : s.size ≤ (s.moveTo v w).size + 1 := by
  unfold Stack.moveTo
  split
  · exact Nat.le_succ _
  · simp only [Stack.size, List.length_eraseIdx, List.length_set]
    split <;> omega

theorem top_copy (s : Stack) (v : Nat) : (s.copy v).top s.size = s.top v := by
  have hhead : ((s.copy v).head s.size).joint = (s.head v).joint := by
    simp only [Stack.head, Stack.copy, Stack.size, List.getD_eq_getElem?_getD]
    rw [List.getElem?_concat_length]
    rfl
  rw [Stack.top, hhead, Stack.top]
  rfl

/-- Other heads do not change, and a change of the head that leaves its joint does not move it. -/
theorem joint_modify {heads : List Head} {f : Head → Head}
    (h : v ≠ w ∨ ∀ x, (f x).joint = x.joint) :
    ((heads.modify v f).getD w default).joint = (heads.getD w default).joint := by
  simp only [List.getD_eq_getElem?_getD, List.getElem?_modify]
  cases heads[w]? with
  | none => rfl
  | some x =>
    change (if v = w then f x else x).joint = x.joint
    split
    · next heq => exact h.resolve_left (not_not_intro heq) x
    · rfl

theorem Keeps.modifyHead {f : Head → Head} (hs : k ≤ s.size) (hf : ∀ x, (f x).joint = x.joint) :
    Keeps k s (s.modifyHead v f) where
  size := Nat.le_refl _
  states _ _ := rfl
  heads _ _ := joint_modify (Or.inr hf)
  versions := by rwa [size_modifyHead]

/-- Removing a version keeps those before it. -/
theorem Keeps.remove (hs : k ≤ (s.remove v).size) (h : k ≤ v) : Keeps k s (s.remove v) where
  size := Nat.le_refl _
  states _ _ := rfl
  heads w hw := by
    simp only [Stack.head, Stack.remove, List.getD_eq_getElem?_getD]
    rw [List.getElem?_eraseIdx_of_lt (Nat.lt_of_lt_of_le hw h)]
  versions := hs

/-! ## Pushing -/

theorem jointAbove_spec (s : Stack) (below : Nat) (tree : Option Tree) (state : Nat) :
    (s.jointAbove below tree state).state = state ∧
      (s.jointAbove below tree state).links = [⟨below, tree⟩] := by
  cases tree <;> exact ⟨rfl, rfl⟩

/-- A stack with one more joint, on which versions may stand. -/
theorem Linked.withJoint (hs : Linked s) {j : Joint} {heads : List Head}
    (hlinks : ∀ l ∈ j.links, l.below < s.joints.size ∧ Fits (s.joint l.below).state l.tree j.state)
    (hheads : ∀ h ∈ heads, h.Stands (s.joints.size + 1)) :
    Linked { joints := s.joints.push j, heads } := by
  have hjoint : ∀ n, Stack.joint { joints := s.joints.push j, heads } n =
      if n = s.joints.size then j else s.joint n := by
    intro n
    simp only [Stack.joint, Array.getD_eq_getD_getElem?, Array.getElem?_push]
    split <;> rfl
  refine ⟨by simp, fun h hh => ?_, fun n l hl => ?_⟩
  · simpa using hheads h hh
  · have hold : l.below < s.joints.size ∧ Fits (s.joint l.below).state l.tree
        (Stack.joint { joints := s.joints.push j, heads } n).state := by
      rw [hjoint] at hl ⊢
      split at hl
      · next heq =>
        rw [if_pos heq]
        exact hlinks l hl
      · next hne =>
        rw [if_neg hne]
        exact hs.links n l hl
    rw [hjoint l.below, if_neg (Nat.ne_of_lt hold.1), Array.size_push]
    exact ⟨Nat.lt_succ_of_lt hold.1, hold.2⟩

theorem joint_push {tree : Option Tree} {state n : Nat} (hn : n < s.joints.size) :
    (s.push v tree state).joint n = s.joint n := by
  simp only [Stack.joint, Stack.push, Array.getD_eq_getD_getElem?]
  rw [Array.getElem?_push_lt hn, Array.getElem?_eq_getElem hn]

theorem Linked.push (hs : Linked s) (v : Nat) {tree : Option Tree} {state : Nat}
    (h : Fits (s.top v).state tree state) : Linked (s.push v tree state) := by
  obtain ⟨hstate, hlinks⟩ := jointAbove_spec s (s.head v).joint tree state
  refine hs.withJoint (fun l hl => ?_) fun x hx => ?_
  · rw [hlinks] at hl
    rw [List.mem_singleton.1 hl, hstate]
    exact ⟨(hs.head v).joint, h⟩
  · rcases mem_modify hx with hx | ⟨y, hy, rfl⟩
    · exact ⟨Nat.lt_succ_of_lt (hs.heads x hx).joint, (hs.heads x hx).waits⟩
    · exact ⟨Nat.lt_succ_self _, (hs.heads y hy).waits⟩

theorem size_push (s : Stack) (v : Nat) (tree : Option Tree) (state : Nat) :
    (s.push v tree state).size = s.size :=
  List.length_modify ..

/-- The version is in the state that it was pushed to. -/
theorem top_push {tree : Option Tree} {state : Nat} (hv : v < s.size) :
    ((s.push v tree state).top v).state = state := by
  have hhead : ((s.push v tree state).head v).joint = s.joints.size := by
    simp only [Stack.head, Stack.push, List.getD_eq_getElem?_getD, List.getElem?_modify]
    rw [List.getElem?_eq_getElem hv]
    rfl
  rw [Stack.top, hhead]
  simp only [Stack.joint, Stack.push, Array.getD_eq_getD_getElem?, Array.getElem?_push_size]
  exact (jointAbove_spec s _ tree state).1

theorem Keeps.push (hs : k ≤ s.size) (h : k ≤ v) (tree : Option Tree) (state : Nat) :
    Keeps k s (s.push v tree state) where
  size := by simp [Stack.push]
  states n hn := by rw [joint_push hn]
  heads w hw := joint_modify (Or.inl (by omega))
  versions := by rwa [size_push]

/-- Trees that belong to no rule leave a version in its state. -/
theorem Linked.pushAll (hs : Linked s) (hv : v < s.size) {ts : List Tree} {state : Nat}
    (hstate : (s.top v).state = state) (hts : ∀ t ∈ ts, t.Sound ∧ t.extra = true) (hk : k ≤ v) :
    Linked (s.pushAll v ts state) ∧ Keeps k s (s.pushAll v ts state) ∧
      (s.pushAll v ts state).size = s.size ∧ ((s.pushAll v ts state).top v).state = state := by
  unfold Stack.pushAll
  refine List.foldlRecOn (motive := fun s' : Stack => Linked s' ∧ Keeps k s s' ∧ s'.size = s.size ∧
    (s'.top v).state = state) ts _ ⟨hs, .refl (by omega), rfl, hstate⟩ ?_
  rintro s' ⟨hs', hkeeps, hsize, htop⟩ t ht
  obtain ⟨hsound, hextra⟩ := hts t ht
  have hfits : Fits (s'.top v).state (some t) state := by
    refine ⟨hsound, ?_⟩
    rw [if_pos hextra, htop]
  have hv' : v < s'.size := by omega
  exact ⟨hs'.push v hfits, hkeeps.trans (.push (by omega) hk _ _), by rw [size_push, hsize],
    top_push hv'⟩

theorem Linked.finish (hs : Linked s) (v : Nat) (t : Tree) : Linked (s.finish v t) := by
  refine hs.withJoint (fun l hl => absurd hl List.not_mem_nil) fun x hx => ?_
  rcases mem_modify hx with hx | ⟨y, hy, rfl⟩
  · exact ⟨Nat.lt_succ_of_lt (hs.heads x hx).joint, (hs.heads x hx).waits⟩
  · exact ⟨Nat.lt_succ_self _, (hs.heads y hy).waits⟩

theorem size_finish (s : Stack) (v : Nat) (t : Tree) : (s.finish v t).size = s.size :=
  List.length_modify ..

/-! ## Merging -/

theorem joint_setJoint {n m : Nat} {j : Joint} :
    (s.setJoint n j).joint m = if m = n ∧ n < s.joints.size then j else s.joint m := by
  simp only [Stack.joint, Stack.setJoint, Array.getD_eq_getD_getElem?, Array.getElem?_setIfInBounds]
  by_cases hnm : n = m
  · subst hnm
    by_cases hn : n < s.joints.size
    · simp [hn]
    · simp [hn]
  · simp [hnm, Ne.symm hnm]

/-- Changing the links of a joint. -/
theorem Linked.setJoint (hs : Linked s) (n : Nat) {j : Joint} (hstate : j.state = (s.joint n).state)
    (hlinks : ∀ l ∈ j.links,
      l.below < s.joints.size ∧ Fits (s.joint l.below).state l.tree (s.joint n).state) :
    Linked (s.setJoint n j) ∧ Relinks s (s.setJoint n j) := by
  have hsize : (s.setJoint n j).joints.size = s.joints.size := Array.size_setIfInBounds ..
  have hstates : ∀ m, ((s.setJoint n j).joint m).state = (s.joint m).state := by
    intro m
    rw [joint_setJoint]
    split
    · next h => rw [hstate, h.1]
    · rfl
  refine ⟨⟨?_, ?_, ?_⟩, hsize, rfl, hstates⟩
  · rw [hsize]
    exact hs.nonempty
  · rw [hsize]
    exact hs.heads
  · intro m l hl
    rw [hsize, hstates, hstates]
    rw [joint_setJoint] at hl
    split at hl
    · next h =>
      rw [h.1]
      exact hlinks l hl
    · exact hs.links m l hl

/-- Giving the links of a joint to another one in the same state keeps the stack linked if giving it
each of them does. -/
theorem Linked.addLinks {add : Stack → Link → Stack} (hs : Linked s) {n m : Nat}
    (hstate : (s.joint n).state = (s.joint m).state)
    (hadd : ∀ {s : Stack} {l : Link}, Linked s → l.below < s.joints.size →
      Fits (s.joint l.below).state l.tree (s.joint n).state → Linked (add s l) ∧ Relinks s (add s l)) :
    Linked ((s.joint m).links.foldl add s) ∧ Relinks s ((s.joint m).links.foldl add s) := by
  refine List.foldlRecOn (motive := fun s' : Stack => Linked s' ∧ Relinks s s') (s.joint m).links add
    ⟨hs, .refl s⟩ ?_
  rintro s' ⟨hs', hrelinks⟩ l hl
  obtain ⟨hlow, hfits⟩ := hs.links m l hl
  obtain ⟨hlinked, hmore⟩ := hadd hs' (l := l) (by rwa [hrelinks.size]) (by
    rwa [hrelinks.states, hrelinks.states, hstate])
  exact ⟨hlinked, hrelinks.trans hmore⟩

theorem Linked.addLink (fuel : Nat) (hs : Linked s) {n : Nat} {link : Link}
    (hbelow : link.below < s.joints.size)
    (hfits : Fits (s.joint link.below).state link.tree (s.joint n).state) :
    Linked (addLink fuel s n link) ∧ Relinks s (addLink fuel s n link) := by
  -- on the fuel, since joints far below may be merged, too
  induction fuel generalizing s n link with
  | zero => exact ⟨hs, .refl s⟩
  | succ fuel ih =>
    unfold Stack.addLink
    dsimp only
    split
    · exact ⟨hs, .refl s⟩
    · split
      · next i hfind =>
        split
        · split
          · -- the new tree takes the place of the one that is there
            refine hs.setJoint n rfl fun l hl => ?_
            rcases List.mem_or_eq_of_mem_set hl with hl | rfl
            · exact hs.links n l hl
            · exact ⟨hbelow, hfits⟩
          · exact ⟨hs, .refl s⟩
        · next hne =>
          -- the joints below are in one state, and are merged
          generalize hl : (s.joint n).links.getD i default = l at hne ⊢
          have hstate : (s.joint l.below).state = (s.joint link.below).state := by
            obtain ⟨hi, hfound, -⟩ := List.findIdx?_eq_some_iff_getElem.1 hfind
            rw [List.getD_eq_getElem?_getD, List.getElem?_eq_getElem hi, Option.getD_some] at hl
            rw [hl] at hfound
            simp only [Bool.and_eq_true, Bool.or_eq_true, beq_iff_eq, hne, false_or] at hfound
            exact hfound.2.1.1
          have hmerged := hs.addLinks hstate fun {_ _} hs' hlow hfits =>
            ih hs' (n := l.below) hlow hfits
          generalize List.foldl _ s _ = s' at hmerged ⊢
          obtain ⟨hlinked, hrelinks⟩ := hmerged
          have hset := fun weight => hlinked.setJoint n (j := { s'.joint n with weight }) rfl
            (hlinked.links n)
          exact ⟨(hset _).1, hrelinks.trans (hset _).2⟩
      · split
        · exact ⟨hs, .refl s⟩
        · refine hs.setJoint n rfl fun l hl => ?_
          rcases List.mem_append.1 hl with hl | hl
          · exact hs.links n l hl
          · rw [List.mem_singleton.1 hl]
            exact ⟨hbelow, hfits⟩

theorem Relinks.keeps (h : Relinks s s') (hk : k ≤ s.size) : Keeps k s s' where
  size := Nat.le_of_eq h.size.symm
  states n _ := h.states n
  heads v _ := by rw [Stack.head, h.heads, Stack.head]
  versions := by rwa [Stack.size, h.heads]

theorem Linked.removed (hs' : Linked s') (hsize : s'.size = s.size)
    (hkeeps : ∀ k ≤ s.size, Keeps k s s') :
    Linked (s'.remove w) ∧
      (w < s.size → (s'.remove w).size = s.size - 1 ∧ ∀ k ≤ w, Keeps k s (s'.remove w)) := by
  refine ⟨hs'.remove w, fun hw => ?_⟩
  have hone : (s'.remove w).size = s.size - 1 := by rw [size_remove (by omega), hsize]
  exact ⟨hone, fun k hk => (hkeeps k (by omega)).trans (.remove (by omega) hk)⟩

/-- Versions in one state are merged, and the second is gone. -/
theorem Linked.merge (hs : Linked s) (h : s.merge v w = some s') :
    Linked s' ∧ (w < s.size → s'.size = s.size - 1 ∧ ∀ k ≤ w, Keeps k s s') := by
  unfold Stack.merge at h
  dsimp only at h
  split at h
  · next hcan =>
    have hstate : (s.joint (s.head v).joint).state = (s.joint (s.head w).joint).state := by
      simp only [canMerge, Bool.and_eq_true, beq_iff_eq] at hcan
      exact hcan.1.1.2
    obtain ⟨hlinked, hrelinks⟩ := hs.addLinks hstate fun {_ _} hs' hlow hfits =>
      hs'.addLink (s.joints.size + 1) (n := (s.head v).joint) hlow hfits
    rw [Stack.top] at h
    generalize (s.joint (s.head w).joint).links.foldl _ s = m at h hlinked hrelinks
    have hsize : m.size = s.size := by rw [Stack.size, hrelinks.heads, Stack.size]
    have hkeeps : ∀ k ≤ s.size, Keeps k s m := fun k hk => hrelinks.keeps hk
    split at h
    · cases h
      refine Linked.removed (hlinked.modifyHead v fun _ hh => ⟨hh.joint, hh.waits⟩)
        (by rw [size_modifyHead, hsize]) fun k hk => (hkeeps k hk).trans ?_
      exact .modifyHead (by omega) fun _ => rfl
    · cases h
      exact hlinked.removed hsize hkeeps
  · cases h

theorem Linked.of_condenses (hs : Linked s) (h : Condenses s s') : Linked s' := by
  induction h with
  | refl => exact hs
  | stems _ hstems ih => exact ih.of_stems hstems
  | merge _ hmerge ih => exact (ih.merge hmerge).1

end Stack

end ScriptDeps.Parse

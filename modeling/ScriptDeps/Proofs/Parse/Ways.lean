import ScriptDeps.Proofs.Parse.Linked

namespace ScriptDeps.Parse

open Grammar (Leads)
open Parse.Tree (Route ordinary)

/-! # What is taken off a version

All ways down from a version are followed together. What holds of a way at the top and is kept along
every link holds wherever a way ends, and each end becomes a version. In particular the trees that are
taken off a version lie on a way of the automaton up to its state. Main statements:

* `Stack.Judges.follow`: the ends of the ways that are found, with what holds of them;
* `Stack.Linked.pop`: as many trees as a rule has are taken off along a way of the automaton;
* `Stack.Linked.popError`: below an error that was taken off, a version is in the same state.
-/

namespace Stack

variable {s s' : Stack} {v : Nat} {P : Way → Prop}

/-! ## New versions -/

/-- New versions stand where ways that have the property ended, with the trees on these ways, in the
order of the versions. -/
structure Sliced (P : Way → Prop) (s s' : Stack) (slices : List Slice) : Prop where
  joints : s'.joints = s.joints
  heads : ∃ new, s'.heads = s.heads ++ new ∧ ∀ h ∈ new, h.Stands s.joints.size
  found : ∀ x ∈ slices, s.size ≤ x.version ∧ x.version < s'.size ∧
    ∃ w, P w ∧ (s'.head x.version).joint = w.joint ∧ x.trees = w.trees
  sorted : slices.Pairwise fun x y => x.version ≤ y.version

theorem Sliced.refl (s : Stack) : Sliced P s s [] where
  joints := rfl
  heads := ⟨[], by simp, fun x hx => absurd hx List.not_mem_nil⟩
  found x hx := absurd hx List.not_mem_nil
  sorted := .nil

section

variable {slices : List Slice}

theorem Sliced.linked (h : Sliced P s s' slices) (hs : Linked s) : Linked s' := by
  obtain ⟨new, hheads, hnew⟩ := h.heads
  have hlinked : Linked { s with heads := s'.heads } := hs.withHeads fun x hx => by
    rw [hheads] at hx
    exact (List.mem_append.1 hx).elim (hs.heads x) (hnew x)
  rwa [← h.joints] at hlinked

theorem Sliced.joint (h : Sliced P s s' slices) (n : Nat) : s'.joint n = s.joint n := by
  rw [Stack.joint, h.joints, Stack.joint]

theorem Sliced.keeps (h : Sliced P s s' slices) : Keeps s.size s s' := by
  obtain ⟨new, hheads, -⟩ := h.heads
  refine ⟨Nat.le_of_eq (by rw [h.joints]), fun n _ => by rw [h.joint], fun w hw => ?_, ?_⟩
  · rw [Stack.head, hheads, List.getD_eq_getElem?_getD, List.getElem?_append_left hw, Stack.head,
      List.getD_eq_getElem?_getD]
  · rw [Stack.size, Stack.size, hheads, List.length_append]
    exact Nat.le_add_right ..

/-- The version of a slice is in the state of the joint where its way ended. -/
theorem Sliced.top (h : Sliced P s s' slices) {x : Slice} (hx : x ∈ slices) :
    ∃ w, P w ∧ (s'.top x.version).state = (s.joint w.joint).state ∧ x.trees = w.trees := by
  obtain ⟨-, -, w, hw, hhead, htrees⟩ := h.found x hx
  exact ⟨w, hw, by rw [Stack.top, hhead, h.joint], htrees⟩

/-- The version that the first way led to is removed again. -/
theorem Linked.removeFirst (hs : Linked s) : Sliced P s s' slices →
    Linked (match slices with
      | x :: _ => s'.remove x.version
      | [] => s') ∧
      s.size ≤ (match slices with
      | x :: _ => s'.remove x.version
      | [] => s').size := by
  intro h
  have hlinked : Linked s' := h.linked hs
  split
  · next x rest =>
    obtain ⟨hnew, hversion, -⟩ := h.found x List.mem_cons_self
    exact ⟨hlinked.remove _, by rw [size_remove hversion]; omega⟩
  · exact ⟨hlinked, h.keeps.versions⟩

/-- What holds of the slices so far holds with the end of a way that has the property. -/
theorem Sliced.adds (h : Sliced P s s' slices) {s'' : Stack} {slices' : List Slice} {w : Way}
    (hw : P w) (hjoint : w.joint < s.joints.size) (hadds : Adds s' slices w s'' slices') :
    Sliced P s s'' slices' := by
  cases hadds with
  | @shares before after y hsplit hsame =>
    have hold : ∀ x ∈ before ++ y :: after, x ∈ slices := fun x hx => by rwa [hsplit]
    obtain ⟨hnew, hversion, -⟩ := h.found y (hold y (by simp))
    have hsorted := h.sorted
    rw [hsplit] at hsorted
    obtain ⟨hbefore, hrest, hacross⟩ := List.pairwise_append.1 hsorted
    obtain ⟨hy, hafter⟩ := List.pairwise_cons.1 hrest
    refine ⟨h.joints, h.heads, fun x hx => ?_, List.pairwise_append.2 ⟨hbefore, ?_, fun x hx => ?_⟩⟩
    · have hcases : x = ⟨y.version, w.trees⟩ ∨ x ∈ before ++ y :: after := by
        simp only [List.mem_append, List.mem_cons] at hx ⊢
        tauto
      rcases hcases with rfl | hx
      · exact ⟨hnew, hversion, w, hw, hsame, rfl⟩
      · exact h.found x (hold x hx)
    · exact .cons (List.forall_mem_cons.2 ⟨Nat.le_refl _, hy⟩) (.cons hy hafter)
    · have hle : x.version ≤ y.version := hacross x hx y List.mem_cons_self
      exact List.forall_mem_cons.2 ⟨hle, List.forall_mem_cons.2
        ⟨hle, fun z hz => hacross x hx z (List.mem_cons_of_mem y hz)⟩⟩
  | @opens head hhead hactive =>
    obtain ⟨new, hheads, hnew⟩ := h.heads
    have hstands : head.Stands s.joints.size :=
      ⟨hhead ▸ hjoint, fun t ht => nomatch hactive.symm.trans ht⟩
    refine ⟨h.joints, ?_, fun x hx => ?_,
      List.pairwise_append.2 ⟨h.sorted, List.pairwise_singleton .., ?_⟩⟩
    · refine ⟨new ++ [head], by rw [← List.append_assoc, ← hheads], ?_⟩
      exact List.forall_mem_append.2 ⟨hnew, List.forall_mem_singleton.2 hstands⟩
    · simp only [Stack.size, Stack.head, List.getD_eq_getElem?_getD, List.length_append,
        List.length_singleton]
      rcases List.mem_append.1 hx with hx | hx
      · obtain ⟨hfirst, hversion, hway⟩ := h.found x hx
        simp only [Stack.size, Stack.head, List.getD_eq_getElem?_getD] at hfirst hversion hway
        rw [List.getElem?_append_left hversion]
        exact ⟨hfirst, Nat.lt_succ_of_lt hversion, hway⟩
      · rw [List.mem_singleton.1 hx, Stack.size, List.getElem?_concat_length]
        exact ⟨h.keeps.versions, Nat.lt_succ_self _, w, hw, hhead, rfl⟩
    · intro x hx y hy
      rw [List.mem_singleton.1 hy]
      exact Nat.le_of_lt (h.found x hx).2.1

end

/-! ## Following ways -/

section

variable {σ : Type} {judge : σ → Way → Verdict × σ} {G : Way → Prop}

/-- What holds of a way that is followed holds one link further, and gives what is said of the ways
that are found. -/
structure Judges (judge : σ → Way → Verdict × σ) (s : Stack) (G P : Way → Prop) : Prop where
  step : ∀ memory {w}, G w → (judge memory w).1.stop = false →
    ∀ l ∈ (s.joint w.joint).links, G (w.follow l)
  found : ∀ memory {w}, G w → (judge memory w).1.found = true → P w ∧ w.joint < s.joints.size

theorem Judges.kept (hjudge : Judges judge s G P) (origin : Nat) :
    Descent.Kept origin judge (fun d => Sliced P s d.stack d.slices) G where
  passed _ hd := hd
  found := by
    intro d w _ hd hw hfound
    obtain ⟨hw, hjoint⟩ := hjudge.found d.memory hw hfound
    exact hd.adds hw hjoint (addSlice_adds _ origin _ w)
  step := by
    intro d w hd hw hgo
    rw [hd.joint]
    exact hjudge.step d.memory hw hgo

/-- What holds at the top of a version gives what is said of the ways that are found. -/
theorem Judges.follow (hjudge : Judges judge s G P) (v : Nat) (memory : σ)
    (hstart : G { joint := (s.head v).joint }) :
    Sliced P s (s.follow v memory judge).1 (s.follow v memory judge).2.1 := by
  refine (hjudge.kept v).descend (s.joints.size + 1) (d := ⟨s, [], memory⟩) (.refl s) fun w hw => ?_
  rw [List.mem_singleton.1 hw]
  exact hstart

end

/-! ## Ways through the automaton -/

/-- The trees on the way are sound. Unless it started where errors are passed over, they lead through
the automaton. -/
structure Follows (s : Stack) (q : Nat) (w : Way) : Prop where
  joint : w.joint < s.joints.size
  sound : ∀ t ∈ w.trees, t.Sound
  route : q ≠ 0 → (s.joint w.joint).state ≠ 0 ∧ Route (s.joint w.joint).state w.trees q ∧
    w.depth = ordinary w.trees

theorem Linked.follows_top (hs : Linked s) (v : Nat) :
    Follows s (s.top v).state { joint := (s.head v).joint } :=
  ⟨(hs.head v).joint, fun _ ht => absurd ht List.not_mem_nil, fun hq => ⟨hq, .nil, rfl⟩⟩

theorem Follows.follow {q : Nat} {w : Way} (hw : Follows s q w) (hs : Linked s) {l : Link}
    (hl : l ∈ (s.joint w.joint).links) : Follows s q (w.follow l) := by
  obtain ⟨hbelow, hfits⟩ := hs.links w.joint l hl
  unfold Way.follow
  cases htree : l.tree with
  | none =>
    rw [htree] at hfits
    exact ⟨hbelow, hw.sound, fun hq => absurd hfits (hw.route hq).1⟩
  | some t =>
    rw [htree] at hfits
    obtain ⟨hsound, hleads⟩ := hfits
    refine ⟨hbelow, List.forall_mem_cons.2 ⟨hsound, hw.sound⟩, fun hq => ?_⟩
    obtain ⟨hstate, hroute, hdepth⟩ := hw.route hq
    -- an extra tree leaves the state as it is, any other leads to it from the one below
    cases hextra : t.extra with
    | true =>
      rw [hextra, if_pos rfl] at hleads
      rw [hleads] at hstate hroute
      refine ⟨hstate, .extra hextra hroute, ?_⟩
      simp [ordinary, hextra, hdepth]
    | false =>
      rw [hextra, if_neg Bool.false_ne_true] at hleads
      have hstep : Leads (s.joint l.below).state t.symbol (s.joint w.joint).state :=
        hleads.resolve_left hstate
      refine ⟨fun hzero => ?_, .step hextra hstep hroute, ?_⟩
      · dsimp only at hzero
        rw [hzero] at hstep
        exact Grammar.not_leads_zero hstep
      · simp [ordinary, hextra, hdepth]

/-- A number of trees is taken off along ways of the automaton. -/
theorem Linked.pop (hs : Linked s) (v depth : Nat) :
    Sliced (fun w => Follows s (s.top v).state w ∧ w.depth = depth) s (s.pop v depth).1
      (s.pop v depth).2 := by
  unfold Stack.pop
  refine Judges.follow (G := Follows s (s.top v).state) ⟨fun _ _ hw _ l hl => hw.follow hs hl, ?_⟩ v ()
    (hs.follows_top v)
  intro _ w hw hfound
  split at hfound
  · next hdepth => exact ⟨⟨hw, hdepth⟩, hw.joint⟩
  · cases hfound

/-- Everything is taken off along ways of the automaton. -/
theorem Linked.popAll (hs : Linked s) (v : Nat) :
    Sliced (Follows s (s.top v).state) s (s.popAll v).1 (s.popAll v).2 :=
  Judges.follow (G := Follows s (s.top v).state)
    ⟨fun _ _ hw _ _ hl => hw.follow hs hl, fun _ _ hw _ => ⟨hw, hw.joint⟩⟩ v () (hs.follows_top v)

/-- At most one tree is passed on a way, and a way is found only where that tree is an error. -/
theorem Linked.follow_error (hs : Linked s) (v : Nat) {judge : Bool → Way → Verdict × Bool}
    (hjudge : judge = fun found w =>
      match w.trees with
      | [] => ({}, found)
      | t :: _ =>
        if !found && t.isError then ({ found := true, stop := true }, true)
        else ({ stop := true }, found)) :
    Sliced (fun w => Follows s (s.top v).state w ∧ ∃ t, w.trees = [t] ∧ t.isError) s
      (s.follow v false judge).1 (s.follow v false judge).2.1 := by
  subst hjudge
  refine Judges.follow (G := fun w => Follows s (s.top v).state w ∧ w.trees.length ≤ 1)
    ⟨?_, ?_⟩ v false ⟨hs.follows_top v, Nat.zero_le 1⟩
  · rintro found w ⟨hw, -⟩ hgo l hl
    refine ⟨hw.follow hs hl, ?_⟩
    cases htrees : w.trees with
    | nil =>
      unfold Way.follow
      split <;> simp [htrees]
    | cons t rest =>
      simp only [htrees] at hgo
      split at hgo <;> cases hgo
  · rintro found w ⟨hw, hlength⟩ hfound
    cases htrees : w.trees with
    | nil =>
      simp only [htrees] at hfound
      cases hfound
    | cons t rest =>
      rw [htrees] at hlength
      have hrest : rest = [] := List.eq_nil_of_length_eq_zero (by simpa using hlength)
      simp only [htrees] at hfound
      split at hfound
      · next herror =>
        rw [Bool.and_eq_true] at herror
        exact ⟨⟨hw, t, by rw [hrest], herror.2⟩, hw.joint⟩
      · cases hfound

/-- Below an error that was taken off, the version is in the same state. -/
theorem Linked.popError (hs : Linked s) (hv : v < s.size) :
    Linked (s.popError v).1 ∧ s.size ≤ (s.popError v).1.size ∧
      ((s.top v).state ≠ 0 → ((s.popError v).1.top v).state = (s.top v).state) ∧
      ∀ e, (s.popError v).2 = some e → e.Sound := by
  unfold Stack.popError
  split
  · dsimp only
    have hsliced := hs.follow_error v rfl
    generalize s.follow v false _ = r at hsliced ⊢
    obtain ⟨s', slices, found⟩ := r
    dsimp only at hsliced ⊢
    have hlinked : Linked s' := hsliced.linked hs
    cases slices with
    | nil =>
      exact ⟨hlinked, hsliced.keeps.versions, fun _ => hsliced.keeps.top hs hv, fun e he => nomatch he⟩
    | cons x rest =>
      -- the version below the error takes the place of the one above it
      obtain ⟨hnew, hversion, -⟩ := hsliced.found x List.mem_cons_self
      obtain ⟨w, ⟨hw, t, htrees, herror⟩, hstate, hx⟩ := hsliced.top List.mem_cons_self
      have hmoved := le_size_moveTo s' x.version v
      have hsize : s.size ≤ (s'.moveTo x.version v).size := by omega
      refine ⟨hlinked.moveTo _ _, hsize, fun hq => ?_, fun e he => ?_⟩
      · rw [top_moveTo (by omega) hversion, hstate]
        obtain ⟨-, hroute, -⟩ := hw.route hq
        rw [htrees] at hroute
        exact hroute.eq_of_isError herror
      · refine hw.sound e ?_
        rw [← hx]
        exact List.mem_of_head? he
  · exact ⟨hs, Nat.le_refl _, fun _ => rfl, fun e he => nomatch he⟩

theorem Linked.summarize (hs : Linked s) (v : Nat) : Linked (s.summarize v) := by
  have hsliced : ∀ {judge : List Waypoint → Way → Verdict × List Waypoint},
      (∀ seen w, (judge seen w).1.found = false) →
        Linked (s.follow v [] judge).1 := by
    intro judge hjudge
    refine Sliced.linked (P := fun _ => False) (Judges.follow (G := fun _ => True)
      ⟨fun _ _ _ _ _ _ => trivial, fun _ _ _ hfound => ?_⟩ v [] trivial) hs
    rw [hjudge] at hfound
    cases hfound
  unfold Stack.summarize
  refine (hsliced fun seen w => ?_).modifyHead v fun _ hh => ⟨hh.joint, hh.waits⟩
  dsimp only
  split
  · rfl
  · split <;> rfl

end Stack

end ScriptDeps.Parse

import ScriptDeps.Proofs.Gather
import ScriptDeps.Syntax.Node

namespace ScriptDeps.Syntax.Node

/-! # Places in a tree

A node occurs in a tree below the nodes around it. The list of these, the nearest first, says where
it occurs, and `places` lists all places of a tree in document order. If the spans of the children
of every node lie inside it and apart from each other, then of two places

* one is below the other or their spans are apart (`nested_or_apart`), so
* a node without children is enclosed by whatever covers its span (`suffix_of_covers`).
-/

/-- Induction over a tree: what holds of a node whenever it holds of its children holds of every
node. -/
theorem induct {P : Node → Prop} (step : ∀ n, (∀ c ∈ n.children, P c) → P n) : ∀ n, P n
  | ⟨_, _, _, _, _, _, _, _⟩ => step _ fun c _ => induct step c

/-! ## Occurrences -/

/-- A node occurs in the tree of `root` below the nodes `up`, the nearest first. -/
inductive Occurs (root : Node) : List Node → Node → Prop
  | root : Occurs root [] root
  | child {up : List Node} {n c : Node} :
      Occurs root up n → c ∈ n.children → Occurs root (n :: up) c

/-- What occurs below an occurrence occurs in the whole tree. -/
theorem Occurs.trans {root n m : Node} {up ws : List Node} (hn : Occurs root up n)
    (hm : Occurs n ws m) : Occurs root (ws ++ up) m := by
  induction hm with
  | root => exact hn
  | child _ hc ih => exact ih.child hc

theorem occurs_part {n c : Node} (h : c ∈ n.parts) : Occurs n [n] c :=
  Occurs.root.child (List.mem_filter.1 h).1

theorem occurs_child {n c : Node} {role : String} (h : n.child? role = some c) : Occurs n [n] c :=
  Occurs.root.child (List.mem_of_find?_eq_some h)

/-- The outermost of the nodes around an occurrence is the root. -/
theorem Occurs.getLast? {root n : Node} {up : List Node} (h : Occurs root up n) :
    (n :: up).getLast? = some root := by
  induction h with
  | root => rfl
  | child _ _ ih => rw [List.getLast?_cons_cons, ih]

/-- The nodes around an occurrence occur, too. -/
theorem Occurs.of_suffix {root n m : Node} {up far : List Node} (h : Occurs root up n)
    (hs : m :: far <:+ n :: up) : Occurs root far m := by
  induction h with
  | root =>
    rcases List.suffix_cons_iff.1 hs with heq | hnil
    · cases heq
      exact .root
    · exact absurd (List.suffix_nil.1 hnil) (List.cons_ne_nil m far)
  | child hn hc ih =>
    rcases List.suffix_cons_iff.1 hs with heq | hup
    · cases heq
      exact hn.child hc
    · exact ih hup

/-- An occurrence below a node goes through one of its children. -/
theorem Occurs.cases_root {n m : Node} {ws : List Node} (h : Occurs n ws m) :
    (ws = [] ∧ m = n) ∨ ∃ c ∈ n.children, ∃ vs, Occurs c vs m ∧ ws = vs ++ [n] := by
  induction h with
  | root => exact Or.inl ⟨rfl, rfl⟩
  | @child up k c _ hc ih =>
    right
    rcases ih with ⟨rfl, rfl⟩ | ⟨d, hd, vs, hvs, rfl⟩
    · exact ⟨c, hc, [], .root, rfl⟩
    · exact ⟨d, hd, k :: vs, hvs.child hc, rfl⟩

theorem Occurs.mem_children {root n c : Node} {up : List Node} (h : Occurs root (n :: up) c) :
    c ∈ n.children := by
  cases h with
  | child _ hc => exact hc

/-- What occurs in a tree below a node of it occurs in the tree of that node. -/
theorem Occurs.within {root n m : Node} {near far : List Node}
    (h : Occurs root (near ++ m :: far) n) : Occurs m (near ++ [m]) n := by
  induction near generalizing n with
  | nil => exact Occurs.root.child h.mem_children
  | cons a near ih =>
    cases h with
    | child ha hn => exact (ih ha).child hn

/-- What occurs below a node occurs in the tree of one of its children. -/
theorem Occurs.exists_child {root n m : Node} {up far : List Node} (h : root.Occurs up n)
    (hs : m :: far <:+ up) : ∃ c ∈ m.children, c :: m :: far <:+ n :: up ∧ ∃ ws, c.Occurs ws n := by
  rcases hs with ⟨near, rfl⟩
  rcases h.within.cases_root with ⟨hnil, -⟩ | ⟨c, hc, ws, hws, hnear⟩
  · exact absurd hnil (List.append_ne_nil_of_right_ne_nil near (List.cons_ne_nil m []))
  · have hnear : near = ws := List.append_cancel_right hnear
    subst hnear
    have hlast : [c] <:+ n :: near := List.singleton_suffix_iff_getLast?_eq_some.2 hws.getLast?
    rcases hlast with ⟨front, hfront⟩
    refine ⟨c, hc, ⟨front, ?_⟩, near, hws⟩
    rw [← List.cons_append, ← hfront, List.append_assoc]
    rfl

/-- Below a node without children there is only the node itself. -/
theorem Occurs.eq_of_leaf {root n m : Node} {up far : List Node} (hm : Occurs root far m)
    (leaf : n.children = []) (hs : n :: up <:+ m :: far) : m :: far = n :: up := by
  obtain ⟨ws, hws⟩ := hs
  rcases List.eq_nil_or_concat ws with rfl | ⟨vs, c, rfl⟩
  · exact hws.symm
  · -- the node before `n` on the way down would be one of its children
    have hbelow : c :: n :: up <:+ m :: far := ⟨vs, by simpa using hws⟩
    have hc := (hm.of_suffix hbelow).mem_children
    rw [leaf] at hc
    exact absurd hc List.not_mem_nil

/-! ## All places in document order -/

mutual

/-- The places of a tree that stands below `up`: each with the nodes around it. -/
def places (up : List Node) : Node → List (List Node × Node)
  | ⟨kind, named, start, stop, missing, faulty, role, children⟩ =>
    let n : Node := ⟨kind, named, start, stop, missing, faulty, role, children⟩
    (up, n) :: placesAmong (n :: up) children

/-- The places of siblings. -/
def placesAmong (up : List Node) : List Node → List (List Node × Node)
  | [] => []
  | n :: rest => places up n ++ placesAmong up rest

end

theorem places_eq (up : List Node) (n : Node) :
    places up n = (up, n) :: placesAmong (n :: up) n.children := by
  cases n
  rw [places]

theorem placesAmong_eq_flatMap (up : List Node) (ns : List Node) :
    placesAmong up ns = ns.flatMap (places up) := by
  induction ns with
  | nil => rfl
  | cons n rest ih => rw [placesAmong, ih, List.flatMap_cons]

/-- The places of a tree are the occurrences in it. -/
theorem mem_places {up vs : List Node} {n m : Node} :
    (vs, m) ∈ places up n ↔ ∃ ws, Occurs n ws m ∧ vs = ws ++ up := by
  induction n using induct generalizing up with
  | step n ih =>
    rw [places_eq, placesAmong_eq_flatMap, List.mem_cons, List.mem_flatMap]
    constructor
    · rintro (heq | ⟨c, hc, hmem⟩)
      · cases heq
        exact ⟨[], .root, rfl⟩
      · obtain ⟨ws, hws, rfl⟩ := (ih c hc).1 hmem
        exact ⟨ws ++ [n], (Occurs.root.child hc).trans hws, by simp⟩
    · rintro ⟨ws, hws, rfl⟩
      rcases hws.cases_root with ⟨rfl, rfl⟩ | ⟨c, hc, us, hus, rfl⟩
      · exact Or.inl rfl
      · exact Or.inr ⟨c, hc, (ih c hc).2 ⟨us, hus, by simp⟩⟩

/-- The places of a whole tree. -/
theorem mem_places_root {root m : Node} {vs : List Node} :
    (vs, m) ∈ places [] root ↔ Occurs root vs m := by
  simp [mem_places]

/-- What holds at all places of a tree holds of all occurrences in it. -/
theorem forall_places {root : Node} {P : List Node → Node → Prop} :
    (∀ p ∈ places [] root, P p.1 p.2) ↔ ∀ up n, Occurs root up n → P up n := by
  constructor
  · intro h up n hn
    exact h (up, n) (mem_places_root.2 hn)
  · rintro h ⟨up, n⟩ hp
    exact h up n (mem_places_root.1 hp)

instance decidableForallOccurs {root : Node} {P : List Node → Node → Prop}
    [∀ up n, Decidable (P up n)] : Decidable (∀ up n, Occurs root up n → P up n) :=
  decidable_of_iff _ forall_places

/-- What holds at some place of a tree holds of some occurrence in it. -/
theorem exists_places {root : Node} {P : List Node → Node → Prop} :
    (∃ p ∈ places [] root, P p.1 p.2) ↔ ∃ up n, Occurs root up n ∧ P up n := by
  constructor
  · rintro ⟨⟨up, n⟩, hp, h⟩
    exact ⟨up, n, mem_places_root.1 hp, h⟩
  · rintro ⟨up, n, hn, h⟩
    exact ⟨(up, n), mem_places_root.2 hn, h⟩

instance decidableExistsOccurs {root : Node} {P : List Node → Node → Prop}
    [∀ up n, Decidable (P up n)] : Decidable (∃ up n, Occurs root up n ∧ P up n) :=
  decidable_of_iff _ exists_places

/-- A walk that puts the results of a node before those of its children gathers the results of all
places in document order. -/
theorem walk_eq_gather {ε α : Type} (walk own : List Node → Node → Except ε (List α))
    (hwalk : ∀ up n, walk up n = (do
      let first ← own up n
      let others ← gather (walk (n :: up)) n.children
      return first ++ others))
    (up : List Node) (n : Node) :
    walk up n = gather (fun p => own p.1 p.2) (places up n) := by
  induction n using induct generalizing up with
  | step n ih =>
    rw [hwalk, places_eq, gather, placesAmong_eq_flatMap, gather_flatMap]
    rw [gather_congr fun c hc => ih c hc (n :: up)]

/-! ## Nested spans -/

/-- The children of a node lie inside it, in order and apart from each other. -/
structure Nested (n : Node) : Prop where
  forward : n.start ≤ n.stop
  inside : ∀ c ∈ n.children, n.start ≤ c.start ∧ c.stop ≤ n.stop
  apart : n.children.Pairwise fun a b => a.stop ≤ b.start

theorem nested_iff {n : Node} :
    (n.start ≤ n.stop ∧ (∀ c ∈ n.children, n.start ≤ c.start ∧ c.stop ≤ n.stop) ∧
      n.children.Pairwise fun a b => a.stop ≤ b.start) ↔ Nested n := by
  constructor
  · rintro ⟨hforward, hinside, hapart⟩
    exact ⟨hforward, hinside, hapart⟩
  · intro h
    exact ⟨h.forward, h.inside, h.apart⟩

instance (n : Node) : Decidable (Nested n) := decidable_of_iff _ nested_iff

/-- The spans in a tree are nested. -/
def SpansNest (root : Node) : Prop := ∀ up n, Occurs root up n → Nested n

instance (root : Node) : Decidable (SpansNest root) := by
  unfold SpansNest
  infer_instance

theorem SpansNest.child {n c : Node} (h : SpansNest n) (hc : c ∈ n.children) : SpansNest c := by
  intro up m hm
  exact h _ _ ((Occurs.root.child hc).trans hm)

theorem SpansNest.below {root m : Node} {far : List Node} (h : SpansNest root)
    (hm : Occurs root far m) : SpansNest m := by
  intro up n hn
  exact h _ _ (hm.trans hn)

/-- A child is the last one or ends before that starts. -/
theorem Nested.eq_last_or_before {n c last : Node} (h : Nested n) (hc : c ∈ n.children)
    (hlast : n.children.getLast? = some last) : c = last ∨ c.stop ≤ last.start := by
  obtain ⟨front, hfront⟩ := List.getLast?_eq_some_iff.1 hlast
  have hapart := h.apart
  rw [hfront] at hc hapart
  rcases List.mem_append.1 hc with hc | hc
  · exact Or.inr ((List.pairwise_append.1 hapart).2.2 c hc last List.mem_cons_self)
  · exact Or.inl (List.mem_singleton.1 hc)

/-- What occurs in a tree lies inside its root. -/
theorem SpansNest.inside {n m : Node} {ws : List Node} (h : SpansNest n) (hm : Occurs n ws m) :
    n.start ≤ m.start ∧ m.stop ≤ n.stop := by
  induction hm with
  | root => exact ⟨Nat.le_refl _, Nat.le_refl _⟩
  | child hk hc ih =>
    have hin := (h _ _ hk).inside _ hc
    omega

/-- The nodes around an occurrence cover it. -/
theorem SpansNest.covers {root n m : Node} {up far : List Node} (h : SpansNest root)
    (hn : Occurs root up n) (hs : m :: far <:+ n :: up) : m.start ≤ n.start ∧ n.stop ≤ m.stop := by
  induction hn with
  | root =>
    rcases List.suffix_cons_iff.1 hs with heq | hnil
    · cases heq
      exact ⟨Nat.le_refl _, Nat.le_refl _⟩
    · exact absurd (List.suffix_nil.1 hnil) (List.cons_ne_nil m far)
  | child hk hc ih =>
    rcases List.suffix_cons_iff.1 hs with heq | hup
    · cases heq
      exact ⟨Nat.le_refl _, Nat.le_refl _⟩
    · have hin := (h _ _ hk).inside _ hc
      have hout := ih hup
      omega

/-- Of two places in document order, the first encloses the second or ends before it starts. -/
theorem places_in_order {up : List Node} {n : Node} (h : SpansNest n) :
    (places up n).Pairwise fun p q => p.2 :: p.1 <:+ q.1 ∨ p.2.stop ≤ q.2.start := by
  induction n using induct generalizing up with
  | step n ih =>
    rw [places_eq, placesAmong_eq_flatMap, List.pairwise_cons]
    constructor
    · rintro ⟨vs, m⟩ hq
      obtain ⟨c, hc, hq⟩ := List.mem_flatMap.1 hq
      obtain ⟨ws, -, rfl⟩ := mem_places.1 hq
      exact Or.inl (List.suffix_append ws (n :: up))
    · refine List.pairwise_flatMap.2 ⟨fun c hc => ih c hc (h.child hc), ?_⟩
      refine ((h _ _ .root).apart.imp_of_mem ?_)
      intro a b ha hb hab
      rintro ⟨vs, m⟩ hm ⟨us, k⟩ hk
      obtain ⟨ws, hm, -⟩ := mem_places.1 hm
      obtain ⟨xs, hk, -⟩ := mem_places.1 hk
      have hma := (h.child ha).inside hm
      have hkb := (h.child hb).inside hk
      have hle : m.stop ≤ k.start := by omega
      exact Or.inr hle

/-- Of two places, one is at or below the other, or their spans are apart. -/
def NestedOrApart (p q : List Node × Node) : Prop :=
  (p.2 :: p.1 <:+ q.2 :: q.1 ∨ q.2 :: q.1 <:+ p.2 :: p.1) ∨
    p.2.stop ≤ q.2.start ∨ q.2.stop ≤ p.2.start

theorem NestedOrApart.symm {p q : List Node × Node} (h : NestedOrApart p q) :
    NestedOrApart q p := by
  rcases h with hs | ha
  · exact Or.inl hs.symm
  · exact Or.inr ha.symm

/-- Any two places of a tree are nested or apart. -/
theorem nested_or_apart {root n m : Node} {up far : List Node} (h : SpansNest root)
    (hn : Occurs root up n) (hm : Occurs root far m) : NestedOrApart (up, n) (far, m) := by
  have hself : ∀ p ∈ places [] root, NestedOrApart p p := by
    intro p _
    exact Or.inl (Or.inl List.suffix_rfl)
  have hall : (places [] root).Pairwise NestedOrApart := by
    refine (places_in_order h).imp ?_
    rintro p q (hs | hle)
    · exact Or.inl (Or.inl (hs.trans (List.suffix_cons _ _)))
    · exact Or.inr (Or.inl hle)
  have hflip : (places [] root).Pairwise (flip NestedOrApart) := hall.imp NestedOrApart.symm
  exact hall.forall_of_forall_of_flip hself hflip (mem_places_root.2 hn) (mem_places_root.2 hm)

/-- A node without children is enclosed by every other node that covers its span, unless the span is
empty. -/
theorem suffix_of_covers {root n m : Node} {up far : List Node} (h : SpansNest root)
    (hn : Occurs root up n) (leaf : n.children = []) (nonempty : n.start < n.stop)
    (hm : Occurs root far m) (covers : m.start ≤ n.start ∧ n.stop ≤ m.stop) :
    m :: far <:+ n :: up := by
  rcases nested_or_apart h hn hm with (hs | hs) | hapart
  · have heq : m :: far = n :: up := hm.eq_of_leaf leaf hs
    exact heq ▸ List.suffix_rfl
  · exact hs
  · have hle : n.stop ≤ m.start ∨ m.stop ≤ n.start := hapart
    omega

end ScriptDeps.Syntax.Node

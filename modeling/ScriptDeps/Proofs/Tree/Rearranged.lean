import ScriptDeps.Proofs.Tree.Place

namespace ScriptDeps.Syntax

/-! # Trees with statements in another order

Two trees that differ in the order of their statements have the same nodes at other bounds, so that
no node of the one is a node of the other. What is the same is given by labels: a labelled tree says
for each label which node has it and which labels the children have. Main statements:

* `exists_stands`: every occurrence in a labelled tree has its label;
* `Stands.eq_of_same_place`: no two labels stand at the same place of a tree with nested spans;
* `Rearranges.child?` and `Rearranges.stands`: what the order of statements leaves alone.
-/

/-- A tree whose nodes have labels. -/
structure Labelled (T : Type) where
  /-- The node with the label. -/
  node : T → Node
  /-- The labels of the children, in order. -/
  below : T → List T
  children : ∀ t, (node t).children = (below t).map node

namespace Labelled

variable {T : Type}

/-- The label of the first child that plays the role. -/
def child? (a : Labelled T) (t : T) (role : String) : Option T :=
  (a.below t).find? fun u => (a.node u).role == some role

/-- A label stands in the tree of `root` below the labels `up`, the nearest first. -/
inductive Stands (a : Labelled T) (root : T) : List T → T → Prop
  | root : Stands a root [] root
  | child {up : List T} {t u : T} :
      Stands a root up t → u ∈ a.below t → Stands a root (t :: up) u

variable {a b : Labelled T}

theorem node_child? (t : T) (role : String) :
    (a.node t).child? role = (a.child? t role).map a.node := by
  rw [Node.child?, a.children, List.find?_map]
  rfl

theorem mem_parts {t : T} {n : Node} :
    n ∈ (a.node t).parts ↔ ∃ u ∈ a.below t, (a.node u).isPart = true ∧ a.node u = n := by
  rw [Node.parts, a.children, List.mem_filter, List.mem_map]
  constructor
  · rintro ⟨⟨u, hu, rfl⟩, hpart⟩
    exact ⟨u, hu, hpart, rfl⟩
  · rintro ⟨u, hu, hpart, rfl⟩
    exact ⟨⟨u, hu, rfl⟩, hpart⟩

/-! ## Where labels stand -/

theorem mem_below_of_child? {t u : T} {role : String} (h : a.child? t role = some u) :
    u ∈ a.below t :=
  List.mem_of_find?_eq_some h

theorem stands_below {t u : T} (h : u ∈ a.below t) : a.Stands t [t] u := Stands.root.child h

theorem Stands.trans {root t u : T} {up ws : List T} (ht : a.Stands root up t)
    (hu : a.Stands t ws u) : a.Stands root (ws ++ up) u := by
  induction hu with
  | root => exact ht
  | child _ hc ih => exact ih.child hc

/-- The labels around a label stand in the tree, too. -/
theorem Stands.of_suffix {root t u : T} {up far : List T} (h : a.Stands root up t)
    (hs : u :: far <:+ t :: up) : a.Stands root far u := by
  induction h with
  | root =>
    rcases List.suffix_cons_iff.1 hs with heq | hnil
    · cases heq
      exact .root
    · exact absurd (List.suffix_nil.1 hnil) (List.cons_ne_nil u far)
  | child ht hc ih =>
    rcases List.suffix_cons_iff.1 hs with heq | hup
    · cases heq
      exact ht.child hc
    · exact ih hup

/-- Where a label stands, its node occurs. -/
theorem Stands.occurs {root t : T} {up : List T} (h : a.Stands root up t) :
    (a.node root).Occurs (up.map a.node) (a.node t) := by
  induction h with
  | root => exact .root
  | @child up t u _ hu ih =>
    refine ih.child ?_
    rw [a.children]
    exact List.mem_map_of_mem hu

/-- Where a node occurs, there stands a label of it. -/
theorem exists_stands {root : T} {up : List Node} {n : Node} (h : (a.node root).Occurs up n) :
    ∃ far t, a.Stands root far t ∧ far.map a.node = up ∧ a.node t = n := by
  induction h with
  | root => exact ⟨[], root, .root, rfl, rfl⟩
  | child _ hc ih =>
    rcases ih with ⟨far, t, ht, rfl, rfl⟩
    rw [a.children] at hc
    rcases List.mem_map.1 hc with ⟨u, hu, rfl⟩
    exact ⟨t :: far, u, ht.child hu, rfl, rfl⟩

/-- Siblings with the same node have the same label if the node has a width, since siblings are
apart. -/
theorem eq_of_same_node {p t u : T} (hnested : (a.node p).Nested) (ht : t ∈ a.below p)
    (hu : u ∈ a.below p) (hsame : a.node t = a.node u)
    (hwide : (a.node t).start < (a.node t).stop) : t = u := by
  have hapart := hnested.apart
  rw [a.children, List.pairwise_map] at hapart
  -- of two different siblings one ends before the other starts, which a node with a width does not
  let Same (x y : T) : Prop := a.node x = a.node y → (a.node x).start < (a.node x).stop → x = y
  have hforward : (a.below p).Pairwise Same := by
    refine hapart.imp fun {x y} hle heq hx => ?_
    rw [← heq] at hle
    omega
  have hbackward : (a.below p).Pairwise (flip Same) := by
    refine hapart.imp fun {x y} hle heq hy => ?_
    rw [heq] at hy
    rw [heq] at hle
    omega
  exact hforward.forall_of_forall_of_flip (fun _ _ _ _ => rfl) hbackward ht hu hsame hwide

theorem Stands.cases_cons {root p t : T} {up : List T} (h : a.Stands root (p :: up) t) :
    a.Stands root up p ∧ t ∈ a.below p := by
  cases h with
  | child hp ht => exact ⟨hp, ht⟩

theorem Stands.eq_root {root t : T} (h : a.Stands root [] t) : t = root := by
  cases h
  rfl

/-- A node that has a width stands at one place only. -/
theorem Stands.eq_of_same_place {root t u : T} {up far : List T} (hnest : (a.node root).SpansNest)
    (ht : a.Stands root up t) (hu : a.Stands root far u)
    (hwide : (a.node t).start < (a.node t).stop) (hsame : a.node t = a.node u)
    (haround : up.map a.node = far.map a.node) : t :: up = u :: far := by
  induction up generalizing t u far with
  | nil =>
    have hfar : far = [] := by simpa using haround.symm
    subst hfar
    rw [ht.eq_root, hu.eq_root]
  | cons p up ih =>
    rcases List.map_eq_cons_iff.1 haround.symm with ⟨q, far, rfl, hparent, haround⟩
    rcases ht.cases_cons with ⟨hp, hmemt⟩
    rcases hu.cases_cons with ⟨hq, hmemu⟩
    have hmem : a.node t ∈ (a.node p).children := by
      rw [a.children]
      exact List.mem_map_of_mem hmemt
    have hnested := hnest _ _ hp.occurs
    have hinside := hnested.inside _ hmem
    -- the parents have the same node around one with a width, so they are the same
    have hsameParent : p :: up = q :: far := ih hp hq (by omega) hparent.symm haround.symm
    cases hsameParent
    rw [eq_of_same_node hnested hmemt hmemu hsame hwide]

/-! ## Another order of the statements -/

/-- The node holds statements. -/
def HoldsStatements (n : Node) : Prop := n.kind = "program" ∨ n.kind = "statement_block"

/-- The trees are the same but for the bounds of the nodes and the order of the statements in
programs and blocks. -/
structure Rearranges (a b : Labelled T) : Prop where
  kind : ∀ t, (b.node t).kind = (a.node t).kind
  named : ∀ t, (b.node t).named = (a.node t).named
  role : ∀ t, (b.node t).role = (a.node t).role
  order : ∀ t, b.below t = a.below t ∨
    HoldsStatements (a.node t) ∧ (b.below t).Perm (a.below t) ∧
      ∀ role, b.child? t role = a.child? t role

/-- A node of the kind and nothing else. -/
def ofKind (k : String) : Node := { kind := k, named := false, start := 0, stop := 0 }

/-- What depends on the kind of a node alone holds of both nodes of a label. -/
theorem Rearranges.kind_iff (h : Rearranges a b) (P : Node → Prop)
    (hP : ∀ n, P n ↔ P (ofKind n.kind)) (t : T) : P (b.node t) ↔ P (a.node t) := by
  rw [hP (b.node t), hP (a.node t), h.kind]

theorem Rearranges.symm (h : Rearranges a b) : Rearranges b a where
  kind t := (h.kind t).symm
  named t := (h.named t).symm
  role t := (h.role t).symm
  order t := by
    rcases h.order t with heq | ⟨hholds, hperm, hchild⟩
    · exact Or.inl heq.symm
    · have hholds' := (h.kind_iff HoldsStatements (fun _ => Iff.rfl) t).2 hholds
      exact Or.inr ⟨hholds', hperm.symm, fun role => (hchild role).symm⟩

theorem Rearranges.mem_below (h : Rearranges a b) {t u : T} :
    u ∈ b.below t ↔ u ∈ a.below t := by
  rcases h.order t with heq | ⟨-, hperm, -⟩
  · rw [heq]
  · exact hperm.mem_iff

theorem Rearranges.isPart (h : Rearranges a b) (t : T) :
    (b.node t).isPart = (a.node t).isPart := by
  rw [Node.isPart, Node.isPart, h.kind, h.named]

/-- The same child plays a role. -/
theorem Rearranges.child? (h : Rearranges a b) (t : T) (role : String) :
    b.child? t role = a.child? t role := by
  rcases h.order t with heq | ⟨-, -, hchild⟩
  · have hrole : (fun u => (b.node u).role == some role) =
        fun u => (a.node u).role == some role :=
      funext fun u => by rw [h.role]
    rw [Labelled.child?, Labelled.child?, heq, hrole]
  · exact hchild role

/-- Every label keeps its place among the labels around it. -/
theorem Rearranges.stands (h : Rearranges a b) {root t : T} {up : List T}
    (ht : a.Stands root up t) : b.Stands root up t := by
  induction ht with
  | root => exact .root
  | child _ hu ih => exact ih.child (h.mem_below.2 hu)

/-! ## Relations that a rearrangement carries over -/

/-- What a node of the one tree is related to is the node of a label below it, and the node of the
other tree is related to the other node of that label. -/
def Carries (a b : Labelled T) (R : Node → Node → Prop) : Prop :=
  ∀ t n, R (a.node t) n → ∃ ws u, a.Stands t ws u ∧ a.node u = n ∧ R (b.node t) (b.node u)

theorem Rearranges.carries_child (h : Rearranges a b) (role : String) :
    Carries a b fun n c => n.child? role = some c := by
  intro t n hn
  rw [node_child?, Option.map_eq_some_iff] at hn
  rcases hn with ⟨u, hu, rfl⟩
  refine ⟨[t], u, stands_below (mem_below_of_child? hu), rfl, ?_⟩
  show (b.node t).child? role = some (b.node u)
  rw [node_child?, h.child?, hu]
  rfl

theorem Rearranges.carries_part (h : Rearranges a b) : Carries a b fun n c => c ∈ n.parts := by
  intro t n hn
  rcases mem_parts.1 hn with ⟨u, hu, hpart, rfl⟩
  refine ⟨[t], u, stands_below hu, rfl, mem_parts.2 ⟨u, h.mem_below.2 hu, ?_, rfl⟩⟩
  rw [h.isPart]
  exact hpart

theorem Carries.comp {R S : Node → Node → Prop} (hR : Carries a b R) (hS : Carries a b S) :
    Carries a b fun n m => ∃ c, R n c ∧ S c m := by
  rintro t n ⟨c, hc, hn⟩
  rcases hR t c hc with ⟨ws, u, hu, rfl, hR'⟩
  rcases hS u n hn with ⟨vs, v, hv, rfl, hS'⟩
  exact ⟨_, v, hu.trans hv, rfl, _, hR', hS'⟩

theorem Carries.or {R S : Node → Node → Prop} (hR : Carries a b R) (hS : Carries a b S) :
    Carries a b fun n m => R n m ∨ S n m := by
  intro t n hn
  rcases hn with hn | hn
  · rcases hR t n hn with ⟨ws, u, hu, hnode, hR'⟩
    exact ⟨ws, u, hu, hnode, Or.inl hR'⟩
  · rcases hS t n hn with ⟨ws, u, hu, hnode, hS'⟩
    exact ⟨ws, u, hu, hnode, Or.inr hS'⟩

/-- A property of the node may be added that both nodes of a label have. -/
theorem Carries.and {R : Node → Node → Prop} (hR : Carries a b R) (P : Node → Prop)
    (hP : ∀ t, P (a.node t) → P (b.node t)) :
    Carries a b fun n m => P n ∧ R n m := by
  rintro t n ⟨hp, hn⟩
  rcases hR t n hn with ⟨ws, u, hu, hnode, hR'⟩
  exact ⟨ws, u, hu, hnode, hP t hp, hR'⟩

/-- A property of the other node may be added, too. -/
theorem Carries.and_right {R : Node → Node → Prop} (hR : Carries a b R) (P : Node → Prop)
    (hP : ∀ t, P (a.node t) → P (b.node t)) :
    Carries a b fun n m => R n m ∧ P m := by
  rintro t n ⟨hn, hp⟩
  rcases hR t n hn with ⟨ws, u, hu, rfl, hR'⟩
  exact ⟨ws, u, hu, rfl, hR', hP u hp⟩

/-- What is related to a part of that kind. -/
theorem Rearranges.carries_part_of_kind (h : Rearranges a b) (k : String) {R : Node → Node → Prop}
    (hR : Carries a b R) : Carries a b fun n m => ∃ c ∈ n.parts, c.kind = k ∧ R c m :=
  h.carries_part.comp (hR.and (·.kind = k) fun t hkind => (h.kind t).trans hkind)

end Labelled

end ScriptDeps.Syntax

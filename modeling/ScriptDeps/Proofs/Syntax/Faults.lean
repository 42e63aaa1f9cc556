import Mathlib.Data.List.Flatten
import ScriptDeps.Proofs.Tree.Place
import ScriptDeps.Syntax.Error

namespace ScriptDeps.Syntax

/-! # The first node in error

A search for the first node in error passes over the children that are not marked. If a node is
marked exactly when it is in error or a node below it is, nothing is lost by that: the search finds
what a search of the whole tree in document order finds. Main statements:

* `firstFault?_eq_find?`: the marked parts of a tree are enough to find the first node in error;
* `searchPending_eq`: the same node is found by a search that keeps the trees that are left;
* `reports_first`: which error a tree has.
-/

namespace Node

/-- The nodes of a tree in document order. -/
def nodes (n : Node) : List Node := (places [] n).map (·.2)

/-- What stands around a tree does not matter to its nodes. -/
theorem map_places (up : List Node) (n : Node) : (places up n).map (·.2) = n.nodes := by
  have hbelow : ∀ up : List Node,
      (places up n).map (·.2) = n :: n.children.flatMap nodes := by
    induction n using induct with
    | step n ih =>
      intro up
      rw [places_eq, placesAmong_eq_flatMap, List.map_cons, List.map_flatMap]
      congr 1
      refine List.flatMap_congr fun c hc => ?_
      rw [ih c hc, nodes, ih c hc]
  rw [nodes, hbelow up, hbelow []]

/-- A tree has its root and then the nodes of its children. -/
theorem nodes_eq (n : Node) : n.nodes = n :: n.children.flatMap nodes := by
  rw [nodes, places_eq, placesAmong_eq_flatMap, List.map_cons, List.map_flatMap]
  simp only [map_places]

theorem mem_nodes {n m : Node} : m ∈ n.nodes ↔ ∃ ws, n.Occurs ws m := by
  simp only [nodes, List.mem_map, Prod.exists, mem_places_root, exists_eq_right]

/-! ## Marks -/

/-- There is a node in error in the tree. -/
def HasFault (n : Node) : Prop := ∃ ws m, n.Occurs ws m ∧ m.isFault = true

/-- The nodes that are in error, or have one below them, are marked, and no others. -/
def IsMarked (root : Node) : Prop :=
  ∀ up n, root.Occurs up n → (n.faulty = true ↔ n.HasFault)

instance (n : Node) : Decidable n.HasFault := by
  unfold HasFault
  infer_instance

instance (root : Node) : Decidable root.IsMarked := by
  unfold IsMarked
  infer_instance

theorem IsMarked.child {n c : Node} (h : n.IsMarked) (hc : c ∈ n.children) : c.IsMarked := by
  intro up m hm
  exact h _ m ((Occurs.root.child hc).trans hm)

theorem IsMarked.root {n : Node} (h : n.IsMarked) : n.faulty = true ↔ n.HasFault :=
  h [] n .root

/-- The search looks at the node if it comes to it as a child. -/
def isSearched (n : Node) : Bool := n.faulty || n.missing

/-- The children that the search looks at. -/
def searchedChildren (n : Node) : List Node := n.children.filter isSearched

/-- In what is passed over there is no node in error. -/
theorem IsMarked.not_isSearched {n : Node} (h : n.IsMarked) (hn : n.isSearched = false) :
    ∀ m ∈ n.nodes, ¬ m.isFault = true := by
  intro m hm hfault
  obtain ⟨ws, hws⟩ := mem_nodes.1 hm
  have hmarked : n.faulty = true := h.root.2 ⟨ws, m, hws, hfault⟩
  rw [isSearched, hmarked] at hn
  cases hn

/-! ## The search -/

theorem firstFaultAmong?_eq (ns : List Node) :
    firstFaultAmong? ns = (ns.filter isSearched).findSome? firstFault? := by
  induction ns with
  | nil => rfl
  | cons n rest ih =>
    have hsearched : (n.faulty || n.missing) = n.isSearched := rfl
    rw [firstFaultAmong?, ih, hsearched, List.filter_cons]
    cases n.isSearched with
    | true =>
      rw [if_pos rfl, if_pos rfl, List.findSome?_cons]
      cases n.firstFault? <;> rfl
    | false => rfl

theorem firstFault?_eq (n : Node) :
    n.firstFault? = if n.isFault then some n else n.searchedChildren.findSome? firstFault? := by
  rw [searchedChildren, ← firstFaultAmong?_eq]
  cases n
  rw [firstFault?]

/-- Where no node in error is passed over, the children that are looked at are enough. -/
theorem findSome?_searched {cs : List Node} (hmarked : ∀ c ∈ cs, c.IsMarked)
    (hfound : ∀ c ∈ cs, c.firstFault? = c.nodes.find? isFault) :
    (cs.filter isSearched).findSome? firstFault? = cs.findSome? fun c => c.nodes.find? isFault := by
  induction cs with
  | nil => rfl
  | cons c cs ih =>
    have hrest := ih (fun d hd => hmarked d (List.mem_cons_of_mem c hd))
      (fun d hd => hfound d (List.mem_cons_of_mem c hd))
    rw [List.filter_cons, List.findSome?_cons, ← hrest]
    cases hsearched : c.isSearched with
    | true => rw [if_pos rfl, List.findSome?_cons, hfound c List.mem_cons_self]
    | false =>
      -- nothing would have been found in a child that is passed over
      have hnone : c.nodes.find? isFault = none :=
        List.find?_eq_none.2 ((hmarked c List.mem_cons_self).not_isSearched hsearched)
      rw [if_neg (by decide), hnone]

/-- Passing over what is not marked, the search finds the first node in error of the whole tree. -/
theorem firstFault?_eq_find? {n : Node} (h : n.IsMarked) :
    n.firstFault? = n.nodes.find? isFault := by
  -- by induction on the tree, since the marks of a tree are those of its children, too
  induction n using induct with
  | step n ih =>
    rw [firstFault?_eq, nodes_eq, List.find?_cons]
    cases n.isFault with
    | true => rfl
    | false =>
      have hmarked : ∀ c ∈ n.children, c.IsMarked := fun c hc => h.child hc
      have hfound : ∀ c ∈ n.children, c.firstFault? = c.nodes.find? isFault :=
        fun c hc => ih c hc (h.child hc)
      rw [List.find?_flatMap, ← findSome?_searched hmarked hfound]
      rfl

/-! ## The search with a list of trees -/

/-- The number of nodes of trees. -/
def countAll (ns : List Node) : Nat := (ns.flatMap nodes).length

theorem countAll_append (ns ms : List Node) : countAll (ns ++ ms) = countAll ns + countAll ms := by
  rw [countAll, List.flatMap_append, List.length_append, countAll, countAll]

theorem countAll_searchedChildren_le (n : Node) :
    countAll n.searchedChildren ≤ countAll n.children :=
  (List.filter_sublist.flatMap nodes).length_le

theorem countAll_cons (n : Node) (ns : List Node) :
    countAll (n :: ns) = countAll n.children + countAll ns + 1 := by
  rw [countAll, List.flatMap_cons, List.length_append, nodes_eq, List.length_cons, countAll,
    countAll]
  omega

/-- The first node in error among the trees that are left to be searched. The marked children of a
node are searched before the trees behind it. -/
def searchPending : List Node → Option Node
  | [] => none
  | n :: pending =>
    if n.isFault then some n else searchPending (n.searchedChildren ++ pending)
termination_by ns => countAll ns
decreasing_by
  have hchildren := countAll_searchedChildren_le n
  rw [countAll_append, countAll_cons]
  omega

/-- Both searches find the same node, whatever is marked. -/
theorem searchPending_eq (ns : List Node) : searchPending ns = ns.findSome? firstFault? := by
  -- the children that are put before the trees that are left are those that recursion tries first
  induction ns using searchPending.induct with
  | case1 => rw [searchPending, List.findSome?_nil]
  | case2 n pending hfault =>
    rw [searchPending, if_pos hfault, List.findSome?_cons, firstFault?_eq, if_pos hfault]
  | case3 n pending hfault ih =>
    rw [searchPending, if_neg hfault, ih, List.findSome?_append, List.findSome?_cons,
      firstFault?_eq n, if_neg hfault]
    cases n.searchedChildren.findSome? firstFault? <;> rfl

end Node

/-! ## The error of a tree -/

/-- The node is the first one in error: in document order, no node before it is in error. -/
def IsFirstFault (root n : Node) : Prop :=
  ∃ before behind, root.nodes = before ++ n :: behind ∧ (∀ m ∈ before, m.isFault = false) ∧
    n.isFault = true

theorem find?_eq_some_iff {root n : Node} :
    root.nodes.find? Node.isFault = some n ↔ IsFirstFault root n := by
  rw [List.find?_eq_some_iff_append]
  constructor
  · rintro ⟨hfault, before, behind, hnodes, hbefore⟩
    refine ⟨before, behind, hnodes, fun m hm => ?_, hfault⟩
    rw [← Bool.not_eq_true']
    exact hbefore m hm
  · rintro ⟨before, behind, hnodes, hbefore, hfault⟩
    refine ⟨hfault, before, behind, hnodes, fun m hm => ?_⟩
    rw [Bool.not_eq_true']
    exact hbefore m hm

/-- A tree with a node in error has a first one. -/
theorem exists_isFirstFault {root : Node} (h : root.HasFault) : ∃ n, IsFirstFault root n := by
  cases hfind : root.nodes.find? Node.isFault with
  | some n => exact ⟨n, find?_eq_some_iff.1 hfind⟩
  | none =>
    obtain ⟨ws, m, hm, hfault⟩ := h
    exact absurd hfault (List.find?_eq_none.1 hfind m (Node.mem_nodes.2 ⟨ws, hm⟩))

theorem error?_eq {source : ByteArray} {root : Node} (h : root.IsMarked) :
    error? source root = (root.nodes.find? Node.isFault).map (errorAt source) := by
  rw [error?, Node.firstFault?_eq_find? h]
  cases hfaulty : root.faulty with
  | true =>
    obtain ⟨n, hn⟩ := exists_isFirstFault (h.root.1 hfaulty)
    rw [find?_eq_some_iff.2 hn]
    rfl
  | false =>
    -- a root that is not marked is not searched at all
    have hnone : root.nodes.find? Node.isFault = none := by
      refine List.find?_eq_none.2 fun m hm hfault => ?_
      obtain ⟨ws, hws⟩ := Node.mem_nodes.1 hm
      rw [h.root.2 ⟨ws, m, hws, hfault⟩] at hfaulty
      cases hfaulty
    rw [hnone]
    rfl

/-- How a tree with these marks is reported on. -/
structure ReportsFirst (source : ByteArray) (root : Node) : Prop where
  /-- There is an error exactly if a node is in error. -/
  fails_iff : (∃ e, error? source root = some e) ↔ root.HasFault
  /-- The error is that of the first node in error, and its offset is where the node starts. -/
  error_iff : ∀ e, error? source root = some e ↔
    ∃ n, IsFirstFault root n ∧ e = errorAt source n ∧ e.offset = n.start
  /-- A search that keeps the trees that are left finds this node, too. -/
  found_iff : ∀ n, Node.searchPending [root] = some n ↔ IsFirstFault root n

/-- If exactly the nodes are marked that are in error or have one below them, the error of a tree is
that of its first node in error. -/
theorem reports_first (source : ByteArray) {root : Node} (h : root.IsMarked) :
    ReportsFirst source root where
  fails_iff := by
    constructor
    · rintro ⟨e, he⟩
      rw [error?_eq h, Option.map_eq_some_iff] at he
      obtain ⟨n, hn, -⟩ := he
      obtain ⟨ws, hws⟩ := Node.mem_nodes.1 (List.mem_of_find?_eq_some hn)
      exact ⟨ws, n, hws, List.find?_some hn⟩
    · intro hfault
      obtain ⟨n, hn⟩ := exists_isFirstFault hfault
      exact ⟨errorAt source n, by rw [error?_eq h, find?_eq_some_iff.2 hn, Option.map_some]⟩
  error_iff := by
    intro e
    rw [error?_eq h, Option.map_eq_some_iff]
    constructor
    · rintro ⟨n, hn, rfl⟩
      exact ⟨n, find?_eq_some_iff.1 hn, rfl, rfl⟩
    · rintro ⟨n, hn, rfl, -⟩
      exact ⟨n, find?_eq_some_iff.2 hn, rfl⟩
  found_iff := by
    intro n
    rw [Node.searchPending_eq, List.findSome?_cons, List.findSome?_nil,
      Node.firstFault?_eq_find? h, ← find?_eq_some_iff]
    cases root.nodes.find? Node.isFault <;> exact Iff.rfl

/-- A call that is not closed, and behind it what is no script. -/
def unclosedCall : ByteArray := ⟨#[0x66, 0x28, 0x61, 0x3B, 0x29, 0x40, 0x29]⟩

/-- The closing parenthesis is missing, and there is an error within an error. -/
def unclosedCallTree : Node where
  kind := "program"
  named := true
  start := 0
  stop := 7
  faulty := true
  children :=
    [{ kind := "expression_statement", named := true, start := 0, stop := 4, faulty := true,
       children :=
         [{ kind := "call_expression", named := true, start := 0, stop := 3, faulty := true,
            children :=
              [{ kind := "identifier", named := true, start := 0, stop := 1 },
               { kind := "arguments", named := true, start := 1, stop := 3, faulty := true,
                 children :=
                   [{ kind := "(", named := false, start := 1, stop := 2 },
                    { kind := "identifier", named := true, start := 2, stop := 3 },
                    { kind := ")", named := false, start := 3, stop := 3, missing := true,
                      faulty := true }] }] },
          { kind := ";", named := false, start := 3, stop := 4 }] },
     { kind := "ERROR", named := true, start := 4, stop := 7, faulty := true,
       children :=
         [{ kind := ")", named := false, start := 4, stop := 5 },
          { kind := "ERROR", named := true, start := 5, stop := 6, faulty := true },
          { kind := ")", named := false, start := 6, stop := 7 }] }]

/-- The missing parenthesis is reported, which takes up no byte. -/
theorem first_in_unclosedCall :
    unclosedCallTree.IsMarked ∧
      ∃ e n, error? unclosedCall unclosedCallTree = some e ∧ IsFirstFault unclosedCallTree n ∧
        e = errorAt unclosedCall n ∧ n.kind = ")" ∧ e.offset = 3 := by
  have hmarked : unclosedCallTree.IsMarked := by decide
  have hreports := reports_first unclosedCall hmarked
  have hfault : unclosedCallTree.HasFault := hmarked.root.1 rfl
  obtain ⟨e, he⟩ := hreports.fails_iff.2 hfault
  obtain ⟨n, hn, hen, hoffset⟩ := (hreports.error_iff e).1 he
  have hfirst : unclosedCallTree.nodes.find? Node.isFault =
      some { kind := ")", named := false, start := 3, stop := 3, missing := true,
             faulty := true } := by decide
  -- the first node in error is the parenthesis, not one of the two within the other error
  have heq := find?_eq_some_iff.2 hn
  rw [hfirst] at heq
  cases heq
  exact ⟨hmarked, e, _, he, hn, hen, rfl, hoffset⟩

end ScriptDeps.Syntax

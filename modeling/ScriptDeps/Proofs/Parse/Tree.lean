import ScriptDeps.Parse.Tree
import ScriptDeps.Proofs.Tree.Place

namespace ScriptDeps.Parse

open Source (Position)
open Syntax (Node)
open Grammar (SymbolInfo Shape)

/-! # Where trees start and stop

The parser makes no places of its own. The trees that it builds start and stop where the trees below
them do, and the nodes that they show have the bounds of the trees that show as them. Therefore what
holds of the bounds of all tokens, and of the start of the source, holds of the bounds of all nodes.
Main statements:

* `Tree.Within`: all bounds in a tree have a property;
* `Tree.Within.build`: applying a rule keeps the property.
-/

/-- All bounds of the nodes in a tree have the property. -/
def NodeWithin (P : Nat → Prop) (root : Node) : Prop :=
  ∀ up n, root.Occurs up n → P n.start ∧ P n.stop

namespace Tree

/-- All bounds in a tree, and those of the nodes that it shows, have the property. -/
inductive Within (P : Nat → Prop) : Tree → Prop
  | intro {t : Tree} :
      P t.place.offset → P t.start.offset → P t.stop.offset →
      (∀ c ∈ t.children, Within P c) → (∀ n ∈ t.nodes, NodeWithin P n) → Within P t

end Tree

section

variable {P : Nat → Prop}

/-! ## Nodes -/

theorem nodeWithin_iff {n : Node} :
    NodeWithin P n ↔ P n.start ∧ P n.stop ∧ ∀ c ∈ n.children, NodeWithin P c := by
  constructor
  · intro h
    obtain ⟨hstart, hstop⟩ := h [] n .root
    refine ⟨hstart, hstop, fun c hc up m hm => ?_⟩
    exact h _ m ((Node.Occurs.root.child hc).trans hm)
  · rintro ⟨hstart, hstop, hchildren⟩ up m hm
    rcases hm.cases_root with ⟨rfl, rfl⟩ | ⟨c, hc, ws, hws, -⟩
    · exact ⟨hstart, hstop⟩
    · exact hchildren c hc ws m hws

/-- The role of a node does not change where it is. -/
theorem nodeWithin_giveRole {r : String} {ns : List Node} (h : ∀ n ∈ ns, NodeWithin P n) :
    ∀ n ∈ Tree.shown.giveRole r ns, NodeWithin P n := by
  induction ns with
  | nil => exact h
  | cons m rest ih =>
    cases rest with
    | nil =>
      intro n hn
      rw [List.mem_singleton.1 hn]
      obtain ⟨hstart, hstop, hchildren⟩ := nodeWithin_iff.1 (h m List.mem_cons_self)
      exact nodeWithin_iff.2 ⟨hstart, hstop, hchildren⟩
    | cons k rest =>
      intro n hn
      rcases List.mem_cons.1 hn with rfl | hn
      · exact h n List.mem_cons_self
      · exact ih (fun n hn => h n (List.mem_cons_of_mem m hn)) n hn

/-! ## Trees -/

namespace Tree

variable {t : Tree} {ts : List Tree}

theorem Within.place (h : Within P t) : P t.place.offset := by
  cases h
  assumption

theorem Within.start (h : Within P t) : P t.start.offset := by
  cases h
  assumption

theorem Within.stop (h : Within P t) : P t.stop.offset := by
  cases h
  assumption

theorem Within.children (h : Within P t) : ∀ c ∈ t.children, Within P c := by
  cases h
  assumption

theorem Within.nodes (h : Within P t) : ∀ n ∈ t.nodes, NodeWithin P n := by
  cases h
  assumption

/-- A tree that differs in other things has the same bounds. -/
theorem Within.congr {u : Tree} (h : Within P t) (hplace : u.place = t.place)
    (hstart : u.start = t.start) (hstop : u.stop = t.stop) (hchildren : u.children = t.children)
    (hnodes : u.nodes = t.nodes) : Within P u := by
  refine .intro ?_ ?_ ?_ ?_ ?_
  · rw [hplace]
    exact h.place
  · rw [hstart]
    exact h.start
  · rw [hstop]
    exact h.stop
  · rw [hchildren]
    exact h.children
  · rw [hnodes]
    exact h.nodes

/-- A tree may come to belong to no rule, or to a rule. -/
theorem Within.marked (h : Within P t) (extra : Bool) : Within P { t with extra } :=
  h.congr rfl rfl rfl rfl rfl

/-- A tree without trees below has only its own bounds. -/
theorem Within.leaf (hplace : P t.place.offset) (hstart : P t.start.offset)
    (hstop : P t.stop.offset) (hchildren : t.children = []) (hnodes : t.nodes = []) :
    Within P t := by
  refine .intro hplace hstart hstop ?_ ?_
  · rw [hchildren]
    exact fun c hc => absurd hc List.not_mem_nil
  · rw [hnodes]
    exact fun n hn => absurd hn List.not_mem_nil

/-- The nodes that a tree shows are within its bounds. -/
theorem Within.shown (h : Within P t) (renamed : Option SymbolInfo) (role : Option String) :
    ∀ n ∈ t.shown renamed role, NodeWithin P n := by
  unfold Tree.shown
  dsimp only
  -- a tree that does not show as a node shows the nodes below it
  split
  · intro n hn
    rw [List.mem_singleton.1 hn]
    refine nodeWithin_iff.2 ⟨h.start, h.stop, fun c hc => ?_⟩
    exact h.nodes c (List.mem_reverse.1 hc)
  · split
    · exact h.nodes
    · exact nodeWithin_giveRole h.nodes

/-! ## Building -/

theorem addNodes_eq (nodes others : List Node) :
    Sums.add.addNodes nodes others = nodes ++ others := by
  cases others with
  | nil => exact (List.append_nil nodes).symm
  | cons n rest => rfl

/-- The nodes that are collected from trees are within their bounds. -/
theorem sums_nodes {shape : Shape} {isError : Bool} (hts : ∀ t ∈ ts, Within P t) {s : Sums}
    (hs : ∀ n ∈ s.nodes, NodeWithin P n) :
    ∀ n ∈ (ts.foldl (Sums.add shape isError) s).nodes, NodeWithin P n := by
  induction ts generalizing s with
  | nil => exact hs
  | cons t rest ih =>
    refine ih (fun u hu => hts u (List.mem_cons_of_mem t hu)) fun n hn => ?_
    unfold Sums.add at hn
    dsimp only at hn
    rw [addNodes_eq] at hn
    rcases List.mem_append.1 hn with hn | hn
    · exact (hts t List.mem_cons_self).shown _ _ n hn
    · exact hs n hn

/-- A bound of the first or the last tree has the property, and so does the start of the source. -/
theorem bound_getD {bound : Tree → Position} (hzero : P 0)
    (hbound : ∀ t ∈ ts, P (bound t).offset) {o : Option Tree} (ho : ∀ t, o = some t → t ∈ ts) :
    P ((o.map bound).getD {}).offset := by
  cases o with
  | none => exact hzero
  | some t => exact hbound t (ho t rfl)

/-- The tree of a rule has the bounds of the trees that the rule is applied to. -/
theorem Within.build (hzero : P 0) (symbol shape : Nat) (hts : ∀ t ∈ ts, Within P t) :
    Within P (build symbol ts shape) := by
  refine .intro ?_ ?_ ?_ hts ?_
  -- the first tree has the start, the last one has the end
  · exact bound_getD hzero (fun t ht => (hts t ht).place) fun t ht => List.mem_of_head? ht
  · exact bound_getD hzero (fun t ht => (hts t ht).start) fun t ht => List.mem_of_head? ht
  · exact bound_getD hzero (fun t ht => (hts t ht).stop) fun t ht => List.mem_of_getLast? ht
  · exact sums_nodes hts (fun n hn => absurd hn List.not_mem_nil)

theorem Within.splitExtras (hts : ∀ t ∈ ts, Within P t) :
    (∀ t ∈ (splitExtras ts).1, Within P t) ∧ ∀ t ∈ (splitExtras ts).2, Within P t := by
  constructor
  · exact fun t ht => hts t (List.mem_of_mem_take ht)
  · intro t ht
    have hrun := (List.takeWhile_sublist _).subset (List.mem_reverse.1 ht)
    exact hts t (List.mem_reverse.1 hrun)

/-- The bounds of the nodes that a whole tree shows as have the property. -/
theorem Within.toNode (hzero : P 0) (h : Within P t) : NodeWithin P t.toNode := by
  unfold Tree.toNode
  cases hn : (t.shown none none).head? with
  | some n => exact h.shown none none n (List.mem_of_head? hn)
  | none => exact nodeWithin_iff.2 ⟨hzero, hzero, fun c hc => absurd hc List.not_mem_nil⟩

end Tree

end

end ScriptDeps.Parse

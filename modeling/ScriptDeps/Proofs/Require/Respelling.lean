import ScriptDeps.Proofs.Require.Order
import ScriptDeps.Proofs.Tree.Move

namespace ScriptDeps.Require

open Syntax (Node TextError)

/-! # Calls in another spelling

If `require` is spelled alike wherever something is called, and literals are, the calls of a tree are
the same whatever else is spelled in another way: they are static with the same values, or dynamic,
whose compact texts may differ. Main statements:

* `unwrapped_moved`, `isStatic_moved`, `tokens_moved`: what is read does not depend on bounds;
* `isRead_respelled`: what is read in the other spelling;
* `sameCall_of_reports`: what is found at a node in the other spelling;
* `calls_respelled`: the result.
-/

/-! ## The other spelling -/

/-- The second source spells the tree in another way, and its bounds are moved. What is called is
`require` in both sources or in none, and the literals are the same. -/
structure Respells (f : Nat → Nat) (source source' : ByteArray) (root : Node) : Prop where
  legible : ∀ up n, root.Occurs up n →
    ((∃ t, (n.moved f).text source' = .ok t) ↔ ∃ t, n.text source = .ok t)
  callees : ∀ up n callee, root.Occurs up n → Calls n callee →
    ((callee.moved f).text source' = .ok (Text.lit "require") ↔
      callee.text source = .ok (Text.lit "require"))
  literals : ∀ up n, root.Occurs up n → IsLiteral n → (n.moved f).text source' = n.text source

/-- The second call is the first one at another place. The texts of dynamic calls may differ. -/
structure SameCall (f : Nat → Nat) (c c' : Call) : Prop where
  start : c'.start = f c.start
  stop : c'.stop = f c.stop
  dynamic : c'.dynamic = c.dynamic
  spec : c.dynamic = false → c'.spec = c.spec

section

variable {f : Nat → Nat}

/-! ## Moved arguments -/

theorem unwrapped_moved (n : Node) : unwrapped (n.moved f) = (unwrapped n).moved f := by
  induction n using Node.induct with
  | step n ih =>
    have hfirst : (n.moved f).children.find? Node.isPart =
        (n.children.find? Node.isPart).map (Node.moved f) := by
      have hpart : Node.isPart ∘ Node.moved f = Node.isPart := funext Node.moved_isPart
      rw [Node.moved_children, List.find?_map, hpart]
    rw [unwrapped_eq, unwrapped_eq, firstUnwrapped_eq, firstUnwrapped_eq, hfirst]
    simp only [Node.moved_kind, Node.moved_parts, List.length_map]
    split
    · cases hpart : n.children.find? Node.isPart with
      | none => rfl
      | some c => exact ih c (List.mem_of_find?_eq_some hpart)
    · rfl

theorem isLiteral_moved (n : Node) : isLiteral (n.moved f) = isLiteral n := by
  rw [isLiteral, isLiteral, Node.moved_kind]

/-- The literal of a moved call is moved. -/
theorem isStatic_moved {arguments : List Node} {m : Node} :
    IsStatic (arguments.map (Node.moved f)) m ↔
      ∃ literal, IsStatic arguments literal ∧ m = literal.moved f := by
  have hmap : (arguments.map (Node.moved f)).map unwrapped =
      (arguments.map unwrapped).map (Node.moved f) := by
    rw [List.map_map, List.map_map]
    exact List.map_congr_left fun a _ => unwrapped_moved a
  rw [IsStatic, hmap]
  constructor
  · rintro ⟨hone, hliteral⟩
    obtain ⟨literal, hliterals, rfl⟩ := List.map_eq_singleton_iff.1 hone
    exact ⟨literal, ⟨hliterals, isLiteral_moved literal ▸ hliteral⟩, rfl⟩
  · rintro ⟨literal, ⟨hone, hliteral⟩, rfl⟩
    exact ⟨by rw [hone, List.map_singleton], (isLiteral_moved literal).trans hliteral⟩

theorem isDynamic_moved {arguments : List Node} :
    IsDynamic (arguments.map (Node.moved f)) ↔ IsDynamic arguments := by
  constructor
  · intro h literal hstatic
    exact h _ (isStatic_moved.2 ⟨literal, hstatic, rfl⟩)
  · intro h m hm
    obtain ⟨literal, hstatic, -⟩ := isStatic_moved.1 hm
    exact h literal hstatic

theorem hasLiteral_moved {arguments : List Node} {m : Node} :
    HasLiteral (arguments.map (Node.moved f)) m ↔
      ∃ literal, HasLiteral arguments literal ∧ m = literal.moved f := by
  simp only [← isStatic_iff_hasLiteral, isStatic_moved]

theorem tokens_moved (n : Node) : (n.moved f).tokens = n.tokens.map (Node.moved f) := by
  induction n using Node.induct with
  | step n ih =>
    rw [Node.tokens_eq, Node.tokens_eq, Node.moved_kind, Node.moved_children, List.isEmpty_map]
    split
    · rfl
    · split
      · rfl
      · rw [List.flatMap_map, List.map_flatMap]
        exact List.flatMap_congr ih

/-- What is read for a moved call is moved. -/
theorem isReadFor_moved {arguments : List Node} {m : Node} :
    IsReadFor (arguments.map (Node.moved f)) m ↔
      ∃ n, IsReadFor arguments n ∧ m = n.moved f := by
  have htokens : (∃ a ∈ arguments.map (Node.moved f), m ∈ a.tokens) ↔
      ∃ n, (∃ a ∈ arguments, n ∈ a.tokens) ∧ m = n.moved f := by
    simp only [List.mem_map, exists_exists_and_eq_and, tokens_moved]
    constructor
    · rintro ⟨a, ha, n, hn, rfl⟩
      exact ⟨n, ⟨a, ha, hn⟩, rfl⟩
    · rintro ⟨n, ⟨a, ha, hn⟩, rfl⟩
      exact ⟨a, ha, n, hn, rfl⟩
  simp only [IsReadFor, isStatic_moved, isDynamic_moved, htokens]
  constructor
  · rintro (⟨n, hn, rfl⟩ | ⟨hdynamic, n, hn, rfl⟩)
    · exact ⟨n, Or.inl hn, rfl⟩
    · exact ⟨n, Or.inr ⟨hdynamic, hn⟩, rfl⟩
  · rintro ⟨n, hn | ⟨hdynamic, hn⟩, rfl⟩
    · exact Or.inl ⟨n, hn, rfl⟩
    · exact Or.inr ⟨hdynamic, n, hn, rfl⟩

/-- What a moved node calls is moved. -/
theorem calls_moved {n m : Node} :
    Calls (n.moved f) m ↔ ∃ callee, Calls n callee ∧ m = callee.moved f := by
  simp only [Calls, Node.moved_kind, Node.moved_child?, Option.map_eq_some_iff]
  constructor
  · rintro ⟨hkind, ⟨callee, hcallee, rfl⟩, hid⟩
    exact ⟨callee, ⟨hkind, hcallee, callee.moved_kind ▸ hid⟩, rfl⟩
  · rintro ⟨callee, ⟨hkind, hcallee, hid⟩, rfl⟩
    exact ⟨hkind, ⟨callee, hcallee, rfl⟩, callee.moved_kind.trans hid⟩

/-! ## What is read -/

variable {source source' : ByteArray} {root : Node}

/-- A node calls `require` in the other spelling if it does. -/
theorem requires_respelled (h : Respells f source source' root) {up : List Node} {n : Node}
    (hn : root.Occurs up n) {arguments' : List Node} :
    Requires source' (n.moved f) arguments' ↔
      ∃ arguments, Requires source n arguments ∧ arguments' = arguments.map (Node.moved f) := by
  simp only [Requires, calls_moved, Node.moved_child?, Option.map_eq_some_iff]
  constructor
  · rintro ⟨callee', list', ⟨callee, hcalls, rfl⟩, hname, ⟨list, hlist, rfl⟩, hkind, rfl⟩
    refine ⟨list.parts, ⟨callee, list, hcalls, ?_, hlist, list.moved_kind ▸ hkind, rfl⟩, ?_⟩
    · exact (h.callees up n callee hn hcalls).1 hname
    · exact list.moved_parts
  · rintro ⟨arguments, ⟨callee, list, hcalls, hname, hlist, hkind, rfl⟩, rfl⟩
    refine ⟨_, _, ⟨callee, hcalls, rfl⟩, ?_, ⟨list, hlist, rfl⟩, ?_, list.moved_parts⟩
    · exact (h.callees up n callee hn hcalls).2 hname
    · exact list.moved_kind.trans hkind

theorem isCall_respelled (h : Respells f source source' root) {up : List Node} {n : Node}
    (hn : root.Occurs up n) : IsCall source' (n.moved f) ↔ IsCall source n := by
  simp only [IsCall, requires_respelled h hn]
  constructor
  · rintro ⟨arguments', arguments, hrequires, -⟩
    exact ⟨arguments, hrequires⟩
  · rintro ⟨arguments, hrequires⟩
    exact ⟨_, arguments, hrequires, rfl⟩

/-- The same nodes are read in the other spelling. -/
theorem isRead_respelled (h : Respells f source source' root) {m : Node} :
    IsRead source' (root.moved f) m ↔ ∃ n, IsRead source root n ∧ m = n.moved f := by
  constructor
  · rintro ⟨vs, call', hcall', hread'⟩
    obtain ⟨up, call, hcall, -, rfl⟩ := Node.occurs_moved.1 hcall'
    rcases hread' with hcalls' | ⟨arguments', hrequires', hread'⟩
    · obtain ⟨callee, hcalls, rfl⟩ := calls_moved.1 hcalls'
      exact ⟨callee, ⟨up, call, hcall, Or.inl hcalls⟩, rfl⟩
    · obtain ⟨arguments, hrequires, rfl⟩ := (requires_respelled h hcall).1 hrequires'
      obtain ⟨n, hn, rfl⟩ := isReadFor_moved.1 hread'
      exact ⟨n, ⟨up, call, hcall, Or.inr ⟨arguments, hrequires, hn⟩⟩, rfl⟩
  · rintro ⟨n, ⟨up, call, hcall, hread⟩, rfl⟩
    refine ⟨_, _, Node.occurs_moved.2 ⟨up, call, hcall, rfl, rfl⟩, ?_⟩
    rcases hread with hcalls | ⟨arguments, hrequires, hn⟩
    · exact Or.inl (calls_moved.2 ⟨n, hcalls, rfl⟩)
    · refine Or.inr ⟨_, (requires_respelled h hcall).2 ⟨arguments, hrequires, rfl⟩, ?_⟩
      exact isReadFor_moved.2 ⟨n, hn, rfl⟩

/-- The literals of static calls are the same in the other spelling. -/
theorem isSpecifier_respelled (h : Respells f source source' root) {m : Node} :
    IsSpecifier source' (root.moved f) m ↔
      ∃ literal, IsSpecifier source root literal ∧ m = literal.moved f := by
  constructor
  · rintro ⟨vs, call', arguments', hcall', hrequires', hstatic'⟩
    obtain ⟨up, call, hcall, -, rfl⟩ := Node.occurs_moved.1 hcall'
    obtain ⟨arguments, hrequires, rfl⟩ := (requires_respelled h hcall).1 hrequires'
    obtain ⟨literal, hstatic, rfl⟩ := isStatic_moved.1 hstatic'
    exact ⟨literal, ⟨up, call, arguments, hcall, hrequires, hstatic⟩, rfl⟩
  · rintro ⟨literal, ⟨up, call, arguments, hcall, hrequires, hstatic⟩, rfl⟩
    have hrequires' := (requires_respelled h hcall).2 ⟨arguments, hrequires, rfl⟩
    refine ⟨_, _, _, Node.occurs_moved.2 ⟨up, call, hcall, rfl, rfl⟩, hrequires', ?_⟩
    exact isStatic_moved.2 ⟨literal, hstatic, rfl⟩

/-- The literal of a static call stands in the tree. -/
theorem IsSpecifier.occurs {literal : Node} (h : IsSpecifier source root literal) :
    (∃ up, root.Occurs up literal) ∧ IsLiteral literal := by
  obtain ⟨up, call, arguments, hcall, hrequires, hstatic⟩ := h
  have hread : IsRead source root literal :=
    ⟨up, call, hcall, Or.inr ⟨arguments, hrequires, Or.inl hstatic⟩⟩
  exact ⟨hread.occurs, isLiteral_iff.1 hstatic.2⟩

/-- All can be read in the other spelling if all can be read. -/
theorem readable_respelled (h : Respells f source source' root) :
    Readable source' (root.moved f) ↔ Readable source root := by
  -- the nodes that are read are those of the one tree, moved
  have htexts : (∀ m, IsRead source' (root.moved f) m → ∃ t, m.text source' = .ok t) ↔
      ∀ n, IsRead source root n → ∃ t, n.text source = .ok t := by
    constructor
    · intro hall n hn
      obtain ⟨up, hoccurs⟩ := hn.occurs
      exact (h.legible up n hoccurs).1 (hall _ ((isRead_respelled h).2 ⟨n, hn, rfl⟩))
    · intro hall m hm
      obtain ⟨n, hn, rfl⟩ := (isRead_respelled h).1 hm
      obtain ⟨up, hoccurs⟩ := hn.occurs
      exact (h.legible up n hoccurs).2 (hall n hn)
  have hlacks : ∀ literal, IsSpecifier source root literal →
      (LacksValue source' (literal.moved f) ↔ LacksValue source literal) := by
    intro literal hspecifier
    obtain ⟨⟨up, hoccurs⟩, hliteral⟩ := hspecifier.occurs
    rw [LacksValue, LacksValue, Node.moved_kind, h.literals up literal hoccurs hliteral]
  rw [Readable, Readable, htexts]
  apply and_congr_right
  intro _
  constructor
  · intro hall literal hspecifier hvalueless
    refine hall _ ((isSpecifier_respelled h).2 ⟨literal, hspecifier, rfl⟩) ?_
    exact (hlacks literal hspecifier).2 hvalueless
  · intro hall m hm hvalueless
    obtain ⟨literal, hspecifier, rfl⟩ := (isSpecifier_respelled h).1 hm
    exact hall literal hspecifier ((hlacks literal hspecifier).1 hvalueless)

/-! ## What is found -/

/-- The places of the calls in the other spelling. -/
theorem callPlaces_respelled (h : Respells f source source' root) :
    callPlaces source' (root.moved f) =
      (callPlaces source root).map fun p => (p.1.map (Node.moved f), p.2.moved f) := by
  have hpostorder := Node.postorder_moved (f := f) [] root
  rw [List.map_nil] at hpostorder
  rw [callPlaces, callPlaces, hpostorder, List.filter_map]
  congr 1
  refine List.filter_congr fun p hp => ?_
  have hiff := isCall_respelled h (Node.mem_postorder_root.1 hp)
  simp only [Function.comp_apply, hiff]

/-- What is found at a node in the other spelling. -/
theorem sameCall_of_reports (h : Respells f source source' root) {up : List Node} {n : Node}
    (hn : root.Occurs up n) {c c' : Call} (hc : Reports source n c)
    (hc' : Reports source' (n.moved f) c') : SameCall f c c' := by
  have hstart : c'.start = f c.start := by rw [hc'.bounds.1, hc.bounds.1, Node.moved_start]
  have hstop : c'.stop = f c.stop := by rw [hc'.bounds.2, hc.bounds.2, Node.moved_stop]
  have harguments : ∀ as as', Requires source n as → Requires source' (n.moved f) as' →
      as' = as.map (Node.moved f) := by
    intro as as' has has'
    exact has'.unique ((requires_respelled h hn).2 ⟨as, has, rfl⟩)
  -- a literal moves to a literal, so that both calls are static or neither is
  cases hc with
  | @static as literal spec has hliteral hspec =>
    cases hc' with
    | @static as' literal' spec' has' hliteral' hspec' =>
      obtain rfl := harguments as as' has has'
      obtain ⟨other, hother, rfl⟩ := hasLiteral_moved.1 hliteral'
      obtain rfl : other = literal := by
        have hstatic := isStatic_iff_hasLiteral.2 hliteral
        exact ((isStatic_iff hstatic.1).1 (isStatic_iff_hasLiteral.2 hother)).1
      have hspecifier : IsSpecifier source root other :=
        ⟨up, n, as, hn, has, isStatic_iff_hasLiteral.2 hother⟩
      obtain ⟨⟨far, hoccurs⟩, hkind⟩ := hspecifier.occurs
      have hvalue : literalValue source' (other.moved f) = literalValue source other := by
        rw [literalValue, literalValue, h.literals far other hoccurs hkind, Node.moved_kind]
      rw [hvalue, hspec] at hspec'
      cases hspec'
      exact ⟨hstart, hstop, rfl, fun _ => rfl⟩
    | @dynamic as' texts' has' hno' =>
      obtain rfl := harguments as as' has has'
      exact absurd (hasLiteral_moved.2 ⟨literal, hliteral, rfl⟩) (hno' _)
  | @dynamic as texts has hno =>
    cases hc' with
    | @static as' literal' spec' has' hliteral' =>
      obtain rfl := harguments as as' has has'
      obtain ⟨literal, hliteral, -⟩ := hasLiteral_moved.1 hliteral'
      exact absurd hliteral (hno literal)
    | dynamic =>
      refine ⟨hstart, hstop, rfl, fun hdynamic => ?_⟩
      cases hdynamic

/-- The search ends in the other spelling if it ends, and finds the same calls. -/
theorem calls_respelled (h : Respells f source source' root) :
    ((∃ cs', calls source' (root.moved f) = .ok cs') ↔ ∃ cs, calls source root = .ok cs) ∧
    ∀ cs cs', calls source root = .ok cs → calls source' (root.moved f) = .ok cs' →
      List.Forall₂ (SameCall f) cs cs' := by
  constructor
  · rw [exists_calls_iff, exists_calls_iff, readable_respelled h]
  · intro cs cs' hcs hcs'
    have hfound' := reports_of_calls hcs'
    rw [callPlaces_respelled h, List.forall₂_map_left_iff] at hfound'
    refine forall₂_of_common (reports_of_calls hcs) hfound' ?_
    rintro ⟨up, n⟩ hp c c' hc hc'
    exact sameCall_of_reports h (mem_callPlaces.1 hp).1 hc hc'

end

end ScriptDeps.Require

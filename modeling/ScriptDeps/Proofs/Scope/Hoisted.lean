import Mathlib.Data.List.Nodup
import ScriptDeps.Proofs.Scope.Hidden
import ScriptDeps.Proofs.Tree.Rearranged

namespace ScriptDeps.Scope

open Syntax (Labelled Node TextError)
open Syntax.Labelled (Carries Rearranges exists_stands node_child?)
open Text (lit)

/-! # Declarations are hoisted

The order of the statements in programs and blocks does not matter: a name is known in all of a
scope, wherever in it the declaration stands. If statements change their places, the free references
are the same at their new places. Main statements:

* `exists_declares`: a declaration declares the same identifier within the same scope;
* `Reorders.known` and `Reorders.isDeclaration`: what is known and what declares a name;
* `freeReferences_reordered`: the result.
-/

/-! ## Another order -/

section

variable {T : Type} {a b : Labelled T} {source source' : ByteArray} {root : T}

/-- The second tree is the first one with its statements in another order. Whatever the bounds are
now, the names and keywords that are read have the same texts. -/
structure Reorders (a b : Labelled T) (source source' : ByteArray) (root : T) : Prop where
  rearranges : Rearranges a b
  tree : IsTree (a.node root)
  tree' : IsTree (b.node root)
  texts : ∀ up t, a.Stands root up t →
    IsRead source (a.node root) (a.node t) ∨ IsRead source' (b.node root) (b.node t) →
    (b.node t).text source' = (a.node t).text source

theorem Reorders.symm (h : Reorders a b source source' root) :
    Reorders b a source' source root where
  rearranges := h.rearranges.symm
  tree := h.tree'
  tree' := h.tree
  texts up t ht hread := (h.texts up t (h.rearranges.symm.stands ht) hread.symm).symm

/-- The reference to the name at the node with the label. -/
def referenceTo (a : Labelled T) (p : Text × T) : Reference :=
  ⟨p.1, (a.node p.2).start, (a.node p.2).stop⟩

/-- The same names are found in both trees, at nodes with the same labels. -/
structure SameFindings (a b : Labelled T) (root : T) (rs rs' : List Reference) : Prop where
  names : (rs'.map (·.name)).Perm (rs.map (·.name))
  sites : ∃ found : List (Text × T), (∀ p ∈ found, ∃ up, a.Stands root up p.2) ∧
    rs.Perm (found.map (referenceTo a)) ∧ rs'.Perm (found.map (referenceTo b))

/-! ## What patterns and declarations bind -/

theorem carries_binds (h : Rearranges a b) : Carries a b Binds := by
  intro t i hi
  -- by induction on how the pattern binds; what it consists of has labels below its own
  generalize hp : a.node t = p at hi
  induction hi generalizing t with
  | name hkind =>
    subst hp
    refine ⟨[], t, .root, rfl, .name ?_⟩
    rw [h.kind]
    exact hkind
  | part hkind hc _ ih =>
    subst hp
    rcases h.carries_part t _ hc with ⟨ws, u, hu, hcu, hpart⟩
    rcases ih u hcu with ⟨vs, v, hv, hiv, hbinds⟩
    refine ⟨_, v, hu.trans hv, hiv, .part ?_ hpart hbinds⟩
    rw [h.kind]
    exact hkind
  | value hkind hc _ ih =>
    subst hp
    rcases h.carries_child "value" t _ hc with ⟨ws, u, hu, hcu, hchild⟩
    rcases ih u hcu with ⟨vs, v, hv, hiv, hbinds⟩
    exact ⟨_, v, hu.trans hv, hiv, .value ((h.kind t).trans hkind) hchild hbinds⟩
  | beforeDefault hkind hc _ ih =>
    subst hp
    rcases h.carries_child "left" t _ hc with ⟨ws, u, hu, hcu, hchild⟩
    rcases ih u hcu with ⟨vs, v, hv, hiv, hbinds⟩
    refine ⟨_, v, hu.trans hv, hiv, .beforeDefault ?_ hchild hbinds⟩
    rw [h.kind]
    exact hkind

theorem carries_declarator (h : Rearranges a b) : Carries a b Declarator :=
  h.carries_part_of_kind "variable_declarator" ((h.carries_child "name").comp (carries_binds h))

theorem carries_parameter (h : Rearranges a b) : Carries a b Parameter :=
  ((h.carries_child "parameters").comp (h.carries_part.comp (carries_binds h))).or
    ((h.carries_child "parameter").comp (carries_binds h))

theorem carries_imports (h : Rearranges a b) : Carries a b Imports := by
  have hidentifier : ∀ t, (a.node t).kind = "identifier" → (b.node t).kind = "identifier" :=
    fun t hkind => (h.kind t).trans hkind
  intro t i hi
  -- each way to import goes down by children and parts that both trees have
  cases hi with
  | byDefault hclause hkind hitem hid =>
    have hcarries := h.carries_part_of_kind "import_clause"
      (h.carries_part.and_right (·.kind = "identifier") hidentifier)
    rcases hcarries t i ⟨_, hclause, hkind, hitem, hid⟩ with
      ⟨ws, u, hu, hnode, clause', hclause', hkind', hitem', hid'⟩
    exact ⟨ws, u, hu, hnode, .byDefault hclause' hkind' hitem' hid'⟩
  | wholly hclause hkind hitem hns hname =>
    have hcarries := h.carries_part_of_kind "import_clause"
      (h.carries_part_of_kind "namespace_import" h.carries_part)
    rcases hcarries t i ⟨_, hclause, hkind, _, hitem, hns, hname⟩ with
      ⟨ws, u, hu, hnode, clause', hclause', hkind', item', hitem', hns', hname'⟩
    exact ⟨ws, u, hu, hnode, .wholly hclause' hkind' hitem' hns' hname'⟩
  | member hclause hkind hitem hnamed hspec hlocal hid =>
    have halias : ∀ u, (a.node u).child? "alias" = none → (b.node u).child? "alias" = none := by
      intro u hnone
      rw [node_child?, Option.map_eq_none_iff] at hnone ⊢
      rw [h.child?, hnone]
    have hlocalName := (h.carries_child "alias").or
      ((h.carries_child "name").and (·.child? "alias" = none) halias)
    have hcarries := h.carries_part_of_kind "import_clause"
      (h.carries_part_of_kind "named_imports"
        (h.carries_part.comp (hlocalName.and_right (·.kind = "identifier") hidentifier)))
    rcases hcarries t i ⟨_, hclause, hkind, _, hitem, hnamed, _, hspec, hlocal, hid⟩ with
      ⟨ws, u, hu, hnode, clause', hclause', hkind', item', hitem', hnamed', specifier', hspec',
        hlocal', hid'⟩
    exact ⟨ws, u, hu, hnode, .member hclause' hkind' hitem' hnamed' hspec' hlocal' hid'⟩

/-! ## What declarations declare -/

/-- The outermost nodes have the same label. -/
theorem exists_outermost {ts : List T} {n : Node} (hlast : (ts.map a.node).getLast? = some n) :
    ∃ r, [r] <:+ ts ∧ a.node r = n ∧ (ts.map b.node).getLast? = some (b.node r) := by
  rw [List.getLast?_map, Option.map_eq_some_iff] at hlast
  rcases hlast with ⟨r, hr, hn⟩
  refine ⟨r, List.singleton_suffix_iff_getLast?_eq_some.2 hr, hn, ?_⟩
  rw [List.getLast?_map, hr]
  rfl

/-- The nearest scope stays the same. -/
theorem exists_nearest_reordered (h : Rearranges a b) {P : Node → Prop}
    (hP : ∀ t, P (b.node t) ↔ P (a.node t)) {up : List T} {d : T} {scope : List Node}
    (hnear : Nearest P (up.map a.node) (a.node d) scope) :
    ∃ s, s <:+ d :: up ∧ s.map a.node = scope ∧
      Nearest P (up.map b.node) (b.node d) (s.map b.node) := by
  -- a label qualifies in the one tree if it does in the other, so that the same one is the nearest
  have hqualifies : ∀ t, (a.node t).named = true ∧ P (a.node t) ↔
      (b.node t).named = true ∧ P (b.node t) := by
    intro t
    rw [h.named, hP]
  have hnone : ∀ ts : List T, (∀ n ∈ ts.map a.node, ¬ (n.named = true ∧ P n)) →
      ∀ n ∈ ts.map b.node, ¬ (n.named = true ∧ P n) := by
    intro ts hts n hn
    rcases List.mem_map.1 hn with ⟨t, ht, rfl⟩
    rw [← hqualifies]
    exact hts _ (List.mem_map_of_mem ht)
  cases hnear with
  | around hup hbefore hscope =>
    rcases List.map_eq_append_iff.1 hup with ⟨near, rest, rfl, rfl, hrest⟩
    rcases List.map_eq_cons_iff.1 hrest with ⟨t, far, rfl, rfl, rfl⟩
    refine ⟨t :: far, ?_, rfl, ?_⟩
    · exact (List.suffix_append near (t :: far)).trans (List.suffix_cons d _)
    · exact .around List.map_append (hnone near hbefore) ((hqualifies t).1 hscope)
  | outermost hall hlast =>
    rw [← List.map_cons] at hlast
    rcases exists_outermost (b := b) hlast with ⟨r, hr, rfl, hlast'⟩
    exact ⟨[r], hr, rfl, .outermost (hnone up hall) hlast'⟩

/-- The keyword of a loop reads the same where the text of its node does. -/
theorem exists_keyword (h : Rearranges a b) {d : T} {k : Node} {t : Text}
    (hkeyword : ∀ k, a.child? d "kind" = some k →
      (b.node k).text source' = (a.node k).text source)
    (hk : (a.node d).child? "kind" = some k) (ht : k.text source = .ok t) :
    ∃ k', (b.node d).child? "kind" = some k' ∧ k'.text source' = .ok t := by
  rw [node_child?, Option.map_eq_some_iff] at hk
  rcases hk with ⟨u, hu, rfl⟩
  refine ⟨b.node u, ?_, (hkeyword u hu).trans ht⟩
  rw [node_child?, h.child?, hu]
  rfl

/-- A declaration declares the same identifier within the same scope. -/
theorem exists_declares (h : Rearranges a b) {up : List T} {d : T} {scope : List Node} {i : Node}
    (hkeyword : (a.node d).kind = "for_in_statement" → ∀ k, a.child? d "kind" = some k →
      (b.node k).text source' = (a.node k).text source)
    (hd : Declares source (up.map a.node) (a.node d) scope i) :
    ∃ s ws u, s <:+ d :: up ∧ s.map a.node = scope ∧ a.Stands d ws u ∧ a.node u = i ∧
      Declares source' (up.map b.node) (b.node d) (s.map b.node) (b.node u) := by
  have hkind : ∀ {k}, (a.node d).kind = k → (b.node d).kind = k := (h.kind d).trans
  have hvariables := h.kind_iff HoldsVariables fun _ => Iff.rfl
  have hlexical := h.kind_iff HoldsLexical fun _ => Iff.rfl
  have hpattern := fun role => (h.carries_child role).comp (carries_binds h)
  -- one case for each way to declare a name: the scope is found first, then the identifier
  cases hd with
  | variableName hk hi hnear =>
    rcases exists_nearest_reordered h hvariables hnear with ⟨s, hs, hscope, hnear'⟩
    rcases carries_declarator h d i hi with ⟨ws, u, hu, hnode, hi'⟩
    exact ⟨s, ws, u, hs, hscope, hu, hnode, .variableName (hkind hk) hi' hnear'⟩
  | lexicalName hk hi hnear =>
    rcases exists_nearest_reordered h hlexical hnear with ⟨s, hs, hscope, hnear'⟩
    rcases carries_declarator h d i hi with ⟨ws, u, hu, hnode, hi'⟩
    exact ⟨s, ws, u, hs, hscope, hu, hnode, .lexicalName (hkind hk) hi' hnear'⟩
  | loopVariable hk hchild ht hp hi hnear =>
    rcases exists_nearest_reordered h hvariables hnear with ⟨s, hs, hscope, hnear'⟩
    rcases exists_keyword h (hkeyword hk) hchild ht with ⟨k', hchild', ht'⟩
    rcases hpattern "left" d i ⟨_, hp, hi⟩ with ⟨ws, u, hu, hnode, p', hp', hi'⟩
    exact ⟨s, ws, u, hs, hscope, hu, hnode, .loopVariable (hkind hk) hchild' ht' hp' hi' hnear'⟩
  | loopLexical hk hchild ht hvar hp hi =>
    rcases exists_keyword h (hkeyword hk) hchild ht with ⟨k', hchild', ht'⟩
    rcases hpattern "left" d i ⟨_, hp, hi⟩ with ⟨ws, u, hu, hnode, p', hp', hi'⟩
    exact ⟨d :: up, ws, u, List.suffix_rfl, rfl, hu, hnode,
      .loopLexical (hkind hk) hchild' ht' hvar hp' hi'⟩
  | functionName hk hi hnear =>
    rcases exists_nearest_reordered h hvariables hnear with ⟨s, hs, hscope, hnear'⟩
    rcases h.carries_child "name" d i hi with ⟨ws, u, hu, hnode, hi'⟩
    have hk' := (h.kind_iff IsDeclaredFunction (fun _ => Iff.rfl) d).2 hk
    exact ⟨s, ws, u, hs, hscope, hu, hnode, .functionName hk' hi' hnear'⟩
  | ownName hk hi hid =>
    rcases h.carries_child "name" d i hi with ⟨ws, u, hu, rfl, hi'⟩
    have hk' := (h.kind_iff IsNamedExpression (fun _ => Iff.rfl) d).2 hk
    exact ⟨d :: up, ws, u, List.suffix_rfl, rfl, hu, rfl, .ownName hk' hi' ((h.kind u).trans hid)⟩
  | parameter hk hi =>
    rcases carries_parameter h d i hi with ⟨ws, u, hu, hnode, hi'⟩
    have hk' := (h.kind_iff IsFunction (fun _ => Iff.rfl) d).2 hk
    exact ⟨d :: up, ws, u, List.suffix_rfl, rfl, hu, hnode, .parameter hk' hi'⟩
  | className hk hi hnear =>
    rcases exists_nearest_reordered h hlexical hnear with ⟨s, hs, hscope, hnear'⟩
    rcases h.carries_child "name" d i hi with ⟨ws, u, hu, hnode, hi'⟩
    exact ⟨s, ws, u, hs, hscope, hu, hnode, .className (hkind hk) hi' hnear'⟩
  | classInside hk hi =>
    rcases h.carries_child "name" d i hi with ⟨ws, u, hu, hnode, hi'⟩
    exact ⟨d :: up, ws, u, List.suffix_rfl, rfl, hu, hnode, .classInside (hkind hk) hi'⟩
  | classOwnName hk hi hid =>
    rcases h.carries_child "name" d i hi with ⟨ws, u, hu, rfl, hi'⟩
    exact ⟨d :: up, ws, u, List.suffix_rfl, rfl, hu, rfl,
      .classOwnName (hkind hk) hi' ((h.kind u).trans hid)⟩
  | caught hk hp hi =>
    rcases hpattern "parameter" d i ⟨_, hp, hi⟩ with ⟨ws, u, hu, hnode, p', hp', hi'⟩
    exact ⟨d :: up, ws, u, List.suffix_rfl, rfl, hu, hnode, .caught (hkind hk) hp' hi'⟩
  | imported hk hi hlast =>
    rw [← List.map_cons] at hlast
    rcases exists_outermost (b := b) hlast with ⟨r, hr, rfl, hlast'⟩
    rcases carries_imports h d i hi with ⟨ws, u, hu, hnode, hi'⟩
    exact ⟨[r], ws, u, hr, rfl, hu, hnode, .imported (hkind hk) hi' hlast'⟩

/-! ## What is known and what declares a name -/

/-- Where a node declares an identifier, the other node of its label declares the other one. -/
theorem Reorders.exists_declaring (h : Reorders a b source source' root) {up scope : List Node}
    {d i : Node} (hd : (a.node root).Occurs up d) (hnamed : d.named = true)
    (hdecl : Declares source up d scope i) :
    ∃ far t s ws u, a.Stands root far t ∧ (b.node t).named = true ∧ s <:+ t :: far ∧
      s.map a.node = scope ∧ a.Stands root ws u ∧ a.node u = i ∧
      Declares source' (far.map b.node) (b.node t) (s.map b.node) (b.node u) := by
  rcases exists_stands hd with ⟨far, t, ht, rfl, rfl⟩
  have hkeyword : (a.node t).kind = "for_in_statement" → ∀ k, a.child? t "kind" = some k →
      (b.node k).text source' = (a.node k).text source := by
    intro hfor k hk
    have hchild : (a.node t).child? "kind" = some (a.node k) := by
      rw [node_child?, hk]
      rfl
    have hstands : a.Stands root (t :: far) k := ht.child (Labelled.mem_below_of_child? hk)
    exact h.texts _ k hstands (Or.inl (Or.inl ⟨_, _, ht.occurs, hnamed, hfor, hchild⟩))
  rcases exists_declares h.rearranges hkeyword hdecl with ⟨s, ws, u, hs, hscope, hu, hnode, hdecl'⟩
  refine ⟨far, t, s, _, u, ht, ?_, hs, hscope, ht.trans hu, hnode, hdecl'⟩
  rw [h.rearranges.named]
  exact hnamed

theorem Reorders.exists_isDeclaration (h : Reorders a b source source' root) {i : Node}
    (hi : IsDeclaration source (a.node root) i) :
    ∃ up t, a.Stands root up t ∧ a.node t = i ∧ IsDeclaration source' (b.node root) (b.node t) := by
  rcases hi with ⟨up, d, scope, hd, hnamed, hdecl⟩
  rcases h.exists_declaring hd hnamed hdecl with
    ⟨far, t, s, ws, u, ht, hnamed', -, -, hu, hnode, hdecl'⟩
  have ht' : b.Stands root far t := h.rearranges.stands ht
  exact ⟨ws, u, hu, hnode, _, _, _, ht'.occurs, hnamed', hdecl'⟩

/-- Identifiers with the same span have the same label. -/
theorem eq_of_same_bounds (htree : IsTree (a.node root)) {up far : List T} {t u : T}
    (ht : a.Stands root up t) (hidt : IsIdentifier (a.node t)) (hu : a.Stands root far u)
    (hidu : IsIdentifier (a.node u))
    (hspan : (a.node u).start = (a.node t).start ∧ (a.node u).stop = (a.node t).stop) :
    t :: up = u :: far := by
  have hplace := eq_of_same_span htree ht.occurs hidt hu.occurs hidu hspan
  have hwide := (htree.leaf _ _ ht.occurs hidt).2
  rw [List.cons.injEq] at hplace
  exact ht.eq_of_same_place htree.nested hu hwide hplace.1.symm hplace.2.symm

/-- An identifier that declares a name still does. -/
theorem Reorders.isDeclaration (h : Reorders a b source source' root) {up : List T} {t : T}
    (ht : a.Stands root up t) (hid : IsIdentifier (a.node t))
    (hdecl : IsDeclaration source (a.node root) (a.node t)) :
    IsDeclaration source' (b.node root) (b.node t) := by
  rcases h.exists_isDeclaration hdecl with ⟨far, u, hu, hnode, hdecl'⟩
  have hidu : IsIdentifier (a.node u) := by
    rw [hnode]
    exact hid
  have heq := eq_of_same_bounds h.tree ht hid hu hidu (by rw [hnode]; exact ⟨rfl, rfl⟩)
  rw [(List.cons.inj heq).1]
  exact hdecl'

/-- A name that is declared within a scope is declared within the other one. -/
theorem Reorders.exists_declaredIn (h : Reorders a b source source' root) {scope : List Node}
    {name : Text} (hname : DeclaredIn source (a.node root) scope name) :
    ∃ x far, a.Stands root far x ∧ (x :: far).map a.node = scope ∧
      DeclaredIn source' (b.node root) ((x :: far).map b.node) name := by
  rcases hname.eq_cons with ⟨s₀, far₀, hcons⟩
  rcases hname with ⟨up, d, i, hd, hnamed, hdecl, htext⟩
  rcases h.exists_declaring hd hnamed hdecl with
    ⟨far, t, s, ws, u, ht, hnamed', hs, hscope, hu, rfl, hdecl'⟩
  rcases List.map_eq_cons_iff.1 (hscope.trans hcons) with ⟨x, rest, rfl, -, -⟩
  have ht' : b.Stands root far t := h.rearranges.stands ht
  have hsame := h.texts ws u hu (Or.inl (Or.inr (Or.inl ⟨_, _, _, hd, hnamed, hdecl⟩)))
  exact ⟨x, rest, ht.of_suffix hs, hscope, _, _, _, ht'.occurs, hnamed', hdecl',
    hsame.trans htext⟩

/-- What is known at an identifier is still known there. -/
theorem Reorders.known (h : Reorders a b source source' root) {up : List T} {t : T} {name : Text}
    (ht : a.Stands root up t) (hid : IsIdentifier (a.node t))
    (hknown : Known source (a.node root) (up.map a.node) name) :
    Known source' (b.node root) (up.map b.node) name := by
  rcases hknown with ⟨scope, hscope, hname⟩ | ⟨hname, n, hn, hnamed, hfunction, harrow⟩
  · rcases h.exists_declaredIn hname with ⟨x, far, hx, rfl, hname'⟩
    rcases hscope with ⟨near, hnear⟩
    rcases List.map_eq_append_iff.1 hnear.symm with ⟨ts, rest, rfl, -, hrest⟩
    rcases List.map_eq_cons_iff.1 hrest with ⟨y, far', rfl, hy, hfar⟩
    -- the scope has a width, since it holds the identifier
    have hbelow : y :: far' <:+ t :: (ts ++ y :: far') :=
      (List.suffix_append ts _).trans (List.suffix_cons t _)
    have hstands : a.Stands root far' y := ht.of_suffix hbelow
    have haround : a.node y :: far'.map a.node <:+ a.node t :: (ts ++ y :: far').map a.node :=
      hbelow.map a.node
    have hcovers := h.tree.nested.covers ht.occurs haround
    have hwide := (h.tree.leaf _ _ ht.occurs hid).2
    have hsame : y :: far' = x :: far :=
      hstands.eq_of_same_place h.tree.nested hx (by omega) hy hfar
    rw [← hsame] at hname'
    exact Or.inl ⟨_, (List.suffix_append ts (y :: far')).map b.node, hname'⟩
  · rcases List.mem_map.1 hn with ⟨u, hu, rfl⟩
    have hfunction' := (h.rearranges.kind_iff IsFunction (fun _ => Iff.rfl) u).2 hfunction
    refine Or.inr ⟨hname, b.node u, List.mem_map_of_mem hu, ?_, hfunction', ?_⟩
    · rw [h.rearranges.named]
      exact hnamed
    · rw [h.rearranges.kind]
      exact harrow

/-! ## What is found -/

theorem mayRefer_reordered (h : Rearranges a b) {up : List T} {t : T}
    (hmay : MayRefer (up.map a.node).head? (a.node t)) :
    MayRefer (up.map b.node).head? (b.node t) := by
  rcases hmay with ⟨hid, hparent⟩
  refine ⟨(h.kind_iff IsIdentifier (fun _ => Iff.rfl) t).2 hid, ?_⟩
  cases up with
  | nil =>
    intro p hp
    cases hp
  | cons u up =>
    intro p hp
    cases hp
    rw [h.kind_iff IsForeign (fun _ => Iff.rfl)]
    exact hparent _ rfl

theorem isElementName_reordered (h : Rearranges a b) {up : List T} {name : Text}
    (helement : IsElementName (up.map b.node).head? name) :
    IsElementName (up.map a.node).head? name := by
  rcases helement with ⟨hlower, p, hp, htag⟩
  cases up with
  | nil => cases hp
  | cons u up =>
    cases hp
    exact ⟨hlower, a.node u, rfl, (h.kind_iff IsTag (fun _ => Iff.rfl) u).1 htag⟩

/-- The node with the label is a free reference to the name. -/
structure FreeAt (a : Labelled T) (source : ByteArray) (root : T) (up : List T) (p : Text × T) :
    Prop where
  stands : a.Stands root up p.2
  refers : MayRefer (up.map a.node).head? (a.node p.2)
  declares : ¬ IsDeclaration source (a.node root) (a.node p.2)
  text : (a.node p.2).text source = .ok p.1
  special : p.1 ≠ lit "undefined" ∧ ¬ IsElementName (up.map a.node).head? p.1
  unknown : ¬ Known source (a.node root) (up.map a.node) p.1

theorem isFree_iff {r : Reference} :
    IsFree source (a.node root) r ↔ ∃ up p, FreeAt a source root up p ∧ referenceTo a p = r := by
  constructor
  · rintro ⟨up, n, hn, hmay, hdecl, htext, hever, helement, hknown, hstart, hstop⟩
    rcases exists_stands hn with ⟨far, t, ht, rfl, rfl⟩
    refine ⟨far, (r.name, t), ⟨ht, hmay, hdecl, htext, ⟨hever, helement⟩, hknown⟩, ?_⟩
    rw [referenceTo, ← hstart, ← hstop]
  · rintro ⟨up, p, hfree, rfl⟩
    exact ⟨_, _, hfree.stands.occurs, hfree.refers, hfree.declares, hfree.text, hfree.special.1,
      hfree.special.2, hfree.unknown, rfl, rfl⟩

/-- A free reference is a free reference to the same name in the other order. -/
theorem Reorders.freeAt (h : Reorders a b source source' root) {up : List T} {p : Text × T}
    (hfree : FreeAt a source root up p) : FreeAt b source' root up p := by
  have hstands : b.Stands root up p.2 := h.rearranges.stands hfree.stands
  have hmay := mayRefer_reordered h.rearranges hfree.refers
  constructor
  case stands =>
    exact hstands
  case refers =>
    exact hmay
  case declares =>
    exact fun hdecl => hfree.declares (h.symm.isDeclaration hstands hmay.1 hdecl)
  case text =>
    have hread : IsRead source (a.node root) (a.node p.2) :=
      Or.inr (Or.inr ⟨_, hfree.stands.occurs, hfree.refers⟩)
    exact (h.texts up p.2 hfree.stands (Or.inl hread)).trans hfree.text
  case special =>
    exact ⟨hfree.special.1, fun helement =>
      hfree.special.2 (isElementName_reordered h.rearranges helement)⟩
  case unknown =>
    exact fun hknown => hfree.unknown (h.symm.known hstands hmay.1 hknown)

/-- Different labels are free references at different bounds. -/
theorem FreeAt.eq_of_referenceTo (htree : IsTree (a.node root)) {up far : List T} {p q : Text × T}
    (hp : FreeAt a source root up p) (hq : FreeAt a source root far q)
    (h : referenceTo a p = referenceTo a q) : p = q := by
  simp only [referenceTo, Reference.mk.injEq] at h
  have heq := eq_of_same_bounds htree hp.stands hp.refers.1 hq.stands hq.refers.1
    ⟨h.2.1.symm, h.2.2.symm⟩
  exact Prod.ext h.1 (List.cons.inj heq).1

/-- What is read in the one order is read in the other. -/
theorem Reorders.exists_isRead (h : Reorders a b source source' root) {n : Node}
    (hread : IsRead source (a.node root) n) :
    ∃ up t, a.Stands root up t ∧ a.node t = n ∧ IsRead source' (b.node root) (b.node t) := by
  rcases hread with ⟨up, d, hd, hnamed, hkind, hchild⟩ | hdecl | ⟨up, hn, hmay⟩
  · rcases exists_stands hd with ⟨far, t, ht, rfl, rfl⟩
    rw [node_child?, Option.map_eq_some_iff] at hchild
    rcases hchild with ⟨k, hk, rfl⟩
    have ht' : b.Stands root far t := h.rearranges.stands ht
    refine ⟨_, k, ht.child (Labelled.mem_below_of_child? hk), rfl, Or.inl ⟨_, _, ht'.occurs, ?_⟩⟩
    rw [h.rearranges.named, h.rearranges.kind, node_child?, h.rearranges.child?, hk]
    exact ⟨hnamed, hkind, rfl⟩
  · rcases h.exists_isDeclaration hdecl with ⟨up, t, ht, hnode, hdecl'⟩
    exact ⟨up, t, ht, hnode, Or.inr (Or.inl hdecl')⟩
  · rcases exists_stands hn with ⟨far, t, ht, rfl, rfl⟩
    have ht' : b.Stands root far t := h.rearranges.stands ht
    exact ⟨far, t, ht, rfl, Or.inr (Or.inr ⟨_, ht'.occurs, mayRefer_reordered h.rearranges hmay⟩)⟩

theorem Reorders.legible (h : Reorders a b source source' root)
    (hlegible : Legible source (a.node root)) : Legible source' (b.node root) := by
  intro n hread
  rcases h.symm.exists_isRead hread with ⟨up, t, ht, rfl, hread'⟩
  rcases hlegible _ hread' with ⟨name, hname⟩
  have hsame := h.texts up t (h.rearranges.symm.stands ht) (Or.inl hread')
  exact ⟨name, hsame.trans hname⟩

/-! ## The result -/

theorem exists_labels {rs : List Reference} (h : ∀ r ∈ rs, IsFree source (a.node root) r) :
    ∃ found : List (Text × T), (∀ p ∈ found, ∃ up, FreeAt a source root up p) ∧
      rs = found.map (referenceTo a) := by
  induction rs with
  | nil => exact ⟨[], fun p hp => absurd hp List.not_mem_nil, rfl⟩
  | cons r rs ih =>
    rcases isFree_iff.1 (h r List.mem_cons_self) with ⟨up, p, hp, rfl⟩
    rcases ih fun r hr => h r (List.mem_cons_of_mem _ hr) with ⟨found, hfound, rfl⟩
    refine ⟨p :: found, fun q hq => ?_, rfl⟩
    rcases List.mem_cons.1 hq with rfl | hq
    · exact ⟨up, hp⟩
    · exact hfound q hq

theorem Reorders.sameFindings (h : Reorders a b source source' root) {rs rs' : List Reference}
    (hrs : freeReferences source (a.node root) = .ok rs)
    (hrs' : freeReferences source' (b.node root) = .ok rs') : SameFindings a b root rs rs' := by
  have hfree : ∀ r, r ∈ rs ↔ IsFree source (a.node root) r := fun _ => mem_freeReferences h.tree hrs
  have hnodup : rs.Nodup :=
    (starts_differ h.tree hrs).imp fun hne heq => hne (congrArg Reference.start heq)
  have hnodup' : rs'.Nodup :=
    (starts_differ h.tree' hrs').imp fun hne heq => hne (congrArg Reference.start heq)
  rcases exists_labels fun r hr => (hfree r).1 hr with ⟨found, hfound, rfl⟩
  -- the labels that are found are the same for both trees, and no two have the same bounds
  have hinjective : (found.map (referenceTo b)).Nodup := by
    refine (hnodup.of_map _).map_on fun p hp q hq heq => ?_
    rcases hfound p hp with ⟨up, hup⟩
    rcases hfound q hq with ⟨far, hfar⟩
    exact (h.freeAt hup).eq_of_referenceTo h.tree' (h.freeAt hfar) heq
  have hperm : rs'.Perm (found.map (referenceTo b)) := by
    refine (List.perm_ext_iff_of_nodup hnodup' hinjective).2 fun r => ?_
    rw [mem_freeReferences h.tree' hrs', isFree_iff, List.mem_map]
    constructor
    · rintro ⟨up, p, hp, rfl⟩
      have hp' : FreeAt a source root up p := h.symm.freeAt hp
      have hmem := (hfree _).2 (isFree_iff.2 ⟨up, p, hp', rfl⟩)
      rcases List.mem_map.1 hmem with ⟨q, hq, heq⟩
      rcases hfound q hq with ⟨far, hfar⟩
      rw [hfar.eq_of_referenceTo h.tree hp' heq] at hq
      exact ⟨p, hq, rfl⟩
    · rintro ⟨p, hp, rfl⟩
      rcases hfound p hp with ⟨up, hup⟩
      exact ⟨up, p, h.freeAt hup, rfl⟩
  constructor
  · have hnames := hperm.map (·.name)
    rw [List.map_map] at hnames ⊢
    exact hnames
  · refine ⟨found, fun p hp => ?_, List.Perm.refl _, hperm⟩
    rcases hfound p hp with ⟨up, hup⟩
    exact ⟨up, hup.stands⟩

/-- If statements change their places, the search ends as before and finds the same names, each at
the new place of its reference. -/
theorem freeReferences_reordered (h : Reorders a b source source' root) :
    ((∃ rs', freeReferences source' (b.node root) = .ok rs') ↔
      ∃ rs, freeReferences source (a.node root) = .ok rs) ∧
    ∀ rs rs', freeReferences source (a.node root) = .ok rs →
      freeReferences source' (b.node root) = .ok rs' → SameFindings a b root rs rs' := by
  refine ⟨?_, fun rs rs' hrs hrs' => h.sameFindings hrs hrs'⟩
  rw [exists_freeReferences_iff, exists_freeReferences_iff]
  exact ⟨h.symm.legible, h.legible⟩

end

/-! ## A use before and behind its declaration -/

/-- The parts of a program with the statements `y;`, `var y;` and `x;`. -/
inductive Part where
  | use
  | used
  | useEnd
  | declaration
  | keyword
  | declarator
  | declared
  | declarationEnd
  | free
  | freed
  | freeEnd

/-- A name of one letter. -/
def nameAt (start : Nat) (role : Option String) : Node :=
  { kind := "identifier", named := true, start, stop := start + 1, role }

def semicolonAt (start : Nat) : Node := { kind := ";", named := false, start, stop := start + 1 }

/-- A statement of a name of one letter. -/
def expressionAt (start : Nat) : Node where
  kind := "expression_statement"
  named := true
  start
  stop := start + 2
  children := [nameAt start none, semicolonAt (start + 1)]

def declaratorAt (start : Nat) : Node where
  kind := "variable_declarator"
  named := true
  start
  stop := start + 1
  children := [nameAt start (some "name")]

def varAt (start : Nat) : Node := { kind := "var", named := false, start, stop := start + 3 }

/-- The declaration of a variable of one letter. -/
def declarationAt (start : Nat) : Node where
  kind := "variable_declaration"
  named := true
  start
  stop := start + 6
  children := [varAt start, declaratorAt (start + 4), semicolonAt (start + 5)]

/-- The node of a part, given where the three statements start. -/
def partAt (use declaration free : Nat) : Part → Node
  | .use => expressionAt use
  | .used => nameAt use none
  | .useEnd => semicolonAt (use + 1)
  | .declaration => declarationAt declaration
  | .keyword => varAt declaration
  | .declarator => declaratorAt (declaration + 4)
  | .declared => nameAt (declaration + 4) (some "name")
  | .declarationEnd => semicolonAt (declaration + 5)
  | .free => expressionAt free
  | .freed => nameAt free none
  | .freeEnd => semicolonAt (free + 1)

/-- The parts of a part. -/
def Part.below : Part → List Part
  | .use => [.used, .useEnd]
  | .declaration => [.keyword, .declarator, .declarationEnd]
  | .declarator => [.declared]
  | .free => [.freed, .freeEnd]
  | _ => []

/-- The program with its statements in that order, where the program itself has no part as its
label. -/
def programOf (use declaration free : Nat) (order : List Part) : Labelled (Option Part) where
  node
    | none =>
      { kind := "program", named := true, start := 0, stop := 10
        children := order.map (partAt use declaration free) }
    | some p => partAt use declaration free p
  below
    | none => order.map some
    | some p => p.below.map some
  children t := by
    cases t with
    | none => simp
    | some p => cases p <;> rfl

/-- The bytes of `y;var y;x;`. -/
def useFirst : ByteArray := Text.toBytes (lit "y;var y;x;").encode

def useFirstTree : Labelled (Option Part) := programOf 0 2 8 [.use, .declaration, .free]

/-- The bytes of `var y;x;y;`. -/
def useLast : ByteArray := Text.toBytes (lit "var y;x;y;").encode

def useLastTree : Labelled (Option Part) := programOf 8 0 6 [.declaration, .free, .use]

/-- Where there is no loop over a collection and only identifiers are declared, only identifiers are
read. -/
theorem isIdentifier_of_isRead {source : ByteArray} {root n : Node} {ds : List Declaration}
    (hds : declarations source [] root = .ok ds)
    (hloops : ∀ up d, root.Occurs up d → d.kind ≠ "for_in_statement")
    (hsites : ∀ k ∈ ds.filterMap (·.site), k.kind = "identifier") (h : IsRead source root n) :
    IsIdentifier n := by
  rcases h with ⟨up, d, hd, -, hkind, -⟩ | hdecl | ⟨up, -, hmay⟩
  · exact absurd hkind (hloops up d hd)
  · exact Or.inl (hsites _ ((mem_sites hds).2 ⟨n, hdecl, rfl⟩))
  · exact hmay.1

theorem rearranges_useFirst : Rearranges useFirstTree useLastTree := by
  have hparts : ∀ p, (useLastTree.node (some p)).kind = (useFirstTree.node (some p)).kind ∧
      (useLastTree.node (some p)).named = (useFirstTree.node (some p)).named ∧
      (useLastTree.node (some p)).role = (useFirstTree.node (some p)).role := by
    intro p
    cases p <;> exact ⟨rfl, rfl, rfl⟩
  constructor
  case kind =>
    rintro (_ | p)
    · rfl
    · exact (hparts p).1
  case named =>
    rintro (_ | p)
    · rfl
    · exact (hparts p).2.1
  case role =>
    rintro (_ | p)
    · rfl
    · exact (hparts p).2.2
  case order =>
    rintro (_ | p)
    · exact Or.inr ⟨Or.inl rfl, (List.perm_append_comm : ([_, _] ++ [_]).Perm _), fun _ => rfl⟩
    · exact Or.inl rfl

/-- The use is put behind the declaration. -/
theorem reorders_useFirst : Reorders useFirstTree useLastTree useFirst useLast none := by
  refine ⟨rearranges_useFirst, by decide, by decide, fun up t _ hread => ?_⟩
  have hfirst : declarations useFirst [] (useFirstTree.node none) =
      .ok [⟨⟨0, 10, "program"⟩, lit "y", some ⟨6, 7, "identifier"⟩⟩] := rfl
  have hlast : declarations useLast [] (useLastTree.node none) =
      .ok [⟨⟨0, 10, "program"⟩, lit "y", some ⟨4, 5, "identifier"⟩⟩] := rfl
  have hid : IsIdentifier (useFirstTree.node t) := by
    rcases hread with hread | hread
    · exact isIdentifier_of_isRead hfirst (by decide) (by decide) hread
    · rw [← rearranges_useFirst.kind_iff IsIdentifier fun _ => Iff.rfl]
      exact isIdentifier_of_isRead hlast (by decide) (by decide) hread
  have htext : ∀ p, IsIdentifier (useFirstTree.node (some p)) → ∃ name,
      (useLastTree.node (some p)).text useLast = .ok name ∧
      (useFirstTree.node (some p)).text useFirst = .ok name := by
    intro p hp
    cases p with
    | used => exact ⟨lit "y", rfl, rfl⟩
    | declared => exact ⟨lit "y", rfl, rfl⟩
    | freed => exact ⟨lit "x", rfl, rfl⟩
    | _ => exact absurd hp (by decide)
  rcases t with _ | p
  · exact absurd hid (by decide)
  · rcases htext p hid with ⟨name, hafter, hbefore⟩
    rw [hafter, hbefore]

/-- In both orders, `x` is found at its place and `y` is not. -/
theorem sameFindings_useFirst : ∃ rs rs',
    (Script.ofSource useFirst).root = useFirstTree.node none ∧
    (Script.ofSource useLast).root = useLastTree.node none ∧
    freeReferences useFirst (useFirstTree.node none) = .ok rs ∧
    freeReferences useLast (useLastTree.node none) = .ok rs' ∧
    rs = [⟨lit "x", 8, 9⟩] ∧ SameFindings useFirstTree useLastTree none rs rs' := by
  have hrs : freeReferences useFirst (useFirstTree.node none) = .ok [⟨lit "x", 8, 9⟩] :=
    freeReferences_eq_ok.2 ⟨_, [⟨lit "x", 8, 9⟩], rfl, rfl, (List.mergeSort_singleton _).symm⟩
  rcases freeReferences_reordered reorders_useFirst with ⟨hends, hsame⟩
  rcases hends.2 ⟨_, hrs⟩ with ⟨rs', hrs'⟩
  exact ⟨_, rs', by decide +kernel, by decide +kernel, hrs, hrs', rfl, hsame _ _ hrs hrs'⟩

end ScriptDeps.Scope

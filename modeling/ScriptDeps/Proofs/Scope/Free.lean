import ScriptDeps.Proofs.Scope.Table
import ScriptDeps.Proofs.Sorting

namespace ScriptDeps.Scope

open Syntax (Node TextError)
open Text (lit before)

/-! # Free references

The references that are found in the tree of a program are its free references. The table of
declarations knows nodes by their keys only, and different nodes may have the same key; but nodes
with the key of a node around an identifier cover the identifier, so that they are themselves around
it. Main statements:

* `known_iff`: the scopes kept during the walk know a name if a node around the place declares it;
* `mem_references`: the walk finds the free references;
* `mergeSort_in_order`: sorting by name keeps the document order of the references to one name;
* `freeReferences_exact`: the result as a whole.
-/

/-! ## What a free reference is -/

/-- The node is an identifier, by its kind. -/
def IsIdentifier (n : Node) : Prop :=
  n.kind = "identifier" ∨ n.kind = "shorthand_property_identifier" ∨
    n.kind = "shorthand_property_identifier_pattern"

/-- Identifiers below the node name exports or members of other modules. -/
def IsForeign (n : Node) : Prop :=
  n.kind = "import_specifier" ∨ n.kind = "export_specifier" ∨ n.kind = "namespace_export"

/-- The node is a tag of an element in markup. -/
def IsTag (n : Node) : Prop :=
  n.kind = "jsx_opening_element" ∨ n.kind = "jsx_closing_element" ∨
    n.kind = "jsx_self_closing_element"

/-- The node is a function in which `arguments` is known. -/
def KnowsArguments (n : Node) : Prop :=
  n.named = true ∧ IsFunction n ∧ n.kind ≠ "arrow_function"

/-- A node around the place makes the name known. -/
def Known (source : ByteArray) (root : Node) (up : List Node) (name : Text) : Prop :=
  (∃ scope, scope <:+ up ∧ DeclaredIn source root scope name) ∨
    name = lit "arguments" ∧ ∃ a ∈ up, KnowsArguments a

/-- The name of an element of the language itself, in a tag. -/
def IsElementName (parent : Option Node) (name : Text) : Prop :=
  startsLowercase name = true ∧ ∃ p, parent = some p ∧ IsTag p

/-- The identifier could refer to something. -/
def MayRefer (parent : Option Node) (n : Node) : Prop :=
  IsIdentifier n ∧ ∀ p, parent = some p → ¬ IsForeign p

/-- The tree has a free reference. -/
def IsFree (source : ByteArray) (root : Node) (r : Reference) : Prop :=
  ∃ up n, root.Occurs up n ∧ MayRefer up.head? n ∧ ¬ IsDeclaration source root n ∧
    n.text source = .ok r.name ∧ r.name ≠ lit "undefined" ∧ ¬ IsElementName up.head? r.name ∧
    ¬ Known source root up r.name ∧ r.start = n.start ∧ r.stop = n.stop

/-- The tree of a program, as the parser builds it. -/
structure IsTree (root : Node) : Prop where
  program : IsProgram root
  nested : root.SpansNest
  leaf : ∀ up n, root.Occurs up n → IsIdentifier n → n.children = [] ∧ n.start < n.stop

instance (n : Node) : Decidable (IsIdentifier n) := by
  unfold IsIdentifier
  infer_instance

instance (n : Node) : Decidable (IsProgram n) := by
  unfold IsProgram
  infer_instance

theorem isTree_iff {root : Node} :
    (IsProgram root ∧ root.SpansNest ∧
      ∀ up n, root.Occurs up n → IsIdentifier n → n.children = [] ∧ n.start < n.stop) ↔
    IsTree root := by
  constructor
  · rintro ⟨hprogram, hnested, hleaf⟩
    exact ⟨hprogram, hnested, hleaf⟩
  · intro h
    exact ⟨h.program, h.nested, h.leaf⟩

instance (root : Node) : Decidable (IsTree root) :=
  decidable_of_iff _ isTree_iff

/-! ## Keys -/

section

variable {source : ByteArray} {root : Node} {ds : List Declaration}

/-- Around an identifier, there are no identifiers. -/
theorem not_identifier_around {n a : Node} {up ws : List Node} (h : IsTree root)
    (hn : root.Occurs up n) (ha : a :: ws <:+ up) : ¬ IsIdentifier a := by
  intro hid
  have hbelow : a :: ws <:+ n :: up := ha.trans (List.suffix_cons n up)
  obtain ⟨leaf, -⟩ := h.leaf ws a (hn.of_suffix hbelow) hid
  have heq : n :: up = a :: ws := hn.eq_of_leaf leaf hbelow
  have hle : (a :: ws).length ≤ up.length := ha.length_le
  rw [← heq, List.length_cons] at hle
  omega

/-- A node with the key of one around an identifier is around the identifier, too. -/
theorem suffix_of_same_key {n a s : Node} {up far ws : List Node} (h : IsTree root)
    (hn : root.Occurs up n) (hid : IsIdentifier n) (ha : a :: ws <:+ up)
    (hs : root.Occurs far s) (hkey : Key.of s = Key.of a) : s :: far <:+ up := by
  obtain ⟨leaf, nonempty⟩ := h.leaf up n hn hid
  have hcovers := h.nested.covers hn (ha.trans (List.suffix_cons n up))
  simp only [Key.of, Key.mk.injEq] at hkey
  obtain ⟨hstart, hstop, hkind⟩ := hkey
  have hsuffix : s :: far <:+ n :: up := by
    refine Node.suffix_of_covers h.nested hn leaf nonempty hs ?_
    omega
  rcases List.suffix_cons_iff.1 hsuffix with heq | hsuffix
  · -- the identifier itself would have the kind of a node around it
    cases heq
    have hida : IsIdentifier a := by
      unfold IsIdentifier
      rw [← hkind]
      exact hid
    exact absurd hida (not_identifier_around h hn ha)
  · exact hsuffix

/-- Identifiers with the same span stand at the same place. -/
theorem eq_of_same_span {n i : Node} {up far : List Node} (h : IsTree root)
    (hn : root.Occurs up n) (hid : IsIdentifier n) (hi : root.Occurs far i)
    (hidi : IsIdentifier i) (hspan : i.start = n.start ∧ i.stop = n.stop) : i :: far = n :: up := by
  obtain ⟨leafn, nonempty⟩ := h.leaf up n hn hid
  obtain ⟨leafi, -⟩ := h.leaf far i hi hidi
  have hsuffix : i :: far <:+ n :: up := by
    refine Node.suffix_of_covers h.nested hn leafn nonempty hi ?_
    omega
  exact (hn.eq_of_leaf leafi hsuffix).symm

/-- Identifiers with the same key stand at the same place. -/
theorem eq_of_same_key {n i : Node} {up far : List Node} (h : IsTree root) (hn : root.Occurs up n)
    (hid : IsIdentifier n) (hi : root.Occurs far i) (hkey : Key.of i = Key.of n) :
    i :: far = n :: up := by
  simp only [Key.of, Key.mk.injEq] at hkey
  obtain ⟨hstart, hstop, hkind⟩ := hkey
  have hidi : IsIdentifier i := by
    unfold IsIdentifier
    rw [hkind]
    exact hid
  exact eq_of_same_span h hn hid hi hidi ⟨hstart, hstop⟩

/-- The table says of an identifier whether it is declared. -/
theorem mem_sites_iff {n : Node} {up : List Node} (h : IsTree root)
    (hds : declarations source [] root = .ok ds) (hn : root.Occurs up n) (hid : IsIdentifier n) :
    Key.of n ∈ ds.filterMap (·.site) ↔ IsDeclaration source root n := by
  rw [mem_sites hds]
  constructor
  · rintro ⟨i, hi, hkey⟩
    obtain ⟨far, hfar⟩ := hi.occurs
    have heq := eq_of_same_key h hn hid hfar hkey.symm
    cases heq
    exact hi
  · intro hi
    exact ⟨n, hi, rfl⟩

/-! ## Scopes around a place -/

theorem mem_argumentsKinds {n : Node} :
    (n.named && argumentsKinds.contains n.kind) = true ↔ KnowsArguments n := by
  simp only [KnowsArguments, IsFunction, IsDeclaredFunction, IsNamedExpression]
  rw [Bool.and_eq_true]
  apply and_congr_right
  intro _
  simp [argumentsKinds, functionScopeKinds, declaredFunctionKinds, functionExpressionKinds]
  grind

/-- What is kept of a node: that `arguments` is known in it, and the names that the table lists. -/
theorem exists_knows_iff {a : Node} {name : Text} :
    (∃ e, enclosing? ds a = some e ∧ e.knows name = true) ↔
      KnowsArguments a ∧ name = lit "arguments" ∨
        a.named = true ∧ ∃ x ∈ ds, x.scope = Key.of a ∧ x.name = name := by
  have hnames : name ∈ (ds.filter fun d => d.scope == Key.of a).map (·.name) ↔
      ∃ x ∈ ds, x.scope = Key.of a ∧ x.name = name := by
    simp [and_assoc]
  rw [← hnames, ← mem_argumentsKinds, enclosing?]
  generalize (ds.filter fun d => d.scope == Key.of a).map (·.name) = names
  constructor
  · rintro ⟨e, he, hknows⟩
    split at he
    · next hscope =>
      cases he
      rw [Bool.and_eq_true] at hscope
      simp only [Enclosing.knows, Bool.or_eq_true, Bool.and_eq_true, beq_iff_eq,
        List.contains_iff_mem] at hknows
      rcases hknows with ⟨harguments, hname⟩ | hmem
      · exact Or.inl ⟨by simp [hscope.1, harguments], hname⟩
      · exact Or.inr ⟨hscope.1, hmem⟩
    · cases he
  · intro h
    have hnamed : a.named = true := by
      rcases h with ⟨h, -⟩ | ⟨h, -⟩
      · exact (Bool.and_eq_true _ _ ▸ h).1
      · exact h
    -- nothing is kept of a node in which nothing is known
    have hscope : (argumentsKinds.contains a.kind || !names.isEmpty) = true := by
      rcases h with ⟨h, -⟩ | ⟨-, h⟩
      · rw [hnamed, Bool.true_and] at h
        rw [h]
        rfl
      · have hempty : names.isEmpty = false := List.isEmpty_eq_false_iff.2 (List.ne_nil_of_mem h)
        rw [hempty, Bool.not_false, Bool.or_true]
    refine ⟨⟨argumentsKinds.contains a.kind, names⟩, ?_, ?_⟩
    · rw [hnamed, hscope]
      rfl
    · simp only [Enclosing.knows, Bool.or_eq_true, Bool.and_eq_true, beq_iff_eq,
        List.contains_iff_mem]
      rcases h with ⟨h, hname⟩ | ⟨-, h⟩
      · rw [hnamed, Bool.true_and] at h
        exact Or.inl ⟨List.contains_iff_mem.1 h, hname⟩
      · exact Or.inr h

/-- The scopes that the walk keeps know a name if a node around the place makes it known. -/
theorem known_iff {n : Node} {up : List Node} {name : Text} (h : IsTree root)
    (hds : declarations source [] root = .ok ds) (hn : root.Occurs up n) (hid : IsIdentifier n) :
    (up.filterMap (enclosing? ds)).any (·.knows name) = true ↔ Known source root up name := by
  have hany : (up.filterMap (enclosing? ds)).any (·.knows name) = true ↔
      ∃ a ∈ up, ∃ e, enclosing? ds a = some e ∧ e.knows name = true := by
    simp only [List.any_eq_true, List.mem_filterMap]
    grind
  rw [hany]
  simp only [exists_knows_iff]
  constructor
  · rintro ⟨a, ha, ⟨harguments, hname⟩ | ⟨-, x, hx, hkey, rfl⟩⟩
    · exact Or.inr ⟨hname, a, ha, harguments⟩
    · -- the table has the key of a node around the place, but perhaps for another node
      obtain ⟨s, far, hdecl, hscope⟩ := exists_scope_of_mem hds hx
      obtain ⟨ws, vs, rfl⟩ := List.append_of_mem ha
      have hup : a :: vs <:+ ws ++ a :: vs := List.suffix_append ws (a :: vs)
      have haround := suffix_of_same_key h hn hid hup hdecl.occurs (hscope.symm.trans hkey)
      exact Or.inl ⟨s :: far, haround, hdecl⟩
  · rintro (⟨scope, hscope, hdecl⟩ | ⟨hname, a, ha, harguments⟩)
    · obtain ⟨s, far, rfl⟩ := hdecl.eq_cons
      have hs : s ∈ up := hscope.subset List.mem_cons_self
      exact ⟨s, hs, Or.inr ⟨hdecl.head_named h.program, mem_of_declaredIn hds hdecl⟩⟩
    · exact ⟨a, ha, Or.inl ⟨harguments, hname⟩⟩

/-! ## The reference at a place -/

theorem contains_identifierKinds {n : Node} :
    identifierKinds.contains n.kind = true ↔ IsIdentifier n := by
  simp [identifierKinds, IsIdentifier]

theorem contains_foreignParentKinds {n : Node} :
    foreignParentKinds.contains n.kind = true ↔ IsForeign n := by
  simp [foreignParentKinds, IsForeign]

theorem contains_tagKinds {n : Node} : tagKinds.contains n.kind = true ↔ IsTag n := by
  simp [tagKinds, IsTag]

theorem mayRefer_iff {declaring : List Key} {parent : Option Node} {n : Node} :
    MayRefer parent n ∧ Key.of n ∉ declaring ↔
      (!identifierKinds.contains n.kind || declaring.contains (Key.of n)) = false ∧
        ∀ p, parent = some p → foreignParentKinds.contains p.kind = false := by
  have hforeign : ∀ p : Node, foreignParentKinds.contains p.kind = false ↔ ¬ IsForeign p := by
    intro p
    rw [← contains_foreignParentKinds, Bool.not_eq_true]
  rw [Bool.or_eq_false_iff, Bool.not_eq_false', contains_identifierKinds, ← Bool.not_eq_true,
    List.contains_iff_mem]
  simp only [hforeign, MayRefer]
  constructor
  · rintro ⟨⟨hid, hp⟩, hdecl⟩
    exact ⟨⟨hid, hdecl⟩, hp⟩
  · rintro ⟨⟨hid, hdecl⟩, hp⟩
    exact ⟨⟨hid, hp⟩, hdecl⟩

/-- What is no identifier, or declares a name, or names something foreign, is passed over. -/
theorem referenceAt_of_not {declaring : List Key} {scopes : List Enclosing} {parent : Option Node}
    {n : Node} (h : ¬ (MayRefer parent n ∧ Key.of n ∉ declaring)) :
    referenceAt source declaring scopes parent n = .ok [] := by
  have hrefers : refers source declaring parent n = .ok false := by
    rw [mayRefer_iff] at h
    unfold refers
    cases hpass : !identifierKinds.contains n.kind || declaring.contains (Key.of n) with
    | true => rfl
    | false =>
      cases parent with
      | none =>
        refine absurd ⟨hpass, ?_⟩ h
        intro p hp
        cases hp
      | some p =>
        cases hforeign : foreignParentKinds.contains p.kind with
        | true =>
          simp only [hforeign]
          rfl
        | false =>
          refine absurd ⟨hpass, ?_⟩ h
          rintro q ⟨⟩
          exact hforeign
  unfold referenceAt
  rw [hrefers]
  rfl

/-- At an identifier that may refer to something, the name is read. -/
theorem referenceAt_of_mayRefer {declaring : List Key} {scopes : List Enclosing}
    {parent : Option Node} {n : Node} (h : MayRefer parent n ∧ Key.of n ∉ declaring) :
    referenceAt source declaring scopes parent n = (n.text source).map fun name =>
      if (startsLowercase name && parent.any fun p => tagKinds.contains p.kind) ∨
          name = everywhere ∨ scopes.any (·.knows name) then []
      else [⟨name, n.start, n.stop⟩] := by
  obtain ⟨hpass, hforeign⟩ := mayRefer_iff.1 h
  -- only the name of an element is read to see whether it refers to something
  have hrefers : refers source declaring parent n =
      if parent.any fun p => tagKinds.contains p.kind then
        (n.text source).map fun name => !startsLowercase name
      else .ok true := by
    unfold refers
    rw [hpass]
    cases parent with
    | none => rfl
    | some p =>
      simp only [hforeign p rfl, Option.any_some]
      cases n.text source with
      | error e => rfl
      | ok name => rfl
  unfold referenceAt
  rw [hrefers]
  cases parent.any fun p => tagKinds.contains p.kind with
  | false =>
    cases n.text source with
    | error e => rfl
    | ok name =>
      simp only [Bool.and_false, Bool.false_eq_true, false_or]
      exact (apply_ite Except.ok _ _ _).symm
  | true =>
    cases n.text source with
    | error e => rfl
    | ok name =>
      simp only [Bool.and_true, if_true, Except.map, bind, Except.bind]
      cases startsLowercase name with
      | true => rfl
      | false =>
        simp only [Bool.false_eq_true, false_or]
        exact (apply_ite Except.ok _ _ _).symm

/-- The name at a place that may refer to something counts unless it is the name of an element or
known. -/
theorem mem_referenceAt {declaring : List Key} {scopes : List Enclosing} {parent : Option Node}
    {n : Node} {rs : List Reference} {r : Reference}
    (h : referenceAt source declaring scopes parent n = .ok rs) :
    r ∈ rs ↔ MayRefer parent n ∧ Key.of n ∉ declaring ∧ n.text source = .ok r.name ∧
      r.name ≠ everywhere ∧ ¬ IsElementName parent r.name ∧
      ¬ scopes.any (·.knows r.name) = true ∧ r.start = n.start ∧ r.stop = n.stop := by
  have helement : ∀ name, (startsLowercase name && parent.any fun p => tagKinds.contains p.kind) =
      true ↔ IsElementName parent name := by
    intro name
    simp only [IsElementName, Bool.and_eq_true, Option.any_eq_true, contains_tagKinds]
  by_cases hrefer : MayRefer parent n ∧ Key.of n ∉ declaring
  · rw [referenceAt_of_mayRefer hrefer] at h
    cases ht : n.text source with
    | error e =>
      rw [ht] at h
      cases h
    | ok name =>
      rw [ht] at h
      cases h
      dsimp only
      obtain ⟨hmay, hdecl⟩ := hrefer
      constructor
      · intro hr
        split at hr
        · exact absurd hr List.not_mem_nil
        · next hcounts =>
          rw [List.mem_singleton.1 hr]
          obtain ⟨hname, hever, hknown⟩ := not_or.1 hcounts |>.imp_right not_or.1
          exact ⟨hmay, hdecl, rfl, hever, mt (helement name).2 hname, hknown, rfl, rfl⟩
      · rintro ⟨-, -, heq, hever, hname, hknown, hstart, hstop⟩
        cases heq
        have hcounts := not_or.2 ⟨mt (helement r.name).1 hname, not_or.2 ⟨hever, hknown⟩⟩
        rw [if_neg hcounts, List.mem_singleton, ← hstart, ← hstop]
  · rw [referenceAt_of_not hrefer] at h
    cases h
    constructor
    · exact fun hr => absurd hr List.not_mem_nil
    · rintro ⟨hmay, hdecl, -⟩
      exact absurd ⟨hmay, hdecl⟩ hrefer

theorem referenceAt_fails {declaring : List Key} {scopes : List Enclosing} {parent : Option Node}
    {n : Node} :
    (∃ e, referenceAt source declaring scopes parent n = .error e) ↔
      MayRefer parent n ∧ Key.of n ∉ declaring ∧ ∃ e, n.text source = .error e := by
  by_cases h : MayRefer parent n ∧ Key.of n ∉ declaring
  · rw [referenceAt_of_mayRefer h]
    cases n.text source with
    | error e => simp [Except.map, h]
    | ok name => simp [Except.map]
  · rw [referenceAt_of_not h]
    constructor
    · rintro ⟨e, he⟩
      cases he
    · rintro ⟨hrefer, hdecl, -⟩
      exact absurd ⟨hrefer, hdecl⟩ h

/-! ## The walk -/

theorem referencesAmong_eq_gather {declaring : List Key} {scopes : List Enclosing} {p : Node}
    (ns : List Node) :
    referencesAmong source ds declaring scopes p ns =
      gather (references source ds declaring scopes (some p)) ns := by
  induction ns with
  | nil => rfl
  | cons n rest ih => rw [referencesAmong, gather, ih]

/-- The walk gathers the references at all places of a tree. -/
theorem references_eq_gather (declaring : List Key) (root : Node) :
    references source ds declaring [] none root =
      gather (fun p => referenceAt source declaring (p.1.filterMap (enclosing? ds)) p.1.head? p.2)
        (Node.places [] root) := by
  refine Node.walk_eq_gather
    (fun up n => references source ds declaring (up.filterMap (enclosing? ds)) up.head? n)
    (fun up n => referenceAt source declaring (up.filterMap (enclosing? ds)) up.head? n)
    (fun up n => ?_) [] root
  have hscopes : (enclosing? ds n).toList ++ up.filterMap (enclosing? ds) =
      (n :: up).filterMap (enclosing? ds) := by
    rw [List.filterMap_cons]
    cases enclosing? ds n with
    | none => rfl
    | some e => rfl
  cases n
  rw [references, referencesAmong_eq_gather, hscopes]
  rfl

variable {found : List Reference}

/-- The walk finds the free references. -/
theorem mem_references (h : IsTree root) (hds : declarations source [] root = .ok ds)
    (hfound : references source ds (ds.filterMap (·.site)) [] none root = .ok found)
    {r : Reference} : r ∈ found ↔ IsFree source root r := by
  rw [references_eq_gather] at hfound
  rw [mem_gather hfound]
  constructor
  · rintro ⟨⟨up, n⟩, hp, rs, hrs, hr⟩
    have hocc := Node.mem_places_root.1 hp
    obtain ⟨hmay, hdecl, ht, hever, helement, hknown, hspan⟩ := (mem_referenceAt hrs).1 hr
    rw [mem_sites_iff h hds hocc hmay.1] at hdecl
    rw [known_iff h hds hocc hmay.1] at hknown
    exact ⟨up, n, hocc, hmay, hdecl, ht, hever, helement, hknown, hspan⟩
  · rintro ⟨up, n, hocc, hmay, hdecl, ht, hever, helement, hknown, hspan⟩
    rw [← mem_sites_iff h hds hocc hmay.1] at hdecl
    rw [← known_iff h hds hocc hmay.1] at hknown
    obtain ⟨rs, hrs⟩ : ∃ rs, referenceAt source (ds.filterMap (·.site))
        (up.filterMap (enclosing? ds)) up.head? n = .ok rs := by
      refine exists_ok_iff.2 fun hfails => ?_
      obtain ⟨-, -, hunread⟩ := referenceAt_fails.1 hfails
      exact exists_ok_iff.1 ⟨r.name, ht⟩ hunread
    refine ⟨(up, n), Node.mem_places_root.2 hocc, rs, hrs, ?_⟩
    exact (mem_referenceAt hrs).2 ⟨hmay, hdecl, ht, hever, helement, hknown, hspan⟩

/-- At most one reference stands at a place. -/
theorem referenceAt_pairwise {declaring : List Key} {scopes : List Enclosing}
    {parent : Option Node} {n : Node}
    (hrs : referenceAt source declaring scopes parent n = .ok found) :
    found.Pairwise fun a b => a.start < b.start := by
  by_cases hrefer : MayRefer parent n ∧ Key.of n ∉ declaring
  · rw [referenceAt_of_mayRefer hrefer] at hrs
    cases ht : n.text source with
    | error e =>
      rw [ht] at hrs
      cases hrs
    | ok name =>
      rw [ht] at hrs
      cases hrs
      dsimp only
      split
      · exact List.Pairwise.nil
      · exact List.pairwise_singleton _ _
  · rw [referenceAt_of_not hrefer] at hrs
    cases hrs
    exact List.Pairwise.nil

/-- The walk finds the references in the order of their places. -/
theorem references_in_order {declaring : List Key} (h : IsTree root)
    (hfound : references source ds declaring [] none root = .ok found) :
    found.Pairwise fun a b => a.start < b.start := by
  rw [references_eq_gather] at hfound
  refine pairwise_gather hfound ?_ ?_
  · rintro ⟨up, n⟩ - rs hrs
    exact referenceAt_pairwise hrs
  · refine (Node.places_in_order h.nested).imp_of_mem ?_
    rintro ⟨up, n⟩ ⟨far, m⟩ hn hm horder rs rs' hrs hrs' a ha b hb
    obtain ⟨hmayn, -, -, -, -, -, hstart, -⟩ := (mem_referenceAt hrs).1 ha
    obtain ⟨hmaym, -, -, -, -, -, hstart', -⟩ := (mem_referenceAt hrs').1 hb
    have hoccn := Node.mem_places_root.1 hn
    have hoccm := Node.mem_places_root.1 hm
    obtain ⟨-, nonempty⟩ := h.leaf up n hoccn hmayn.1
    rcases horder with hsuffix | hapart
    · exact absurd hmayn.1 (not_identifier_around h hoccm hsuffix)
    · rw [hstart, hstart']
      exact Nat.lt_of_lt_of_le nonempty hapart

theorem references_fails {declaring : List Key} :
    (∃ e, references source ds declaring [] none root = .error e) ↔
      ∃ up n, root.Occurs up n ∧ MayRefer up.head? n ∧ Key.of n ∉ declaring ∧
        ∃ e, n.text source = .error e := by
  rw [references_eq_gather, gather_fails]
  constructor
  · rintro ⟨⟨up, n⟩, hp, hfails⟩
    exact ⟨up, n, Node.mem_places_root.1 hp, referenceAt_fails.1 hfails⟩
  · rintro ⟨up, n, hocc, hfails⟩
    exact ⟨(up, n), Node.mem_places_root.2 hocc, referenceAt_fails.2 hfails⟩

/-! ## The order of the result -/

/-- References to one name stay in document order when they are sorted by name. -/
theorem mergeSort_in_order (h : found.Pairwise fun a b => a.start < b.start) :
    (found.mergeSort fun a b => !before b.name a.name).Pairwise fun a b =>
      before a.name b.name = true ∨ a.name = b.name ∧ a.start < b.start := by
  have htrans : ∀ a b c : Reference, (!before b.name a.name) = true →
      (!before c.name b.name) = true → (!before c.name a.name) = true :=
    fun _ _ _ => Text.orders_before.not_lt_trans
  have htotal : ∀ a b : Reference, ((!before b.name a.name) || !before a.name b.name) = true :=
    fun a b => Text.orders_before.not_lt_total a.name b.name
  have hsorted := List.pairwise_mergeSort htrans htotal found
  refine List.pairwise_iff_forall_sublist.2 fun {a b} hab => ?_
  have hle := List.pairwise_iff_forall_sublist.1 hsorted hab
  rw [Bool.not_eq_true'] at hle
  by_cases hlt : before a.name b.name = true
  · exact Or.inl hlt
  have hname : a.name = b.name := Text.eq_of_not_before (Bool.eq_false_iff.2 hlt) hle
  refine Or.inr ⟨hname, ?_⟩
  -- the references to the name are a sorted part of the list, so that sorting leaves them alone
  have hsame : (found.filter fun r => r.name == a.name).Pairwise fun x y =>
      (!before y.name x.name) = true := by
    refine List.pairwise_of_forall_mem_list fun x hx y hy => ?_
    rw [beq_iff_eq.1 (List.mem_filter.1 hx).2, beq_iff_eq.1 (List.mem_filter.1 hy).2,
      Text.before_irrefl]
    rfl
  have hpart := (List.sublist_mergeSort htrans htotal hsame List.filter_sublist).filter
    fun r => r.name == a.name
  simp only [List.filter_filter, Bool.and_self] at hpart
  have hlength := ((List.mergeSort_perm found fun a b => !before b.name a.name).filter
    fun r => r.name == a.name).length_eq
  have heq := hpart.eq_of_length hlength.symm
  have hpair : [a, b].filter (fun r => r.name == a.name) = [a, b] := by simp [hname]
  have hab := hab.filter fun r => r.name == a.name
  rw [hpair, ← heq] at hab
  exact List.pairwise_iff_forall_sublist.1 h (hab.trans List.filter_sublist)

/-! ## The result -/

/-- The texts of these nodes are read. -/
def IsRead (source : ByteArray) (root n : Node) : Prop :=
  IsLoopKeyword root n ∨ IsDeclaration source root n ∨
    ∃ up, root.Occurs up n ∧ MayRefer up.head? n

/-- What is read stands in the tree. -/
theorem IsRead.occurs {n : Node} (h : IsRead source root n) : ∃ up, root.Occurs up n := by
  rcases h with ⟨up, d, hd, -, -, hk⟩ | hdecl | ⟨up, hn, -⟩
  · exact ⟨_, hd.trans (Node.occurs_child hk)⟩
  · exact hdecl.occurs
  · exact ⟨up, hn⟩

/-- All that is read is text. -/
def Legible (source : ByteArray) (root : Node) : Prop :=
  ∀ n, IsRead source root n → ∃ t, n.text source = .ok t

/-- One reference comes before another: by the name, and for one name by the place. -/
def Reference.Precedes (a b : Reference) : Prop :=
  before a.name b.name = true ∨ a.name = b.name ∧ a.start < b.start

theorem freeReferences_eq_ok {rs : List Reference} :
    freeReferences source root = .ok rs ↔
      ∃ ds found, declarations source [] root = .ok ds ∧
        references source ds (ds.filterMap (·.site)) [] none root = .ok found ∧
        rs = found.mergeSort fun a b => !before b.name a.name := by
  rw [freeReferences, andThen_ok_iff]
  constructor
  · rintro ⟨ds, hds, h⟩
    obtain ⟨found, hfound, h⟩ := andThen_ok_iff.1 h
    cases h
    exact ⟨ds, found, hds, hfound, rfl⟩
  · rintro ⟨ds, found, hds, hfound, rfl⟩
    exact ⟨ds, hds, andThen_ok_iff.2 ⟨found, hfound, rfl⟩⟩

/-- Nodes with the same key have the same text. -/
theorem text_of_same_key {n m : Node} (h : Key.of n = Key.of m) : n.text source = m.text source := by
  simp only [Key.of, Key.mk.injEq] at h
  rw [Node.text, Node.text, h.1, h.2.1]

/-- The search fails exactly if a text that is read is no text. -/
theorem freeReferences_fails :
    (∃ e, freeReferences source root = .error e) ↔
      ∃ n, IsRead source root n ∧ ∃ e, n.text source = .error e := by
  rw [freeReferences, andThen_fails_iff, declarations_fails]
  constructor
  · rintro (⟨i, hi, hfails⟩ | ⟨ds, hds, hfails⟩)
    · rcases hi with hkeyword | hdecl
      · exact ⟨i, Or.inl hkeyword, hfails⟩
      · exact ⟨i, Or.inr (Or.inl hdecl), hfails⟩
    · rcases andThen_fails_iff.1 hfails with hfails | ⟨found, -, e, he⟩
      · obtain ⟨up, n, hocc, hmay, -, ht⟩ := references_fails.1 hfails
        exact ⟨n, Or.inr (Or.inr ⟨up, hocc, hmay⟩), ht⟩
      · cases he
  · rintro ⟨n, hread, ht⟩
    cases hds : declarations source [] root with
    | error e => exact Or.inl (declarations_fails.1 ⟨e, hds⟩)
    | ok ds =>
      rcases hread with hkeyword | hdecl | ⟨up, hocc, hmay⟩
      · exact Or.inl ⟨n, Or.inl hkeyword, ht⟩
      · exact Or.inl ⟨n, Or.inr hdecl, ht⟩
      · by_cases hsite : Key.of n ∈ ds.filterMap (·.site)
        · -- an identifier with the same text is declared
          obtain ⟨i, hi, hkey⟩ := (mem_sites hds).1 hsite
          rw [text_of_same_key hkey] at ht
          exact Or.inl ⟨i, Or.inr hi, ht⟩
        · refine Or.inr ⟨ds, rfl, andThen_fails_iff.2 (Or.inl ?_)⟩
          exact references_fails.2 ⟨up, n, hocc, hmay, hsite, ht⟩

/-- No two references start at the same place. -/
theorem starts_differ (h : IsTree root) {rs : List Reference}
    (hrs : freeReferences source root = .ok rs) : rs.Pairwise fun a b => a.start ≠ b.start := by
  obtain ⟨ds, found, -, hfound, rfl⟩ := freeReferences_eq_ok.1 hrs
  have hdiffer : found.Pairwise fun a b => a.start ≠ b.start :=
    (references_in_order h hfound).imp Nat.ne_of_lt
  exact (List.mergeSort_perm found _).symm.pairwise hdiffer Ne.symm

/-- The references exist if all names are texts. -/
theorem exists_freeReferences_iff :
    (∃ rs, freeReferences source root = .ok rs) ↔ Legible source root := by
  rw [exists_ok_iff, freeReferences_fails]
  constructor
  · intro h n hread
    exact exists_ok_iff.2 fun hfails => h ⟨n, hread, hfails⟩
  · rintro hlegible ⟨n, hread, hfails⟩
    exact exists_ok_iff.1 (hlegible n hread) hfails

theorem mem_freeReferences (h : IsTree root) {rs : List Reference}
    (hrs : freeReferences source root = .ok rs) {r : Reference} :
    r ∈ rs ↔ IsFree source root r := by
  obtain ⟨ds, found, hds, hfound, rfl⟩ := freeReferences_eq_ok.1 hrs
  rw [List.mem_mergeSort, mem_references h hds hfound]

/-- For the tree of a program, the result exists if all texts can be read, it has exactly the free
references, and they stand in the order of names and, for one name, of places. -/
theorem freeReferences_exact (h : IsTree root) :
    ((∃ rs, freeReferences source root = .ok rs) ↔ Legible source root) ∧
    ∀ rs, freeReferences source root = .ok rs →
      (∀ r, r ∈ rs ↔ IsFree source root r) ∧ rs.Pairwise Reference.Precedes := by
  refine ⟨exists_freeReferences_iff, fun rs hrs => ⟨fun _ => mem_freeReferences h hrs, ?_⟩⟩
  obtain ⟨ds, found, -, hfound, rfl⟩ := freeReferences_eq_ok.1 hrs
  exact mergeSort_in_order (references_in_order h hfound)

/-- The bytes of `var x; y`. -/
def declaredAndFree : ByteArray := ⟨#[118, 97, 114, 32, 120, 59, 32, 121]⟩

/-- The tree of a program with a declared name and a free one. -/
def declaredAndFreeTree : Node where
  kind := "program"
  named := true
  start := 0
  stop := 8
  children := [
    { kind := "variable_declaration", named := true, start := 0, stop := 6, children := [
      { kind := "var", named := false, start := 0, stop := 3 },
      { kind := "variable_declarator", named := true, start := 4, stop := 5, children := [
        { kind := "identifier", named := true, start := 4, stop := 5, role := some "name" }] },
      { kind := ";", named := false, start := 5, stop := 6 }] },
    { kind := "expression_statement", named := true, start := 7, stop := 8, children := [
      { kind := "identifier", named := true, start := 7, stop := 8 }] }]

/-- In `var x; y` the name `y` is free and `x` is not. -/
theorem free_in_declaredAndFree :
    IsTree declaredAndFreeTree ∧
      IsFree declaredAndFree declaredAndFreeTree ⟨lit "y", 7, 8⟩ ∧
      ¬ IsFree declaredAndFree declaredAndFreeTree ⟨lit "x", 4, 5⟩ := by
  have htree : IsTree declaredAndFreeTree := by decide
  have hresult : freeReferences declaredAndFree declaredAndFreeTree = .ok [⟨lit "y", 7, 8⟩] := by
    refine freeReferences_eq_ok.2 ⟨_, [⟨lit "y", 7, 8⟩], rfl, rfl, ?_⟩
    rw [List.mergeSort_singleton]
  obtain ⟨hfree, -⟩ := (freeReferences_exact htree).2 _ hresult
  refine ⟨htree, (hfree _).1 List.mem_cons_self, fun hx => ?_⟩
  have hmem := (hfree _).2 hx
  revert hmem
  decide

end

end ScriptDeps.Scope

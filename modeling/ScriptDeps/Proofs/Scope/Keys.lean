import ScriptDeps.Proofs.Scope.Free

namespace ScriptDeps.Scope

open Syntax (Node TextError)
open Text (lit)

/-! # Keys

The table of declarations knows a node by its bounds and its kind. Nodes of one kind may have the
same bounds, but not the nodes that the table is asked about: an identifier has no nodes below it,
and a scope has two children that take up bytes, so that nothing below it fills it. Main statements:

* `key_ne_of_below` and `eq_of_key_eq`: identifiers and scopes have keys of their own;
* `token_key_ne`: no keyword has the key of a scope;
* `keys_identify`: what the table says of a key holds of the one node with that key.
-/

/-! ## Nodes with keys of their own -/

/-- The node is named and of a kind that names belong to: a function, a class, a block, a loop with
a head, a clause that catches, or the program. -/
def IsScope (n : Node) : Prop :=
  n.named = true ∧
    (HoldsLexical n ∨ n.kind = "class_declaration" ∨ n.kind = "class" ∨ n.kind = "catch_clause")

/-- The node is an identifier without children. -/
def IsIdentifierLeaf (n : Node) : Prop := IsIdentifier n ∧ n.children = []

/-- The node is one that the table is asked about. -/
def IsKeyed (n : Node) : Prop := IsIdentifierLeaf n ∨ IsScope n

/-- The node is a keyword or a punctuator. -/
def IsToken (n : Node) : Prop := n.named = false ∧ n.children = []

/-- The node takes up bytes. -/
def IsFilled (n : Node) : Prop := n.start < n.stop

instance (n : Node) : Decidable (IsFilled n) := by
  unfold IsFilled
  infer_instance

instance (n : Node) : Decidable (IsScope n) := by
  unfold IsScope HoldsLexical HoldsVariables IsFunction IsDeclaredFunction IsNamedExpression
  infer_instance

instance (n : Node) : Decidable (IsIdentifierLeaf n) := by
  unfold IsIdentifierLeaf
  infer_instance

instance (n : Node) : Decidable (IsKeyed n) := by
  unfold IsKeyed
  infer_instance

/-- At least two children take up bytes. -/
def HasTwoFilled (n : Node) : Prop := 2 ≤ (n.children.filter fun c => IsFilled c).length

/-- What is assumed of a tree: there is one program, spans are nested, identifiers without children
take up bytes, and so do two children of every scope but the program. -/
structure IsParted (root : Node) : Prop where
  nested : root.SpansNest
  program : IsProgram root
  alone : ∀ up n, root.Occurs up n → n.kind = "program" → up = []
  filled : ∀ up n, root.Occurs up n → IsIdentifierLeaf n → IsFilled n
  parted : ∀ up n, root.Occurs up n → IsScope n → n.kind ≠ "program" → HasTwoFilled n

instance (n : Node) : Decidable (HasTwoFilled n) := by
  unfold HasTwoFilled
  infer_instance

theorem isParted_iff {root : Node} :
    (root.SpansNest ∧ IsProgram root ∧
      (∀ up n, root.Occurs up n → n.kind = "program" → up = []) ∧
      (∀ up n, root.Occurs up n → IsIdentifierLeaf n → IsFilled n) ∧
      ∀ up n, root.Occurs up n → IsScope n → n.kind ≠ "program" → HasTwoFilled n) ↔
    IsParted root := by
  constructor
  · rintro ⟨hnested, hprogram, halone, hfilled, hparted⟩
    exact ⟨hnested, hprogram, halone, hfilled, hparted⟩
  · intro h
    exact ⟨h.nested, h.program, h.alone, h.filled, h.parted⟩

instance (root : Node) : Decidable (IsParted root) := decidable_of_iff _ isParted_iff

/-! ## Two filled children -/

/-- Two children that take up bytes, one before the other. -/
theorem HasTwoFilled.exists_pair {n : Node} (h : HasTwoFilled n) (hn : n.Nested) :
    ∃ a ∈ n.children, ∃ b ∈ n.children, IsFilled a ∧ IsFilled b ∧ a.stop ≤ b.start := by
  have hapart : (n.children.filter fun c => IsFilled c).Pairwise fun a b => a.stop ≤ b.start :=
    hn.apart.sublist List.filter_sublist
  have hmem : ∀ c ∈ n.children.filter fun c => IsFilled c, c ∈ n.children ∧ IsFilled c := by
    intro c hc
    simpa using hc
  rw [HasTwoFilled] at h
  generalize (n.children.filter fun c => IsFilled c) = filled at h hapart hmem
  match filled with
  | [] => exact absurd h (by decide)
  | [_] => exact absurd h (by simp)
  | a :: b :: rest =>
    obtain ⟨ha, hfilla⟩ := hmem a List.mem_cons_self
    obtain ⟨hb, hfillb⟩ := hmem b (List.mem_cons_of_mem a List.mem_cons_self)
    exact ⟨a, ha, b, hb, hfilla, hfillb, (List.pairwise_cons.1 hapart).1 b List.mem_cons_self⟩

/-- With two filled children, a node takes up bytes. -/
theorem HasTwoFilled.isFilled {n : Node} (h : HasTwoFilled n) (hn : n.Nested) : IsFilled n := by
  obtain ⟨a, ha, -, -, hfilled, -⟩ := h.exists_pair hn
  have hinside := hn.inside a ha
  unfold IsFilled at hfilled ⊢
  omega

/-- Two children of a node are the same, or their spans are apart. -/
theorem eq_or_apart {n c d : Node} (hn : n.Nested) (hc : c ∈ n.children) (hd : d ∈ n.children) :
    c = d ∨ c.stop ≤ d.start ∨ d.stop ≤ c.start := by
  have hall : n.children.Pairwise fun a b => a = b ∨ a.stop ≤ b.start ∨ b.stop ≤ a.start := by
    refine hn.apart.imp ?_
    intro a b hab
    exact Or.inr (Or.inl hab)
  have hflip : n.children.Pairwise
      (flip fun a b : Node => a = b ∨ a.stop ≤ b.start ∨ b.stop ≤ a.start) := by
    refine hn.apart.imp ?_
    intro a b hab
    exact Or.inr (Or.inr hab)
  refine hall.forall_of_forall_of_flip ?_ hflip hc hd
  intro a _
  exact Or.inl rfl

/-- With two filled children, no child has the span of the node. -/
theorem HasTwoFilled.not_fills {n c : Node} (h : HasTwoFilled n) (hn : n.Nested)
    (hc : c ∈ n.children) : ¬ (c.start = n.start ∧ c.stop = n.stop) := by
  rintro ⟨hstart, hstop⟩
  obtain ⟨a, ha, b, hb, hfilla, hfillb, hab⟩ := h.exists_pair hn
  have hina := hn.inside a ha
  have hinb := hn.inside b hb
  unfold IsFilled at hfilla hfillb
  -- the child is the first of the two, before it or behind it: it leaves out bytes of one of them
  rcases eq_or_apart hn hc ha with rfl | hca | hac
  · omega
  · omega
  · omega

/-! ## Keys of their own -/

section

variable {root n m : Node} {up far : List Node}

theorem key_eq_iff :
    Key.of n = Key.of m ↔ n.start = m.start ∧ n.stop = m.stop ∧ n.kind = m.kind := by
  simp only [Key.of, Key.mk.injEq]

theorem isIdentifier_of_kind_eq (h : n.kind = m.kind) (hm : IsIdentifier m) : IsIdentifier n := by
  unfold IsIdentifier at hm ⊢
  rw [h]
  exact hm

/-- A node with a key of its own takes up bytes, unless it is the program. -/
theorem IsParted.isFilled (h : IsParted root) (hn : root.Occurs up n) (hkeyed : IsKeyed n)
    (hkind : n.kind ≠ "program") : IsFilled n := by
  rcases hkeyed with hleaf | hscope
  · exact h.filled up n hn hleaf
  · exact (h.parted up n hn hscope hkind).isFilled (h.nested up n hn)

/-- Below a node with a key of its own, no node has this key. -/
theorem key_ne_of_below (h : IsParted root) (hn : root.Occurs up n) (hm : m :: far <:+ up)
    (hkeyed : IsKeyed m) : Key.of n ≠ Key.of m := by
  intro hkey
  obtain ⟨hstart, hstop, hkind⟩ := key_eq_iff.1 hkey
  have hbelow : m :: far <:+ n :: up := hm.trans (List.suffix_cons n up)
  have hoccurs : root.Occurs far m := hn.of_suffix hbelow
  obtain ⟨c, hc, -, ws, hws⟩ := hn.exists_child hm
  rcases hkeyed with ⟨-, hleaf⟩ | hscope
  · rw [hleaf] at hc
    exact absurd hc List.not_mem_nil
  · by_cases hprogram : m.kind = "program"
    · -- there is no other program
      have hnil := h.alone up n hn (hkind.trans hprogram)
      rw [hnil] at hm
      exact absurd (List.suffix_nil.1 hm) (List.cons_ne_nil m far)
    · -- what stands below a scope is within one of its children, none of which fills it
      have hnested := h.nested far m hoccurs
      have hinside := hnested.inside c hc
      have hchild := ((h.nested.below hoccurs).child hc).inside hws
      refine (h.parted far m hoccurs hscope hprogram).not_fills hnested hc ?_
      omega

/-- Two places whose spans are apart do not share a key. -/
theorem key_ne_of_apart (hfilled : IsFilled n) (h : n.stop ≤ m.start ∨ m.stop ≤ n.start) :
    Key.of n ≠ Key.of m := by
  intro hkey
  obtain ⟨hstart, hstop, -⟩ := key_eq_iff.1 hkey
  unfold IsFilled at hfilled
  omega

/-- Nodes with the same key, of which both should have one of their own, stand at one place. -/
theorem eq_of_key_eq (h : IsParted root) (hn : root.Occurs up n) (hm : root.Occurs far m)
    (hkeyn : IsKeyed n) (hkeym : IsKeyed m) (hkey : Key.of n = Key.of m) :
    n :: up = m :: far := by
  have hkind := (key_eq_iff.1 hkey).2.2
  by_cases hprogram : n.kind = "program"
  · have hup := h.alone up n hn hprogram
    have hfar := h.alone far m hm (hkind.symm.trans hprogram)
    subst hup hfar
    have hroots : [n].getLast? = [m].getLast? := hn.getLast?.trans hm.getLast?.symm
    simpa using hroots
  · have hfilled := h.isFilled hn hkeyn hprogram
    rcases Node.nested_or_apart h.nested hn hm with (hs | hs) | hapart
    · rcases List.suffix_cons_iff.1 hs with heq | hs
      · exact heq
      · exact absurd hkey.symm (key_ne_of_below h hm hs hkeyn)
    · rcases List.suffix_cons_iff.1 hs with heq | hs
      · exact heq.symm
      · exact absurd hkey (key_ne_of_below h hn hs hkeym)
    · exact absurd hkey (key_ne_of_apart hfilled hapart)

/-- No keyword has the key of a scope. -/
theorem token_key_ne (h : IsParted root) (hn : root.Occurs up n) (hm : root.Occurs far m)
    (htoken : IsToken n) (hscope : IsScope m) : Key.of n ≠ Key.of m := by
  intro hkey
  have hkind := (key_eq_iff.1 hkey).2.2
  obtain ⟨hnamed, hleaf⟩ := htoken
  by_cases hprogram : m.kind = "program"
  · -- the only program is named
    have hup := h.alone up n hn (hkind.trans hprogram)
    subst hup
    have hroot : n = root := by simpa using hn.getLast?
    rw [hroot, h.program.1] at hnamed
    cases hnamed
  · have hfilled := h.isFilled hm (Or.inr hscope) hprogram
    rcases Node.nested_or_apart h.nested hn hm with (hs | hs) | hapart
    · have heq := hm.eq_of_leaf hleaf hs
      cases heq
      rw [hscope.1] at hnamed
      cases hnamed
    · rcases List.suffix_cons_iff.1 hs with heq | hs
      · cases heq
        rw [hscope.1] at hnamed
        cases hnamed
      · exact key_ne_of_below h hn hs (Or.inr hscope) hkey
    · exact key_ne_of_apart hfilled hapart.symm hkey.symm

end

/-! ## All keys of a tree -/

/-- The keys of all nodes that should have one of their own, in document order. -/
def keys (root : Node) : List Key :=
  ((Node.places [] root).filter fun p => IsKeyed p.2).map fun p => Key.of p.2

/-- Only the root has no nodes around it. -/
theorem places_below (root : Node) : (Node.places [] root).Pairwise fun _ q => q.1 ≠ [] := by
  rw [Node.places_eq, List.pairwise_cons]
  have hbelow : ∀ q ∈ Node.placesAmong [root] root.children, q.1 ≠ [] := by
    rintro ⟨vs, m⟩ hq
    rw [Node.placesAmong_eq_flatMap, List.mem_flatMap] at hq
    obtain ⟨c, -, hq⟩ := hq
    obtain ⟨ws, -, rfl⟩ := Node.mem_places.1 hq
    exact List.append_ne_nil_of_right_ne_nil ws (List.cons_ne_nil root [])
  exact ⟨hbelow, List.pairwise_of_forall_mem_list fun _ _ q hq => hbelow q hq⟩

/-- Every such key belongs to one node only. -/
theorem nodup_keys {root : Node} (h : IsParted root) : (keys root).Nodup := by
  have hpairs := (Node.places_in_order h.nested).and (places_below root)
  rw [keys, List.Nodup, List.pairwise_map, List.pairwise_filter]
  refine hpairs.imp_of_mem ?_
  rintro ⟨up, n⟩ ⟨far, m⟩ hn hm ⟨horder, hbelow⟩ hkeyn hkeym
  have hn := Node.mem_places_root.1 hn
  have hm := Node.mem_places_root.1 hm
  -- of two places, the later one is below the other or starts where the other has ended
  rcases horder with hs | hle
  · exact (key_ne_of_below h hm hs (of_decide_eq_true hkeyn)).symm
  · by_cases hprogram : n.kind = "program"
    · intro hkey
      have hkind := (key_eq_iff.1 hkey).2.2
      exact hbelow (h.alone far m hm (hkind.symm.trans hprogram))
    · have hfilled := h.isFilled hn (of_decide_eq_true hkeyn) hprogram
      exact key_ne_of_apart hfilled (Or.inl hle)

/-! ## What the table says -/

/-- Below a program, names are declared in scopes only. -/
theorem Declares.head_isScope {source : ByteArray} {root : Node} {up far : List Node}
    {d s i : Node} (hocc : root.Occurs up d) (hroot : IsProgram root) (hd : d.named = true)
    (h : Declares source up d (s :: far) i) : IsScope s := by
  -- each way to declare a name names its scope: a node around, the node itself or the program
  have hprogram : ∀ {r : Node}, (d :: up).getLast? = some r → IsScope r := by
    intro r hr
    rw [hocc.getLast?] at hr
    cases hr
    exact ⟨hroot.1, Or.inl (Or.inl (Or.inr hroot.2))⟩
  have hvariables : Nearest HoldsVariables up d (s :: far) → IsScope s := by
    intro hnear
    cases hnear with
    | around _ _ hs => exact ⟨hs.1, Or.inl (Or.inl hs.2)⟩
    | outermost _ hr => exact hprogram hr
  have hlexical : Nearest HoldsLexical up d (s :: far) → IsScope s := by
    intro hnear
    cases hnear with
    | around _ _ hs => exact ⟨hs.1, Or.inl hs.2⟩
    | outermost _ hr => exact hprogram hr
  cases h with
  | variableName _ _ hnear => exact hvariables hnear
  | lexicalName _ _ hnear => exact hlexical hnear
  | loopVariable _ _ _ _ _ hnear => exact hvariables hnear
  | functionName _ _ hnear => exact hvariables hnear
  | className _ _ hnear => exact hlexical hnear
  | loopLexical hkind => exact ⟨hd, Or.inl (Or.inr (Or.inr (Or.inr (Or.inl hkind))))⟩
  | ownName hkind => exact ⟨hd, Or.inl (Or.inl (Or.inl (Or.inr (Or.inl hkind))))⟩
  | parameter hkind => exact ⟨hd, Or.inl (Or.inl (Or.inl hkind))⟩
  | classInside hkind => exact ⟨hd, Or.inr (Or.inl hkind)⟩
  | classOwnName hkind => exact ⟨hd, Or.inr (Or.inr (Or.inl hkind))⟩
  | caught hkind => exact ⟨hd, Or.inr (Or.inr (Or.inr hkind))⟩
  | imported _ _ hr => exact hprogram hr

section

variable {source : ByteArray} {root n s : Node} {up far : List Node} {ds : List Declaration}
  {name : Text}

/-- The names that the table has under the key of a scope are those that are declared for it. -/
theorem exists_name_iff (h : IsParted root) (hds : declarations source [] root = .ok ds)
    (hs : root.Occurs far s) (hscope : IsScope s) :
    (∃ x ∈ ds, x.scope = Key.of s ∧ x.name = name) ↔ DeclaredIn source root (s :: far) name := by
  constructor
  · rintro ⟨x, hx, hkey, rfl⟩
    obtain ⟨r, rs, hdeclared, hr⟩ := exists_scope_of_mem hds hx
    have hdeclares := hdeclared
    obtain ⟨ws, d, i, hocc, hnamed, hd, -⟩ := hdeclares
    have hscoper : IsScope r := hd.head_isScope hocc h.program hnamed
    have heq := eq_of_key_eq h hs hdeclared.occurs (Or.inr hscope) (Or.inr hscoper)
      (hkey.symm.trans hr)
    rw [heq]
    exact hdeclared
  · exact mem_of_declaredIn hds

/-- An identifier that no other one around it shares its key with has the key of a declared one only
if it is declared itself. -/
theorem mem_sites_iff_of_leaf (h : IsParted root) (hds : declarations source [] root = .ok ds)
    (hn : root.Occurs up n) (hleaf : IsIdentifierLeaf n)
    (hup : ∀ a ∈ up, IsIdentifier a → Key.of a ≠ Key.of n) :
    Key.of n ∈ ds.filterMap (·.site) ↔ IsDeclaration source root n := by
  rw [mem_sites hds]
  constructor
  · rintro ⟨i, hi, hkey⟩
    obtain ⟨ws, hws⟩ := hi.occurs
    obtain ⟨hstart, hstop, hkind⟩ := key_eq_iff.1 hkey
    -- a declared identifier of the same span can only be the leaf or stand around it
    have hcovers : i.start ≤ n.start ∧ n.stop ≤ i.stop := by omega
    have hsuffix := Node.suffix_of_covers h.nested hn hleaf.2 (h.filled up n hn hleaf) hws hcovers
    rcases List.suffix_cons_iff.1 hsuffix with heq | hsuffix
    · cases heq
      exact hi
    · have hid : IsIdentifier i := isIdentifier_of_kind_eq hkind.symm hleaf.1
      exact absurd hkey.symm (hup i (hsuffix.subset List.mem_cons_self) hid)
  · intro hi
    exact ⟨n, hi, rfl⟩

end

/-- What keys identify in a tree with a table of declarations. -/
structure Identifies (source : ByteArray) (root : Node) (ds : List Declaration) : Prop where
  /-- No two identifiers or scopes have the same key. -/
  distinct : (keys root).Nodup
  /-- No keyword has the key of a scope. -/
  token_ne : ∀ up n far s, root.Occurs up n → root.Occurs far s → IsToken n → IsScope s →
    Key.of n ≠ Key.of s
  /-- Under the key of a scope stand the names that are declared for it. -/
  names : ∀ far s name, root.Occurs far s → IsScope s →
    ((∃ x ∈ ds, x.scope = Key.of s ∧ x.name = name) ↔ DeclaredIn source root (s :: far) name)
  /-- The key of an identifier is that of a declared one if it is declared itself. Only an
  identifier around it, which no grammar has, could share its key. -/
  sites : ∀ up n, root.Occurs up n → IsIdentifierLeaf n →
    (∀ a ∈ up, IsIdentifier a → Key.of a ≠ Key.of n) →
    (Key.of n ∈ ds.filterMap (·.site) ↔ IsDeclaration source root n)

/-- In a tree in which scopes have two children that take up bytes, keys identify identifiers and
scopes, so that the table of declarations says of each of them what is declared. -/
theorem keys_identify {source : ByteArray} {root : Node} {ds : List Declaration}
    (h : IsParted root) (hds : declarations source [] root = .ok ds) :
    Identifies source root ds where
  distinct := nodup_keys h
  token_ne := by
    intro up n far s hn hs htoken hscope
    exact token_key_ne h hn hs htoken hscope
  names := by
    intro far s name hs hscope
    exact exists_name_iff h hds hs hscope
  sites := by
    intro up n hn hleaf hup
    exact mem_sites_iff_of_leaf h hds hn hleaf hup

/-- The bytes of `(class A{m(x){x}})`. -/
def methodAndClass : ByteArray :=
  ⟨#[0x28, 0x63, 0x6C, 0x61, 0x73, 0x73, 0x20, 0x41, 0x7B, 0x6D, 0x28, 0x78, 0x29, 0x7B, 0x78,
    0x7D, 0x7D, 0x29]⟩

/-- A keyword or a punctuator. -/
def tokenAt (kind : String) (start stop : Nat) : Node := { kind, named := false, start, stop }

/-- The identifier of one letter at that place. -/
def identifierAt (start : Nat) (role : Option String) : Node :=
  { kind := "identifier", named := true, start, stop := start + 1, role }

/-- The class, whose kind is the word that it starts with. -/
def methodAndClassNode : Node where
  kind := "class"
  named := true
  start := 1
  stop := 17
  children :=
    [tokenAt "class" 1 6, identifierAt 7 (some "name"),
     { kind := "class_body", named := true, start := 8, stop := 17, role := some "body",
       children :=
         [tokenAt "\x7b" 8 9,
          { kind := "method_definition", named := true, start := 9, stop := 16,
            children :=
              [{ kind := "property_identifier", named := true, start := 9, stop := 10,
                 role := some "name" },
               { kind := "formal_parameters", named := true, start := 10, stop := 13,
                 role := some "parameters",
                 children := [tokenAt "(" 10 11, identifierAt 11 none, tokenAt ")" 12 13] },
               { kind := "statement_block", named := true, start := 13, stop := 16,
                 role := some "body",
                 children :=
                   [tokenAt "\x7b" 13 14,
                    { kind := "expression_statement", named := true, start := 14, stop := 15,
                      children := [identifierAt 14 none] },
                    tokenAt "\x7d" 15 16] }] },
          tokenAt "\x7d" 16 17] }]

/-- The parentheses around the class. -/
def methodAndClassGroup : Node where
  kind := "parenthesized_expression"
  named := true
  start := 0
  stop := 18
  children := [tokenAt "(" 0 1, methodAndClassNode, tokenAt ")" 17 18]

/-- The statement, the parentheses and the class start or end where the program does. -/
def methodAndClassTree : Node where
  kind := "program"
  named := true
  start := 0
  stop := 18
  children :=
    [{ kind := "expression_statement", named := true, start := 0, stop := 18,
       children := [methodAndClassGroup] }]

/-- The word `class` does not have the key of the class, in which `A` is known, and of the two
identifiers `x` the first one is declared. -/
theorem identifies_methodAndClass :
    IsParted methodAndClassTree ∧
      Key.of (tokenAt "class" 1 6) ≠ Key.of methodAndClassNode ∧
      (∃ up, DeclaredIn methodAndClass methodAndClassTree (methodAndClassNode :: up) (lit "A")) ∧
      IsDeclaration methodAndClass methodAndClassTree (identifierAt 11 none) ∧
      ¬ IsDeclaration methodAndClass methodAndClassTree (identifierAt 14 none) := by
  have hparted : IsParted methodAndClassTree := by decide +kernel
  have hplaces : ∀ n, n ∈ (Node.places [] methodAndClassTree).map (·.2) →
      ∃ up, methodAndClassTree.Occurs up n := by
    intro n hn
    obtain ⟨⟨up, m⟩, hp, rfl⟩ := List.mem_map.1 hn
    exact ⟨up, Node.mem_places_root.1 hp⟩
  obtain ⟨inClass, hclass⟩ := hplaces methodAndClassNode (by decide +kernel)
  obtain ⟨inParameters, hparameter⟩ := hplaces (identifierAt 11 none) (by decide +kernel)
  obtain ⟨inBody, hused⟩ := hplaces (identifierAt 14 none) (by decide +kernel)
  have htable : ∃ ds, declarations methodAndClass [] methodAndClassTree = .ok ds ∧
      (⟨Key.of methodAndClassNode, lit "A", some ⟨7, 8, "identifier"⟩⟩ : Declaration) ∈ ds ∧
      (⟨11, 12, "identifier"⟩ : Key) ∈ ds.filterMap (·.site) ∧
      (⟨14, 15, "identifier"⟩ : Key) ∉ ds.filterMap (·.site) := by
    refine ⟨_, rfl, ?_⟩
    decide +kernel
  obtain ⟨ds, hds, hname, hsite, hnosite⟩ := htable
  have hidentifies := keys_identify hparted hds
  have hscope : IsScope methodAndClassNode := by decide
  have htoken : IsToken (tokenAt "class" 1 6) := ⟨rfl, rfl⟩
  have hkeyword := hclass.child (c := tokenAt "class" 1 6) List.mem_cons_self
  have hleaf : ∀ start, IsIdentifierLeaf (identifierAt start none) := fun _ => ⟨Or.inl rfl, rfl⟩
  have houtside : ∀ up n, methodAndClassTree.Occurs up n →
      ∀ a ∈ up, IsIdentifier a → Key.of a ≠ Key.of n := by
    decide +kernel
  refine ⟨hparted, hidentifies.token_ne _ _ _ _ hkeyword hclass htoken hscope,
    ⟨inClass, (hidentifies.names _ _ _ hclass hscope).1 ⟨_, hname, rfl, rfl⟩⟩, ?_, ?_⟩
  · exact (hidentifies.sites _ _ hparameter (hleaf 11) (houtside _ _ hparameter)).1 hsite
  · exact mt (hidentifies.sites _ _ hused (hleaf 14) (houtside _ _ hused)).2 hnosite

end ScriptDeps.Scope

import ScriptDeps.Proofs.Scope.Rules

namespace ScriptDeps.Scope

open Syntax (Node TextError)

/-! # The table of declarations

The declarations that are collected from a tree name scopes and identifiers by their keys. Main
statements:

* `exists_scope_of_mem`: what the table says of a key is declared in a scope with that key;
* `mem_of_declaredIn`: what is declared in a scope stands in the table under its key;
* `mem_sites`: the sites in the table are the keys of the identifiers that are declared;
* `declarations_fails`: the table exists unless a text that it needs cannot be read.
-/

/-! ## Collecting -/

theorem declarationsAmong_eq_gather (source : ByteArray) (up ns : List Node) :
    declarationsAmong source up ns = gather (declarations source up) ns := by
  induction ns with
  | nil => rfl
  | cons n rest ih =>
    rw [declarationsAmong, gather, ih]

/-- The table of a tree gathers the declarations at all its places. -/
theorem declarations_eq_gather (source : ByteArray) (up : List Node) (n : Node) :
    declarations source up n =
      gather (fun p => declarationsAt source p.1 p.2) (Node.places up n) := by
  refine Node.walk_eq_gather (declarations source) (declarationsAt source) (fun up n => ?_) up n
  cases n
  rw [declarations, declarationsAmong_eq_gather]

theorem mem_declarations {source : ByteArray} {root : Node} {ds : List Declaration}
    (h : declarations source [] root = .ok ds) {x : Declaration} :
    x ∈ ds ↔ ∃ up d, root.Occurs up d ∧ ∃ own, declarationsAt source up d = .ok own ∧ x ∈ own := by
  rw [declarations_eq_gather] at h
  rw [mem_gather h]
  constructor
  · rintro ⟨⟨up, d⟩, hp, hx⟩
    exact ⟨up, d, Node.mem_places_root.1 hp, hx⟩
  · rintro ⟨up, d, hp, hx⟩
    exact ⟨(up, d), Node.mem_places_root.2 hp, hx⟩

/-- If the table of a tree can be read, so can the declarations at each of its places. -/
theorem declarationsAt_ok_of_declarations {source : ByteArray} {root d : Node} {up : List Node}
    {ds : List Declaration} (h : declarations source [] root = .ok ds)
    (hocc : root.Occurs up d) : ∃ own, declarationsAt source up d = .ok own := by
  rw [declarations_eq_gather] at h
  exact exists_gather_iff.1 ⟨ds, h⟩ (up, d) (Node.mem_places_root.2 hocc)

theorem declaration_eq_ok {source : ByteArray} {b : Binding} {x : Declaration} :
    b.declaration source = .ok x ↔
      ∃ t, b.identifier.text source = .ok t ∧
        x = ⟨Key.of b.scope, t, some (Key.of b.identifier)⟩ := by
  rw [Binding.declaration, andThen_ok_iff]
  constructor
  · rintro ⟨t, ht, hx⟩
    cases hx
    exact ⟨t, ht, rfl⟩
  · rintro ⟨t, ht, rfl⟩
    exact ⟨t, ht, rfl⟩

/-- The names of a declared class inside the class. -/
def insideClass (d : Node) (declared : List Declaration) : List Declaration :=
  if d.kind = "class_declaration" then declared.map fun x => ⟨Key.of d, x.name, none⟩ else []

theorem declarationsAt_eq_ok {source : ByteArray} {up : List Node} {d : Node}
    {ds : List Declaration} :
    declarationsAt source up d = .ok ds ↔
      d.named = false ∧ ds = [] ∨
      d.named = true ∧ ∃ bs declared, bindingsAt source up d = .ok bs ∧
        bs.mapM (Binding.declaration source) = .ok declared ∧
        ds = declared ++ insideClass d declared := by
  unfold declarationsAt
  cases d.named with
  | false =>
    constructor
    · intro h
      cases h
      exact Or.inl ⟨rfl, rfl⟩
    · rintro (⟨-, rfl⟩ | ⟨h, -⟩)
      · rfl
      · cases h
  | true =>
    constructor
    · intro h
      obtain ⟨bs, hbs, h⟩ := andThen_ok_iff.1 h
      obtain ⟨declared, hdeclared, h⟩ := andThen_ok_iff.1 h
      cases h
      exact Or.inr ⟨rfl, bs, declared, hbs, hdeclared, rfl⟩
    · rintro (⟨h, -⟩ | ⟨-, bs, declared, hbs, hdeclared, rfl⟩)
      · cases h
      · exact andThen_ok_iff.2 ⟨bs, hbs, andThen_ok_iff.2 ⟨declared, hdeclared, rfl⟩⟩

/-! ## Where scopes and identifiers stand -/

/-- The node is a whole program. -/
def IsProgram (n : Node) : Prop := n.named = true ∧ n.kind = "program"

/-- A scope is the declaring node or a node around it. -/
theorem Declares.suffix {source : ByteArray} {up scope : List Node} {d i : Node}
    (h : Declares source up d scope i) : scope <:+ d :: up := by
  cases h with
  | variableName _ _ hnear => exact hnear.suffix
  | lexicalName _ _ hnear => exact hnear.suffix
  | loopVariable _ _ _ _ _ hnear => exact hnear.suffix
  | loopLexical _ _ _ _ _ _ => exact List.suffix_rfl
  | functionName _ _ hnear => exact hnear.suffix
  | ownName _ _ _ => exact List.suffix_rfl
  | parameter _ _ => exact List.suffix_rfl
  | className _ _ hnear => exact hnear.suffix
  | classInside _ _ => exact List.suffix_rfl
  | classOwnName _ _ _ => exact List.suffix_rfl
  | caught _ _ _ => exact List.suffix_rfl
  | imported _ _ hroot => exact List.singleton_suffix_iff_getLast?_eq_some.2 hroot

/-- A scope has a node. -/
theorem Declares.eq_cons {source : ByteArray} {up scope : List Node} {d i : Node}
    (h : Declares source up d scope i) : ∃ s far, scope = s :: far := by
  have hnearest : ∀ {P : Node → Prop}, Nearest P up d scope → ∃ s far, scope = s :: far := by
    intro P hnear
    cases hnear with
    | around _ _ _ => exact ⟨_, _, rfl⟩
    | outermost _ _ => exact ⟨_, _, rfl⟩
  cases h with
  | variableName _ _ hnear => exact hnearest hnear
  | lexicalName _ _ hnear => exact hnearest hnear
  | loopVariable _ _ _ _ _ hnear => exact hnearest hnear
  | functionName _ _ hnear => exact hnearest hnear
  | className _ _ hnear => exact hnearest hnear
  | loopLexical => exact ⟨_, _, rfl⟩
  | ownName => exact ⟨_, _, rfl⟩
  | parameter => exact ⟨_, _, rfl⟩
  | classInside => exact ⟨_, _, rfl⟩
  | classOwnName => exact ⟨_, _, rfl⟩
  | caught => exact ⟨_, _, rfl⟩
  | imported => exact ⟨_, _, rfl⟩

/-- Below a program, a scope is a named node. -/
theorem Declares.head_named {source : ByteArray} {root : Node} {up far : List Node} {d s i : Node}
    (hocc : root.Occurs up d) (hroot : IsProgram root) (hd : d.named = true)
    (h : Declares source up d (s :: far) i) : s.named = true := by
  have hlast : ∀ {r : Node}, (d :: up).getLast? = some r → r.named = true := by
    intro r hr
    rw [hocc.getLast?] at hr
    cases hr
    exact hroot.1
  have hnearest : ∀ {P : Node → Prop}, Nearest P up d (s :: far) → s.named = true := by
    intro P hnear
    cases hnear with
    | around _ _ hs => exact hs.1
    | outermost _ hr => exact hlast hr
  cases h with
  | variableName _ _ hnear => exact hnearest hnear
  | lexicalName _ _ hnear => exact hnearest hnear
  | loopVariable _ _ _ _ _ hnear => exact hnearest hnear
  | functionName _ _ hnear => exact hnearest hnear
  | className _ _ hnear => exact hnearest hnear
  | loopLexical => exact hd
  | ownName => exact hd
  | parameter => exact hd
  | classInside => exact hd
  | classOwnName => exact hd
  | caught => exact hd
  | imported _ _ hr => exact hlast hr

/-- A declared identifier stands in the declaring node. -/
theorem Declares.occurs {source : ByteArray} {up scope : List Node} {d i : Node}
    (h : Declares source up d scope i) : ∃ ws, d.Occurs ws i := by
  have hdeclarator : Declarator d i → ∃ ws, d.Occurs ws i := by
    rintro ⟨v, hv, -, p, hp, hi⟩
    obtain ⟨ws, hws⟩ := hi.occurs
    exact ⟨_, ((Node.occurs_part hv).trans (Node.occurs_child hp)).trans hws⟩
  have hpattern : ∀ {role p}, d.child? role = some p → Binds p i → ∃ ws, d.Occurs ws i := by
    intro role p hp hi
    obtain ⟨ws, hws⟩ := hi.occurs
    exact ⟨_, (Node.occurs_child hp).trans hws⟩
  -- what is declared stands in a declarator, in a pattern or is a child
  cases h with
  | variableName _ hi _ => exact hdeclarator hi
  | lexicalName _ hi _ => exact hdeclarator hi
  | loopVariable _ _ _ hp hi _ => exact hpattern hp hi
  | loopLexical _ _ _ _ hp hi => exact hpattern hp hi
  | functionName _ hi _ => exact ⟨_, Node.occurs_child hi⟩
  | ownName _ hi _ => exact ⟨_, Node.occurs_child hi⟩
  | parameter _ hi =>
    rcases hi with ⟨ps, hps, p, hp, hi⟩ | ⟨p, hp, hi⟩
    · obtain ⟨ws, hws⟩ := hi.occurs
      exact ⟨_, ((Node.occurs_child hps).trans (Node.occurs_part hp)).trans hws⟩
    · exact hpattern hp hi
  | className _ hi _ => exact ⟨_, Node.occurs_child hi⟩
  | classInside _ hi => exact ⟨_, Node.occurs_child hi⟩
  | classOwnName _ hi _ => exact ⟨_, Node.occurs_child hi⟩
  | caught _ hp hi => exact hpattern hp hi
  | imported _ hi _ =>
    cases hi with
    | byDefault hclause _ hitem _ => exact ⟨_, (Node.occurs_part hclause).trans (Node.occurs_part hitem)⟩
    | wholly hclause _ hitem _ hi =>
      exact ⟨_, ((Node.occurs_part hclause).trans (Node.occurs_part hitem)).trans (Node.occurs_part hi)⟩
    | member hclause _ hitem _ hspec hlocal _ =>
      have hitems := ((Node.occurs_part hclause).trans (Node.occurs_part hitem)).trans (Node.occurs_part hspec)
      rcases hlocal with halias | ⟨-, hname⟩
      · exact ⟨_, hitems.trans (Node.occurs_child halias)⟩
      · exact ⟨_, hitems.trans (Node.occurs_child hname)⟩

/-- A declared identifier occurs in the tree. -/
theorem IsDeclaration.occurs {source : ByteArray} {root i : Node}
    (h : IsDeclaration source root i) : ∃ up, root.Occurs up i := by
  obtain ⟨up, d, scope, hocc, -, hd⟩ := h
  obtain ⟨ws, hws⟩ := hd.occurs
  exact ⟨_, hocc.trans hws⟩

theorem DeclaredIn.eq_cons {source : ByteArray} {root : Node} {scope : List Node} {name : Text}
    (h : DeclaredIn source root scope name) : ∃ s far, scope = s :: far := by
  obtain ⟨up, d, i, -, -, hd, -⟩ := h
  exact hd.eq_cons

/-- A scope in which a name is declared occurs in the tree. -/
theorem DeclaredIn.occurs {source : ByteArray} {root s : Node} {far : List Node} {name : Text}
    (h : DeclaredIn source root (s :: far) name) : root.Occurs far s := by
  obtain ⟨up, d, i, hocc, -, hd, -⟩ := h
  exact hocc.of_suffix hd.suffix

theorem DeclaredIn.head_named {source : ByteArray} {root s : Node} {far : List Node} {name : Text}
    (hroot : IsProgram root) (h : DeclaredIn source root (s :: far) name) : s.named = true := by
  obtain ⟨up, d, i, hocc, hnamed, hd, -⟩ := h
  exact hd.head_named hocc hroot hnamed

/-! ## What the table says -/

section

variable {source : ByteArray} {root : Node} {ds : List Declaration}

/-- What the table says of a key is declared in a scope with that key. -/
theorem exists_scope_of_mem (h : declarations source [] root = .ok ds) {x : Declaration}
    (hx : x ∈ ds) :
    ∃ s far, DeclaredIn source root (s :: far) x.name ∧ x.scope = Key.of s := by
  obtain ⟨up, d, hocc, own, hown, hx⟩ := (mem_declarations h).1 hx
  rcases declarationsAt_eq_ok.1 hown with ⟨-, rfl⟩ | ⟨hnamed, bs, declared, hbs, hdeclared, rfl⟩
  · exact absurd hx List.not_mem_nil
  have hbound : ∀ y ∈ declared, ∃ b ∈ bs, ∃ far, Declares source up d (b.scope :: far) b.identifier ∧
      b.identifier.text source = .ok y.name ∧ y.scope = Key.of b.scope := by
    intro y hy
    obtain ⟨b, hb, hby⟩ := (mem_mapM hdeclared).1 hy
    obtain ⟨t, ht, rfl⟩ := declaration_eq_ok.1 hby
    obtain ⟨far, hfar⟩ := declares_of_mem_bindingsAt hbs hb
    exact ⟨b, hb, far, hfar, ht, rfl⟩
  rcases List.mem_append.1 hx with hx | hx
  · obtain ⟨b, -, far, hfar, ht, hscope⟩ := hbound x hx
    exact ⟨b.scope, far, ⟨up, d, b.identifier, hocc, hnamed, hfar, ht⟩, hscope⟩
  · -- the name of a class, which is known inside it
    unfold insideClass at hx
    split at hx
    · next hkind =>
      obtain ⟨y, hy, rfl⟩ := List.mem_map.1 hx
      obtain ⟨b, hb, -, -, ht, -⟩ := hbound y hy
      have hname : d.child? "name" = some b.identifier := by
        simp [bindingsAt, hkind, declaredFunctionKinds, functionExpressionKinds] at hbs
        subst hbs
        exact Option.mem_toList.1 (mem_bindTo.1 hb).2
      exact ⟨d, up, ⟨up, d, b.identifier, hocc, hnamed, .classInside hkind hname, ht⟩, rfl⟩
    · exact absurd hx List.not_mem_nil

/-- What a node declares is among its declarations, under the key of the scope. -/
theorem exists_mem_of_declares {up far : List Node} {d s i : Node} {own : List Declaration}
    {name : Text} (hown : declarationsAt source up d = .ok own) (hnamed : d.named = true)
    (hd : Declares source up d (s :: far) i) (ht : i.text source = .ok name) :
    ∃ x ∈ own, x.scope = Key.of s ∧ x.name = name := by
  rcases declarationsAt_eq_ok.1 hown with ⟨hfalse, -⟩ | ⟨-, bs, declared, hbs, hdeclared, rfl⟩
  · rw [hnamed] at hfalse
    cases hfalse
  obtain ⟨b, hb, rfl, hscope⟩ := exists_binding_of_declares hbs hd
  have hy : ⟨Key.of b.scope, name, some (Key.of b.identifier)⟩ ∈ declared :=
    (mem_mapM hdeclared).2 ⟨b, hb, declaration_eq_ok.2 ⟨name, ht, rfl⟩⟩
  rcases hscope with hscope | ⟨hkind, hscope⟩
  · cases hscope
    exact ⟨_, List.mem_append_left _ hy, rfl, rfl⟩
  · obtain ⟨rfl, rfl⟩ := List.cons.inj hscope
    have hinside : ⟨Key.of s, name, none⟩ ∈ insideClass s declared := by
      rw [insideClass, if_pos hkind]
      exact List.mem_map.2 ⟨_, hy, rfl⟩
    exact ⟨_, List.mem_append_right _ hinside, rfl, rfl⟩

/-- What is declared in a scope stands in the table under its key. -/
theorem mem_of_declaredIn (h : declarations source [] root = .ok ds) {s : Node} {far : List Node}
    {name : Text} (hd : DeclaredIn source root (s :: far) name) :
    ∃ x ∈ ds, x.scope = Key.of s ∧ x.name = name := by
  obtain ⟨up, d, i, hocc, hnamed, hd, ht⟩ := hd
  obtain ⟨own, hown⟩ := declarationsAt_ok_of_declarations h hocc
  obtain ⟨x, hx, hkey, hname⟩ := exists_mem_of_declares hown hnamed hd ht
  exact ⟨x, (mem_declarations h).2 ⟨up, d, hocc, own, hown, hx⟩, hkey, hname⟩

/-- The sites in the table are the keys of the identifiers that are declared. -/
theorem mem_sites (h : declarations source [] root = .ok ds) {k : Key} :
    k ∈ ds.filterMap (·.site) ↔ ∃ i, IsDeclaration source root i ∧ k = Key.of i := by
  rw [List.mem_filterMap]
  constructor
  · rintro ⟨x, hx, hk⟩
    obtain ⟨up, d, hocc, own, hown, hx⟩ := (mem_declarations h).1 hx
    rcases declarationsAt_eq_ok.1 hown with ⟨-, rfl⟩ | ⟨hnamed, bs, declared, hbs, hdeclared, rfl⟩
    · exact absurd hx List.not_mem_nil
    rcases List.mem_append.1 hx with hx | hx
    · obtain ⟨b, hb, hbx⟩ := (mem_mapM hdeclared).1 hx
      obtain ⟨t, -, rfl⟩ := declaration_eq_ok.1 hbx
      cases hk
      obtain ⟨far, hfar⟩ := declares_of_mem_bindingsAt hbs hb
      exact ⟨b.identifier, ⟨up, d, _, hocc, hnamed, hfar⟩, rfl⟩
    · -- the second entry of a class has no site
      unfold insideClass at hx
      split at hx
      · obtain ⟨y, -, rfl⟩ := List.mem_map.1 hx
        cases hk
      · exact absurd hx List.not_mem_nil
  · rintro ⟨i, ⟨up, d, scope, hocc, hnamed, hd⟩, rfl⟩
    obtain ⟨own, hown⟩ := declarationsAt_ok_of_declarations h hocc
    rcases declarationsAt_eq_ok.1 hown with ⟨hfalse, -⟩ | ⟨-, bs, declared, hbs, hdeclared, rfl⟩
    · rw [hnamed] at hfalse
      cases hfalse
    obtain ⟨b, hb, rfl, -⟩ := exists_binding_of_declares hbs hd
    obtain ⟨y, hy⟩ := exists_mapM_iff.1 ⟨declared, hdeclared⟩ b hb
    have hmem : y ∈ declared := (mem_mapM hdeclared).2 ⟨b, hb, hy⟩
    obtain ⟨t, -, rfl⟩ := declaration_eq_ok.1 hy
    exact ⟨_, (mem_declarations h).2 ⟨up, d, hocc, _, hown, List.mem_append_left _ hmem⟩, rfl⟩

/-! ## When the table cannot be read -/

/-- The keyword with which a loop declares its variable. -/
def IsLoopKeyword (root k : Node) : Prop :=
  ∃ up d, root.Occurs up d ∧ d.named = true ∧ d.kind = "for_in_statement" ∧ d.child? "kind" = some k

theorem bindingsAt_fails {up : List Node} {d : Node} :
    (∃ e, bindingsAt source up d = .error e) ↔
      d.kind = "for_in_statement" ∧ ∃ k, d.child? "kind" = some k ∧ ∃ e, k.text source = .error e := by
  by_cases hkind : d.kind = "for_in_statement"
  · have hbindings : bindingsAt source up d = loopBindings source up d := by
      simp [bindingsAt, hkind]
    rw [hbindings, loopBindings]
    cases hkeyword : d.child? "kind" with
    | none => simp
    | some k =>
      simp only [andThen_fails_iff, hkind, true_and, Option.some.injEq, exists_eq_left']
      simp [pure, Except.pure]
  · -- only the head of a loop is read
    unfold bindingsAt
    simp only [hkind, if_false, false_and, iff_false]
    rintro ⟨e, he⟩
    repeat' split at he
    all_goals cases he

theorem declarationsAt_fails {up : List Node} {d : Node} :
    (∃ e, declarationsAt source up d = .error e) ↔
      d.named = true ∧ ((∃ e, bindingsAt source up d = .error e) ∨
        ∃ bs, bindingsAt source up d = .ok bs ∧
          ∃ b ∈ bs, ∃ e, b.identifier.text source = .error e) := by
  unfold declarationsAt
  cases d.named with
  | false => simp [pure, Except.pure]
  | true =>
    have hone : ∀ b : Binding, (∃ e, b.declaration source = .error e) ↔
        ∃ e, b.identifier.text source = .error e := by
      intro b
      rw [Binding.declaration, andThen_fails_iff]
      simp [pure, Except.pure]
    simp only [andThen_fails_iff, mapM_fails, hone, Bool.not_true, Bool.false_eq_true, if_false,
      true_and]
    simp [pure, Except.pure]

/-- The table can be read unless a declared identifier or the keyword of a loop is no text. -/
theorem declarations_fails :
    (∃ e, declarations source [] root = .error e) ↔
      ∃ i, (IsLoopKeyword root i ∨ IsDeclaration source root i) ∧
        ∃ e, i.text source = .error e := by
  rw [declarations_eq_gather, gather_fails]
  constructor
  · rintro ⟨⟨up, d⟩, hp, hfails⟩
    have hocc := Node.mem_places_root.1 hp
    obtain ⟨hnamed, hbindings | ⟨bs, hbs, b, hb, hb'⟩⟩ := declarationsAt_fails.1 hfails
    · obtain ⟨hkind, k, hk, hk'⟩ := bindingsAt_fails.1 hbindings
      exact ⟨k, Or.inl ⟨up, d, hocc, hnamed, hkind, hk⟩, hk'⟩
    · obtain ⟨far, hfar⟩ := declares_of_mem_bindingsAt hbs hb
      exact ⟨b.identifier, Or.inr ⟨up, d, _, hocc, hnamed, hfar⟩, hb'⟩
  · rintro ⟨i, ⟨up, d, hocc, hnamed, hkind, hk⟩ | ⟨up, d, scope, hocc, hnamed, hd⟩, hi⟩
    · refine ⟨(up, d), Node.mem_places_root.2 hocc, ?_⟩
      exact declarationsAt_fails.2 ⟨hnamed, Or.inl (bindingsAt_fails.2 ⟨hkind, i, hk, hi⟩)⟩
    · refine ⟨(up, d), Node.mem_places_root.2 hocc, ?_⟩
      refine declarationsAt_fails.2 ⟨hnamed, ?_⟩
      cases hbs : bindingsAt source up d with
      | error e => exact Or.inl ⟨e, rfl⟩
      | ok bs =>
        obtain ⟨b, hb, rfl, -⟩ := exists_binding_of_declares hbs hd
        exact Or.inr ⟨bs, rfl, b, hb, hi⟩

end

end ScriptDeps.Scope

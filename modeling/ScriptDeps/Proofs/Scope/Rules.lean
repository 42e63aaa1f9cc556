import ScriptDeps.Proofs.Tree.Place
import ScriptDeps.Scope.Reference

namespace ScriptDeps.Scope

open Syntax (Node TextError)
open Text (lit)

/-! # The rules of scopes

Which identifiers a declaration declares, and within which node their names are known. A scope is
given by the list of the node and those around it, the nearest first, so that it is a place and not
only a span. Main statements:

* `mem_boundIn`: the identifiers that are found in a pattern are those that it binds;
* `declares_of_mem_bindingsAt` and `exists_binding_of_declares`: what is bound at a node is what the
  rules say.
-/

/-! ## The rules -/

/-- A pattern binds an identifier. -/
inductive Binds : Node → Node → Prop
  | name {i : Node} :
      i.kind = "identifier" ∨ i.kind = "shorthand_property_identifier_pattern" → Binds i i
  | part {p c i : Node} :
      p.kind = "object_pattern" ∨ p.kind = "array_pattern" ∨ p.kind = "rest_pattern" →
      c ∈ p.parts → Binds c i → Binds p i
  | value {p c i : Node} :
      p.kind = "pair_pattern" → p.child? "value" = some c → Binds c i → Binds p i
  | beforeDefault {p c i : Node} :
      p.kind = "assignment_pattern" ∨ p.kind = "object_assignment_pattern" →
      p.child? "left" = some c → Binds c i → Binds p i

/-- A declarator of the declaration binds an identifier. -/
def Declarator (d i : Node) : Prop :=
  ∃ v ∈ d.parts, v.kind = "variable_declarator" ∧ ∃ p, v.child? "name" = some p ∧ Binds p i

/-- A parameter of the function binds an identifier. -/
def Parameter (f i : Node) : Prop :=
  (∃ ps, f.child? "parameters" = some ps ∧ ∃ p ∈ ps.parts, Binds p i) ∨
    ∃ p, f.child? "parameter" = some p ∧ Binds p i

/-- An import names an identifier locally. -/
inductive Imports (d i : Node) : Prop
  | byDefault {clause : Node} :
      clause ∈ d.parts → clause.kind = "import_clause" → i ∈ clause.parts →
      i.kind = "identifier" → Imports d i
  | wholly {clause item : Node} :
      clause ∈ d.parts → clause.kind = "import_clause" → item ∈ clause.parts →
      item.kind = "namespace_import" → i ∈ item.parts → Imports d i
  | member {clause item specifier : Node} :
      clause ∈ d.parts → clause.kind = "import_clause" → item ∈ clause.parts →
      item.kind = "named_imports" → specifier ∈ item.parts →
      specifier.child? "alias" = some i ∨
        specifier.child? "alias" = none ∧ specifier.child? "name" = some i →
      i.kind = "identifier" → Imports d i

/-- The node is a function that is a declaration. -/
def IsDeclaredFunction (n : Node) : Prop :=
  n.kind = "function_declaration" ∨ n.kind = "generator_function_declaration"

/-- The node is a function that is an expression with a name of its own, if it has one. -/
def IsNamedExpression (n : Node) : Prop :=
  n.kind = "function_expression" ∨ n.kind = "function" ∨ n.kind = "generator_function" ∨
    n.kind = "arrow_function"

/-- The node is a function of any kind. -/
def IsFunction (n : Node) : Prop :=
  IsDeclaredFunction n ∨ IsNamedExpression n ∨ n.kind = "method_definition"

/-- Variables belong to the node. -/
def HoldsVariables (n : Node) : Prop := IsFunction n ∨ n.kind = "program"

/-- Lexical names belong to the node. -/
def HoldsLexical (n : Node) : Prop :=
  HoldsVariables n ∨ n.kind = "statement_block" ∨ n.kind = "for_statement" ∨
    n.kind = "for_in_statement" ∨ n.kind = "class_static_block"

/-- The scope of `d` is the nearest of the nodes `up` around it that has the property, or else the
outermost node, which is the program. -/
inductive Nearest (P : Node → Prop) (up : List Node) (d : Node) : List Node → Prop
  | around {near far : List Node} {n : Node} :
      up = near ++ n :: far → (∀ a ∈ near, ¬ (a.named = true ∧ P a)) → n.named = true ∧ P n →
      Nearest P up d (n :: far)
  | outermost {root : Node} :
      (∀ a ∈ up, ¬ (a.named = true ∧ P a)) → (d :: up).getLast? = some root →
      Nearest P up d [root]

/-- The node `d` below the nodes `up` declares an identifier whose name is known within the
scope. -/
inductive Declares (source : ByteArray) (up : List Node) (d : Node) : List Node → Node → Prop
  | variableName {scope : List Node} {i : Node} :
      d.kind = "variable_declaration" → Declarator d i → Nearest HoldsVariables up d scope →
      Declares source up d scope i
  | lexicalName {scope : List Node} {i : Node} :
      d.kind = "lexical_declaration" → Declarator d i → Nearest HoldsLexical up d scope →
      Declares source up d scope i
  | loopVariable {scope : List Node} {keyword p i : Node} :
      d.kind = "for_in_statement" → d.child? "kind" = some keyword →
      keyword.text source = .ok (lit "var") → d.child? "left" = some p → Binds p i →
      Nearest HoldsVariables up d scope → Declares source up d scope i
  | loopLexical {keyword p i : Node} {t : Text} :
      d.kind = "for_in_statement" → d.child? "kind" = some keyword →
      keyword.text source = .ok t → t ≠ lit "var" → d.child? "left" = some p → Binds p i →
      Declares source up d (d :: up) i
  | functionName {scope : List Node} {i : Node} :
      IsDeclaredFunction d → d.child? "name" = some i → Nearest HoldsVariables up d scope →
      Declares source up d scope i
  | ownName {i : Node} :
      IsNamedExpression d → d.child? "name" = some i → i.kind = "identifier" →
      Declares source up d (d :: up) i
  | parameter {i : Node} :
      IsFunction d → Parameter d i → Declares source up d (d :: up) i
  | className {scope : List Node} {i : Node} :
      d.kind = "class_declaration" → d.child? "name" = some i → Nearest HoldsLexical up d scope →
      Declares source up d scope i
  | classInside {i : Node} :
      d.kind = "class_declaration" → d.child? "name" = some i → Declares source up d (d :: up) i
  | classOwnName {i : Node} :
      d.kind = "class" → d.child? "name" = some i → i.kind = "identifier" →
      Declares source up d (d :: up) i
  | caught {p i : Node} :
      d.kind = "catch_clause" → d.child? "parameter" = some p → Binds p i →
      Declares source up d (d :: up) i
  | imported {root i : Node} :
      d.kind = "import_statement" → Imports d i → (d :: up).getLast? = some root →
      Declares source up d [root] i

/-- Somewhere in the tree, an identifier of that name is declared within the scope. -/
def DeclaredIn (source : ByteArray) (root : Node) (scope : List Node) (name : Text) : Prop :=
  ∃ up d i, root.Occurs up d ∧ d.named = true ∧ Declares source up d scope i ∧
    i.text source = .ok name

/-- The node is an identifier that is declared somewhere in the tree. -/
def IsDeclaration (source : ByteArray) (root i : Node) : Prop :=
  ∃ up d scope, root.Occurs up d ∧ d.named = true ∧ Declares source up d scope i

/-! ## Patterns -/

theorem boundIn_eq (n : Node) :
    boundIn n =
      if n.kind = "identifier" ∨ n.kind = "shorthand_property_identifier_pattern" then [n]
      else if collectionKinds.contains n.kind then n.parts.flatMap boundIn
      else if n.kind = "pair_pattern" then boundIn? (n.child? "value")
      else if defaultKinds.contains n.kind then boundIn? (n.child? "left")
      else [] := by
  have hparts : ∀ cs : List Node, boundInParts cs = (cs.filter Node.isPart).flatMap boundIn := by
    intro cs
    induction cs with
    | nil => rfl
    | cons c cs ih =>
      rw [boundInParts, ih, List.filter_cons]
      split
      · rw [List.flatMap_cons]
      · rfl
  have hchild : ∀ (role : String) (cs : List Node),
      boundInChild role cs = boundIn? (cs.find? fun c => c.role == some role) := by
    intro role cs
    induction cs with
    | nil => rfl
    | cons c cs ih =>
      rw [boundInChild, ih, List.find?_cons]
      cases c.role == some role with
      | true => rfl
      | false => rfl
  cases n
  rw [boundIn]
  simp only [hparts, hchild, Node.parts, Node.child?]

theorem mem_boundIn? {n : Option Node} {i : Node} :
    i ∈ boundIn? n ↔ ∃ p, n = some p ∧ i ∈ boundIn p := by
  cases n with
  | none => simp [boundIn?]
  | some p => simp [boundIn?]

theorem mem_collectionKinds {k : String} :
    collectionKinds.contains k = true ↔
      k = "object_pattern" ∨ k = "array_pattern" ∨ k = "rest_pattern" := by
  simp [collectionKinds]

theorem mem_defaultKinds {k : String} :
    defaultKinds.contains k = true ↔
      k = "assignment_pattern" ∨ k = "object_assignment_pattern" := by
  simp [defaultKinds]

/-- The identifiers found in a pattern are bound by it. -/
theorem binds_of_mem_boundIn {p i : Node} (h : i ∈ boundIn p) : Binds p i := by
  induction p using Node.induct with
  | step p ih =>
    rw [boundIn_eq] at h
    split at h
    · next hname =>
      rw [List.mem_singleton.1 h]
      exact .name hname
    · split at h
      · next hkind =>
        obtain ⟨c, hc, hi⟩ := List.mem_flatMap.1 h
        exact .part (mem_collectionKinds.1 hkind) hc (ih c (List.mem_filter.1 hc).1 hi)
      · split at h
        · next hkind =>
          obtain ⟨c, hc, hi⟩ := mem_boundIn?.1 h
          exact .value hkind hc (ih c (List.mem_of_find?_eq_some hc) hi)
        · split at h
          · next hkind =>
            obtain ⟨c, hc, hi⟩ := mem_boundIn?.1 h
            exact .beforeDefault (mem_defaultKinds.1 hkind) hc
              (ih c (List.mem_of_find?_eq_some hc) hi)
          · exact absurd h List.not_mem_nil

/-- The identifiers that a pattern binds are found in it. -/
theorem mem_boundIn {p i : Node} : i ∈ boundIn p ↔ Binds p i := by
  refine ⟨binds_of_mem_boundIn, fun h => ?_⟩
  induction h with
  | name hname => rw [boundIn_eq, if_pos hname, List.mem_singleton]
  | part hkind hc _ ih =>
    rw [boundIn_eq, if_neg (by rcases hkind with h | h | h <;> simp [h]),
      if_pos (mem_collectionKinds.2 hkind)]
    exact List.mem_flatMap.2 ⟨_, hc, ih⟩
  | value hkind hc _ ih =>
    rw [boundIn_eq, if_neg (by simp [hkind]), if_neg (by simp [hkind, collectionKinds]),
      if_pos hkind]
    exact mem_boundIn?.2 ⟨_, hc, ih⟩
  | beforeDefault hkind hc _ ih =>
    rw [boundIn_eq, if_neg (by rcases hkind with h | h <;> simp [h]),
      if_neg (by rcases hkind with h | h <;> simp [h, collectionKinds]),
      if_neg (by rcases hkind with h | h <;> simp [h]), if_pos (mem_defaultKinds.2 hkind)]
    exact mem_boundIn?.2 ⟨_, hc, ih⟩

/-- An identifier that a pattern binds occurs in it. -/
theorem Binds.occurs {p i : Node} (h : Binds p i) : ∃ ws, p.Occurs ws i := by
  induction h with
  | name _ => exact ⟨[], .root⟩
  | part _ hc _ ih =>
    obtain ⟨ws, hws⟩ := ih
    exact ⟨_, (Node.Occurs.root.child (List.mem_filter.1 hc).1).trans hws⟩
  | value _ hc _ ih =>
    obtain ⟨ws, hws⟩ := ih
    exact ⟨_, (Node.Occurs.root.child (List.mem_of_find?_eq_some hc)).trans hws⟩
  | beforeDefault _ hc _ ih =>
    obtain ⟨ws, hws⟩ := ih
    exact ⟨_, (Node.Occurs.root.child (List.mem_of_find?_eq_some hc)).trans hws⟩

/-! ## The nearest scope -/

theorem Nearest.suffix {P : Node → Prop} {up scope : List Node} {d : Node}
    (h : Nearest P up d scope) : scope <:+ d :: up := by
  cases h with
  | @around near far n hup _ _ =>
    rw [hup]
    exact (List.suffix_append near (n :: far)).trans (List.suffix_cons d _)
  | outermost _ hroot => exact List.singleton_suffix_iff_getLast?_eq_some.2 hroot

/-- Two ways to say which kinds a scope may have: by a list and by a property. -/
def Lists (kinds : List String) (P : Node → Prop) : Prop :=
  ∀ n : Node, kinds.contains n.kind = true ↔ P n

theorem lists_variables : Lists functionScopeKinds HoldsVariables := by
  intro n
  simp [functionScopeKinds, declaredFunctionKinds, functionExpressionKinds, HoldsVariables,
    IsFunction, IsDeclaredFunction, IsNamedExpression, or_assoc]

theorem lists_lexical : Lists blockScopeKinds HoldsLexical := by
  intro n
  simp [blockScopeKinds, functionScopeKinds, declaredFunctionKinds, functionExpressionKinds,
    HoldsLexical, HoldsVariables, IsFunction, IsDeclaredFunction, IsNamedExpression, or_assoc]

theorem qualifies_iff {kinds : List String} {P : Node → Prop} (hP : Lists kinds P) (n : Node) :
    (n.named && kinds.contains n.kind) = true ↔ n.named = true ∧ P n := by
  rw [Bool.and_eq_true, hP n]

theorem getLast?_cons {up : List Node} {d : Node} :
    (d :: up).getLast? = some (up.getLast?.getD d) := by
  cases up with
  | nil => rfl
  | cons a up => rw [List.getLast?_cons_cons, List.getLast?_cons, Option.getD_some]

/-- The nearest scope starts with the node that `nearest` finds. -/
theorem Nearest.eq_cons {P : Node → Prop} {kinds : List String} (hP : Lists kinds P)
    {up scope : List Node} {d : Node} (h : Nearest P up d scope) :
    ∃ far, scope = nearest kinds up d :: far := by
  unfold nearest
  cases h with
  | @around near far n hup hnear hn =>
    have hfind : (up.find? fun a => a.named && kinds.contains a.kind) = some n := by
      refine List.find?_eq_some_iff_append.2 ⟨(qualifies_iff hP n).2 hn, near, far, hup, ?_⟩
      intro a ha
      rw [Bool.not_eq_true']
      exact Bool.eq_false_iff.2 (mt (qualifies_iff hP a).1 (hnear a ha))
    rw [hfind]
    exact ⟨far, rfl⟩
  | outermost hnone hroot =>
    have hfind : (up.find? fun a => a.named && kinds.contains a.kind) = none :=
      List.find?_eq_none.2 fun a ha => mt (qualifies_iff hP a).1 (hnone a ha)
    rw [getLast?_cons, Option.some.injEq] at hroot
    rw [hfind, hroot]
    exact ⟨[], rfl⟩

/-- Every place has a nearest scope. -/
theorem exists_nearest {P : Node → Prop} {kinds : List String} (hP : Lists kinds P)
    (up : List Node) (d : Node) : ∃ far, Nearest P up d (nearest kinds up d :: far) := by
  unfold nearest
  cases hfind : up.find? fun a => a.named && kinds.contains a.kind with
  | some n =>
    obtain ⟨hn, near, far, hup, hnear⟩ := List.find?_eq_some_iff_append.1 hfind
    refine ⟨far, .around hup (fun a ha hqualifies => ?_) ((qualifies_iff hP n).1 hn)⟩
    have hno := hnear a ha
    rw [(qualifies_iff hP a).2 hqualifies] at hno
    cases hno
  | none =>
    refine ⟨[], .outermost (fun a ha hqualifies => ?_) getLast?_cons⟩
    exact List.find?_eq_none.1 hfind a ha ((qualifies_iff hP a).2 hqualifies)

section

variable {P : Node → Prop} {up s s' : List Node} {d : Node}

/-- The nearest scope around a node is at or below every node around it that could be one. -/
theorem Nearest.suffix_of_holds (h : Nearest P up d s) {b : Node} {far : List Node}
    (hb : b.named = true ∧ P b) (hup : b :: far <:+ up) : b :: far <:+ s := by
  rcases hup with ⟨ws, rfl⟩
  cases h with
  | @around near rest n heq hnear hn =>
    rcases List.append_eq_append_iff.1 heq with ⟨zs, rfl, hrest⟩ | ⟨zs, rfl, hrest⟩
    · cases zs with
      | nil =>
        rw [List.nil_append] at hrest
        exact hrest ▸ List.suffix_rfl
      | cons z zs =>
        -- the node would be nearer than the nearest
        have hz : b = z := (List.cons.inj hrest).1
        exact absurd hb (hnear b (List.mem_append_right _ (hz ▸ List.mem_cons_self)))
    · exact ⟨zs, hrest.symm⟩
  | outermost hnone _ =>
    exact absurd hb (hnone b (List.mem_append_right _ List.mem_cons_self))

theorem Nearest.unique (h : Nearest P up d s) (h' : Nearest P up d s') : s = s' := by
  -- each of the two is at or below the other, since both could be the scope
  have hsuffix : ∀ {t t' : List Node}, Nearest P up d t → Nearest P up d t' → t' <:+ t := by
    intro t t' ht ht'
    cases ht' with
    | around heq _ hn =>
      exact ht.suffix_of_holds hn (heq ▸ List.suffix_append _ _)
    | outermost hnone hlast =>
      cases ht with
      | around heq _ hn =>
        exact absurd hn (hnone _ (heq ▸ List.mem_append_right _ List.mem_cons_self))
      | outermost _ hlast' =>
        rw [hlast] at hlast'
        exact Option.some.inj hlast' ▸ List.suffix_rfl
  exact (hsuffix h' h).eq_of_length_le (hsuffix h h').length_le

end

/-! ## What is bound at a node -/

theorem mem_bindTo {scope : Node} {is : List Node} {b : Binding} :
    b ∈ bindTo scope is ↔ b.scope = scope ∧ b.identifier ∈ is := by
  rw [bindTo, List.mem_map]
  constructor
  · rintro ⟨i, hi, rfl⟩
    exact ⟨rfl, hi⟩
  · rintro ⟨rfl, hi⟩
    exact ⟨b.identifier, hi, rfl⟩

theorem bind_mem {scope i : Node} {is : List Node} (h : i ∈ is) :
    (⟨i, scope⟩ : Binding) ∈ bindTo scope is :=
  mem_bindTo.2 ⟨rfl, h⟩

/-- What is bound to the nearest scope of some kinds is bound to one around the place. -/
theorem exists_nearest_of_mem {P : Node → Prop} {kinds : List String} (hP : Lists kinds P)
    {up is : List Node} {d : Node} {b : Binding} (h : b ∈ bindTo (nearest kinds up d) is) :
    b.identifier ∈ is ∧ ∃ far, Nearest P up d (b.scope :: far) := by
  obtain ⟨hscope, hi⟩ := mem_bindTo.1 h
  rw [hscope]
  exact ⟨hi, exists_nearest hP up d⟩

theorem mem_declaratorNames {d i : Node} : i ∈ declaratorNames d ↔ Declarator d i := by
  rw [declaratorNames, List.mem_flatMap]
  constructor
  · rintro ⟨v, hv, hi⟩
    split at hi
    · next hkind =>
      obtain ⟨p, hp, hi⟩ := mem_boundIn?.1 hi
      exact ⟨v, hv, hkind, p, hp, mem_boundIn.1 hi⟩
    · exact absurd hi List.not_mem_nil
  · rintro ⟨v, hv, hkind, p, hp, hi⟩
    refine ⟨v, hv, ?_⟩
    rw [if_pos hkind]
    exact mem_boundIn?.2 ⟨p, hp, mem_boundIn.2 hi⟩

theorem mem_parameterNames {f i : Node} : i ∈ parameterNames f ↔ Parameter f i := by
  rw [parameterNames, List.mem_append, mem_boundIn?]
  apply or_congr
  · cases hps : f.child? "parameters" with
    | none => simp
    | some ps => simp [mem_boundIn]
  · simp only [mem_boundIn]

/-- Only identifiers count as names. -/
theorem mem_if_identifier {n i : Node} :
    (i ∈ if n.kind = "identifier" then [n] else []) ↔ n = i ∧ i.kind = "identifier" := by
  by_cases hn : n.kind = "identifier"
  · rw [if_pos hn, List.mem_singleton]
    constructor
    · rintro rfl
      exact ⟨rfl, hn⟩
    · rintro ⟨rfl, -⟩
      rfl
  · rw [if_neg hn]
    constructor
    · exact fun h => absurd h List.not_mem_nil
    · rintro ⟨rfl, h⟩
      exact absurd h hn

theorem mem_ownName {d i : Node} :
    i ∈ ownName d ↔ d.child? "name" = some i ∧ i.kind = "identifier" := by
  rw [ownName]
  cases hname : d.child? "name" with
  | none => simp
  | some n => rw [mem_if_identifier, Option.some.injEq]

/-- The local name of an imported member. -/
theorem mem_localName {specifier i : Node} :
    (i ∈ match (specifier.child? "alias").orElse fun _ => specifier.child? "name" with
      | some i => if i.kind = "identifier" then [i] else []
      | none => []) ↔
    (specifier.child? "alias" = some i ∨
      specifier.child? "alias" = none ∧ specifier.child? "name" = some i) ∧
      i.kind = "identifier" := by
  cases halias : specifier.child? "alias" with
  | some n =>
    refine mem_if_identifier.trans ?_
    simp
  | none =>
    cases hname : specifier.child? "name" with
    | some n =>
      refine mem_if_identifier.trans ?_
      simp
    | none => simp

theorem mem_importNames {d i : Node} : i ∈ importNames d ↔ Imports d i := by
  rw [importNames, List.mem_flatMap]
  constructor
  · rintro ⟨clause, hclause, hi⟩
    split at hi
    · exact absurd hi List.not_mem_nil
    · next hkind =>
      have hkind : clause.kind = "import_clause" := Decidable.not_not.1 hkind
      obtain ⟨item, hitem, hi⟩ := List.mem_flatMap.1 hi
      -- an item is a default, a namespace or a list of members
      split at hi
      · next hid =>
        rw [List.mem_singleton.1 hi]
        exact .byDefault hclause hkind hitem hid
      · split at hi
        · next hns => exact .wholly hclause hkind hitem hns hi
        · split at hi
          · next hnamed =>
            obtain ⟨specifier, hspec, hi⟩ := List.mem_flatMap.1 hi
            obtain ⟨hlocal, hid⟩ := mem_localName.1 hi
            exact .member hclause hkind hitem hnamed hspec hlocal hid
          · exact absurd hi List.not_mem_nil
  · intro h
    cases h with
    | byDefault hclause hkind hitem hid =>
      refine ⟨_, hclause, ?_⟩
      rw [if_neg (not_not_intro hkind)]
      exact List.mem_flatMap.2 ⟨i, hitem, by rw [if_pos hid]; exact List.mem_singleton.2 rfl⟩
    | wholly hclause hkind hitem hns hi =>
      refine ⟨_, hclause, ?_⟩
      rw [if_neg (not_not_intro hkind)]
      exact List.mem_flatMap.2 ⟨_, hitem, by rw [if_neg (by simp [hns]), if_pos hns]; exact hi⟩
    | member hclause hkind hitem hnamed hspec hlocal hid =>
      refine ⟨_, hclause, ?_⟩
      rw [if_neg (not_not_intro hkind)]
      refine List.mem_flatMap.2 ⟨_, hitem, ?_⟩
      rw [if_neg (by simp [hnamed]), if_neg (by simp [hnamed]), if_pos hnamed]
      exact List.mem_flatMap.2 ⟨_, hspec, mem_localName.2 ⟨hlocal, hid⟩⟩

/-- What the head of a loop binds is declared by it. -/
theorem declares_of_mem_loopBindings {source : ByteArray} {up : List Node} {d : Node}
    {bs : List Binding} {b : Binding} (hkind : d.kind = "for_in_statement")
    (h : loopBindings source up d = .ok bs) (hb : b ∈ bs) :
    ∃ far, Declares source up d (b.scope :: far) b.identifier := by
  unfold loopBindings at h
  split at h
  · cases h
    exact absurd hb List.not_mem_nil
  · next keyword hkeyword =>
    obtain ⟨t, ht, h⟩ := andThen_ok_iff.1 h
    cases h
    obtain ⟨hscope, hi⟩ := mem_bindTo.1 hb
    obtain ⟨p, hp, hi⟩ := mem_boundIn?.1 hi
    by_cases hvar : t = lit "var"
    · rw [if_pos hvar] at hscope
      obtain ⟨far, hfar⟩ := exists_nearest lists_variables up d
      rw [hscope]
      exact ⟨far, .loopVariable hkind hkeyword (hvar ▸ ht) hp (mem_boundIn.1 hi) hfar⟩
    · rw [if_neg hvar] at hscope
      rw [hscope]
      exact ⟨up, .loopLexical hkind hkeyword ht hvar hp (mem_boundIn.1 hi)⟩

/-- What is bound at a node is declared by it. -/
theorem declares_of_mem_bindingsAt {source : ByteArray} {up : List Node} {d : Node}
    {bs : List Binding} {b : Binding} (h : bindingsAt source up d = .ok bs) (hb : b ∈ bs) :
    ∃ far, Declares source up d (b.scope :: far) b.identifier := by
  -- the kinds of declarations are told apart in the order of the definition
  unfold bindingsAt at h
  split at h
  · next hkind =>
    cases h
    obtain ⟨hi, far, hfar⟩ := exists_nearest_of_mem lists_variables hb
    exact ⟨far, .variableName hkind (mem_declaratorNames.1 hi) hfar⟩
  split at h
  · next hkind =>
    cases h
    obtain ⟨hi, far, hfar⟩ := exists_nearest_of_mem lists_lexical hb
    exact ⟨far, .lexicalName hkind (mem_declaratorNames.1 hi) hfar⟩
  split at h
  · next hkind => exact declares_of_mem_loopBindings hkind h hb
  split at h
  · next hkind =>
    have hkind : IsDeclaredFunction d := by
      simpa [declaredFunctionKinds, IsDeclaredFunction] using hkind
    cases h
    rcases List.mem_append.1 hb with hb | hb
    · obtain ⟨hi, far, hfar⟩ := exists_nearest_of_mem lists_variables hb
      exact ⟨far, .functionName hkind (Option.mem_toList.1 hi) hfar⟩
    · obtain ⟨rfl, hi⟩ := mem_bindTo.1 hb
      exact ⟨up, .parameter (Or.inl hkind) (mem_parameterNames.1 hi)⟩
  split at h
  · next hkind =>
    cases h
    obtain ⟨rfl, hi⟩ := mem_bindTo.1 hb
    exact ⟨up, .parameter (Or.inr (Or.inr hkind)) (mem_parameterNames.1 hi)⟩
  split at h
  · next hmethod hkind =>
    have hkind : IsNamedExpression d := by
      simpa [functionExpressionKinds, IsNamedExpression, hmethod] using hkind
    cases h
    obtain ⟨rfl, hi⟩ := mem_bindTo.1 hb
    rcases List.mem_append.1 hi with hi | hi
    · obtain ⟨hname, hid⟩ := mem_ownName.1 hi
      exact ⟨up, .ownName hkind hname hid⟩
    · exact ⟨up, .parameter (Or.inr (Or.inl hkind)) (mem_parameterNames.1 hi)⟩
  split at h
  · next hkind =>
    cases h
    obtain ⟨hi, far, hfar⟩ := exists_nearest_of_mem lists_lexical hb
    exact ⟨far, .className hkind (Option.mem_toList.1 hi) hfar⟩
  split at h
  · next hkind =>
    cases h
    obtain ⟨rfl, hi⟩ := mem_bindTo.1 hb
    obtain ⟨hname, hid⟩ := mem_ownName.1 hi
    exact ⟨up, .classOwnName hkind hname hid⟩
  split at h
  · next hkind =>
    cases h
    obtain ⟨rfl, hi⟩ := mem_bindTo.1 hb
    obtain ⟨p, hp, hi⟩ := mem_boundIn?.1 hi
    exact ⟨up, .caught hkind hp (mem_boundIn.1 hi)⟩
  split at h
  · next hkind =>
    cases h
    obtain ⟨hscope, hi⟩ := mem_bindTo.1 hb
    rw [hscope]
    exact ⟨[], .imported hkind (mem_importNames.1 hi) getLast?_cons⟩
  · cases h
    exact absurd hb List.not_mem_nil

section

variable {source : ByteArray} {up : List Node} {d : Node}

theorem bindingsAt_declaredFunction (h : IsDeclaredFunction d) :
    bindingsAt source up d =
      .ok (bindTo (nearest functionScopeKinds up d) (d.child? "name").toList ++
        bindTo d (parameterNames d)) := by
  rcases h with h | h <;> simp [bindingsAt, h, declaredFunctionKinds]

theorem bindingsAt_namedExpression (h : IsNamedExpression d) :
    bindingsAt source up d = .ok (bindTo d (ownName d ++ parameterNames d)) := by
  rcases h with h | h | h | h <;>
    simp [bindingsAt, h, declaredFunctionKinds, functionExpressionKinds]

theorem bindingsAt_method (h : d.kind = "method_definition") :
    bindingsAt source up d = .ok (bindTo d (parameterNames d)) := by
  simp [bindingsAt, h, declaredFunctionKinds]

/-- The parameters of a function of any kind are bound to it. -/
theorem parameter_mem_bindingsAt {bs : List Binding} {i : Node} (hd : IsFunction d)
    (h : bindingsAt source up d = .ok bs) (hi : Parameter d i) : ⟨i, d⟩ ∈ bs := by
  have hmem : i ∈ parameterNames d := mem_parameterNames.2 hi
  rcases hd with hd | hd | hd
  · rw [bindingsAt_declaredFunction hd] at h
    cases h
    exact List.mem_append_right _ (bind_mem hmem)
  · rw [bindingsAt_namedExpression hd] at h
    cases h
    exact bind_mem (List.mem_append_right _ hmem)
  · rw [bindingsAt_method hd] at h
    cases h
    exact bind_mem hmem

/-- What a node declares is bound at it, in the scope itself unless that is the inside of a
class. -/
theorem exists_binding_of_declares {bs : List Binding} {scope : List Node} {i : Node}
    (h : bindingsAt source up d = .ok bs) (hd : Declares source up d scope i) :
    ∃ b ∈ bs, b.identifier = i ∧
      (scope.head? = some b.scope ∨ d.kind = "class_declaration" ∧ scope = d :: up) := by
  -- only the names of declared classes are bound in one scope and known in another
  cases hd with
  | variableName hkind hi hnear =>
    obtain ⟨far, rfl⟩ := hnear.eq_cons lists_variables
    simp only [bindingsAt, hkind, if_true] at h
    cases h
    exact ⟨_, bind_mem (mem_declaratorNames.2 hi), rfl, Or.inl rfl⟩
  | lexicalName hkind hi hnear =>
    obtain ⟨far, rfl⟩ := hnear.eq_cons lists_lexical
    simp only [bindingsAt, hkind, if_true] at h
    cases h
    exact ⟨_, bind_mem (mem_declaratorNames.2 hi), rfl, Or.inl rfl⟩
  | loopVariable hkind hkeyword ht hp hi hnear =>
    obtain ⟨far, rfl⟩ := hnear.eq_cons lists_variables
    simp only [bindingsAt, hkind, loopBindings, hkeyword, ht] at h
    cases h
    exact ⟨_, bind_mem (mem_boundIn?.2 ⟨_, hp, mem_boundIn.2 hi⟩), rfl, Or.inl rfl⟩
  | loopLexical hkind hkeyword ht hvar hp hi =>
    simp only [bindingsAt, hkind, loopBindings, hkeyword, ht] at h
    cases h
    refine ⟨_, bind_mem (mem_boundIn?.2 ⟨_, hp, mem_boundIn.2 hi⟩), rfl, Or.inl ?_⟩
    rw [if_neg hvar]
    rfl
  | functionName hkind hi hnear =>
    obtain ⟨far, rfl⟩ := hnear.eq_cons lists_variables
    rw [bindingsAt_declaredFunction hkind] at h
    cases h
    exact ⟨_, List.mem_append_left _ (bind_mem (Option.mem_toList.2 hi)), rfl, Or.inl rfl⟩
  | ownName hkind hi hid =>
    rw [bindingsAt_namedExpression hkind] at h
    cases h
    exact ⟨_, bind_mem (List.mem_append_left _ (mem_ownName.2 ⟨hi, hid⟩)), rfl,
      Or.inl rfl⟩
  | parameter hkind hi =>
    exact ⟨_, parameter_mem_bindingsAt hkind h hi, rfl, Or.inl rfl⟩
  | className hkind hi hnear =>
    obtain ⟨far, rfl⟩ := hnear.eq_cons lists_lexical
    simp [bindingsAt, hkind, declaredFunctionKinds, functionExpressionKinds] at h
    subst h
    exact ⟨_, bind_mem (Option.mem_toList.2 hi), rfl, Or.inl rfl⟩
  | classInside hkind hi =>
    simp [bindingsAt, hkind, declaredFunctionKinds, functionExpressionKinds] at h
    subst h
    exact ⟨_, bind_mem (Option.mem_toList.2 hi), rfl, Or.inr ⟨hkind, rfl⟩⟩
  | classOwnName hkind hi hid =>
    simp [bindingsAt, hkind, declaredFunctionKinds, functionExpressionKinds] at h
    subst h
    exact ⟨_, bind_mem (mem_ownName.2 ⟨hi, hid⟩), rfl, Or.inl rfl⟩
  | caught hkind hp hi =>
    simp [bindingsAt, hkind, declaredFunctionKinds, functionExpressionKinds] at h
    subst h
    exact ⟨_, bind_mem (mem_boundIn?.2 ⟨_, hp, mem_boundIn.2 hi⟩), rfl, Or.inl rfl⟩
  | imported hkind hi hroot =>
    simp [bindingsAt, hkind, declaredFunctionKinds, functionExpressionKinds] at h
    subst h
    rw [getLast?_cons] at hroot
    exact ⟨_, bind_mem (mem_importNames.2 hi), rfl, Or.inl hroot.symm⟩

end

end ScriptDeps.Scope

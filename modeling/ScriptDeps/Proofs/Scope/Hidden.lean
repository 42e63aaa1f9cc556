import ScriptDeps.Proofs.Cache.Transparency
import ScriptDeps.Proofs.Scope.Free

namespace ScriptDeps.Scope

open Syntax (Node TextError)
open Text (lit)

/-! # Declared names

An identifier that a declaration binds is not among the free references, nor is any reference to its
name within the scope of the declaration. That holds of every form of declaration but one: what
`using` binds goes unnoticed, so that it is found unless its name is known for another reason. Main
statements:

* `reportedAt_iff`: which identifiers are found, place by place;
* `hidden_of_declares`: what a declaration hides;
* `exists_parent_of_declarator`: where the identifiers of declarators stand;
* `hidden_or_resource`: which declarations hide their names.
-/

/-! ## All forms of declarations -/

/-- The node declares a resource, as in `using x = y`, which belongs to the nearest block. -/
def DeclaresResource (up : List Node) (d : Node) (scope : List Node) (i : Node) : Prop :=
  d.kind = "using_declaration" ∧ Declarator d i ∧ Nearest HoldsLexical up d scope

/-- The node `d` below the nodes `up` binds an identifier, whose name is to be known within the
scope. -/
def Introduces (source : ByteArray) (up : List Node) (d : Node) (scope : List Node) (i : Node) :
    Prop :=
  Declares source up d scope i ∨ DeclaresResource up d scope i

/-- There is a reference where the node stands. -/
def ReportedAt (rs : List Reference) (n : Node) : Prop :=
  ∃ r ∈ rs, r.start = n.start ∧ r.stop = n.stop

instance (rs : List Reference) (n : Node) : Decidable (ReportedAt rs n) := by
  unfold ReportedAt
  infer_instance

/-- Neither the identifier nor any of the same name within the scope is among the references. -/
structure Hidden (source : ByteArray) (root : Node) (rs : List Reference) (scope : List Node)
    (i : Node) : Prop where
  itself : ¬ ReportedAt rs i
  uses : ∀ up n, root.Occurs up n → IsIdentifier n → scope <:+ up → n.text source = i.text source →
    ¬ ReportedAt rs n

/-- No name that a node binds is among the references within its scope. -/
def HidesNames (source : ByteArray) (root : Node) (rs : List Reference) : Prop :=
  ∀ up d scope i, root.Occurs up d → d.named = true → IsIdentifier i →
    Introduces source up d scope i → Hidden source root rs scope i

section

variable {source : ByteArray} {root : Node} {rs : List Reference}

/-! ## What is found at a place -/

/-- A reference with the span of an identifier is a reference to its name. -/
theorem eq_of_reportedAt (h : IsTree root) (hrs : freeReferences source root = .ok rs)
    {up : List Node} {n : Node} {name : Text} (hn : root.Occurs up n) (hid : IsIdentifier n)
    (hname : n.text source = .ok name) {r : Reference} (hr : r ∈ rs)
    (hspan : r.start = n.start ∧ r.stop = n.stop) : r = ⟨name, n.start, n.stop⟩ := by
  obtain ⟨far, m, hm, hmay, -, ht, -, -, -, hstart, hstop⟩ := (mem_freeReferences h hrs).1 hr
  have hsame : m :: far = n :: up := eq_of_same_span h hn hid hm hmay.1 (by omega)
  cases hsame
  rw [hname] at ht
  cases ht
  rw [← hstart, ← hstop]

/-- An identifier is found if it may refer to a name, declares none, and nothing around it makes the
name known. -/
theorem reportedAt_iff (h : IsTree root) (hrs : freeReferences source root = .ok rs)
    {up : List Node} {n : Node} (hn : root.Occurs up n) (hid : IsIdentifier n) :
    ReportedAt rs n ↔ MayRefer up.head? n ∧ ¬ IsDeclaration source root n ∧
      ∃ name, n.text source = .ok name ∧ name ≠ lit "undefined" ∧
        ¬ IsElementName up.head? name ∧ ¬ Known source root up name := by
  constructor
  · rintro ⟨r, hr, hstart, hstop⟩
    obtain ⟨far, m, hm, hmay, hdecl, ht, hever, helement, hknown, hmstart, hmstop⟩ :=
      (mem_freeReferences h hrs).1 hr
    have hspan : m.start = n.start ∧ m.stop = n.stop := by omega
    have hsame := eq_of_same_span h hn hid hm hmay.1 hspan
    cases hsame
    exact ⟨hmay, hdecl, r.name, ht, hever, helement, hknown⟩
  · rintro ⟨hmay, hdecl, name, ht, hever, helement, hknown⟩
    refine ⟨⟨name, n.start, n.stop⟩, (mem_freeReferences h hrs).2 ?_, rfl, rfl⟩
    exact ⟨up, n, hn, hmay, hdecl, ht, hever, helement, hknown, rfl, rfl⟩

/-! ## What a declaration hides -/

/-- What a declaration binds is hidden. -/
theorem hidden_of_declares (h : IsTree root) (hrs : freeReferences source root = .ok rs)
    {up scope : List Node} {d i : Node} (hd : root.Occurs up d) (hnamed : d.named = true)
    (hid : IsIdentifier i) (hdecl : Declares source up d scope i) :
    Hidden source root rs scope i := by
  have hsite : IsDeclaration source root i := ⟨up, d, scope, hd, hnamed, hdecl⟩
  refine ⟨fun hreported => ?_, fun far n hn hidn hscope htext hreported => ?_⟩
  · obtain ⟨far, hi⟩ := hsite.occurs
    obtain ⟨-, hfree, -⟩ := (reportedAt_iff h hrs hi hid).1 hreported
    exact hfree hsite
  · obtain ⟨-, -, name, ht, -, -, hunknown⟩ := (reportedAt_iff h hrs hn hidn).1 hreported
    have hdeclared : DeclaredIn source root scope name :=
      ⟨up, d, i, hd, hnamed, hdecl, htext ▸ ht⟩
    exact hunknown (Or.inl ⟨scope, hscope, hdeclared⟩)

/-! ## What declarators bind -/

/-- The node is a declarator or a pattern. -/
def IsPattern (n : Node) : Prop :=
  n.kind = "variable_declarator" ∨ n.kind = "object_pattern" ∨ n.kind = "array_pattern" ∨
    n.kind = "rest_pattern" ∨ n.kind = "pair_pattern" ∨ n.kind = "assignment_pattern" ∨
    n.kind = "object_assignment_pattern"

theorem IsPattern.not_foreign {n : Node} (h : IsPattern n) : ¬ IsForeign n := by
  rintro (hforeign | hforeign | hforeign) <;> simp [IsPattern, hforeign] at h

theorem IsPattern.not_tag {n : Node} (h : IsPattern n) : ¬ IsTag n := by
  rintro (htag | htag | htag) <;> simp [IsPattern, htag] at h

/-- In a pattern that is the child of a pattern, what is bound is the child of a pattern. -/
theorem exists_parent_of_binds {around p i : Node} {up : List Node} (h : Binds p i)
    (hp : root.Occurs (around :: up) p) (hpattern : IsPattern around) :
    ∃ parent far, root.Occurs (parent :: far) i ∧ IsPattern parent := by
  induction h generalizing around up with
  | name _ => exact ⟨around, up, hp, hpattern⟩
  | part hkind hc _ ih =>
    refine ih (hp.child (List.mem_filter.1 hc).1) ?_
    rcases hkind with hkind | hkind | hkind <;> simp [IsPattern, hkind]
  | value hkind hc _ ih =>
    refine ih (hp.child (List.mem_of_find?_eq_some hc)) ?_
    simp [IsPattern, hkind]
  | beforeDefault hkind hc _ ih =>
    refine ih (hp.child (List.mem_of_find?_eq_some hc)) ?_
    rcases hkind with hkind | hkind <;> simp [IsPattern, hkind]

/-- What a declarator binds is the child of a declarator or a pattern. -/
theorem exists_parent_of_declarator {up : List Node} {d i : Node} (h : Declarator d i)
    (hd : root.Occurs up d) : ∃ parent far, root.Occurs (parent :: far) i ∧ IsPattern parent := by
  obtain ⟨v, hv, hkind, p, hp, hbinds⟩ := h
  have hv : root.Occurs (d :: up) v := hd.child (List.mem_filter.1 hv).1
  refine exists_parent_of_binds hbinds (hv.child (List.mem_of_find?_eq_some hp)) ?_
  simp [IsPattern, hkind]

/-! ## The result -/

/-- What a declaration binds is hidden. What `using` binds is found unless another declaration binds
the same identifier, or something around it makes the name known. -/
theorem hidden_or_resource (h : IsTree root) (hrs : freeReferences source root = .ok rs) :
    (∀ up d scope i, root.Occurs up d → d.named = true → IsIdentifier i →
      Declares source up d scope i → Hidden source root rs scope i) ∧
    ∀ up d scope i, root.Occurs up d → IsIdentifier i → DeclaresResource up d scope i →
      ∃ far, root.Occurs far i ∧
        (ReportedAt rs i ↔ ¬ IsDeclaration source root i ∧
          ∃ name, i.text source = .ok name ∧ name ≠ lit "undefined" ∧
            ¬ Known source root far name) := by
  refine ⟨fun up d scope i hd hnamed hid hdecl => ?_, fun up d scope i hd hid hresource => ?_⟩
  · exact hidden_of_declares h hrs hd hnamed hid hdecl
  · obtain ⟨parent, far, hi, hpattern⟩ := exists_parent_of_declarator hresource.2.1 hd
    refine ⟨parent :: far, hi, ?_⟩
    have hmay : MayRefer (parent :: far).head? i := by
      refine ⟨hid, ?_⟩
      rintro p ⟨⟩
      exact hpattern.not_foreign
    have helement : ∀ name, ¬ IsElementName (parent :: far).head? name := by
      rintro name ⟨-, p, ⟨⟩, htag⟩
      exact hpattern.not_tag htag
    rw [reportedAt_iff h hrs hi hid]
    constructor
    · rintro ⟨-, hfree, name, ht, hever, -, hunknown⟩
      exact ⟨hfree, name, ht, hever, hunknown⟩
    · rintro ⟨hfree, name, ht, hever, hunknown⟩
      exact ⟨hmay, hfree, name, ht, hever, helement name, hunknown⟩

end

/-! ## A program with a resource -/

/-- The bytes of `using x = y; let z;`. -/
def resourceAndLexical : ByteArray := Text.toBytes (lit "using x = y; let z;").encode

/-- The identifier `x`, which `using` binds. -/
def resourceName : Node :=
  { kind := "identifier", named := true, start := 6, stop := 7, role := some "name" }

/-- The node of `using x = y;`. -/
def resourceDeclaration : Node where
  kind := "using_declaration"
  named := true
  start := 0
  stop := 12
  children := [
    { kind := "using", named := false, start := 0, stop := 5, role := some "kind" },
    { kind := "variable_declarator", named := true, start := 6, stop := 11, children := [
      resourceName,
      { kind := "=", named := false, start := 8, stop := 9 },
      { kind := "identifier", named := true, start := 10, stop := 11, role := some "value" }] },
    { kind := ";", named := false, start := 11, stop := 12 }]

/-- The identifier `z`, which `let` binds. -/
def lexicalName : Node :=
  { kind := "identifier", named := true, start := 17, stop := 18, role := some "name" }

/-- The node of `let z;`. -/
def lexicalDeclaration : Node where
  kind := "lexical_declaration"
  named := true
  start := 13
  stop := 19
  children := [
    { kind := "let", named := false, start := 13, stop := 16, role := some "kind" },
    { kind := "variable_declarator", named := true, start := 17, stop := 18, children := [
      lexicalName] },
    { kind := ";", named := false, start := 18, stop := 19 }]

/-- The tree of the program. -/
def resourceAndLexicalTree : Node where
  kind := "program"
  named := true
  start := 0
  stop := 19
  children := [resourceDeclaration, lexicalDeclaration]

theorem nearest_program {d : Node} :
    Nearest HoldsLexical [resourceAndLexicalTree] d [resourceAndLexicalTree] := by
  have hup : [resourceAndLexicalTree] = [] ++ resourceAndLexicalTree :: [] := rfl
  exact .around hup (fun a ha => absurd ha List.not_mem_nil) ⟨rfl, Or.inl (Or.inr rfl)⟩

theorem declaresResource_resourceName :
    DeclaresResource [resourceAndLexicalTree] resourceDeclaration [resourceAndLexicalTree]
      resourceName := by
  refine ⟨rfl, ⟨_, List.mem_cons_self, rfl, resourceName, rfl, ?_⟩, nearest_program⟩
  exact .name (Or.inl rfl)

theorem freeReferences_resourceAndLexical :
    ∃ rs, freeReferences resourceAndLexical resourceAndLexicalTree = .ok rs ∧
      ReportedAt rs resourceName := by
  refine ⟨_, freeReferences_eq_ok.2 ⟨_, [⟨lit "x", 6, 7⟩, ⟨lit "y", 10, 11⟩], rfl, rfl, rfl⟩, ?_⟩
  exact ⟨⟨lit "x", 6, 7⟩, List.mem_mergeSort.2 List.mem_cons_self, rfl, rfl⟩

/-- The name that `let` binds is hidden; the one that `using` binds is found, since nothing makes it
known. -/
theorem hidden_and_found_in_resourceAndLexical :
    IsTree resourceAndLexicalTree ∧
    ∃ rs, freeReferences resourceAndLexical resourceAndLexicalTree = .ok rs ∧
      Hidden resourceAndLexical resourceAndLexicalTree rs [resourceAndLexicalTree] lexicalName ∧
      ∃ far name, resourceAndLexicalTree.Occurs far resourceName ∧
        resourceName.text resourceAndLexical = .ok name ∧
        ¬ Known resourceAndLexical resourceAndLexicalTree far name := by
  have htree : IsTree resourceAndLexicalTree := by decide
  obtain ⟨rs, hrs, hreported⟩ := freeReferences_resourceAndLexical
  have hlexical : resourceAndLexicalTree.Occurs [resourceAndLexicalTree] lexicalDeclaration :=
    Node.Occurs.root.child (List.mem_cons_of_mem _ List.mem_cons_self)
  have hresource : resourceAndLexicalTree.Occurs [resourceAndLexicalTree] resourceDeclaration :=
    Node.Occurs.root.child List.mem_cons_self
  have hdeclares : Declares resourceAndLexical [resourceAndLexicalTree] lexicalDeclaration
      [resourceAndLexicalTree] lexicalName := by
    refine .lexicalName rfl ⟨_, List.mem_cons_self, rfl, lexicalName, rfl, ?_⟩ nearest_program
    exact .name (Or.inl rfl)
  obtain ⟨hhidden, hfound⟩ := hidden_or_resource htree hrs
  refine ⟨htree, rs, hrs, ?_, ?_⟩
  · exact hhidden _ _ _ _ hlexical rfl (Or.inl rfl) hdeclares
  · obtain ⟨far, hfar, hiff⟩ := hfound _ _ _ _ hresource (Or.inl rfl) declaresResource_resourceName
    obtain ⟨-, name, ht, -, hunknown⟩ := hiff.1 hreported
    exact ⟨far, name, hfar, ht, hunknown⟩

/-- Not every script hides the names that it declares. -/
theorem not_all_names_hidden : ¬ ∀ (source : ByteArray) (s : Script) (rs : List Reference),
    Script.read source = .ok s → IsTree s.root → s.freeReferences = .ok rs →
    HidesNames s.source s.root rs := by
  intro h
  have hscript : (Script.ofSource resourceAndLexical).error? = none ∧
      (Script.ofSource resourceAndLexical).root = resourceAndLexicalTree := by
    decide +kernel
  obtain ⟨hvalid, hroot⟩ := hscript
  obtain ⟨rs, hrs, hreported⟩ := freeReferences_resourceAndLexical
  have hread : Script.read resourceAndLexical = .ok ⟨resourceAndLexical, resourceAndLexicalTree⟩ :=
    Script.read_eq_ok.2 ⟨by rw [← hroot]; rfl, by rw [← hroot]; exact hvalid⟩
  have hhides := h _ _ rs hread (by decide) hrs
  have hresource : resourceAndLexicalTree.Occurs [resourceAndLexicalTree] resourceDeclaration :=
    Node.Occurs.root.child List.mem_cons_self
  exact (hhides _ _ _ _ hresource rfl (Or.inl rfl)
    (Or.inr declaresResource_resourceName)).itself hreported

end ScriptDeps.Scope

import ScriptDeps.Proofs.Scope.Hidden

namespace ScriptDeps.Scope

open Syntax (Node TextError)
open Text (lit)

/-! # Names of functions

The parameters of a function, its own name and its `arguments` are known in all of its node. For
most functions that is the parameters and the body. The node of a method has its name and its
decorators, too, so that a reference in a computed name is lost if it has the name of a parameter.
Main statements:

* `known_iff_or`: what makes a name known, one kind or another;
* `RefersTo.exists_part`: where in a function a reference stands;
* `localNames_confined`: which references the names of a function hide.
-/

/-! ## References and what makes their names known -/

/-- A reference to the name stands below the nodes `up`. -/
structure RefersTo (source : ByteArray) (root : Node) (up : List Node) (n : Node) (name : Text) :
    Prop where
  occurs : root.Occurs up n
  refers : MayRefer up.head? n
  declares : ¬ IsDeclaration source root n
  text : n.text source = .ok name
  special : name ≠ lit "undefined"
  element : ¬ IsElementName up.head? name

/-- What stands at the first place makes the name known at and below the second one. -/
inductive MakesKnown (source : ByteArray) (root : Node) : List Node → List Node → Text → Prop
  | declaration {up scope : List Node} {d i : Node} {name : Text} :
      root.Occurs up d → d.named = true → Declares source up d scope i →
      i.text source = .ok name → MakesKnown source root (d :: up) scope name
  | arguments {up : List Node} {f : Node} :
      KnowsArguments f → MakesKnown source root (f :: up) (f :: up) (lit "arguments")

/-- Something for which `D` holds makes the name known below the nodes `up`. -/
def KnownThrough (source : ByteArray) (root : Node) (D : List Node → List Node → Prop)
    (up : List Node) (name : Text) : Prop :=
  ∃ place scope, MakesKnown source root place scope name ∧ scope <:+ up ∧ D place scope

section

variable {source : ByteArray} {root : Node} {rs : List Reference} {up : List Node} {n : Node}
  {name : Text}

theorem known_iff_exists :
    Known source root up name ↔
      ∃ place scope, MakesKnown source root place scope name ∧ scope <:+ up := by
  constructor
  · rintro (⟨scope, hscope, far, d, i, hd, hnamed, hdecl, htext⟩ | ⟨rfl, f, hf, hknows⟩)
    · exact ⟨_, scope, .declaration hd hnamed hdecl htext, hscope⟩
    · rcases List.append_of_mem hf with ⟨near, far, rfl⟩
      exact ⟨_, _, .arguments hknows, List.suffix_append near (f :: far)⟩
  · rintro ⟨place, scope, hmakes, hscope⟩
    cases hmakes with
    | declaration hd hnamed hdecl htext =>
      exact Or.inl ⟨scope, hscope, _, _, _, hd, hnamed, hdecl, htext⟩
    | arguments hknows => exact Or.inr ⟨rfl, _, hscope.subset List.mem_cons_self, hknows⟩

/-- A name is known through one kind of what makes names known or through another. -/
theorem known_iff_or (D : List Node → List Node → Prop) :
    Known source root up name ↔ KnownThrough source root D up name ∨
      KnownThrough source root (fun place scope => ¬ D place scope) up name := by
  rw [known_iff_exists]
  constructor
  · rintro ⟨place, scope, hmakes, hscope⟩
    by_cases hD : D place scope
    · exact Or.inl ⟨place, scope, hmakes, hscope, hD⟩
    · exact Or.inr ⟨place, scope, hmakes, hscope, hD⟩
  · rintro (⟨place, scope, hmakes, hscope, -⟩ | ⟨place, scope, hmakes, hscope, -⟩)
    · exact ⟨place, scope, hmakes, hscope⟩
    · exact ⟨place, scope, hmakes, hscope⟩

/-- A reference is found unless its name is known. -/
theorem RefersTo.reportedAt_iff (href : RefersTo source root up n name) (h : IsTree root)
    (hrs : freeReferences source root = .ok rs) :
    ReportedAt rs n ↔ ¬ Known source root up name := by
  rw [Scope.reportedAt_iff h hrs href.occurs href.refers.1]
  constructor
  · rintro ⟨-, -, t, ht, -, -, hunknown⟩
    rw [href.text] at ht
    cases ht
    exact hunknown
  · intro hunknown
    exact ⟨href.refers, href.declares, name, href.text, href.special, href.element, hunknown⟩

/-- Below a node that is neither foreign nor a tag, every identifier that declares nothing refers to
its name. -/
theorem RefersTo.of_parent {p : Node} (hn : root.Occurs (p :: up) n) (hid : IsIdentifier n)
    (hforeign : ¬ IsForeign p) (htag : ¬ IsTag p) (hdecl : ¬ IsDeclaration source root n)
    (htext : n.text source = .ok name) (hspecial : name ≠ lit "undefined") :
    RefersTo source root (p :: up) n name where
  occurs := hn
  refers := by
    refine ⟨hid, ?_⟩
    intro q hq
    cases hq
    exact hforeign
  declares := hdecl
  text := htext
  special := hspecial
  element := by
    rintro ⟨-, q, hq, hqtag⟩
    cases hq
    exact htag hqtag

/-! ## The names of a function -/

/-- The identifier is a parameter of the function, or its own name if it is an expression. -/
def IsLocal (f i : Node) : Prop :=
  Parameter f i ∨ IsNamedExpression f ∧ f.child? "name" = some i ∧ i.kind = "identifier"

/-- The name is a local name of the function. -/
def LocalName (source : ByteArray) (f : Node) (name : Text) : Prop :=
  (∃ i, IsLocal f i ∧ i.text source = .ok name) ∨ name = lit "arguments" ∧ KnowsArguments f

/-- Something other than the local names of the function makes the name known. -/
def KnownBesides (source : ByteArray) (root : Node) (f : Node) (far up : List Node) (name : Text) :
    Prop :=
  KnownThrough source root (fun place scope => ¬ (place = f :: far ∧ scope = f :: far)) up name

/-- A node at or below the place makes the name known. -/
def KnownWithin (source : ByteArray) (root : Node) (place up : List Node) (name : Text) : Prop :=
  KnownThrough source root (fun _ scope => place <:+ scope) up name

theorem IsLocal.declares {f i : Node} {far : List Node} (hf : IsFunction f) (hi : IsLocal f i) :
    Declares source far f (f :: far) i := by
  rcases hi with hi | ⟨hexpression, hname, hid⟩
  · exact .parameter hf hi
  · exact .ownName hexpression hname hid

/-- The nearest scope around a node is not the node itself, unless that is the root. -/
theorem not_nearest_self {P : Node → Prop} {f : Node} {far : List Node} (hf : root.Occurs far f)
    (hroot : f ≠ root) : ¬ Nearest P far f (f :: far) := by
  intro hnear
  generalize hscope : f :: far = scope at hnear
  cases hnear with
  | around hup _ _ =>
    have hlength := congrArg List.length hup
    rw [← hscope, List.length_append, List.length_cons] at hlength
    omega
  | outermost _ _ =>
    cases hscope
    have hlast := hf.getLast?
    rw [List.getLast?_singleton, Option.some.injEq] at hlast
    exact hroot hlast

/-- What a function declares within itself is local. -/
theorem isLocal_of_declares {f i : Node} {far : List Node} (hroot : IsProgram root)
    (hocc : root.Occurs far f) (hf : IsFunction f) (hdecl : Declares source far f (f :: far) i) :
    IsLocal f i := by
  have hkind : ∀ k, f.kind = k → IsFunction { f with kind := k } := by
    rintro k rfl
    exact hf
  have hne : f ≠ root := by
    rintro rfl
    exact absurd (hkind _ hroot.2) (by simp [IsFunction, IsDeclaredFunction, IsNamedExpression])
  -- no other form of declaration has the kind of a function
  have hother : ∀ k, f.kind = k → ¬ IsFunction { f with kind := k } → IsLocal f i :=
    fun k hk hnot => absurd (hkind k hk) hnot
  cases hdecl with
  | parameter _ hi => exact Or.inl hi
  | ownName hexpression hname hid => exact Or.inr ⟨hexpression, hname, hid⟩
  | functionName _ _ hnear => exact absurd hnear (not_nearest_self hocc hne)
  | variableName hk | lexicalName hk | loopVariable hk | loopLexical hk | className hk
  | classInside hk | classOwnName hk | caught hk | imported hk =>
    exact hother _ hk (by simp [IsFunction, IsDeclaredFunction, IsNamedExpression])

/-- The local names of a function are those that it makes known within itself. -/
theorem makesKnown_self_iff {f : Node} {far : List Node} (hroot : IsProgram root)
    (hocc : root.Occurs far f) (hnamed : f.named = true) (hf : IsFunction f) :
    MakesKnown source root (f :: far) (f :: far) name ↔ LocalName source f name := by
  constructor
  · intro hmakes
    cases hmakes with
    | declaration _ _ hdecl htext =>
      exact Or.inl ⟨_, isLocal_of_declares hroot hocc hf hdecl, htext⟩
    | arguments hknows => exact Or.inr ⟨rfl, hknows⟩
  · rintro (⟨i, hi, htext⟩ | ⟨rfl, hknows⟩)
    · exact .declaration hocc hnamed (hi.declares hf) htext
    · exact .arguments hknows

/-- A name is known if it is a local name of the function around the place or for another reason. -/
theorem known_iff_besides {f : Node} {far : List Node} (hroot : IsProgram root)
    (hocc : root.Occurs far f) (hnamed : f.named = true) (hf : IsFunction f) :
    Known source root up name ↔ KnownBesides source root f far up name ∨
      LocalName source f name ∧ f :: far <:+ up := by
  rw [known_iff_or fun place scope => ¬ (place = f :: far ∧ scope = f :: far)]
  apply or_congr_right
  rw [← makesKnown_self_iff hroot hocc hnamed hf]
  constructor
  · rintro ⟨place, scope, hmakes, hscope, hself⟩
    rcases Decidable.not_not.1 hself with ⟨rfl, rfl⟩
    exact ⟨hmakes, hscope⟩
  · rintro ⟨hmakes, hscope⟩
    exact ⟨_, _, hmakes, hscope, not_not_intro ⟨rfl, rfl⟩⟩

/-- Below a node, a name is known if it is known around the node or through the node or one
between. -/
theorem known_iff_within {f : Node} {far : List Node} (hf : f :: far <:+ up) :
    Known source root up name ↔
      Known source root far name ∨ KnownWithin source root (f :: far) up name := by
  rw [known_iff_exists, known_iff_exists]
  constructor
  · rintro ⟨place, scope, hmakes, hscope⟩
    -- all scopes around a place are nested: this one is around the node, or at or below it
    rcases List.suffix_or_suffix_of_suffix hf hscope with hinner | houter
    · exact Or.inr ⟨place, scope, hmakes, hscope, hinner⟩
    · rcases List.suffix_cons_iff.1 houter with rfl | houter
      · exact Or.inr ⟨place, _, hmakes, hscope, List.suffix_rfl⟩
      · exact Or.inl ⟨place, scope, hmakes, houter⟩
  · rintro (⟨place, scope, hmakes, hscope⟩ | ⟨place, scope, hmakes, hscope, -⟩)
    · exact ⟨place, scope, hmakes, hscope.trans ((List.suffix_cons f far).trans hf)⟩
    · exact ⟨place, scope, hmakes, hscope⟩

/-! ## Where in a function a reference stands -/

/-- The node plays the role of parameters or of a body. -/
def IsInner (c : Node) : Prop :=
  c.role = some "parameters" ∨ c.role = some "parameter" ∨ c.role = some "body"

/-- What the grammar says of a function: identifiers stand in its parameters, its body and its name,
and in the decorators of a method; the name of any other function is an identifier. -/
structure IsFormed (f : Node) : Prop where
  parts : ∀ c ∈ f.children, ∀ ws n, c.Occurs ws n → IsIdentifier n →
    IsInner c ∨ c.role = some "name" ∨ f.kind = "method_definition" ∧ c.role = some "decorator"
  name : f.kind ≠ "method_definition" → ∀ c ∈ f.children, c.role = some "name" →
    f.child? "name" = some c ∧ c.kind = "identifier"

/-- All functions in the tree are as the grammar says. -/
def FunctionsFormed (root : Node) : Prop :=
  ∀ far f, root.Occurs far f → f.named = true → IsFunction f → IsFormed f

/-- The place is in the parameters or the body of the function. -/
def InBody (f : Node) (far up : List Node) (n : Node) : Prop :=
  ∃ c ∈ f.children, IsInner c ∧ c :: f :: far <:+ n :: up

/-- The function is a method, and the place is in its name or a decorator. -/
def InHead (f : Node) (far up : List Node) (n : Node) : Prop :=
  f.kind = "method_definition" ∧
    ∃ c ∈ f.children, (c.role = some "name" ∨ c.role = some "decorator") ∧ c :: f :: far <:+ n :: up

theorem isDeclaration_name {f c : Node} {far : List Node} (hocc : root.Occurs far f)
    (hnamed : f.named = true) (hf : IsFunction f) (hmethod : f.kind ≠ "method_definition")
    (hname : f.child? "name" = some c) (hid : c.kind = "identifier") :
    IsDeclaration source root c := by
  rcases hf with hf | hf | hf
  · rcases exists_nearest lists_variables far f with ⟨rest, hnear⟩
    exact ⟨far, f, _, hocc, hnamed, .functionName hf hname hnear⟩
  · exact ⟨far, f, _, hocc, hnamed, .ownName hf hname hid⟩
  · exact absurd hf hmethod

/-- A reference in a function stands in its parameters or its body, or in the name or a decorator of
a method. -/
theorem RefersTo.exists_part (href : RefersTo source root up n name) (h : IsTree root)
    (formed : FunctionsFormed root) {f : Node} {far : List Node} (hocc : root.Occurs far f)
    (hnamed : f.named = true) (hf : IsFunction f) (hin : f :: far <:+ up) :
    InBody f far up n ∨ InHead f far up n := by
  rcases href.occurs.exists_child hin with ⟨c, hc, hbelow, ws, hws⟩
  rcases (formed far f hocc hnamed hf).parts c hc ws n hws href.refers.1 with
    hinner | hname | ⟨hmethod, hdecorator⟩
  · exact Or.inl ⟨c, hc, hinner, hbelow⟩
  · by_cases hmethod : f.kind = "method_definition"
    · exact Or.inr ⟨hmethod, c, hc, Or.inl hname, hbelow⟩
    · -- the name of the function would be the reference itself
      rcases (formed far f hocc hnamed hf).name hmethod c hc hname with ⟨hchild, hid⟩
      have hleaf := (h.leaf _ c (hocc.child hc) (Or.inl hid)).1
      have heq : n :: up = c :: f :: far := href.occurs.eq_of_leaf hleaf hbelow
      have hdecl : IsDeclaration source root c :=
        isDeclaration_name hocc hnamed hf hmethod hchild hid
      rw [← (List.cons.inj heq).1] at hdecl
      exact absurd hdecl href.declares
  · exact Or.inr ⟨hmethod, c, hc, Or.inr hdecorator, hbelow⟩

theorem suffix_of_below {c : Node} {place : List Node} (h : c :: place <:+ n :: up) :
    place <:+ up := by
  rcases List.suffix_cons_iff.1 h with heq | hup
  · exact (List.cons.inj heq).2 ▸ List.suffix_rfl
  · exact (List.suffix_cons c place).trans hup

theorem InBody.within {f : Node} {far : List Node} (h : InBody f far up n) : f :: far <:+ up := by
  rcases h with ⟨c, -, -, hc⟩
  exact suffix_of_below hc

theorem InHead.within {f : Node} {far : List Node} (h : InHead f far up n) : f :: far <:+ up := by
  rcases h with ⟨-, c, -, -, hc⟩
  exact suffix_of_below hc

/-! ## The result -/

/-- The local names of the function hide references in its parameters and its body, and in the name
and the decorators of a method, but nowhere else. -/
structure Confines (source : ByteArray) (root : Node) (rs : List Reference) (far : List Node)
    (f : Node) : Prop where
  /-- Outside, the local names do not matter, nor do they to a reference to another name. -/
  outside : ∀ up n name, RefersTo source root up n name → ¬ InBody f far up n →
    (InHead f far up n → ¬ LocalName source f name) →
    (ReportedAt rs n ↔ ¬ KnownBesides source root f far up name)
  inside : ∀ up n name, RefersTo source root up n name → InBody f far up n ∨ InHead f far up n →
    LocalName source f name → ¬ ReportedAt rs n
  /-- In the name and the decorators of a method, the nodes around the method decide, unless the
  method or a node between it and the reference makes the name known. -/
  head : ∀ up n name, RefersTo source root up n name → InHead f far up n →
    (ReportedAt rs n ↔ ¬ Known source root far name ∧
      ¬ KnownWithin source root (f :: far) up name)

/-- The local names of a function hide nothing outside of its parameters and its body. -/
def LocalNamesConfined (source : ByteArray) (root : Node) (rs : List Reference) : Prop :=
  ∀ far f, root.Occurs far f → f.named = true → IsFunction f →
    ∀ up n name, RefersTo source root up n name → ¬ InBody f far up n →
      (ReportedAt rs n ↔ ¬ KnownBesides source root f far up name)

/-- Which references the local names of functions hide. -/
theorem localNames_confined (h : IsTree root) (formed : FunctionsFormed root)
    (hrs : freeReferences source root = .ok rs) {far : List Node} {f : Node}
    (hocc : root.Occurs far f) (hnamed : f.named = true) (hf : IsFunction f) :
    Confines source root rs far f := by
  constructor
  case outside =>
    intro up n name href hbody hhead
    rw [href.reportedAt_iff h hrs, known_iff_besides h.program hocc hnamed hf]
    apply not_congr
    apply or_iff_left
    rintro ⟨hlocal, hin⟩
    rcases href.exists_part h formed hocc hnamed hf hin with hpart | hpart
    · exact hbody hpart
    · exact hhead hpart hlocal
  case inside =>
    intro up n name href hpart hlocal hreported
    have hin : f :: far <:+ up := by
      rcases hpart with hpart | hpart
      · exact hpart.within
      · exact hpart.within
    rw [href.reportedAt_iff h hrs, known_iff_besides h.program hocc hnamed hf] at hreported
    exact hreported (Or.inr ⟨hlocal, hin⟩)
  case head =>
    intro up n name href hhead
    rw [href.reportedAt_iff h hrs, known_iff_within hhead.within, not_or]

end

/-! ## Deciding -/

instance (f : Node) : Decidable (IsFunction f) := by
  unfold IsFunction IsDeclaredFunction IsNamedExpression
  infer_instance

instance (c : Node) : Decidable (IsInner c) := by
  unfold IsInner
  infer_instance

instance (f : Node) (far up : List Node) (n : Node) : Decidable (InBody f far up n) := by
  unfold InBody
  infer_instance

theorem isFormed_iff {f : Node} :
    ((∀ c ∈ f.children, ∀ ws n, c.Occurs ws n → IsIdentifier n →
        IsInner c ∨ c.role = some "name" ∨
          f.kind = "method_definition" ∧ c.role = some "decorator") ∧
      (f.kind ≠ "method_definition" → ∀ c ∈ f.children, c.role = some "name" →
        f.child? "name" = some c ∧ c.kind = "identifier")) ↔
    IsFormed f :=
  ⟨fun h => ⟨h.1, h.2⟩, fun h => ⟨h.parts, h.name⟩⟩

instance (f : Node) : Decidable (IsFormed f) := decidable_of_iff _ isFormed_iff

instance (root : Node) : Decidable (FunctionsFormed root) := by
  unfold FunctionsFormed
  infer_instance

/-! ## A method with a computed name -/

/-- The bytes of `({[x](x){}});x`. -/
def computedAndLater : ByteArray := Text.toBytes (lit "(\x7b[x](x)\x7b\x7d\x7d);x").encode

/-- An identifier of one letter. -/
def letterAt (start : Nat) : Node :=
  { kind := "identifier", named := true, start, stop := start + 1 }

def computedName : Node where
  kind := "computed_property_name"
  named := true
  start := 2
  stop := 5
  role := some "name"
  children := [
    { kind := "[", named := false, start := 2, stop := 3 },
    letterAt 3,
    { kind := "]", named := false, start := 4, stop := 5 }]

/-- The node of `[x](x){}`. -/
def computedMethod : Node where
  kind := "method_definition"
  named := true
  start := 2
  stop := 10
  children := [
    computedName,
    { kind := "formal_parameters", named := true, start := 5, stop := 8, role := some "parameters"
      children := [
        { kind := "(", named := false, start := 5, stop := 6 },
        letterAt 6,
        { kind := ")", named := false, start := 7, stop := 8 }] },
    { kind := "statement_block", named := true, start := 8, stop := 10, role := some "body"
      children := [
        { kind := "\x7b", named := false, start := 8, stop := 9 },
        { kind := "\x7d", named := false, start := 9, stop := 10 }] }]

def computedObject : Node where
  kind := "object"
  named := true
  start := 1
  stop := 11
  children := [
    { kind := "\x7b", named := false, start := 1, stop := 2 },
    computedMethod,
    { kind := "\x7d", named := false, start := 10, stop := 11 }]

def computedGroup : Node where
  kind := "parenthesized_expression"
  named := true
  start := 0
  stop := 12
  children := [
    { kind := "(", named := false, start := 0, stop := 1 },
    computedObject,
    { kind := ")", named := false, start := 11, stop := 12 }]

def computedStatement : Node where
  kind := "expression_statement"
  named := true
  start := 0
  stop := 13
  children := [computedGroup, { kind := ";", named := false, start := 12, stop := 13 }]

def laterStatement : Node where
  kind := "expression_statement"
  named := true
  start := 13
  stop := 14
  children := [letterAt 13]

def computedAndLaterTree : Node where
  kind := "program"
  named := true
  start := 0
  stop := 14
  children := [computedStatement, laterStatement]

/-- The nodes around the method, the nearest first. -/
def aroundMethod : List Node :=
  [computedObject, computedGroup, computedStatement, computedAndLaterTree]

theorem occurs_computedMethod : computedAndLaterTree.Occurs aroundMethod computedMethod := by
  have hstatement : computedAndLaterTree.Occurs [computedAndLaterTree] computedStatement :=
    Node.Occurs.root.child List.mem_cons_self
  have hobject := (hstatement.child (c := computedGroup) List.mem_cons_self).child
    (c := computedObject) (List.mem_cons_of_mem _ List.mem_cons_self)
  exact hobject.child (List.mem_cons_of_mem _ List.mem_cons_self)

theorem declarations_computedAndLater :
    declarations computedAndLater [] computedAndLaterTree =
      .ok [⟨⟨2, 10, "method_definition"⟩, lit "x", some ⟨6, 7, "identifier"⟩⟩] := rfl

theorem freeReferences_computedAndLater :
    freeReferences computedAndLater computedAndLaterTree = .ok [⟨lit "x", 13, 14⟩] :=
  freeReferences_eq_ok.2 ⟨_, [⟨lit "x", 13, 14⟩], rfl, rfl, (List.mergeSort_singleton _).symm⟩

theorem isTree_computedAndLater : IsTree computedAndLaterTree := by decide

theorem functionsFormed_computedAndLater : FunctionsFormed computedAndLaterTree := by decide

/-- The letter at either of the two places refers to `x`. -/
theorem refersTo_letter {p : Node} {up : List Node} {start : Nat}
    (hn : computedAndLaterTree.Occurs (p :: up) (letterAt start))
    (hp : ¬ IsForeign p ∧ ¬ IsTag p) (hsite : start ≠ 6)
    (htext : (letterAt start).text computedAndLater = .ok (lit "x")) :
    RefersTo computedAndLater computedAndLaterTree (p :: up) (letterAt start) (lit "x") := by
  have hid : IsIdentifier (letterAt start) := Or.inl rfl
  refine .of_parent hn hid hp.1 hp.2 ?_ htext (by decide)
  rw [← mem_sites_iff isTree_computedAndLater declarations_computedAndLater hn hid]
  intro hmem
  have hkey : Key.of (letterAt start) = ⟨6, 7, "identifier"⟩ := List.mem_singleton.1 hmem
  exact hsite (congrArg Key.start hkey)

theorem refersTo_head :
    RefersTo computedAndLater computedAndLaterTree (computedName :: computedMethod :: aroundMethod)
      (letterAt 3) (lit "x") := by
  have hname := occurs_computedMethod.child (c := computedName) List.mem_cons_self
  have hletter := hname.child (c := letterAt 3) (List.mem_cons_of_mem _ List.mem_cons_self)
  have hplain : ¬ IsForeign computedName ∧ ¬ IsTag computedName := by
    simp [IsForeign, IsTag, computedName]
  exact refersTo_letter hletter hplain (by decide) rfl

theorem refersTo_later :
    RefersTo computedAndLater computedAndLaterTree [laterStatement, computedAndLaterTree]
      (letterAt 13) (lit "x") := by
  have hstatement : computedAndLaterTree.Occurs [computedAndLaterTree] laterStatement :=
    Node.Occurs.root.child (List.mem_cons_of_mem _ List.mem_cons_self)
  have hletter := hstatement.child (c := letterAt 13) List.mem_cons_self
  have hplain : ¬ IsForeign laterStatement ∧ ¬ IsTag laterStatement := by
    simp [IsForeign, IsTag, laterStatement]
  exact refersTo_letter hletter hplain (by decide) rfl

/-- A method declares names within itself only. -/
theorem scope_of_method {source : ByteArray} {up scope : List Node} {d i : Node}
    (hkind : d.kind = "method_definition") (h : Declares source up d scope i) :
    scope = d :: up := by
  cases h with
  | variableName hk | lexicalName hk | loopVariable hk | className hk | imported hk =>
    simp [hkind] at hk
  | functionName hk => simp [IsDeclaredFunction, hkind] at hk
  | _ => rfl

/-- Only the parameter makes `x` known. -/
theorem not_knownBesides_x {up : List Node} :
    ¬ KnownBesides computedAndLater computedAndLaterTree computedMethod aroundMethod up
      (lit "x") := by
  -- no other node of the tree declares anything
  have hplaces : ∀ far d, computedAndLaterTree.Occurs far d →
      d :: far = computedMethod :: aroundMethod ∨
        declarationsAt computedAndLater far d = .ok [] := by
    decide +kernel
  rintro ⟨place, scope, hmakes, -, hother⟩
  generalize hname : lit "x" = name at hmakes
  cases hmakes with
  | declaration hd hnamed hdecl htext =>
    rcases hplaces _ _ hd with heq | hnone
    · cases heq
      exact hother ⟨rfl, scope_of_method rfl hdecl⟩
    · rcases hdecl.eq_cons with ⟨s, rest, rfl⟩
      rcases exists_mem_of_declares hnone hnamed hdecl htext with ⟨x, hx, -⟩
      exact absurd hx List.not_mem_nil
  | arguments _ => exact absurd hname (by decide)

/-- Behind the method, `x` is found, although it is the name of a parameter; in the name of the
method it is not. -/
theorem confines_computedMethod : ∃ rs,
    freeReferences computedAndLater computedAndLaterTree = .ok rs ∧
    Confines computedAndLater computedAndLaterTree rs aroundMethod computedMethod ∧
    LocalName computedAndLater computedMethod (lit "x") ∧ ReportedAt rs (letterAt 13) ∧
    ¬ ReportedAt rs (letterAt 3) := by
  have hconfines := localNames_confined isTree_computedAndLater functionsFormed_computedAndLater
    freeReferences_computedAndLater occurs_computedMethod rfl (Or.inr (Or.inr rfl))
  have hlocal : LocalName computedAndLater computedMethod (lit "x") :=
    Or.inl ⟨letterAt 6, Or.inl (Or.inl ⟨_, rfl, _, List.mem_cons_self, .name (Or.inl rfl)⟩), rfl⟩
  have hfar : ¬ computedMethod :: aroundMethod <:+ [laterStatement, computedAndLaterTree] := by
    intro hsuffix
    have hlength := hsuffix.length_le
    simp [aroundMethod] at hlength
  have hlater := hconfines.outside _ _ _ refersTo_later (fun hin => hfar hin.within)
    fun hin => absurd hin.within hfar
  exact ⟨_, freeReferences_computedAndLater, hconfines, hlocal, hlater.2 not_knownBesides_x,
    by decide⟩

/-- Not every script confines the local names of its functions. -/
theorem not_all_localNames_confined :
    ¬ ∀ (source : ByteArray) (s : Script) (rs : List Reference), Script.read source = .ok s →
      IsTree s.root → FunctionsFormed s.root → s.freeReferences = .ok rs →
      LocalNamesConfined s.source s.root rs := by
  intro h
  have hroot : (Script.ofSource computedAndLater).root = computedAndLaterTree := by
    decide +kernel
  have hread : Script.read computedAndLater = .ok ⟨computedAndLater, computedAndLaterTree⟩ :=
    Script.read_of_root hroot rfl
  have hconfined := h _ _ _ hread isTree_computedAndLater functionsFormed_computedAndLater
    freeReferences_computedAndLater
  have hbody : ¬ InBody computedMethod aroundMethod (computedName :: computedMethod :: aroundMethod)
      (letterAt 3) := by
    decide
  have hreported := (hconfined _ _ occurs_computedMethod rfl (Or.inr (Or.inr rfl)) _ _ _
    refersTo_head hbody).2 not_knownBesides_x
  exact absurd hreported (by decide)

end ScriptDeps.Scope

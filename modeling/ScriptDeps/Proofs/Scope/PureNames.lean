import ScriptDeps.Dependency
import ScriptDeps.Proofs.Parse.Soundness
import ScriptDeps.Proofs.Scope.Hidden

namespace ScriptDeps

open Grammar (attributeKind isNamePlace)
open Parse (NamesApart parse_namesApart)
open Syntax (Node)
open Text (lit)

/-! # Names that refer to nothing

The name of a property, a member, a label, an export or an attribute, and the tag of an element of the
language itself, are no references, and none of them is found. For most of them the reason is the
grammar, which has no identifiers there. In a name with a namespace, as in `<a:b/>`, it has two, and
these are found like any others, although they are below the tag or the attribute. Main statements:

* `IsPureName`: the nodes that only name something;
* `not_reportedAt_of_isPureName`: none of them is found;
* `pureNames_hidden`: nor is any in a script that can be read, but parts of a name with a namespace
  are found unless they are known.
-/

/-- A script that can be read has no errors, so that names stand apart from references in it. -/
theorem Script.namesApart {source : ByteArray} {s : Script} (h : Script.read source = .ok s) :
    NamesApart s.root := by
  obtain ⟨rfl, hvalid⟩ := Script.read_eq_ok.1 h
  refine parse_namesApart (Bool.eq_false_iff.2 fun hfaulty => ?_)
  have herror : (Script.ofSource source).error? =
      some (Syntax.errorAt source ((Parse.parse source).firstFault?.getD (Parse.parse source))) :=
    if_pos hfaulty
  rw [hvalid] at herror
  cases herror

namespace Scope

/-- The kind of a name with a namespace. -/
def namespacedKind : String := "jsx_namespace_name"

/-- The node only names something for its parent: a property, a member, a label or an attribute, an
export or a member of another module, or an element of the language itself. No identifier is part
of it. -/
structure IsPureName (source : ByteArray) (parent n : Node) : Prop where
  place : isNamePlace parent.kind n.role = true ∨ IsForeign parent ∨
    ∃ name, n.text source = .ok name ∧ IsElementName (some parent) name
  simple : ∀ ws m, n.Occurs ws m → IsIdentifier m → ws = []

/-- The node below `up` is the name of an attribute, or of an element of the language itself, with a
namespace. -/
def IsNamespaced (source : ByteArray) (up : List Node) (n : Node) : Prop :=
  n.kind = namespacedKind ∧ ∃ parent, up.head? = some parent ∧ (parent.kind = attributeKind ∨
    ∃ name, n.text source = .ok name ∧ IsElementName (some parent) name)

/-- Nothing is part of a node without children. -/
theorem IsPureName.of_leaf {source : ByteArray} {parent n : Node} (leaf : n.children = [])
    (place : isNamePlace parent.kind n.role = true ∨ IsForeign parent ∨
      ∃ name, n.text source = .ok name ∧ IsElementName (some parent) name) :
    IsPureName source parent n := by
  refine ⟨place, fun ws m hm _ => ?_⟩
  rcases hm.cases_root with ⟨rfl, -⟩ | ⟨c, hc, -⟩
  · rfl
  · rw [leaf] at hc
    exact absurd hc List.not_mem_nil

theorem mem_identifierKinds {n : Node} : n.kind ∈ identifierKinds ↔ IsIdentifier n := by
  simp [identifierKinds, IsIdentifier]

section

variable {source : ByteArray} {root : Node} {rs : List Reference}

/-- What is found where a node without identifiers below it stands is the node itself. -/
theorem eq_of_simple (h : IsTree root) {up far : List Node} {n m : Node} (hn : root.Occurs up n)
    (hsimple : ∀ ws m, n.Occurs ws m → IsIdentifier m → ws = []) (hm : root.Occurs far m)
    (hid : IsIdentifier m) (hspan : m.start = n.start ∧ m.stop = n.stop) : m :: far = n :: up := by
  obtain ⟨leaf, nonempty⟩ := h.leaf far m hm hid
  have hsuffix : n :: up <:+ m :: far :=
    Node.suffix_of_covers h.nested hm leaf nonempty hn (by omega)
  rcases List.suffix_cons_iff.1 hsuffix with heq | ⟨near, rfl⟩
  · exact heq.symm
  · exact absurd (hsimple _ m hm.within hid) (List.append_ne_nil_of_right_ne_nil near
      (List.cons_ne_nil n []))

/-- Where names stand apart from references, no pure name is found. -/
theorem not_reportedAt_of_isPureName (h : IsTree root) (happart : NamesApart root)
    (hrs : freeReferences source root = .ok rs) {up : List Node} {parent n : Node}
    (hn : root.Occurs (parent :: up) n) (hname : IsPureName source parent n) :
    ¬ ReportedAt rs n := by
  rintro ⟨r, hr, hstart, hstop⟩
  obtain ⟨far, m, hm, hmay, -, ht, -, helement, -, hmstart, hmstop⟩ :=
    (mem_freeReferences h hrs).1 hr
  have hspan : m.start = n.start ∧ m.stop = n.stop := by omega
  cases eq_of_simple h hn hname.simple hm hmay.1 hspan
  rcases hname.place with hplace | hforeign | ⟨name, hname, htag⟩
  · have hparent : root.Occurs up parent := hn.of_suffix (List.suffix_cons _ _)
    have hfree := happart up parent hparent n hn.mem_children (mem_identifierKinds.2 hmay.1)
    rw [hplace] at hfree
    cases hfree
  · exact hmay.2 parent rfl hforeign
  · rw [ht] at hname
    cases hname
    exact helement htag

/-- A part of a name with a namespace is found like any other identifier. -/
theorem reportedAt_iff_of_namespaced (h : IsTree root) (hrs : freeReferences source root = .ok rs)
    {up : List Node} {parent n : Node} (hn : root.Occurs (parent :: up) n) (hid : IsIdentifier n)
    (hparent : parent.kind = namespacedKind) :
    ReportedAt rs n ↔ ¬ IsDeclaration source root n ∧ ∃ name, n.text source = .ok name ∧
      name ≠ lit "undefined" ∧ ¬ Known source root (parent :: up) name := by
  have hforeign : ¬ IsForeign parent := by simp [IsForeign, hparent, namespacedKind]
  have htag : ¬ IsTag parent := by simp [IsTag, hparent, namespacedKind]
  have hmay : MayRefer (some parent) n := ⟨hid, by rintro p ⟨⟩; exact hforeign⟩
  have hplain : ∀ name, ¬ IsElementName (some parent) name := by
    rintro name ⟨-, p, hp, hptag⟩
    cases hp
    exact htag hptag
  rw [reportedAt_iff h hrs hn hid]
  constructor
  · rintro ⟨-, hdecl, name, ht, hever, -, hknown⟩
    exact ⟨hdecl, name, ht, hever, hknown⟩
  · rintro ⟨hdecl, name, ht, hever, hknown⟩
    exact ⟨hmay, hdecl, name, ht, hever, hplain name, hknown⟩

end

/-- In a script, no node that only names something is found, but the parts of a name with a namespace
are found unless their names are known. -/
theorem pureNames_hidden {source : ByteArray} {s : Script} {rs : List Reference}
    (hread : Script.read source = .ok s) (htree : IsTree s.root)
    (hrs : s.freeReferences = .ok rs) :
    (∀ up parent n, s.root.Occurs (parent :: up) n → IsPureName s.source parent n →
      ¬ ReportedAt rs n) ∧
    ∀ up parent n, s.root.Occurs (parent :: up) n → IsIdentifier n →
      parent.kind = namespacedKind → (ReportedAt rs n ↔ ¬ IsDeclaration s.source s.root n ∧
        ∃ name, n.text s.source = .ok name ∧ name ≠ lit "undefined" ∧
          ¬ Known s.source s.root (parent :: up) name) := by
  have happart : NamesApart s.root := Script.namesApart hread
  exact ⟨fun _ _ _ hn hname => not_reportedAt_of_isPureName htree happart hrs hn hname,
    fun _ _ _ hn hid hparent => reportedAt_iff_of_namespaced htree hrs hn hid hparent⟩

/-! ## An example -/

/-- The bytes of `l:<a:b c/>`. -/
def labelAndTag : ByteArray := Text.toBytes (lit "l:<a:b c/>").encode

/-- The label. -/
def labelName : Node :=
  { kind := "statement_identifier", named := true, start := 0, stop := 1, role := some "label" }

/-- One of the two names in the tag. -/
def tagPart (start : Nat) : Node :=
  { kind := "identifier", named := true, start, stop := start + 1 }

/-- The name in the tag. -/
def tagName : Node where
  kind := namespacedKind
  named := true
  start := 3
  stop := 6
  role := some "name"
  children := [tagPart 3, { kind := ":", named := false, start := 4, stop := 5 }, tagPart 5]

/-- The name of the attribute. -/
def attributeName : Node :=
  { kind := "property_identifier", named := true, start := 7, stop := 8 }

/-- The attribute. -/
def bareAttribute : Node where
  kind := attributeKind
  named := true
  start := 7
  stop := 8
  role := some "attribute"
  children := [attributeName]

/-- The element. -/
def labeledElement : Node where
  kind := "jsx_self_closing_element"
  named := true
  start := 2
  stop := 10
  children := [{ kind := "<", named := false, start := 2, stop := 3 }, tagName, bareAttribute,
    { kind := "/>", named := false, start := 8, stop := 10 }]

/-- The statement behind the label. -/
def labeledBody : Node where
  kind := "expression_statement"
  named := true
  start := 2
  stop := 10
  role := some "body"
  children := [labeledElement]

/-- The statement with its label. -/
def labeledStatement : Node where
  kind := "labeled_statement"
  named := true
  start := 0
  stop := 10
  children := [labelName, { kind := ":", named := false, start := 1, stop := 2 }, labeledBody]

/-- The tree of `l:<a:b c/>`. -/
def labelAndTagTree : Node where
  kind := "program"
  named := true
  start := 0
  stop := 10
  children := [labeledStatement]

theorem read_labelAndTag : Script.read labelAndTag = .ok ⟨labelAndTag, labelAndTagTree⟩ := by
  have hroot : (Script.ofSource labelAndTag).root = labelAndTagTree := by decide +kernel
  exact Script.read_of_root hroot rfl

theorem isTree_labelAndTag : IsTree labelAndTagTree := by decide

theorem freeReferences_labelAndTag :
    freeReferences labelAndTag labelAndTagTree = .ok [⟨lit "a", 3, 4⟩, ⟨lit "b", 5, 6⟩] := by
  have hsorted : [(⟨lit "a", 3, 4⟩ : Reference), ⟨lit "b", 5, 6⟩].Pairwise
      fun a b => !Text.before b.name a.name := by decide
  exact freeReferences_eq_ok.2 ⟨_, [⟨lit "a", 3, 4⟩, ⟨lit "b", 5, 6⟩], rfl, rfl,
    (List.mergeSort_of_pairwise hsorted).symm⟩

theorem occurs_labeledElement :
    labelAndTagTree.Occurs [labeledBody, labeledStatement, labelAndTagTree] labeledElement := by
  have hstatement : labelAndTagTree.Occurs [labelAndTagTree] labeledStatement :=
    Node.Occurs.root.child List.mem_cons_self
  have hbody := hstatement.child (c := labeledBody)
    (List.mem_cons_of_mem _ (List.mem_cons_of_mem _ List.mem_cons_self))
  exact hbody.child List.mem_cons_self

theorem occurs_tagPart : labelAndTagTree.Occurs
    [tagName, labeledElement, labeledBody, labeledStatement, labelAndTagTree] (tagPart 3) := by
  have hname := occurs_labeledElement.child (c := tagName) (List.mem_cons_of_mem _ List.mem_cons_self)
  exact hname.child List.mem_cons_self

/-- The label and the attribute are not found; the parts of the tag are, since they are not known. -/
theorem pureNames_in_labelAndTag : ∃ s rs, Script.read labelAndTag = .ok s ∧ IsTree s.root ∧
    s.freeReferences = .ok rs ∧ IsPureName s.source labeledStatement labelName ∧
    ¬ ReportedAt rs labelName ∧ IsPureName s.source bareAttribute attributeName ∧
    ¬ ReportedAt rs attributeName ∧ ReportedAt rs (tagPart 3) ∧
    ¬ Known s.source s.root
      [tagName, labeledElement, labeledBody, labeledStatement, labelAndTagTree] (lit "a") := by
  obtain ⟨hhidden, hparts⟩ := pureNames_hidden read_labelAndTag isTree_labelAndTag
    freeReferences_labelAndTag
  have hlabel : labelAndTagTree.Occurs [labeledStatement, labelAndTagTree] labelName :=
    (Node.Occurs.root.child List.mem_cons_self).child List.mem_cons_self
  have hattribute := (occurs_labeledElement.child (c := bareAttribute)
    (List.mem_cons_of_mem _ (List.mem_cons_of_mem _ List.mem_cons_self))).child (c := attributeName)
      List.mem_cons_self
  have hpure : IsPureName labelAndTag labeledStatement labelName := .of_leaf rfl (.inl rfl)
  have hpure' : IsPureName labelAndTag bareAttribute attributeName := .of_leaf rfl (.inl rfl)
  have hfound : ReportedAt [⟨lit "a", 3, 4⟩, ⟨lit "b", 5, 6⟩] (tagPart 3) := by decide
  obtain ⟨-, name, ht, -, hunknown⟩ := (hparts _ _ _ occurs_tagPart (.inl rfl) rfl).1 hfound
  have hname : (tagPart 3).text labelAndTag = .ok (lit "a") := rfl
  rw [hname] at ht
  cases ht
  exact ⟨_, _, read_labelAndTag, isTree_labelAndTag, freeReferences_labelAndTag, hpure,
    hhidden _ _ _ hlabel hpure, hpure', hhidden _ _ _ hattribute hpure', hfound, hunknown⟩

/-- Not every script hides all names that refer to nothing: the parts of a tag with a namespace are
found. -/
theorem not_all_pureNames_hidden : ¬ ∀ (source : ByteArray) (s : Script) (rs : List Reference),
    Script.read source = .ok s → IsTree s.root → s.freeReferences = .ok rs →
    ∀ up parent n, s.root.Occurs (parent :: up) n →
      IsPureName s.source parent n ∨ IsIdentifier n ∧ IsNamespaced s.source up parent →
      ¬ ReportedAt rs n := by
  intro h
  have hspaced : IsNamespaced labelAndTag
      [labeledElement, labeledBody, labeledStatement, labelAndTagTree] tagName := by
    refine ⟨rfl, labeledElement, rfl, .inr ⟨lit "a:b", rfl, by decide, labeledElement, rfl, ?_⟩⟩
    exact .inr (.inr rfl)
  have hfound : ReportedAt [⟨lit "a", 3, 4⟩, ⟨lit "b", 5, 6⟩] (tagPart 3) := by decide
  exact h _ _ _ read_labelAndTag isTree_labelAndTag freeReferences_labelAndTag _ _ _ occurs_tagPart
    (.inr ⟨.inl rfl, hspaced⟩) hfound

end Scope

end ScriptDeps

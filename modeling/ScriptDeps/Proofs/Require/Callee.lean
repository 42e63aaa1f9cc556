import ScriptDeps.Proofs.Require.Order
import ScriptDeps.Proofs.Scope.Hidden
import ScriptDeps.Proofs.Syntax.Compact

namespace ScriptDeps.Require

open Scope (DeclaredIn Declares HoldsLexical HoldsVariables IsDeclaration IsIdentifier IsProgram
  IsTree Known Legible MayRefer Nearest Reference ReportedAt eq_of_same_span freeReferences
  eq_of_reportedAt exists_freeReferences_iff reportedAt_iff)
open Syntax (Node bytes_of_text)
open Text (bytesBetween encode lit)

/-! # What is called is a reference

The search for calls and the search for free references are independent of each other. They agree
about `require`: at a call, what is called is a free reference to `require`, unless a node around
the call declares that name. Whoever declares it, the call is found. Main statements:

* `exists_callee`: where the `require` of a call stands;
* `reported_callee_iff`: when it is a free reference;
* `calls_refer`: the calls of a tree against its free references.
-/

/-! ## The span of a text -/

/-- A node has as many bytes as its text. -/
theorem stop_of_text {source : ByteArray} {n : Node} {t : Text} (ht : n.text source = .ok t)
    (hwithin : n.stop ≤ source.size) (hforward : n.start ≤ n.stop) :
    n.stop = n.start + (encode t).length := by
  have hlength := Text.length_bytesBetween hwithin n.start
  rw [bytes_of_text ht] at hlength
  omega

/-! ## Where what is called stands -/

/-- Calls start with what is called. -/
def CallsOpen (root : Node) : Prop :=
  ∀ up n, root.Occurs up n → n.kind = "call_expression" →
    ∀ callee ∈ n.child? "function", callee.start = n.start

instance (root : Node) : Decidable (CallsOpen root) := by
  unfold CallsOpen
  infer_instance

section

variable {source : ByteArray} {root : Node}

/-- The name that is called is the first thing in a call. -/
theorem exists_callee (tree : IsTree root) (hwithin : root.stop ≤ source.size)
    (opened : CallsOpen root) {up : List Node} {n : Node} (hn : root.Occurs up n)
    (hcall : IsCall source n) :
    ∃ callee, Calls n callee ∧ root.Occurs (n :: up) callee ∧
      callee.text source = .ok (lit "require") ∧ callee.start = n.start ∧
      callee.stop = n.start + 7 := by
  obtain ⟨arguments, callee, list, hcalls, hname, -⟩ := hcall
  have hmem : callee ∈ n.children := List.mem_of_find?_eq_some hcalls.2.1
  have hcallee : root.Occurs (n :: up) callee := hn.child hmem
  have hstart : callee.start = n.start := opened up n hn hcalls.1 callee hcalls.2.1
  have hinside := tree.nested.inside hcallee
  have hstop := stop_of_text hname (Nat.le_trans hinside.2 hwithin)
    (tree.nested _ _ hcallee).forward
  have hseven : (encode (lit "require")).length = 7 := by decide
  rw [hseven, hstart] at hstop
  exact ⟨callee, hcalls, hcallee, hname, hstart, hstop⟩

/-! ## Calls are no scopes -/

theorem not_call_of_holdsLexical {n : Node} (h : HoldsLexical n) : n.kind ≠ "call_expression" := by
  intro hcall
  simp [HoldsLexical, HoldsVariables, Scope.IsFunction, Scope.IsDeclaredFunction,
    Scope.IsNamedExpression, hcall] at h

theorem not_call_of_nearest {P : Node → Prop} (hP : ∀ n, P n → HoldsLexical n) {up far : List Node}
    {d s : Node} (hprogram : IsProgram root) (hd : root.Occurs up d)
    (h : Nearest P up d (s :: far)) : s.kind ≠ "call_expression" := by
  cases h with
  | around _ _ hs => exact not_call_of_holdsLexical (hP s hs.2)
  | outermost _ hroot =>
    rw [hd.getLast?] at hroot
    cases hroot
    rw [hprogram.2]
    decide

/-- Neither calls nor identifiers declare anything. -/
theorem not_declares {up scope : List Node} {d i : Node}
    (hd : d.kind = "call_expression" ∨ d.kind = "identifier") :
    ¬ Declares source up d scope i := by
  intro h
  rcases hd with hkind | hkind <;> cases h <;>
    simp_all [Scope.IsFunction, Scope.IsDeclaredFunction, Scope.IsNamedExpression]

/-- No name is known within a call only. -/
theorem not_call_of_declaredIn {s : Node} {far : List Node} {name : Text}
    (hprogram : IsProgram root) (h : DeclaredIn source root (s :: far) name) :
    s.kind ≠ "call_expression" := by
  obtain ⟨up, d, i, hd, -, hdeclares, -⟩ := h
  have hself : d.kind ≠ "call_expression" := fun hcall => not_declares (Or.inl hcall) hdeclares
  have hlexical : Nearest HoldsLexical up d (s :: far) → s.kind ≠ "call_expression" :=
    not_call_of_nearest (fun _ => id) hprogram hd
  have hvariables : Nearest HoldsVariables up d (s :: far) → s.kind ≠ "call_expression" :=
    not_call_of_nearest (fun _ => Or.inl) hprogram hd
  cases hdeclares with
  | variableName _ _ hnear => exact hvariables hnear
  | lexicalName _ _ hnear => exact hlexical hnear
  | loopVariable _ _ _ _ _ hnear => exact hvariables hnear
  | functionName _ _ hnear => exact hvariables hnear
  | className _ _ hnear => exact hlexical hnear
  | loopLexical => exact hself
  | ownName => exact hself
  | parameter => exact hself
  | classInside => exact hself
  | classOwnName => exact hself
  | caught => exact hself
  | imported _ _ hroot =>
    rw [hd.getLast?] at hroot
    cases hroot
    rw [hprogram.2]
    decide

/-! ## Declarations around a call -/

/-- A node around the place declares the name. -/
def DeclaredAround (source : ByteArray) (root : Node) (up : List Node) (name : Text) : Prop :=
  ∃ scope, scope <:+ up ∧ DeclaredIn source root scope name

/-- A call adds nothing to what the nodes around it declare. -/
theorem declaredAround_call (hprogram : IsProgram root) {up : List Node} {n : Node} {name : Text}
    (hcall : n.kind = "call_expression") :
    DeclaredAround source root (n :: up) name ↔ DeclaredAround source root up name := by
  constructor
  · rintro ⟨scope, hscope, hdeclared⟩
    obtain ⟨s, far, rfl⟩ := hdeclared.eq_cons
    rcases List.suffix_cons_iff.1 hscope with heq | hup
    · cases heq
      exact absurd hcall (not_call_of_declaredIn hprogram hdeclared)
    · exact ⟨s :: far, hup, hdeclared⟩
  · rintro ⟨scope, hscope, hdeclared⟩
    exact ⟨scope, hscope.trans (List.suffix_cons n up), hdeclared⟩

/-- If a declaration binds what is called, the declaration is around the call. -/
theorem declaredAround_of_isDeclaration (tree : IsTree root) {up : List Node} {n callee : Node}
    {name : Text} (hcalls : Calls n callee) (hcallee : root.Occurs (n :: up) callee)
    (hname : callee.text source = .ok name) (hdeclares : IsDeclaration source root callee) :
    DeclaredAround source root up name := by
  obtain ⟨far, d, scope, hd, hnamed, hdeclares⟩ := hdeclares
  obtain ⟨ws, hws⟩ := hdeclares.occurs
  have hid : IsIdentifier callee := Or.inl hcalls.2.2
  -- what is called stands at one place only, so that the declaration is around it
  have hplace : callee :: (ws ++ far) = callee :: n :: up :=
    eq_of_same_span tree hcallee hid (hd.trans hws) hid ⟨rfl, rfl⟩
  have hup : ws ++ far = n :: up := (List.cons.inj hplace).2
  rcases hws.cases_root with ⟨rfl, rfl⟩ | ⟨c, -, vs, -, rfl⟩
  · exact absurd hdeclares (not_declares (Or.inr hcalls.2.2))
  · have haround : d :: far <:+ n :: up := by
      rw [← hup, List.append_assoc]
      exact List.suffix_append vs (d :: far)
    rcases List.suffix_cons_iff.1 haround with heq | habove
    · cases heq
      exact absurd hdeclares (not_declares (Or.inl hcalls.1))
    · exact ⟨scope, hdeclares.suffix.trans habove, far, d, callee, hd, hnamed, hdeclares, hname⟩

/-! ## The result -/

/-- What is called is a free reference unless a node around the call declares the name. -/
theorem reported_callee_iff (tree : IsTree root) {rs : List Reference}
    (hrs : freeReferences source root = .ok rs) {up : List Node} {n callee : Node}
    (hcalls : Calls n callee) (hcallee : root.Occurs (n :: up) callee)
    (hname : callee.text source = .ok (lit "require")) :
    ReportedAt rs callee ↔ ¬ DeclaredAround source root up (lit "require") := by
  have hid : IsIdentifier callee := Or.inl hcalls.2.2
  have hmay : MayRefer (n :: up).head? callee := by
    refine ⟨hid, ?_⟩
    rintro p ⟨⟩ (hforeign | hforeign | hforeign) <;> simp [hcalls.1] at hforeign
  have hplain : ¬ Scope.IsElementName (n :: up).head? (lit "require") := by
    rintro ⟨-, p, ⟨⟩, htag | htag | htag⟩ <;> simp [hcalls.1] at htag
  have hknown : Known source root (n :: up) (lit "require") ↔
      DeclaredAround source root up (lit "require") := by
    rw [← declaredAround_call tree.program hcalls.1]
    refine or_iff_left ?_
    rintro ⟨hother, -⟩
    revert hother
    decide
  rw [reportedAt_iff tree hrs hcallee hid]
  constructor
  · rintro ⟨-, -, name, ht, -, -, hunknown⟩
    rw [hname] at ht
    cases ht
    rw [← hknown]
    exact hunknown
  · intro hfree
    refine ⟨hmay, fun hdeclares => ?_, _, hname, by decide, hplain, mt hknown.1 hfree⟩
    exact hfree (declaredAround_of_isDeclaration tree hcalls hcallee hname hdeclares)

/-- The call at a place, and what is called there among the references. -/
structure Refers (source : ByteArray) (root : Node) (rs : List Reference)
    (p : List Node × Node) (c : Call) : Prop where
  reported : Reports source p.2 c
  /-- What is called is a free reference unless a node around the call declares the name. -/
  found : ¬ DeclaredAround source root p.1 (lit "require") →
    ⟨lit "require", c.start, c.start + 7⟩ ∈ rs
  /-- If one does, there is no reference at all. -/
  hidden : DeclaredAround source root p.1 (lit "require") →
    ∀ r ∈ rs, ¬ (r.start = c.start ∧ r.stop = c.start + 7)

/-- The references exist if all names are texts, and then the calls of the tree are found one by
one, each with a free reference to `require` unless a node around it declares that name. -/
theorem calls_refer (tree : IsTree root) (hwithin : root.stop ≤ source.size)
    (opened : CallsOpen root) {cs : List Call} (hcs : calls source root = .ok cs) :
    ((∃ rs, freeReferences source root = .ok rs) ↔ Legible source root) ∧
    ∀ rs, freeReferences source root = .ok rs →
      List.Forall₂ (Refers source root rs) (callPlaces source root) cs := by
  refine ⟨exists_freeReferences_iff, fun rs hrs => ?_⟩
  have heach : List.Forall₂ (fun p c => (root.Occurs p.1 p.2 ∧ IsCall source p.2) ∧
      Reports source p.2 c) (callPlaces source root) cs :=
    (List.forall₂_and_left _ _).2 ⟨fun _ hp => mem_callPlaces.1 hp, reports_of_calls hcs⟩
  refine heach.imp ?_
  rintro ⟨up, n⟩ c ⟨⟨hn, hcall⟩, hreports⟩
  obtain ⟨callee, hcalls, hcallee, hname, hstart, hstop⟩ :=
    exists_callee tree hwithin opened hn hcall
  have hreported := reported_callee_iff tree hrs hcalls hcallee hname
  have hspan : callee.start = c.start ∧ callee.stop = c.start + 7 := by
    have hbounds := hreports.bounds
    omega
  refine ⟨hreports, fun hfree => ?_, fun hdeclared r hr hr' => ?_⟩
  · obtain ⟨r, hr, hrspan⟩ := hreported.2 hfree
    have heq := eq_of_reportedAt tree hrs hcallee (Or.inl hcalls.2.2) hname hr hrspan
    rw [hspan.1, hspan.2] at heq
    exact heq ▸ hr
  · refine hreported.1 ⟨r, hr, ?_⟩ hdeclared
    omega

end

/-- The bytes of `require(1);require=>require()`. -/
def shadowedCall : ByteArray := Text.toBytes (encode (lit "require(1);require=>require()"))

/-- What is called first is the one free reference; what is called second is the parameter. -/
theorem refers_in_shadowedCall :
    Legible shadowedCall (Script.ofSource shadowedCall).root ∧
      List.Forall₂
        (Refers shadowedCall (Script.ofSource shadowedCall).root [⟨lit "require", 0, 7⟩])
        (callPlaces shadowedCall (Script.ofSource shadowedCall).root)
        [⟨lit "1", 0, 10, false⟩, ⟨[], 20, 29, true⟩] := by
  -- decided at once, so that the source is parsed once
  have hscript : let root := (Script.ofSource shadowedCall).root
      IsTree root ∧ root.stop ≤ shadowedCall.size ∧ CallsOpen root ∧
        calls shadowedCall root = .ok [⟨lit "1", 0, 10, false⟩, ⟨[], 20, 29, true⟩] ∧
        freeReferences shadowedCall root = .ok [⟨lit "require", 0, 7⟩] := by
    decide +kernel
  obtain ⟨tree, hwithin, opened, hcalls, hreferences⟩ := hscript
  obtain ⟨hlegible, hrefers⟩ := calls_refer tree hwithin opened hcalls
  exact ⟨hlegible.1 ⟨_, hreferences⟩, hrefers _ hreferences⟩

end ScriptDeps.Require

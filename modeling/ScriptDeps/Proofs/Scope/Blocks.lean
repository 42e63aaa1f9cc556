import ScriptDeps.Proofs.Scope.Locals

namespace ScriptDeps.Scope

open Syntax (Node TextError)
open Text (lit)

/-! # Names in blocks

What `let`, `const` and `class` declare is known in the nearest block, loop with a head of its own,
function or program. The body of a `switch` is no such block, nor are other loops, so that a name
declared there without another block is known around them, too. Main statements:

* `DeclaresLexical.known_iff`: when a lexical declaration matters;
* `DeclaresLexical.body_suffix`: the bodies that its scope is within;
* `lexicalNames_confined`: which references a lexical declaration hides.
-/

/-! ## Lexical declarations -/

/-- The node is a body in braces, a loop or a program. -/
def IsBody (n : Node) : Prop :=
  n.kind = "program" ∨ n.kind = "statement_block" ∨ n.kind = "class_static_block" ∨
    n.kind = "switch_body" ∨ n.kind = "for_statement" ∨ n.kind = "for_in_statement" ∨
    n.kind = "while_statement" ∨ n.kind = "do_statement"

/-- The node is a body or a loop that holds no names: the body of a `switch` or a loop without a
head of its own. -/
def HoldsNoNames (n : Node) : Prop :=
  n.kind = "switch_body" ∨ n.kind = "while_statement" ∨ n.kind = "do_statement"

theorem IsBody.holdsLexical {n : Node} (h : IsBody n) (hno : ¬ HoldsNoNames n) :
    HoldsLexical n := by
  simp only [HoldsNoNames, not_or] at hno
  rcases h with h | h | h | h | h | h | h | h
  · exact Or.inl (Or.inr h)
  · exact Or.inr (Or.inl h)
  · exact Or.inr (Or.inr (Or.inr (Or.inr h)))
  · exact absurd h hno.1
  · exact Or.inr (Or.inr (Or.inl h))
  · exact Or.inr (Or.inr (Or.inr (Or.inl h)))
  · exact absurd h hno.2.1
  · exact absurd h hno.2.2

/-- The node `d` declares an identifier with `let`, `const` or `class`. The first place is that of
the innermost body, loop or program around the declaration, the second one its scope. -/
inductive DeclaresLexical (source : ByteArray) (up : List Node) (d : Node) :
    List Node → List Node → Node → Prop
  | inBody {body scope : List Node} {i : Node} :
      d.kind = "lexical_declaration" ∧ Declarator d i ∨
        d.kind = "class_declaration" ∧ d.child? "name" = some i →
      Nearest IsBody up d body → Nearest HoldsLexical up d scope →
      DeclaresLexical source up d body scope i
  | inHead {keyword p i : Node} {t : Text} :
      d.kind = "for_in_statement" → d.child? "kind" = some keyword →
      keyword.text source = .ok t → t ≠ lit "var" → d.child? "left" = some p → Binds p i →
      DeclaresLexical source up d (d :: up) (d :: up) i

/-- Another declaration than that at the place, or a function with `arguments`, makes the name
known. -/
def KnownOtherwise (source : ByteArray) (root : Node) (place up : List Node) (name : Text) : Prop :=
  KnownThrough source root (fun other _ => other ≠ place) up name

section

variable {source : ByteArray} {root : Node} {rs : List Reference} {up body scope : List Node}
  {d i : Node} {name : Text}

theorem DeclaresLexical.declares (h : DeclaresLexical source up d body scope i) :
    Declares source up d scope i := by
  cases h with
  | inBody hd _ hscope =>
    rcases hd with ⟨hkind, hi⟩ | ⟨hkind, hi⟩
    · exact .lexicalName hkind hi hscope
    · exact .className hkind hi hscope
  | inHead hkind hkeyword ht hvar hp hi => exact .loopLexical hkind hkeyword ht hvar hp hi

/-- All that the node declares is known within the scope at most. -/
theorem DeclaresLexical.suffix (h : DeclaresLexical source up d body scope i) {other : List Node}
    {j : Node} (hother : Declares source up d other j) : scope <:+ other := by
  cases h with
  | inBody hd _ hscope =>
    -- of all forms of declarations, only three go with these kinds
    have hkind : d.kind = "lexical_declaration" ∨ d.kind = "class_declaration" :=
      hd.imp And.left And.left
    cases hother with
    | lexicalName _ _ hnear => exact hnear.unique hscope ▸ List.suffix_rfl
    | className _ _ hnear => exact hnear.unique hscope ▸ List.suffix_rfl
    | classInside _ _ => exact hscope.suffix
    | variableName hk | loopVariable hk | loopLexical hk | classOwnName hk | caught hk
    | imported hk => simp [hk] at hkind
    | functionName hk | ownName hk | parameter hk =>
      rcases hkind with hkind | hkind <;>
        simp [IsFunction, IsDeclaredFunction, IsNamedExpression, hkind] at hk
  | inHead hkind hkeyword ht hvar _ _ =>
    cases hother with
    | loopVariable _ hkeyword' ht' _ _ _ =>
      rw [hkeyword] at hkeyword'
      cases hkeyword'
      rw [ht] at ht'
      exact absurd (Except.ok.inj ht') hvar
    | variableName hk | lexicalName hk | className hk | imported hk => simp [hkind] at hk
    | functionName hk => simp [IsDeclaredFunction, hkind] at hk
    | _ => exact List.suffix_rfl

theorem DeclaresLexical.not_function (h : DeclaresLexical source up d body scope i) :
    ¬ IsFunction d := by
  intro hf
  cases h with
  | inBody hd _ _ =>
    rcases hd with ⟨hkind, -⟩ | ⟨hkind, -⟩ <;>
      simp [IsFunction, IsDeclaredFunction, IsNamedExpression, hkind] at hf
  | inHead hkind _ _ _ _ _ =>
    simp [IsFunction, IsDeclaredFunction, IsNamedExpression, hkind] at hf

/-- The name that a lexical declaration declares is known within its scope or for another reason. -/
theorem DeclaresLexical.known_iff (h : DeclaresLexical source up d body scope i)
    (hocc : root.Occurs up d) (hnamed : d.named = true) (htext : i.text source = .ok name)
    {far : List Node} :
    Known source root far name ↔
      KnownOtherwise source root (d :: up) far name ∨ scope <:+ far := by
  rw [known_iff_or fun other _ => other ≠ d :: up]
  apply or_congr_right
  constructor
  · rintro ⟨place, other, hmakes, hother, hself⟩
    cases Decidable.not_not.1 hself
    cases hmakes with
    | declaration _ _ hdecl _ => exact (h.suffix hdecl).trans hother
    | arguments hknows => exact absurd hknows.2.1 h.not_function
  · intro hscope
    exact ⟨_, scope, .declaration hocc hnamed h.declares htext, hscope, not_not_intro rfl⟩

/-- Every node of a program but the program itself has a body around it. -/
theorem exists_body (hroot : IsProgram root) (hocc : root.Occurs up d) (hd : d ≠ root) :
    ∃ b ∈ up, b.named = true ∧ IsBody b := by
  have hlast := hocc.getLast?
  cases up with
  | nil => exact absurd (Option.some.inj hlast) hd
  | cons a up =>
    rw [List.getLast?_cons_cons] at hlast
    exact ⟨root, List.mem_of_getLast? hlast, hroot.1, Or.inl hroot.2⟩

/-- A body that holds names is the scope or around it. -/
theorem DeclaresLexical.body_suffix (h : DeclaresLexical source up d body scope i)
    (hroot : IsProgram root) (hocc : root.Occurs up d) {b : Node} {rest : List Node}
    (hbody : body = b :: rest) (hno : ¬ HoldsNoNames b) : body <:+ scope := by
  subst hbody
  cases h with
  | inBody hd hbody hscope =>
    have hne : d ≠ root := by
      rintro rfl
      rcases hd with ⟨hkind, -⟩ | ⟨hkind, -⟩ <;> simp [hroot.2] at hkind
    generalize hplace : b :: rest = place at hbody
    cases hbody with
    | around hup _ hb =>
      cases hplace
      exact hscope.suffix_of_holds ⟨hb.1, hb.2.holdsLexical hno⟩ (hup ▸ List.suffix_append _ _)
    | outermost hnone _ =>
      rcases exists_body hroot hocc hne with ⟨a, ha, hnamed, hisBody⟩
      exact absurd ⟨hnamed, hisBody⟩ (hnone a ha)
  | inHead _ _ _ _ _ _ => exact List.suffix_rfl

/-! ## The result -/

/-- What a lexical declaration hides is within its scope, and that is within the innermost body or
loop around the declaration, unless that one holds no names. -/
structure ConfinesLexical (source : ByteArray) (root : Node) (rs : List Reference)
    (up : List Node) (d : Node) (body scope : List Node) (i : Node) : Prop where
  /-- A reference to the name is found unless it is within the scope or known for another reason. -/
  reported : ∀ far n name, RefersTo source root far n name → i.text source = .ok name →
    (ReportedAt rs n ↔ ¬ scope <:+ far ∧ ¬ KnownOtherwise source root (d :: up) far name)
  /-- Outside of the body, the declaration does not matter. -/
  outside : ∀ b rest, body = b :: rest → ¬ HoldsNoNames b →
    ∀ far n name, RefersTo source root far n name → i.text source = .ok name →
      ¬ body <:+ far → (ReportedAt rs n ↔ ¬ KnownOtherwise source root (d :: up) far name)

/-- A lexical declaration hides nothing outside of the innermost body, loop or program around it. -/
def LexicalNamesConfined (source : ByteArray) (root : Node) (rs : List Reference) : Prop :=
  ∀ up d body scope i, root.Occurs up d → d.named = true →
    DeclaresLexical source up d body scope i →
    ∀ far n name, RefersTo source root far n name → i.text source = .ok name →
      ¬ body <:+ far → (ReportedAt rs n ↔ ¬ KnownOtherwise source root (d :: up) far name)

/-- Which references lexical declarations hide. -/
theorem lexicalNames_confined (h : IsTree root) (hrs : freeReferences source root = .ok rs)
    (hocc : root.Occurs up d) (hnamed : d.named = true)
    (hdecl : DeclaresLexical source up d body scope i) :
    ConfinesLexical source root rs up d body scope i := by
  have hreported : ∀ far n name, RefersTo source root far n name → i.text source = .ok name →
      (ReportedAt rs n ↔ ¬ scope <:+ far ∧ ¬ KnownOtherwise source root (d :: up) far name) := by
    intro far n name href htext
    rw [href.reportedAt_iff h hrs, hdecl.known_iff hocc hnamed htext, not_or, and_comm]
  constructor
  · exact hreported
  · intro b rest hbody hno far n name href htext hfar
    rw [hreported far n name href htext]
    apply and_iff_right
    intro hscope
    exact hfar ((hdecl.body_suffix h.program hocc hbody hno).trans hscope)

end

/-! ## A block and a `switch` -/

/-- The bytes of `{let a}switch(a){default:let b}b`. -/
def blockAndSwitch : ByteArray :=
  Text.toBytes (lit "\x7blet a\x7dswitch(a)\x7bdefault:let b\x7db").encode

/-- The name of a declaration of one letter. -/
def letterDeclared (start : Nat) : Node := { letterAt start with role := some "name" }

/-- The node of `let` and one letter. -/
def letAt (start : Nat) (role : Option String) : Node where
  kind := "lexical_declaration"
  named := true
  start
  stop := start + 5
  role
  children := [
    { kind := "let", named := false, start, stop := start + 3, role := some "kind" },
    { kind := "variable_declarator", named := true, start := start + 4, stop := start + 5
      children := [letterDeclared (start + 4)] }]

def letBlock : Node where
  kind := "statement_block"
  named := true
  start := 0
  stop := 7
  children := [
    { kind := "\x7b", named := false, start := 0, stop := 1 },
    letAt 1 none,
    { kind := "\x7d", named := false, start := 6, stop := 7 }]

def switchValue : Node where
  kind := "parenthesized_expression"
  named := true
  start := 13
  stop := 16
  role := some "value"
  children := [
    { kind := "(", named := false, start := 13, stop := 14 },
    letterAt 14,
    { kind := ")", named := false, start := 15, stop := 16 }]

def switchDefault : Node where
  kind := "switch_default"
  named := true
  start := 17
  stop := 30
  children := [
    { kind := "default", named := false, start := 17, stop := 24 },
    { kind := ":", named := false, start := 24, stop := 25 },
    letAt 25 (some "body")]

def switchBody : Node where
  kind := "switch_body"
  named := true
  start := 16
  stop := 31
  role := some "body"
  children := [
    { kind := "\x7b", named := false, start := 16, stop := 17 },
    switchDefault,
    { kind := "\x7d", named := false, start := 30, stop := 31 }]

def switchStatement : Node where
  kind := "switch_statement"
  named := true
  start := 7
  stop := 31
  children := [
    { kind := "switch", named := false, start := 7, stop := 13 },
    switchValue,
    switchBody]

def lastStatement : Node where
  kind := "expression_statement"
  named := true
  start := 31
  stop := 32
  children := [letterAt 31]

def blockAndSwitchTree : Node where
  kind := "program"
  named := true
  start := 0
  stop := 32
  children := [letBlock, switchStatement, lastStatement]

theorem isTree_blockAndSwitch : IsTree blockAndSwitchTree := by decide

theorem declarations_blockAndSwitch :
    declarations blockAndSwitch [] blockAndSwitchTree =
      .ok [⟨⟨0, 7, "statement_block"⟩, lit "a", some ⟨5, 6, "identifier"⟩⟩,
        ⟨⟨0, 32, "program"⟩, lit "b", some ⟨29, 30, "identifier"⟩⟩] := rfl

theorem freeReferences_blockAndSwitch :
    freeReferences blockAndSwitch blockAndSwitchTree = .ok [⟨lit "a", 14, 15⟩] :=
  freeReferences_eq_ok.2 ⟨_, [⟨lit "a", 14, 15⟩], rfl, rfl, (List.mergeSort_singleton _).symm⟩

theorem declaresLexical_block :
    DeclaresLexical blockAndSwitch [letBlock, blockAndSwitchTree] (letAt 1 none)
      [letBlock, blockAndSwitchTree] [letBlock, blockAndSwitchTree] (letterDeclared 5) := by
  have hnone : ∀ a ∈ ([] : List Node), ¬ (a.named = true ∧ IsBody a) :=
    fun a ha => absurd ha List.not_mem_nil
  have hnone' : ∀ a ∈ ([] : List Node), ¬ (a.named = true ∧ HoldsLexical a) :=
    fun a ha => absurd ha List.not_mem_nil
  refine .inBody (Or.inl ⟨rfl, _, List.mem_cons_self, rfl, _, rfl, .name (Or.inl rfl)⟩) ?_ ?_
  · exact .around (List.nil_append _).symm hnone ⟨rfl, Or.inr (Or.inl rfl)⟩
  · exact .around (List.nil_append _).symm hnone' ⟨rfl, Or.inr (Or.inl rfl)⟩

/-- The nodes around the declaration in the body of the `switch`, the nearest first. -/
def aroundDefault : List Node := [switchDefault, switchBody, switchStatement, blockAndSwitchTree]

theorem declaresLexical_switch :
    DeclaresLexical blockAndSwitch aroundDefault (letAt 25 (some "body"))
      [switchBody, switchStatement, blockAndSwitchTree] [blockAndSwitchTree]
      (letterDeclared 29) := by
  have hnear : ∀ a ∈ [switchDefault], ¬ (a.named = true ∧ IsBody a) := by
    intro a ha
    rw [List.mem_singleton.1 ha]
    simp [IsBody, switchDefault]
  have hnear' : ∀ a ∈ [switchDefault, switchBody, switchStatement],
      ¬ (a.named = true ∧ HoldsLexical a) := by
    have hkinds : ∀ a ∈ [switchDefault, switchBody, switchStatement],
        blockScopeKinds.contains a.kind = false := by
      decide
    intro a ha hholds
    have hmem := (lists_lexical a).2 hholds.2
    rw [hkinds a ha] at hmem
    cases hmem
  refine .inBody (Or.inl ⟨rfl, _, List.mem_cons_self, rfl, _, rfl, .name (Or.inl rfl)⟩) ?_ ?_
  · have hup : aroundDefault =
        [switchDefault] ++ switchBody :: [switchStatement, blockAndSwitchTree] := rfl
    exact .around hup hnear ⟨rfl, by simp [IsBody, switchBody]⟩
  · have hup : aroundDefault =
        [switchDefault, switchBody, switchStatement] ++ blockAndSwitchTree :: [] := rfl
    exact .around hup hnear' ⟨rfl, Or.inl (Or.inr rfl)⟩

theorem occurs_switch : blockAndSwitchTree.Occurs [blockAndSwitchTree] switchStatement :=
  Node.Occurs.root.child (List.mem_cons_of_mem _ List.mem_cons_self)

theorem occurs_letBlock :
    blockAndSwitchTree.Occurs [letBlock, blockAndSwitchTree] (letAt 1 none) := by
  have hblock : blockAndSwitchTree.Occurs [blockAndSwitchTree] letBlock :=
    Node.Occurs.root.child List.mem_cons_self
  exact hblock.child (List.mem_cons_of_mem _ List.mem_cons_self)

theorem occurs_letSwitch :
    blockAndSwitchTree.Occurs aroundDefault (letAt 25 (some "body")) := by
  have hbody := occurs_switch.child (c := switchBody)
    (List.mem_cons_of_mem _ (List.mem_cons_of_mem _ List.mem_cons_self))
  have hdefault := hbody.child (c := switchDefault) (List.mem_cons_of_mem _ List.mem_cons_self)
  exact hdefault.child (List.mem_cons_of_mem _ (List.mem_cons_of_mem _ List.mem_cons_self))

theorem not_isDeclaration_letter {up : List Node} {start : Nat}
    (hn : blockAndSwitchTree.Occurs up (letterAt start)) (ha : start ≠ 5) (hb : start ≠ 29) :
    ¬ IsDeclaration blockAndSwitch blockAndSwitchTree (letterAt start) := by
  rw [← mem_sites_iff isTree_blockAndSwitch declarations_blockAndSwitch hn (Or.inl rfl)]
  intro hmem
  have hstart : start = 5 ∨ start = 29 := by simpa [Key.of, letterAt] using hmem
  exact hstart.elim ha hb

theorem refersTo_a :
    RefersTo blockAndSwitch blockAndSwitchTree [switchValue, switchStatement, blockAndSwitchTree]
      (letterAt 14) (lit "a") := by
  have hvalue := occurs_switch.child (c := switchValue) (List.mem_cons_of_mem _ List.mem_cons_self)
  have hletter := hvalue.child (c := letterAt 14) (List.mem_cons_of_mem _ List.mem_cons_self)
  refine .of_parent hletter (Or.inl rfl) ?_ ?_ ?_ rfl (by decide)
  · simp [IsForeign, switchValue]
  · simp [IsTag, switchValue]
  · exact not_isDeclaration_letter hletter (by decide) (by decide)

theorem refersTo_b :
    RefersTo blockAndSwitch blockAndSwitchTree [lastStatement, blockAndSwitchTree] (letterAt 31)
      (lit "b") := by
  have hlast : blockAndSwitchTree.Occurs [blockAndSwitchTree] lastStatement :=
    Node.Occurs.root.child (List.mem_cons_of_mem _ (List.mem_cons_of_mem _ List.mem_cons_self))
  have hletter := hlast.child (c := letterAt 31) List.mem_cons_self
  refine .of_parent hletter (Or.inl rfl) ?_ ?_ ?_ rfl (by decide)
  · simp [IsForeign, lastStatement]
  · simp [IsTag, lastStatement]
  · exact not_isDeclaration_letter hletter (by decide) (by decide)

/-- Behind the block, `a` is found; behind the `switch`, `b` is not. -/
theorem confinesLexical_block : ∃ rs,
    freeReferences blockAndSwitch blockAndSwitchTree = .ok rs ∧
    ConfinesLexical blockAndSwitch blockAndSwitchTree rs [letBlock, blockAndSwitchTree]
      (letAt 1 none) [letBlock, blockAndSwitchTree] [letBlock, blockAndSwitchTree]
      (letterDeclared 5) ∧
    ¬ KnownOtherwise blockAndSwitch blockAndSwitchTree [letAt 1 none, letBlock, blockAndSwitchTree]
      [switchValue, switchStatement, blockAndSwitchTree] (lit "a") ∧
    ReportedAt rs (letterAt 14) ∧ ¬ ReportedAt rs (letterAt 31) := by
  have hconfines := lexicalNames_confined isTree_blockAndSwitch freeReferences_blockAndSwitch
    occurs_letBlock rfl declaresLexical_block
  have hreported : ReportedAt [⟨lit "a", 14, 15⟩] (letterAt 14) := by decide
  have hunknown := ((hconfines.reported _ _ _ refersTo_a rfl).1 hreported).2
  exact ⟨_, freeReferences_blockAndSwitch, hconfines, hunknown, hreported, by decide⟩

/-- Nothing but the declaration in the body of the `switch` makes `b` known. -/
theorem not_knownOtherwise_b {up : List Node} :
    ¬ KnownOtherwise blockAndSwitch blockAndSwitchTree (letAt 25 (some "body") :: aroundDefault) up
      (lit "b") := by
  -- the only other declaration in the tree is that of `a`
  have hplaces : ∀ far d, blockAndSwitchTree.Occurs far d →
      d :: far = letAt 25 (some "body") :: aroundDefault ∨
        declarationsAt blockAndSwitch far d = .ok [] ∨
        declarationsAt blockAndSwitch far d =
          .ok [⟨⟨0, 7, "statement_block"⟩, lit "a", some ⟨5, 6, "identifier"⟩⟩] := by
    decide +kernel
  rintro ⟨place, scope, hmakes, -, hother⟩
  generalize hname : lit "b" = name at hmakes
  cases hmakes with
  | declaration hd hnamed hdecl htext =>
    rcases hdecl.eq_cons with ⟨s, rest, rfl⟩
    rcases hplaces _ _ hd with heq | hnone | hone
    · exact hother heq
    · rcases exists_mem_of_declares hnone hnamed hdecl htext with ⟨x, hx, -⟩
      exact absurd hx List.not_mem_nil
    · rcases exists_mem_of_declares hone hnamed hdecl htext with ⟨x, hx, -, rfl⟩
      rw [List.mem_singleton.1 hx] at hname
      exact absurd hname (by decide)
  | arguments _ => exact absurd hname (by decide)

/-- Not every script confines the names of its lexical declarations. -/
theorem not_all_lexicalNames_confined :
    ¬ ∀ (source : ByteArray) (s : Script) (rs : List Reference), Script.read source = .ok s →
      IsTree s.root → s.freeReferences = .ok rs → LexicalNamesConfined s.source s.root rs := by
  intro h
  have hroot : (Script.ofSource blockAndSwitch).root = blockAndSwitchTree := by
    decide +kernel
  have hread : Script.read blockAndSwitch = .ok ⟨blockAndSwitch, blockAndSwitchTree⟩ :=
    Script.read_of_root hroot rfl
  have hconfined := h _ _ _ hread isTree_blockAndSwitch freeReferences_blockAndSwitch
  have houtside : ¬ [switchBody, switchStatement, blockAndSwitchTree] <:+
      [lastStatement, blockAndSwitchTree] := by
    intro hsuffix
    have hlength := hsuffix.length_le
    simp at hlength
  have hreported := (hconfined _ _ _ _ _ occurs_letSwitch rfl declaresLexical_switch _ _ _
    refersTo_b rfl houtside).2 not_knownOtherwise_b
  exact absurd hreported (by decide)

end ScriptDeps.Scope

import Mathlib.SetTheory.Cardinal.Arithmetic
import ScriptDeps.Proofs.Require.Respelling
import ScriptDeps.Proofs.Scope.Respelling

namespace ScriptDeps

open Require (IsLiteral SameCall unescape)
open Scope (IsDeclaration IsIdentifier IsTag Reference)
open Syntax (Node TextError)
open Text (lit)

/-! # Names spelled with escapes

In an identifier, an escape may stand for a character, so that a name has several spellings. If each
of two scripts spells each name in one way, and the names with a meaning of their own without
escapes, the same calls and references are found in both. Otherwise a call or a declaration may be
missed, because names are compared as they are spelled. Main statements:

* `Respelling`: two scripts that differ in how their names are spelled;
* `Uniform`: a script that spells each name in one way;
* `exists_spelling`: the names of one uniform script in terms of the other;
* `detectsAlike_of_uniform`: what is found in uniform scripts.
-/

/-! ## Two spellings of a script -/

/-- The name that an identifier denotes, with the characters that escapes stand for. -/
def nameOf (source : ByteArray) (n : Node) : Except TextError Text := do
  unescape (← n.text source)

/-- Neither the node nor anything in it is an identifier. -/
def HasNoIdentifier (n : Node) : Prop := ∀ ws m, n.Occurs ws m → ¬ IsIdentifier m

/-- The second script is the first one with another spelling of its names. Its bounds are moved. -/
structure Respelling (move : Nat → Nat) (s s' : Script) : Prop where
  tree : s'.root = s.root.moved move
  legible : ∀ up n, s.root.Occurs up n →
    ((∃ t, (n.moved move).text s'.source = .ok t) ↔ ∃ t, n.text s.source = .ok t)
  names : ∀ up n, s.root.Occurs up n → IsIdentifier n →
    ∃ name, nameOf s.source n = .ok name ∧ nameOf s'.source (n.moved move) = .ok name
  others : ∀ up n, s.root.Occurs up n → HasNoIdentifier n →
    (n.moved move).text s'.source = n.text s.source

/-- What the grammar says of identifiers: functions, classes and imported modules have them as their
names, and keywords and literals have none. -/
structure Grammatical (root : Node) : Prop where
  declared : ∀ up d, root.Occurs up d →
    Scope.IsDeclaredFunction d ∨ d.kind = "class_declaration" →
    ∀ i ∈ d.child? "name", IsIdentifier i
  imported : ∀ up n, root.Occurs up n → n.kind = "namespace_import" →
    ∀ i ∈ n.parts, IsIdentifier i
  keywords : ∀ up d, root.Occurs up d → d.kind = "for_in_statement" →
    ∀ k ∈ d.child? "kind", HasNoIdentifier k
  literals : ∀ up n, root.Occurs up n → IsLiteral n → HasNoIdentifier n

/-- The reference is the other one at another place, perhaps in another spelling. -/
structure SameReference (move : Nat → Nat) (r r' : Reference) : Prop where
  start : r'.start = move r.start
  stop : r'.stop = move r.stop
  name : unescape r'.name = unescape r.name

/-- The same calls and the same references are found in both scripts. -/
structure DetectsAlike (move : Nat → Nat) (s s' : Script) : Prop where
  callsEnd : (∃ cs', s'.calls = .ok cs') ↔ ∃ cs, s.calls = .ok cs
  calls : ∀ cs cs', s.calls = .ok cs → s'.calls = .ok cs' → List.Forall₂ (SameCall move) cs cs'
  referencesEnd : (∃ rs', s'.freeReferences = .ok rs') ↔ ∃ rs, s.freeReferences = .ok rs
  references : ∀ rs rs', s.freeReferences = .ok rs → s'.freeReferences = .ok rs' →
    ∃ ordered, rs'.Perm ordered ∧ List.Forall₂ (SameReference move) rs ordered

/-- The names that have a meaning of their own. -/
def reservedNames : List Text := [lit "require", lit "arguments", lit "undefined"]

/-- The names with a meaning of their own and the identifiers of a script, as they are spelled. -/
def spellings (s : Script) : List Text :=
  reservedNames ++ ((Node.places [] s.root).filter fun p => IsIdentifier p.2).filterMap
    fun p => (p.2.text s.source).toOption

/-- The script spells each name in one way, without escapes if it has a meaning of its own, and
without one at the start of the name of an element. -/
structure Uniform (s : Script) : Prop where
  one : ∀ t ∈ spellings s, ∀ u ∈ spellings s, unescape t = unescape u → t = u
  elements : ∀ up n, s.root.Occurs up n → ∀ p ∈ up.head?, IsTag p → IsIdentifier n →
    ∀ t ∈ (n.text s.source).toOption, t.head? ≠ some 0x5C

/-! ## Deciding -/

instance (n : Node) : Decidable (HasNoIdentifier n) := by
  unfold HasNoIdentifier
  infer_instance

instance (n : Node) : Decidable (Scope.IsDeclaredFunction n) := by
  unfold Scope.IsDeclaredFunction
  infer_instance

instance (n : Node) : Decidable (IsLiteral n) := by
  unfold IsLiteral
  infer_instance

instance (n : Node) : Decidable (IsTag n) := by
  unfold IsTag
  infer_instance

theorem respelling_iff {move : Nat → Nat} {s s' : Script} :
    (s'.root = s.root.moved move ∧
      (∀ up n, s.root.Occurs up n →
        ((∃ t, (n.moved move).text s'.source = .ok t) ↔ ∃ t, n.text s.source = .ok t)) ∧
      (∀ up n, s.root.Occurs up n → IsIdentifier n →
        ∃ name, nameOf s.source n = .ok name ∧ nameOf s'.source (n.moved move) = .ok name) ∧
      ∀ up n, s.root.Occurs up n → HasNoIdentifier n →
        (n.moved move).text s'.source = n.text s.source) ↔ Respelling move s s' := by
  constructor
  · rintro ⟨htree, hlegible, hnames, hothers⟩
    exact ⟨htree, hlegible, hnames, hothers⟩
  · intro h
    exact ⟨h.tree, h.legible, h.names, h.others⟩

instance (move : Nat → Nat) (s s' : Script) : Decidable (Respelling move s s') :=
  decidable_of_iff _ respelling_iff

theorem grammatical_iff {root : Node} :
    ((∀ up d, root.Occurs up d → Scope.IsDeclaredFunction d ∨ d.kind = "class_declaration" →
        ∀ i ∈ d.child? "name", IsIdentifier i) ∧
      (∀ up n, root.Occurs up n → n.kind = "namespace_import" → ∀ i ∈ n.parts, IsIdentifier i) ∧
      (∀ up d, root.Occurs up d → d.kind = "for_in_statement" →
        ∀ k ∈ d.child? "kind", HasNoIdentifier k) ∧
      ∀ up n, root.Occurs up n → IsLiteral n → HasNoIdentifier n) ↔ Grammatical root := by
  constructor
  · rintro ⟨hdeclared, himported, hkeywords, hliterals⟩
    exact ⟨hdeclared, himported, hkeywords, hliterals⟩
  · intro h
    exact ⟨h.declared, h.imported, h.keywords, h.literals⟩

instance (root : Node) : Decidable (Grammatical root) := decidable_of_iff _ grammatical_iff

theorem uniform_iff {s : Script} :
    ((∀ t ∈ spellings s, ∀ u ∈ spellings s, unescape t = unescape u → t = u) ∧
      ∀ up n, s.root.Occurs up n → ∀ p ∈ up.head?, IsTag p → IsIdentifier n →
        ∀ t ∈ (n.text s.source).toOption, t.head? ≠ some 0x5C) ↔ Uniform s := by
  constructor
  · rintro ⟨hone, helements⟩
    exact ⟨hone, helements⟩
  · intro h
    exact ⟨h.one, h.elements⟩

instance (s : Script) : Decidable (Uniform s) := decidable_of_iff _ uniform_iff

section

variable {move : Nat → Nat} {s s' : Script} {root : Node}

/-! ## Identifiers -/

theorem isIdentifier_of_binds {p i : Node} (h : Scope.Binds p i) : IsIdentifier i := by
  induction h with
  | name hkind => exact hkind.imp_right Or.inr
  | part _ _ _ ih => exact ih
  | value _ _ _ ih => exact ih
  | beforeDefault _ _ _ ih => exact ih

/-- What is declared is an identifier. -/
theorem Grammatical.isIdentifier (h : Grammatical root) {source : ByteArray} {i : Node}
    (hi : IsDeclaration source root i) : IsIdentifier i := by
  have hdeclarator : ∀ {d}, Scope.Declarator d i → IsIdentifier i := by
    rintro d ⟨v, -, -, p, -, hbinds⟩
    exact isIdentifier_of_binds hbinds
  obtain ⟨up, d, scope, hd, -, hdecl⟩ := hi
  -- in patterns only identifiers are bound; the grammar says the same of the other names
  cases hdecl with
  | variableName _ hdecl _ => exact hdeclarator hdecl
  | lexicalName _ hdecl _ => exact hdeclarator hdecl
  | loopVariable _ _ _ _ hbinds _ => exact isIdentifier_of_binds hbinds
  | loopLexical _ _ _ _ _ hbinds => exact isIdentifier_of_binds hbinds
  | functionName hkind hname _ => exact h.declared up d hd (Or.inl hkind) i hname
  | ownName _ _ hkind => exact Or.inl hkind
  | parameter _ hparameter =>
    rcases hparameter with ⟨ps, -, p, -, hbinds⟩ | ⟨p, -, hbinds⟩
    · exact isIdentifier_of_binds hbinds
    · exact isIdentifier_of_binds hbinds
  | className hkind hname _ => exact h.declared up d hd (Or.inr hkind) i hname
  | classInside hkind hname => exact h.declared up d hd (Or.inr hkind) i hname
  | classOwnName _ _ hkind => exact Or.inl hkind
  | caught _ _ hbinds => exact isIdentifier_of_binds hbinds
  | imported _ himports _ =>
    cases himports with
    | byDefault _ _ _ hkind => exact Or.inl hkind
    | wholly hclause _ hitem hkind hi =>
      have hclause := hd.child (List.mem_filter.1 hclause).1
      exact h.imported _ _ (hclause.child (List.mem_filter.1 hitem).1) hkind i hi
    | member _ _ _ _ _ _ hkind => exact Or.inl hkind

theorem toOption_eq_some {x : Except TextError Text} {t : Text} :
    x.toOption = some t ↔ x = .ok t := by
  cases x with
  | error e => simp [Except.toOption]
  | ok u => simp [Except.toOption]

theorem mem_spellings {t : Text} :
    t ∈ spellings s ↔ t ∈ reservedNames ∨
      ∃ up n, s.root.Occurs up n ∧ IsIdentifier n ∧ n.text s.source = .ok t := by
  simp only [spellings, List.mem_append, List.mem_filterMap, List.mem_filter, decide_eq_true_eq,
    Prod.exists, Node.mem_places_root, toOption_eq_some, and_assoc]

/-- An identifier denotes what its text stands for. -/
theorem nameOf_eq_ok {source : ByteArray} {n : Node} {name : Text} :
    nameOf source n = .ok name ↔ ∃ t, n.text source = .ok t ∧ unescape t = .ok name :=
  andThen_ok_iff

/-- A name starts with the character that its spelling starts with, unless that is an escape. -/
theorem head?_of_unescape {t name : Text} (ht : t.head? ≠ some 0x5C)
    (h : unescape t = .ok name) : name.head? = t.head? := by
  cases t with
  | nil =>
    cases h
    rfl
  | cons c rest =>
    have hc : c ≠ 0x5C := fun hc => ht (congrArg some hc)
    rw [unescape, Require.unescapeFrom, if_neg hc] at h
    cases hrest : Require.unescapeFrom 0 rest with
    | error e =>
      rw [hrest] at h
      cases h
    | ok u =>
      rw [hrest] at h
      cases h
      rfl

/-! ## One spelling in terms of the other -/

/-- If no value has two partners, those of finitely many values are given by a permutation. -/
theorem exists_perm_of_partners {α : Type} [Infinite α] {P : α → α → Prop} {known : List α}
    (finite : ∀ x y, P x y → x ∈ known)
    (one : ∀ x y x' y', P x y → P x' y' → (x = x' ↔ y = y')) :
    ∃ g : α ≃ α, ∀ x y, P x y → g x = y := by
  let values : Set α := {x | ∃ y, P x y}
  have hfinite : values.Finite := by
    refine (List.finite_toSet known).subset ?_
    rintro x ⟨y, hxy⟩
    exact finite x y hxy
  choose partner hpartner using fun x : values => x.2
  have hinjective : Function.Injective partner := by
    intro x x' heq
    exact Subtype.ext ((one _ _ _ _ (hpartner x) (hpartner x')).2 heq)
  have hfew : Cardinal.mk values < Cardinal.mk α :=
    hfinite.lt_aleph0.trans_le (Cardinal.aleph0_le_mk α)
  obtain ⟨g, hg⟩ := Cardinal.extend_function_of_lt ⟨partner, hinjective⟩ hfew ⟨Equiv.refl α⟩
  refine ⟨g, fun x y hxy => ?_⟩
  have hx := hg ⟨x, y, hxy⟩
  exact hx.trans ((one _ _ _ _ (hpartner ⟨x, y, hxy⟩) hxy).1 rfl)

/-- The texts are spellings of one name, in the first and in the second script. -/
def SpellOne (s s' : Script) (t t' : Text) : Prop :=
  t ∈ spellings s ∧ t' ∈ spellings s' ∧ unescape t' = unescape t

theorem Respelling.occurs (h : Respelling move s s') {up : List Node} {n : Node}
    (hn : s.root.Occurs up n) : s'.root.Occurs (up.map (Node.moved move)) (n.moved move) := by
  rw [h.tree]
  exact Node.occurs_moved.2 ⟨up, n, hn, rfl, rfl⟩

/-- The two texts of an identifier are spellings of its name. -/
theorem Respelling.spellOne (h : Respelling move s s') {up : List Node} {n : Node}
    (hn : s.root.Occurs up n) (hid : IsIdentifier n) :
    ∃ t t', n.text s.source = .ok t ∧ (n.moved move).text s'.source = .ok t' ∧
      SpellOne s s' t t' := by
  obtain ⟨name, hname, hname'⟩ := h.names up n hn hid
  obtain ⟨t, ht, hvalue⟩ := nameOf_eq_ok.1 hname
  obtain ⟨t', ht', hvalue'⟩ := nameOf_eq_ok.1 hname'
  refine ⟨t, t', ht, ht', ?_, ?_, hvalue'.trans hvalue.symm⟩
  · exact mem_spellings.2 (Or.inr ⟨up, n, hn, hid, ht⟩)
  · exact mem_spellings.2 (Or.inr ⟨_, _, h.occurs hn, Scope.isIdentifier_moved.2 hid, ht'⟩)

/-- The names of a uniform script in terms of those of another one. -/
theorem exists_spelling (h : Respelling move s s') (hs : Uniform s) (hs' : Uniform s') :
    ∃ spell : Text → Text, Function.Injective spell ∧ (∀ t ∈ reservedNames, spell t = t) ∧
      ∀ up n, s.root.Occurs up n → IsIdentifier n →
        (n.moved move).text s'.source = (n.text s.source).map spell := by
  have hone : ∀ t t' u u', SpellOne s s' t t' → SpellOne s s' u u' → (t = u ↔ t' = u') := by
    rintro t t' u u' ⟨ht, ht', htt⟩ ⟨hu, hu', huu⟩
    constructor
    · rintro rfl
      exact hs'.one t' ht' u' hu' (htt.trans huu.symm)
    · rintro rfl
      exact hs.one t ht u hu (htt.symm.trans huu)
  obtain ⟨spell, hspell⟩ := exists_perm_of_partners (fun t t' htt => htt.1) hone
  refine ⟨spell, spell.injective, fun t ht => ?_, fun up n hn hid => ?_⟩
  · exact hspell t t ⟨mem_spellings.2 (Or.inl ht), mem_spellings.2 (Or.inl ht), rfl⟩
  · obtain ⟨t, t', ht, ht', htt⟩ := h.spellOne hn hid
    rw [ht, ht', Except.map, hspell t t' htt]

/-- The names of elements start in the same way. -/
theorem startsLowercase_respelled (h : Respelling move s s') (hs : Uniform s) (hs' : Uniform s')
    {up : List Node} {p n : Node} (hn : s.root.Occurs (p :: up) n) (hp : IsTag p)
    (hid : IsIdentifier n) {t t' : Text} (ht : n.text s.source = .ok t)
    (ht' : (n.moved move).text s'.source = .ok t') :
    Scope.startsLowercase t' = Scope.startsLowercase t := by
  obtain ⟨name, hname, hname'⟩ := h.names _ n hn hid
  rw [nameOf, ht] at hname
  rw [nameOf, ht'] at hname'
  have hplain := hs.elements _ n hn p rfl hp hid t (toOption_eq_some.2 ht)
  have hplain' := hs'.elements _ _ (h.occurs hn) _ rfl (Scope.isTag_moved.2 hp)
    (Scope.isIdentifier_moved.2 hid) t' (toOption_eq_some.2 ht')
  have hhead := head?_of_unescape hplain hname
  have hhead' := head?_of_unescape hplain' hname'
  rw [Scope.startsLowercase, Scope.startsLowercase, ← hhead, ← hhead']

/-! ## What is found -/

/-- The spelling of names does not matter to the free references, if it is uniform. -/
theorem respells_scope (apart : Function.Injective move) (h : Respelling move s s')
    (grammatical : Grammatical s.root) (hs : Uniform s) (hs' : Uniform s') {spell : Text → Text}
    (distinct : Function.Injective spell) (reserved : ∀ t ∈ reservedNames, spell t = t)
    (names : ∀ up n, s.root.Occurs up n → IsIdentifier n →
      (n.moved move).text s'.source = (n.text s.source).map spell) :
    Scope.Respells spell move s.source s'.source s.root where
  distinct := distinct
  apart := apart
  arguments := reserved _ (by simp [reservedNames])
  undefined := reserved _ (by simp [reservedNames])
  names up n hn hname := by
    rcases hname with hid | hdecl
    · exact names up n hn hid
    · exact names up n hn (grammatical.isIdentifier hdecl)
  keywords k hk := by
    obtain ⟨up, d, hd, -, hkind, hchild⟩ := hk
    have hoccurs := hd.child (List.mem_of_find?_eq_some hchild)
    exact h.others _ k hoccurs (grammatical.keywords up d hd hkind k hchild)
  tags up p n t hn hp hid ht := by
    refine startsLowercase_respelled h hs hs' hn hp hid ht ?_
    rw [names _ n hn hid, ht, Except.map]

/-- The spelling of names does not matter to the calls, if it is uniform. -/
theorem respells_require (h : Respelling move s s') (grammatical : Grammatical s.root)
    {spell : Text → Text} (distinct : Function.Injective spell)
    (reserved : ∀ t ∈ reservedNames, spell t = t)
    (names : ∀ up n, s.root.Occurs up n → IsIdentifier n →
      (n.moved move).text s'.source = (n.text s.source).map spell) :
    Require.Respells move s.source s'.source s.root where
  legible := h.legible
  literals up n hn hliteral := h.others up n hn (grammatical.literals up n hn hliteral)
  callees up n callee hn hcalls := by
    have hoccurs := hn.child (List.mem_of_find?_eq_some hcalls.2.1)
    rw [names _ callee hoccurs (Or.inl hcalls.2.2)]
    cases ht : callee.text s.source with
    | error e => simp [Except.map]
    | ok t =>
      have hrequire : spell t = lit "require" ↔ t = lit "require" :=
        distinct.eq_iff' (reserved _ (by simp [reservedNames]))
      rw [Except.map, Except.ok.injEq, Except.ok.injEq, hrequire]

/-- A free reference is spelled as an identifier of the script. -/
theorem exists_identifier_of_mem {rs : List Reference}
    (hrs : s.freeReferences = .ok rs) {r : Reference} (hr : r ∈ rs) :
    ∃ up n, s.root.Occurs up n ∧ IsIdentifier n ∧ n.text s.source = .ok r.name := by
  obtain ⟨ds, found, -, hfound, rfl⟩ := Scope.freeReferences_eq_ok.1 hrs
  rw [Scope.references_eq_gather] at hfound
  obtain ⟨⟨up, n⟩, hp, own, hown, hr⟩ := (mem_gather hfound).1 (List.mem_mergeSort.1 hr)
  obtain ⟨hmay, -, ht, -⟩ := (Scope.mem_referenceAt hown).1 hr
  exact ⟨up, n, Node.mem_places_root.1 hp, hmay.1, ht⟩

/-- The same calls and references are found in two scripts that differ in how their names are
spelled, if each of them spells each name in one way. -/
theorem detectsAlike_of_uniform (apart : Function.Injective move) (h : Respelling move s s')
    (grammatical : Grammatical s.root) (hs : Uniform s) (hs' : Uniform s') :
    DetectsAlike move s s' := by
  obtain ⟨spell, distinct, reserved, names⟩ := exists_spelling h hs hs'
  have hcalls := Require.calls_respelled (respells_require h grammatical distinct reserved names)
  have hreferences := Scope.freeReferences_respelled
    (respells_scope apart h grammatical hs hs' distinct reserved names)
  rw [← h.tree] at hcalls hreferences
  refine ⟨hcalls.1, hcalls.2, hreferences.1, fun rs rs' hrs hrs' => ?_⟩
  refine ⟨_, hreferences.2 rs rs' hrs hrs', ?_⟩
  rw [List.forall₂_map_right_iff, List.forall₂_same]
  intro r hr
  obtain ⟨up, n, hn, hid, ht⟩ := exists_identifier_of_mem hrs hr
  obtain ⟨name, hname, hname'⟩ := h.names up n hn hid
  rw [nameOf, ht] at hname
  rw [nameOf, names up n hn hid, ht] at hname'
  exact ⟨rfl, rfl, hname'.trans hname.symm⟩

end

/-! ## Scripts in two spellings -/

/-- The bytes of `var x; require(x); y`. -/
def variablePlain : ByteArray := Text.toBytes (lit "var x; require(x); y").encode

/-- The same program with an escape for `x`. -/
def variableEscaped : ByteArray :=
  Text.toBytes (lit "var \\u0078; require(\\u0078); y").encode

/-- Where the bounds of the program are when `x` is escaped. -/
def variableMove (p : Nat) : Nat := if p < 5 then p else if p < 16 then p + 5 else p + 10

/-- With another spelling of all its occurrences, a name is found as before. -/
theorem detectsAlike_variable :
    DetectsAlike variableMove (Script.ofSource variablePlain) (Script.ofSource variableEscaped) := by
  have apart : Function.Injective variableMove := by
    intro p q h
    unfold variableMove at h
    split_ifs at h <;> omega
  -- decided at once, so that each source is parsed once
  have hscripts : Respelling variableMove (Script.ofSource variablePlain)
        (Script.ofSource variableEscaped) ∧
      Grammatical (Script.ofSource variablePlain).root ∧
      Uniform (Script.ofSource variablePlain) ∧ Uniform (Script.ofSource variableEscaped) := by
    decide +kernel
  obtain ⟨h, grammatical, hs, hs'⟩ := hscripts
  exact detectsAlike_of_uniform apart h grammatical hs hs'

/-- The bytes of `require('x')`. -/
def requirePlain : ByteArray := Text.toBytes (lit "require('x')").encode

/-- The same program with an escape in the name that is called. -/
def requireEscaped : ByteArray := Text.toBytes (lit "r\\u0065quire('x')").encode

/-- Where the bounds of the program are when the name is escaped. -/
def requireMove (p : Nat) : Nat := if p < 7 then p else p + 5

/-- Not all spellings of a script are alike: with an escape in its name, a call is missed. -/
theorem not_all_spellings_alike : ¬ ∀ (move : Nat → Nat) (source source' : ByteArray)
    (s s' : Script), Function.Injective move → Script.read source = .ok s →
    Script.read source' = .ok s' → Respelling move s s' → Grammatical s.root →
    DetectsAlike move s s' := by
  intro h
  have apart : Function.Injective requireMove := by
    intro p q h
    unfold requireMove at h
    split_ifs at h <;> omega
  have hscripts : let s := Script.ofSource requirePlain
      let s' := Script.ofSource requireEscaped
      s.error? = none ∧ s'.error? = none ∧ Respelling requireMove s s' ∧ Grammatical s.root ∧
        s.calls = .ok [⟨lit "x", 0, 12, false⟩] ∧ s'.calls = .ok [] := by
    decide +kernel
  obtain ⟨hvalid, hvalid', hrespelling, grammatical, hcalls, hcalls'⟩ := hscripts
  have hread := Script.read_eq_ok.2 ⟨rfl, hvalid⟩
  have hread' := Script.read_eq_ok.2 ⟨rfl, hvalid'⟩
  have halike := h _ _ _ _ _ apart hread hread' hrespelling grammatical
  cases halike.calls _ _ hcalls hcalls'

end ScriptDeps

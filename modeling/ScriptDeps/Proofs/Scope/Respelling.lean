import ScriptDeps.Proofs.Scope.Free
import ScriptDeps.Proofs.Tree.Move

namespace ScriptDeps.Scope

open Syntax (Node TextError)
open Text (lit before)

/-! # Names in another spelling

If all names of a tree are spelled in another way, each name in one way and different names in
different ways, its declarations and free references are the same but for the spelling and the
bounds. Main statements:

* `bindingsAt_moved`: what is bound at a node does not depend on names and bounds;
* `declarations_respelled`, `references_respelled`: the table and the walk with the other spelling;
* `freeReferences_respelled`: the result.
-/

/-! ## The other spelling -/

def Key.moved (f : Nat → Nat) (k : Key) : Key := ⟨f k.start, f k.stop, k.kind⟩

def Binding.moved (f : Nat → Nat) (b : Binding) : Binding :=
  ⟨b.identifier.moved f, b.scope.moved f⟩

def Declaration.respelled (spell : Text → Text) (f : Nat → Nat) (d : Declaration) : Declaration :=
  ⟨d.scope.moved f, spell d.name, d.site.map (Key.moved f)⟩

def Enclosing.respelled (spell : Text → Text) (e : Enclosing) : Enclosing :=
  ⟨e.bindsArguments, e.names.map spell⟩

def Reference.respelled (spell : Text → Text) (f : Nat → Nat) (r : Reference) : Reference :=
  ⟨spell r.name, f r.start, f r.stop⟩

/-- The second source spells the names of the tree in another way, and its bounds are moved. Two
names have a meaning of their own and stay, as do the keywords of loops, and the names of tags start
with the same case of letters. -/
structure Respells (spell : Text → Text) (f : Nat → Nat) (source source' : ByteArray) (root : Node) :
    Prop where
  distinct : Function.Injective spell
  apart : Function.Injective f
  arguments : spell (lit "arguments") = lit "arguments"
  undefined : spell (lit "undefined") = lit "undefined"
  names : ∀ up n, root.Occurs up n → IsIdentifier n ∨ IsDeclaration source root n →
    (n.moved f).text source' = (n.text source).map spell
  keywords : ∀ k, IsLoopKeyword root k → (k.moved f).text source' = k.text source
  tags : ∀ up p n t, root.Occurs (p :: up) n → IsTag p → IsIdentifier n → n.text source = .ok t →
    startsLowercase (spell t) = startsLowercase t

section

variable {spell : Text → Text} {f : Nat → Nat} {source source' : ByteArray} {root : Node}

theorem key_moved (n : Node) : Key.of (n.moved f) = (Key.of n).moved f := by
  simp [Key.of, Key.moved]

theorem Key.moved_injective (hf : Function.Injective f) : Function.Injective (Key.moved f) := by
  rintro ⟨start, stop, kind⟩ ⟨start', stop', kind'⟩ h
  simp only [Key.moved, Key.mk.injEq] at h
  obtain ⟨hstart, hstop, rfl⟩ := h
  rw [hf hstart, hf hstop]

/-! ## What is bound -/

theorem boundIn_moved (n : Node) : boundIn (n.moved f) = (boundIn n).map (Node.moved f) := by
  induction n using Node.induct with
  | step n ih =>
    have hparts : (n.parts.map (Node.moved f)).flatMap boundIn =
        (n.parts.flatMap boundIn).map (Node.moved f) := by
      rw [List.flatMap_map, List.map_flatMap]
      exact List.flatMap_congr fun c hc => ih c (List.mem_filter.1 hc).1
    have hchild : ∀ role, boundIn? ((n.child? role).map (Node.moved f)) =
        (boundIn? (n.child? role)).map (Node.moved f) := by
      intro role
      cases hc : n.child? role with
      | none => rfl
      | some c => exact ih c (List.mem_of_find?_eq_some hc)
    rw [boundIn_eq, boundIn_eq]
    simp only [Node.moved_kind, Node.moved_parts, Node.moved_child?, hparts, hchild,
      apply_ite (List.map (Node.moved f)), List.map_cons, List.map_nil]

theorem boundIn?_moved (n : Option Node) :
    boundIn? (n.map (Node.moved f)) = (boundIn? n).map (Node.moved f) := by
  cases n with
  | none => rfl
  | some n => exact boundIn_moved n

theorem declaratorNames_moved (d : Node) :
    declaratorNames (d.moved f) = (declaratorNames d).map (Node.moved f) := by
  rw [declaratorNames, declaratorNames, Node.moved_parts, List.flatMap_map, List.map_flatMap]
  refine List.flatMap_congr fun v _ => ?_
  simp only [Node.moved_kind, Node.moved_child?, boundIn?_moved,
    apply_ite (List.map (Node.moved f)), List.map_nil]

theorem parameterNames_moved (d : Node) :
    parameterNames (d.moved f) = (parameterNames d).map (Node.moved f) := by
  rw [parameterNames, parameterNames, Node.moved_child?, Node.moved_child?, boundIn?_moved,
    List.map_append]
  congr 1
  cases d.child? "parameters" with
  | none => rfl
  | some ps =>
    simp only [Option.map_some, Option.getD_some, Node.moved_parts, List.flatMap_map,
      List.map_flatMap, boundIn_moved]

theorem ownName_moved (d : Node) : ownName (d.moved f) = (ownName d).map (Node.moved f) := by
  rw [ownName, ownName, Node.moved_child?]
  cases d.child? "name" with
  | none => rfl
  | some n =>
    simp only [Option.map_some, Node.moved_kind, apply_ite (List.map (Node.moved f)), List.map_cons,
      List.map_nil]

/-- The local name of an imported member moves with it. -/
theorem localName_moved (specifier : Node) :
    (match ((specifier.moved f).child? "alias").orElse
        fun _ => (specifier.moved f).child? "name" with
      | some i => if i.kind = "identifier" then [i] else []
      | none => []) =
    (match (specifier.child? "alias").orElse fun _ => specifier.child? "name" with
      | some i => if i.kind = "identifier" then [i] else []
      | none => []).map (Node.moved f) := by
  have horElse : ((specifier.moved f).child? "alias").orElse
      (fun _ => (specifier.moved f).child? "name") =
      ((specifier.child? "alias").orElse fun _ => specifier.child? "name").map (Node.moved f) := by
    rw [Node.moved_child?, Node.moved_child?]
    cases specifier.child? "alias" with
    | none => rfl
    | some i => rfl
  rw [horElse]
  cases (specifier.child? "alias").orElse fun _ => specifier.child? "name" with
  | none => rfl
  | some i =>
    simp only [Option.map_some, Node.moved_kind, apply_ite (List.map (Node.moved f)), List.map_cons,
      List.map_nil]

theorem importNames_moved (d : Node) :
    importNames (d.moved f) = (importNames d).map (Node.moved f) := by
  rw [importNames, importNames, Node.moved_parts, List.flatMap_map, List.map_flatMap]
  refine List.flatMap_congr fun clause _ => ?_
  rw [Node.moved_kind, Node.moved_parts, List.flatMap_map, apply_ite (List.map (Node.moved f)),
    List.map_flatMap, List.map_nil]
  congr 1
  refine List.flatMap_congr fun item _ => ?_
  simp only [Node.moved_kind, Node.moved_parts, List.flatMap_map,
    apply_ite (List.map (Node.moved f)), List.map_flatMap, List.map_cons, List.map_nil]
  congr 4
  funext specifier
  exact localName_moved specifier

theorem nearest_moved (kinds : List String) (up : List Node) (d : Node) :
    nearest kinds (up.map (Node.moved f)) (d.moved f) = (nearest kinds up d).moved f := by
  have hqualifies : (fun a : Node => a.named && kinds.contains a.kind) ∘ Node.moved f =
      fun a => a.named && kinds.contains a.kind := by
    funext a
    simp
  rw [nearest, nearest, List.find?_map, hqualifies]
  cases up.find? fun a => a.named && kinds.contains a.kind with
  | some a => rfl
  | none =>
    rw [Option.map_none, List.getLast?_map]
    cases up.getLast? with
    | none => rfl
    | some a => rfl

theorem bindTo_moved (scope : Node) (is : List Node) :
    (bindTo scope is).map (Binding.moved f) = bindTo (scope.moved f) (is.map (Node.moved f)) := by
  simp [bindTo, Binding.moved]

theorem outermost_moved (up : List Node) (d : Node) :
    (up.map (Node.moved f)).getLast?.getD (d.moved f) = (up.getLast?.getD d).moved f := by
  rw [List.getLast?_map]
  cases up.getLast? with
  | none => rfl
  | some a => rfl

theorem loopBindings_moved {up : List Node} {d : Node}
    (hkeyword : ∀ k, d.child? "kind" = some k → (k.moved f).text source' = k.text source) :
    loopBindings source' (up.map (Node.moved f)) (d.moved f) =
      (loopBindings source up d).map (List.map (Binding.moved f)) := by
  rw [loopBindings, loopBindings, Node.moved_child?]
  cases hk : d.child? "kind" with
  | none => rfl
  | some k =>
    simp only [Option.map_some, hkeyword k hk]
    cases k.text source with
    | error e => rfl
    | ok t =>
      simp only [bind, Except.bind, pure, Except.pure, Except.map, bindTo_moved, nearest_moved,
        Node.moved_child?, boundIn?_moved, apply_ite (Node.moved f)]

/-- What is bound at a node does not depend on names and bounds. -/
theorem bindingsAt_moved {up : List Node} {d : Node}
    (hkeyword : d.kind = "for_in_statement" → ∀ k, d.child? "kind" = some k →
      (k.moved f).text source' = k.text source) :
    bindingsAt source' (up.map (Node.moved f)) (d.moved f) =
      (bindingsAt source up d).map (List.map (Binding.moved f)) := by
  by_cases hfor : d.kind = "for_in_statement"
  · have hloop : bindingsAt source up d = loopBindings source up d := by simp [bindingsAt, hfor]
    have hloop' : bindingsAt source' (up.map (Node.moved f)) (d.moved f) =
        loopBindings source' (up.map (Node.moved f)) (d.moved f) := by
      simp [bindingsAt, hfor]
    rw [hloop, hloop', loopBindings_moved (hkeyword hfor)]
  · have htoList : ∀ n : Option Node, (n.map (Node.moved f)).toList =
        n.toList.map (Node.moved f) := by
      intro n
      cases n with
      | none => rfl
      | some n => rfl
    have hok : ∀ bs : List Binding, Except.map (List.map (Binding.moved f))
        (.ok bs : Except TextError (List Binding)) = .ok (bs.map (Binding.moved f)) :=
      fun _ => rfl
    simp only [bindingsAt, Node.moved_kind, if_neg hfor, Node.moved_child?, nearest_moved,
      declaratorNames_moved, parameterNames_moved, ownName_moved, importNames_moved,
      boundIn?_moved, outermost_moved, htoList, apply_ite (Except.map (List.map (Binding.moved f))),
      hok, List.map_append, bindTo_moved, List.map_nil]

/-! ## The table of declarations -/

/-- What is bound by a declaration declares the respelled name in the other spelling. -/
theorem declaration_respelled (h : Respells spell f source source' root) {up : List Node}
    {d : Node} (hd : root.Occurs up d) (hnamed : d.named = true) {bs : List Binding}
    (hbs : bindingsAt source up d = .ok bs) {b : Binding} (hb : b ∈ bs) :
    (b.moved f).declaration source' =
      (b.declaration source).map (Declaration.respelled spell f) := by
  obtain ⟨far, hdeclares⟩ := declares_of_mem_bindingsAt hbs hb
  have hdecl : IsDeclaration source root b.identifier := ⟨up, d, _, hd, hnamed, hdeclares⟩
  obtain ⟨at', hi⟩ := hdecl.occurs
  have htext := h.names at' b.identifier hi (Or.inr hdecl)
  rw [Binding.declaration, Binding.declaration, Binding.moved, htext]
  cases b.identifier.text source with
  | error e => rfl
  | ok t =>
    simp only [Except.map, bind, Except.bind, pure, Except.pure, Declaration.respelled,
      key_moved, Option.map_some]

/-- What is declared at a node is declared in the other spelling. -/
theorem declarationsAt_respelled (h : Respells spell f source source' root) {up : List Node}
    {d : Node} (hd : root.Occurs up d) :
    declarationsAt source' (up.map (Node.moved f)) (d.moved f) =
      (declarationsAt source up d).map (List.map (Declaration.respelled spell f)) := by
  unfold declarationsAt
  rw [Node.moved_named, Node.moved_kind]
  cases hnamed : d.named with
  | false => rfl
  | true =>
    have hkeyword : d.kind = "for_in_statement" → ∀ k, d.child? "kind" = some k →
        (k.moved f).text source' = k.text source := by
      intro hfor k hk
      exact h.keywords k ⟨up, d, hd, hnamed, hfor, hk⟩
    rw [bindingsAt_moved hkeyword]
    cases hbs : bindingsAt source up d with
    | error e => rfl
    | ok bs =>
      have hall := mapM_map fun b hb => declaration_respelled h hd hnamed hbs hb
      simp only [Bool.not_true, Bool.false_eq_true, if_false, Except.map, bind, Except.bind]
      rw [hall]
      cases bs.mapM (Binding.declaration source) with
      | error e => rfl
      | ok declared =>
        -- the name of a class is known inside it, too
        simp only [Except.map, pure, Except.pure, List.map_append,
          apply_ite (List.map (Declaration.respelled spell f)), List.map_map, List.map_nil]
        congr 3
        refine List.map_congr_left fun x _ => ?_
        simp [Declaration.respelled, key_moved]

/-- The table of declarations in the other spelling. -/
theorem declarations_respelled (h : Respells spell f source source' root) :
    declarations source' [] (root.moved f) =
      (declarations source [] root).map (List.map (Declaration.respelled spell f)) := by
  have hplaces := Node.places_moved (f := f) [] root
  rw [List.map_nil] at hplaces
  rw [declarations_eq_gather, declarations_eq_gather, hplaces]
  refine gather_map ?_
  rintro ⟨up, d⟩ hp
  exact declarationsAt_respelled h (Node.mem_places_root.1 hp)

/-! ## References -/

theorem enclosing?_respelled (hf : Function.Injective f) (ds : List Declaration) (n : Node) :
    enclosing? (ds.map (Declaration.respelled spell f)) (n.moved f) =
      (enclosing? ds n).map (Enclosing.respelled spell) := by
  have hscope : ((ds.map (Declaration.respelled spell f)).filter
      fun d => d.scope == Key.of (n.moved f)) =
      (ds.filter fun d => d.scope == Key.of n).map (Declaration.respelled spell f) := by
    rw [List.filter_map]
    congr 1
    refine List.filter_congr fun d _ => ?_
    have hiff : (d.respelled spell f).scope = Key.of (n.moved f) ↔ d.scope = Key.of n := by
      rw [key_moved]
      exact (Key.moved_injective hf).eq_iff
    rw [Function.comp_apply, Bool.eq_iff_iff, beq_iff_eq, beq_iff_eq, hiff]
  rw [enclosing?, enclosing?, hscope, Node.moved_named, Node.moved_kind]
  simp only [List.map_map, List.isEmpty_map]
  split
  · simp [Enclosing.respelled, Declaration.respelled]
  · rfl

theorem knows_respelled (h : Respells spell f source source' root) (e : Enclosing) (name : Text) :
    (e.respelled spell).knows (spell name) = e.knows name := by
  have harguments : spell name = lit "arguments" ↔ name = lit "arguments" :=
    h.distinct.eq_iff' h.arguments
  have hmem : spell name ∈ e.names.map spell ↔ name ∈ e.names :=
    List.mem_map_of_injective h.distinct
  rw [Bool.eq_iff_iff]
  simp only [Enclosing.knows, Enclosing.respelled, Bool.or_eq_true, Bool.and_eq_true, beq_iff_eq,
    List.contains_iff_mem, harguments, hmem]

theorem isIdentifier_moved {n : Node} : IsIdentifier (n.moved f) ↔ IsIdentifier n := by
  simp only [IsIdentifier, Node.moved_kind]

theorem isTag_moved {n : Node} : IsTag (n.moved f) ↔ IsTag n := by
  simp only [IsTag, Node.moved_kind]

theorem mayRefer_moved (parent : Option Node) (n : Node) :
    MayRefer (parent.map (Node.moved f)) (n.moved f) ↔ MayRefer parent n := by
  rw [MayRefer, MayRefer, isIdentifier_moved]
  apply and_congr_right
  intro _
  cases parent with
  | none => simp
  | some p => simp [IsForeign]

/-- Whether a name at a place is that of an element is decided alike in both spellings. -/
theorem isElementName_respelled (h : Respells spell f source source' root) {up : List Node}
    {n : Node} {name : Text} (hn : root.Occurs up n) (hid : IsIdentifier n)
    (ht : n.text source = .ok name) :
    (startsLowercase (spell name) &&
        (up.head?.map (Node.moved f)).any fun p => tagKinds.contains p.kind) =
      (startsLowercase name && up.head?.any fun p => tagKinds.contains p.kind) := by
  cases up with
  | nil => simp
  | cons p up =>
    simp only [List.head?_cons, Option.map_some, Option.any_some, Node.moved_kind]
    cases hp : tagKinds.contains p.kind with
    | false => rw [Bool.and_false, Bool.and_false]
    | true => rw [h.tags up p n name hn (contains_tagKinds.1 hp) hid ht]

/-- The free reference at a place in the other spelling. -/
theorem referenceAt_respelled (h : Respells spell f source source' root) {up : List Node} {n : Node}
    (hn : root.Occurs up n) (declaring : List Key) (scopes : List Enclosing) :
    referenceAt source' (declaring.map (Key.moved f)) (scopes.map (Enclosing.respelled spell))
        (up.head?.map (Node.moved f)) (n.moved f) =
      (referenceAt source declaring scopes up.head? n).map
        (List.map (Reference.respelled spell f)) := by
  have hkey : Key.of (n.moved f) ∈ declaring.map (Key.moved f) ↔ Key.of n ∈ declaring := by
    rw [key_moved]
    exact List.mem_map_of_injective (Key.moved_injective h.apart)
  by_cases hrefer : MayRefer up.head? n ∧ Key.of n ∉ declaring
  · have hrefer' : MayRefer (up.head?.map (Node.moved f)) (n.moved f) ∧
        Key.of (n.moved f) ∉ declaring.map (Key.moved f) := by
      rw [mayRefer_moved, hkey]
      exact hrefer
    rw [referenceAt_of_mayRefer hrefer, referenceAt_of_mayRefer hrefer',
      h.names up n hn (Or.inl hrefer.1.1)]
    cases ht : n.text source with
    | error e => rfl
    | ok name =>
      -- whether a name counts is decided alike in both spellings
      have hever : spell name = everywhere ↔ name = everywhere := h.distinct.eq_iff' h.undefined
      have hknows : (scopes.map (Enclosing.respelled spell)).any (·.knows (spell name)) =
          scopes.any (·.knows name) := by
        rw [List.any_map]
        exact congrArg (scopes.any ·) (funext fun e => knows_respelled h e name)
      have htag := isElementName_respelled h hn hrefer.1.1 ht
      simp only [Except.map, htag, hever, hknows, Node.moved_start, Node.moved_stop]
      split
      · rfl
      · rfl
  · have hrefer' : ¬ (MayRefer (up.head?.map (Node.moved f)) (n.moved f) ∧
        Key.of (n.moved f) ∉ declaring.map (Key.moved f)) := by
      rw [mayRefer_moved, hkey]
      exact hrefer
    rw [referenceAt_of_not hrefer, referenceAt_of_not hrefer']
    rfl

/-- The walk finds the same references in the other spelling. -/
theorem references_respelled (h : Respells spell f source source' root) (ds : List Declaration) :
    references source' (ds.map (Declaration.respelled spell f))
        ((ds.map (Declaration.respelled spell f)).filterMap (·.site)) [] none (root.moved f) =
      (references source ds (ds.filterMap (·.site)) [] none root).map
        (List.map (Reference.respelled spell f)) := by
  have hsites : (ds.map (Declaration.respelled spell f)).filterMap (·.site) =
      (ds.filterMap (·.site)).map (Key.moved f) := by
    rw [List.filterMap_map, List.map_filterMap]
    rfl
  have hplaces := Node.places_moved (f := f) [] root
  rw [List.map_nil] at hplaces
  rw [references_eq_gather, references_eq_gather, hplaces, hsites]
  refine gather_map ?_
  rintro ⟨up, n⟩ hp
  have hscopes : (up.map (Node.moved f)).filterMap
      (enclosing? (ds.map (Declaration.respelled spell f))) =
      (up.filterMap (enclosing? ds)).map (Enclosing.respelled spell) := by
    rw [List.filterMap_map, List.map_filterMap]
    exact congrArg (List.filterMap · up) (funext fun a => enclosing?_respelled h.apart ds a)
  simp only [hscopes, List.head?_map]
  exact referenceAt_respelled h (Node.mem_places_root.1 hp) _ _

/-- Up to sorting, the search in the other spelling is the respelled search. -/
theorem search_respelled (h : Respells spell f source source' root) (found : List Reference) :
    (∃ ds', declarations source' [] (root.moved f) = .ok ds' ∧
      references source' ds' (ds'.filterMap (·.site)) [] none (root.moved f) = .ok found) ↔
      ∃ ds found', declarations source [] root = .ok ds ∧
        references source ds (ds.filterMap (·.site)) [] none root = .ok found' ∧
        found = found'.map (Reference.respelled spell f) := by
  have htable := declarations_respelled h
  cases hds : declarations source [] root with
  | error e =>
    rw [hds] at htable
    simp [htable, Except.map]
  | ok ds =>
    have hwalk := references_respelled h ds
    rw [hds, Except.map] at htable
    generalize ds.map (Declaration.respelled spell f) = ds' at htable hwalk
    cases hfound : references source ds (ds.filterMap (·.site)) [] none root with
    | error e =>
      rw [hfound, Except.map] at hwalk
      simp [htable, hwalk, hfound]
    | ok found' =>
      rw [hfound, Except.map] at hwalk
      simp [htable, hwalk, hfound, eq_comm]

/-- In the other spelling, the free references are the same; only their order by name may differ. -/
theorem freeReferences_respelled (h : Respells spell f source source' root) :
    ((∃ rs, freeReferences source' (root.moved f) = .ok rs) ↔
      ∃ rs, freeReferences source root = .ok rs) ∧
    ∀ rs rs', freeReferences source root = .ok rs →
      freeReferences source' (root.moved f) = .ok rs' →
      rs'.Perm (rs.map (Reference.respelled spell f)) := by
  constructor
  · simp only [freeReferences_eq_ok]
    constructor
    · rintro ⟨rs, ds', found, hds', hfound, -⟩
      obtain ⟨ds, found', hds, hfound', -⟩ := (search_respelled h found).1 ⟨ds', hds', hfound⟩
      exact ⟨_, ds, found', hds, hfound', rfl⟩
    · rintro ⟨rs, ds, found', hds, hfound', -⟩
      obtain ⟨ds', hds', hfound⟩ := (search_respelled h _).2 ⟨ds, found', hds, hfound', rfl⟩
      exact ⟨_, ds', _, hds', hfound, rfl⟩
  · intro rs rs' hrs hrs'
    obtain ⟨ds, found, hds, hfound, rfl⟩ := freeReferences_eq_ok.1 hrs
    obtain ⟨ds', found', hds', hfound', rfl⟩ := freeReferences_eq_ok.1 hrs'
    obtain ⟨ds'', found'', hds'', hfound'', rfl⟩ := (search_respelled h found').1 ⟨ds', hds', hfound'⟩
    rw [hds] at hds''
    cases hds''
    rw [hfound] at hfound''
    cases hfound''
    have hsorted := List.mergeSort_perm found fun a b => !before b.name a.name
    have hsorted' := List.mergeSort_perm (found.map (Reference.respelled spell f))
      fun a b => !before b.name a.name
    exact hsorted'.trans (hsorted.map _).symm

end

end ScriptDeps.Scope

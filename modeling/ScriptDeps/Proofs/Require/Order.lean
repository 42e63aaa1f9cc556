import ScriptDeps.Proofs.Analysis
import ScriptDeps.Proofs.Tree.Postorder

namespace ScriptDeps.Require

open Syntax (Node TextError)

/-! # All calls, in the order of their ends

If the texts of a tree can be read, every call of `require` in it is found once and nothing else is,
a call behind those inside it. In a tree with nested spans in which calls end with the parenthesis
behind their arguments, every call that is found ends before the next one, which encloses it or
starts behind it. Main statements:

* `isStatic_iff_hasLiteral`: which calls are static, without looking at how they are unwrapped;
* `reports_of_callAt`: what is found at a node;
* `callPlaces_in_order`: the calls of a tree in the order of their ends;
* `calls_iff_found`: when the search ends, and what it finds.
-/

/-! ## What is found -/

/-- The node is a literal, by its kind. -/
def IsLiteral (n : Node) : Prop :=
  n.kind = "string" ∨ n.kind = "number" ∨ n.kind = "true" ∨ n.kind = "false" ∨ n.kind = "null" ∨
    n.kind = "regex"

/-- The second node is left of the first when any number of parentheses is taken away, each of them
around a single part. -/
inductive Groups : Node → Node → Prop
  | bare {n : Node} : Groups n n
  | around {n part inner : Node} :
      n.kind = "parenthesized_expression" → n.parts = [part] → Groups part inner → Groups n inner

/-- There is one argument, and it is the literal, perhaps in parentheses. -/
def HasLiteral (arguments : List Node) (literal : Node) : Prop :=
  ∃ a, arguments = [a] ∧ Groups a literal ∧ IsLiteral literal

/-- The call is what is to be said of the node. -/
inductive Reports (source : ByteArray) (n : Node) : Call → Prop
  | static {arguments : List Node} {literal : Node} {spec : Text} :
      Requires source n arguments → HasLiteral arguments literal →
      literalValue source literal = .ok spec → Reports source n ⟨spec, n.start, n.stop, false⟩
  | dynamic {arguments : List Node} {texts : List Text} :
      Requires source n arguments → (∀ literal, ¬ HasLiteral arguments literal) →
      arguments.mapM (Node.compact source) = .ok texts →
      Reports source n ⟨texts.flatten, n.start, n.stop, true⟩

/-- The node is a call of `require`. -/
def IsCall (source : ByteArray) (n : Node) : Prop := ∃ arguments, Requires source n arguments

theorem isCall_iff {source : ByteArray} {n : Node} :
    (n.kind = "call_expression" ∧
      (∃ callee ∈ n.child? "function", callee.kind = "identifier" ∧
        callee.text source = .ok (Text.lit "require")) ∧
      ∃ list ∈ n.child? "arguments", list.kind = "arguments") ↔ IsCall source n := by
  constructor
  · rintro ⟨hkind, ⟨callee, hcallee, hid, hname⟩, list, hlist, harguments⟩
    exact ⟨list.parts, callee, list, ⟨hkind, hcallee, hid⟩, hname, hlist, harguments, rfl⟩
  · rintro ⟨arguments, callee, list, ⟨hkind, hcallee, hid⟩, hname, hlist, harguments, -⟩
    exact ⟨hkind, ⟨callee, hcallee, hid, hname⟩, list, hlist, harguments⟩

instance (source : ByteArray) (n : Node) : Decidable (IsCall source n) :=
  decidable_of_iff _ isCall_iff

/-- The places of the calls of `require`, each behind those below it. -/
def callPlaces (source : ByteArray) (root : Node) : List (List Node × Node) :=
  (Node.postorder [] root).filter fun p => IsCall source p.2

/-- The second call encloses the first or starts behind it, and ends later. -/
def Call.EndsBefore (a b : Call) : Prop :=
  a.stop < b.stop ∧ (a.stop ≤ b.start ∨ b.start ≤ a.start ∧ a.stop < b.stop)

/-- The calls are those of the tree, in the order of their ends. -/
structure Found (source : ByteArray) (root : Node) (cs : List Call) : Prop where
  each : List.Forall₂ (fun p c => Reports source p.2 c) (callPlaces source root) cs
  order : cs.Pairwise Call.EndsBefore

/-- Calls end with their arguments, and these with a parenthesis. -/
structure CallsClose (root : Node) : Prop where
  call : ∀ up n, root.Occurs up n → n.kind = "call_expression" →
    ∀ list ∈ n.child? "arguments", n.children.getLast? = some list ∧ list.stop = n.stop
  arguments : ∀ up list, root.Occurs up list → list.kind = "arguments" →
    ∃ p ∈ list.children.getLast?, p.kind = ")" ∧ p.children = [] ∧ p.start < p.stop ∧
      p.stop = list.stop

theorem callsClose_iff {root : Node} :
    ((∀ up n, root.Occurs up n → n.kind = "call_expression" →
      ∀ list ∈ n.child? "arguments", n.children.getLast? = some list ∧ list.stop = n.stop) ∧
    ∀ up list, root.Occurs up list → list.kind = "arguments" →
      ∃ p ∈ list.children.getLast?, p.kind = ")" ∧ p.children = [] ∧ p.start < p.stop ∧
        p.stop = list.stop) ↔ CallsClose root := by
  constructor
  · rintro ⟨hcall, harguments⟩
    exact ⟨hcall, harguments⟩
  · intro h
    exact ⟨h.call, h.arguments⟩

instance (root : Node) : Decidable (CallsClose root) := decidable_of_iff _ callsClose_iff

/-! ## Static calls -/

theorem isLiteral_iff {n : Node} : isLiteral n = true ↔ IsLiteral n := by
  simp [isLiteral, literalKinds, IsLiteral]

/-- A part that stands alone is the first part. -/
theorem unwrapped_around {n part : Node} (hkind : n.kind = "parenthesized_expression")
    (hparts : n.parts = [part]) : unwrapped n = unwrapped part := by
  have hfirst : n.children.find? Node.isPart = some part := by
    rw [← List.head?_filter]
    exact congrArg List.head? hparts
  have hlone : n.kind = parenthesized ∧ n.parts.length = 1 := ⟨hkind, by rw [hparts]; rfl⟩
  rw [unwrapped_eq, if_pos hlone, firstUnwrapped_eq, hfirst]
  rfl

/-- Parentheses around none or several parts stay. -/
theorem unwrapped_of_not_around {n : Node}
    (h : ¬ (n.kind = "parenthesized_expression" ∧ ∃ part, n.parts = [part])) :
    unwrapped n = n := by
  rw [unwrapped_eq, if_neg]
  rintro ⟨hkind, hlength⟩
  exact h ⟨hkind, List.length_eq_one_iff.1 hlength⟩

/-- What `unwrapped` leaves is left when parentheses are taken away. -/
theorem groups_unwrapped (n : Node) : Groups n (unwrapped n) := by
  induction n using Node.induct with
  | step n ih =>
    by_cases h : n.kind = "parenthesized_expression" ∧ ∃ part, n.parts = [part]
    · obtain ⟨hkind, part, hparts⟩ := h
      have hpart : part ∈ n.parts := by
        rw [hparts]
        exact List.mem_cons_self
      rw [unwrapped_around hkind hparts]
      exact .around hkind hparts (ih part (List.mem_filter.1 hpart).1)
    · rw [unwrapped_of_not_around h]
      exact .bare

/-- No literal is in parentheses itself, so that all parentheses around one are taken away. -/
theorem Groups.unwrapped_eq {n literal : Node} (h : Groups n literal) (hliteral : IsLiteral literal) :
    unwrapped n = literal := by
  induction h with
  | bare =>
    refine unwrapped_of_not_around ?_
    rintro ⟨hkind, -⟩
    rcases hliteral with h | h | h | h | h | h <;> simp [hkind] at h
  | around hkind hparts _ ih => rw [unwrapped_around hkind hparts, ih hliteral]

/-- A call is static if its only argument is a literal in any number of parentheses. -/
theorem isStatic_iff_hasLiteral {arguments : List Node} {literal : Node} :
    IsStatic arguments literal ↔ HasLiteral arguments literal := by
  rw [IsStatic, isLiteral_iff]
  constructor
  · rintro ⟨hmap, hliteral⟩
    obtain ⟨a, rfl, rfl⟩ := List.map_eq_singleton_iff.1 hmap
    exact ⟨a, rfl, groups_unwrapped a, hliteral⟩
  · rintro ⟨a, rfl, hgroups, hliteral⟩
    exact ⟨by rw [List.map_singleton, hgroups.unwrapped_eq hliteral], hliteral⟩

section

variable {source : ByteArray} {root : Node}

/-! ## At one node -/

/-- The arguments of a call are given by the node. -/
theorem Requires.unique {n : Node} {as bs : List Node} (ha : Requires source n as)
    (hb : Requires source n bs) : as = bs := by
  obtain ⟨-, list, -, -, hlist, -, rfl⟩ := ha
  obtain ⟨-, list', -, -, hlist', -, rfl⟩ := hb
  rw [hlist] at hlist'
  cases hlist'
  rfl

/-- A call is read as a static one or as a dynamic one. -/
theorem callWith_eq_ok {n : Node} {arguments : List Node} {c : Call}
    (h : callWith source n arguments = .ok c) :
    (∃ literal spec, IsStatic arguments literal ∧ literalValue source literal = .ok spec ∧
      c = ⟨spec, n.start, n.stop, false⟩) ∨
    IsDynamic arguments ∧ ∃ texts, arguments.mapM (Node.compact source) = .ok texts ∧
      c = ⟨texts.flatten, n.start, n.stop, true⟩ := by
  have hdynamicCall : callWith.dynamicCall source n arguments = .ok c →
      ∃ texts, arguments.mapM (Node.compact source) = .ok texts ∧
        c = ⟨texts.flatten, n.start, n.stop, true⟩ := by
    intro h
    obtain ⟨texts, htexts, hc⟩ := andThen_ok_iff.1 h
    cases hc
    exact ⟨texts, htexts, rfl⟩
  unfold callWith at h
  split at h
  · next argument hmap =>
    by_cases hliteral : isLiteral argument = true
    · rw [if_pos hliteral] at h
      obtain ⟨spec, hspec, hc⟩ := andThen_ok_iff.1 h
      cases hc
      exact Or.inl ⟨argument, spec, ⟨hmap, hliteral⟩, hspec, rfl⟩
    · rw [if_neg hliteral] at h
      refine Or.inr ⟨fun other hother => ?_, hdynamicCall h⟩
      exact hliteral ((isStatic_iff hmap).1 hother).2
  · next hmap =>
    refine Or.inr ⟨fun other hother => ?_, hdynamicCall h⟩
    exact hmap other hother.1

/-- A call whose literal has a value is found as a static one. -/
theorem callAt_of_hasLiteral {n literal : Node} {arguments : List Node} {spec : Text}
    (h : Requires source n arguments) (hliteral : HasLiteral arguments literal)
    (hspec : literalValue source literal = .ok spec) :
    callAt source n = .ok [⟨spec, n.start, n.stop, false⟩] := by
  obtain ⟨hmap, hkind⟩ := isStatic_iff_hasLiteral.2 hliteral
  rw [callAt_of_requires h, callWith, hmap]
  dsimp only
  rw [if_pos hkind, hspec]
  rfl

/-- Anywhere else, no call is found, if what is called can be read. -/
theorem callAt_of_not_isCall {n : Node} {cs : List Call} (h : ¬ IsCall source n)
    (hcs : callAt source n = .ok cs) : cs = [] := by
  by_cases hcallee : ∃ callee, Calls n callee
  · obtain ⟨callee, hcalls⟩ := hcallee
    have hread := hcs
    rw [callAt_of_calls hcalls] at hread
    obtain ⟨name, hname, -⟩ := andThen_ok_iff.1 hread
    rw [callAt_of_name hcalls hname (not_exists.1 h)] at hcs
    cases hcs
    rfl
  · rw [callAt_of_not (not_exists.1 hcallee)] at hcs
    cases hcs
    rfl

/-- What is found at a call of `require`. -/
theorem reports_of_callAt {n : Node} {cs : List Call} (h : IsCall source n)
    (hcs : callAt source n = .ok cs) : ∃ c, cs = [c] ∧ Reports source n c := by
  obtain ⟨arguments, hrequires⟩ := h
  rw [callAt_of_requires hrequires] at hcs
  obtain ⟨c, hc, hcs⟩ := andThen_ok_iff.1 hcs
  cases hcs
  refine ⟨c, rfl, ?_⟩
  rcases callWith_eq_ok hc with ⟨literal, spec, hstatic, hspec, rfl⟩ | ⟨hdynamic, texts, htexts, rfl⟩
  · exact .static hrequires (isStatic_iff_hasLiteral.1 hstatic) hspec
  · refine .dynamic hrequires (fun literal hliteral => ?_) htexts
    exact hdynamic literal (isStatic_iff_hasLiteral.2 hliteral)

theorem Reports.bounds {n : Node} {c : Call} (h : Reports source n c) :
    c.start = n.start ∧ c.stop = n.stop := by
  cases h with
  | static => exact ⟨rfl, rfl⟩
  | dynamic => exact ⟨rfl, rfl⟩

/-! ## The walk -/

/-- The search gathers the calls at all places from below. -/
theorem calls_eq_gather (root : Node) :
    calls source root = gather (fun p => callAt source p.2) (Node.postorder [] root) := by
  refine Node.walkUp_eq_gather (calls source) (callAt source) (fun n => ?_) [] root
  cases n
  rw [calls, callsAmong_eq_gather]

/-- Every call of the tree is found once, and nothing else is. -/
theorem reports_of_calls {cs : List Call} (h : calls source root = .ok cs) :
    List.Forall₂ (fun p c => Reports source p.2 c) (callPlaces source root) cs := by
  rw [calls_eq_gather] at h
  refine forall₂_gather h ?_ ?_
  · intro p _ hcall own hown
    exact reports_of_callAt hcall hown
  · intro p hp hno
    obtain ⟨own, hown⟩ := exists_gather_iff.1 ⟨_, h⟩ p hp
    rw [hown, callAt_of_not_isCall hno hown]

/-! ## The order of the ends -/

theorem mem_callPlaces {up : List Node} {n : Node} :
    (up, n) ∈ callPlaces source root ↔ root.Occurs up n ∧ IsCall source n := by
  rw [callPlaces, List.mem_filter, Node.mem_postorder_root, decide_eq_true_iff]

/-- The parenthesis that ends a call. -/
theorem exists_end_of_isCall {up : List Node} {n : Node} (close : CallsClose root)
    (hn : root.Occurs up n) (hcall : IsCall source n) :
    ∃ list p, list.kind = "arguments" ∧ n.children.getLast? = some list ∧
      list.children.getLast? = some p ∧ p.kind = ")" ∧ p.children = [] ∧
      p.start < p.stop ∧ p.stop = n.stop := by
  obtain ⟨arguments, callee, list, hcalls, -, hlist, hkind, -⟩ := hcall
  obtain ⟨hlast, hstop⟩ := close.call up n hn hcalls.1 list hlist
  have hoccurs := hn.child (List.mem_of_find?_eq_some hlist)
  obtain ⟨p, hp, hparenthesis, hleaf, hnonempty, hend⟩ := close.arguments _ list hoccurs hkind
  exact ⟨list, p, hkind, hlast, hp, hparenthesis, hleaf, hnonempty, hend.trans hstop⟩

/-- A call ends before every call that encloses it. -/
theorem stop_lt_of_encloses {up far : List Node} {n m : Node} (nested : root.SpansNest)
    (close : CallsClose root) (hn : root.Occurs up n) (hm : root.Occurs far m)
    (hcalln : IsCall source n) (hcallm : IsCall source m) (hs : m :: far <:+ up) :
    n.stop < m.stop := by
  obtain ⟨list, p, hlistkind, hlast, hp, hparenthesis, hleaf, hnonempty, hend⟩ :=
    exists_end_of_isCall close hm hcallm
  have hkind : n.kind = "call_expression" := by
    obtain ⟨_, _, _, hcalls, _⟩ := hcalln
    exact hcalls.1
  obtain ⟨near, rfl⟩ := hs
  have nestedm : m.SpansNest := nested.below hm
  rcases hn.within.cases_root with ⟨hnil, -⟩ | ⟨c, hc, vs, hvs, -⟩
  · exact absurd hnil (List.concat_ne_nil m near)
  -- the inner call stands below one of the children of the outer one
  have hinside := (nestedm.child hc).inside hvs
  have nestedlist : list.SpansNest := nestedm.child (List.mem_of_getLast? hlast)
  have hpmem : p ∈ list.children := List.mem_of_getLast? hp
  have hplist := (nestedlist _ _ .root).inside p hpmem
  rcases (nestedm _ _ .root).eq_last_or_before hc hlast with rfl | hbefore
  · -- the call stands among the arguments, so that it is not the parenthesis behind them
    rcases hvs.cases_root with ⟨-, rfl⟩ | ⟨d, hd, us, hus, -⟩
    · simp [hlistkind] at hkind
    · have hinsided := (nestedlist.child hd).inside hus
      rcases (nestedlist _ _ .root).eq_last_or_before hd hp with rfl | hbefored
      · rcases hus.cases_root with ⟨-, rfl⟩ | ⟨e, he, -⟩
        · simp [hparenthesis] at hkind
        · rw [hleaf] at he
          exact absurd he List.not_mem_nil
      · omega
  · omega

/-- The calls of a tree in the order of their ends. -/
theorem callPlaces_in_order (nested : root.SpansNest) (close : CallsClose root) :
    (callPlaces source root).Pairwise fun p q =>
      p.2.stop < q.2.stop ∧ (p.2.stop ≤ q.2.start ∨ q.2.start ≤ p.2.start) := by
  refine ((Node.postorder_in_order nested).filter _).imp_of_mem ?_
  rintro ⟨up, n⟩ ⟨far, m⟩ hn hm horder
  obtain ⟨hoccn, hcalln⟩ := mem_callPlaces.1 hn
  obtain ⟨hoccm, hcallm⟩ := mem_callPlaces.1 hm
  rcases horder with hs | happart
  · have hlt := stop_lt_of_encloses nested close hoccn hoccm hcalln hcallm hs
    have hcovers := nested.covers hoccn (hs.trans (List.suffix_cons n up))
    exact ⟨hlt, Or.inr hcovers.1⟩
  · obtain ⟨list, p, -, hlast, hp, -, -, hnonempty, hend⟩ := exists_end_of_isCall close hoccm hcallm
    have hlist := (nested _ _ hoccm).inside list (List.mem_of_getLast? hlast)
    have hparenthesis := (nested _ _ (hoccm.child (List.mem_of_getLast? hlast))).inside p
      (List.mem_of_getLast? hp)
    have hstart : n.stop ≤ m.start := happart
    refine ⟨?_, Or.inl hstart⟩
    show n.stop < m.stop
    omega

/-! ## The result -/

/-- All that is read is text and has a value. -/
def Readable (source : ByteArray) (root : Node) : Prop :=
  (∀ n, IsRead source root n → ∃ t, n.text source = .ok t) ∧
    ∀ literal, IsSpecifier source root literal → ¬ LacksValue source literal

theorem exists_calls_iff : (∃ cs, calls source root = .ok cs) ↔ Readable source root := by
  rw [exists_ok_iff, calls_fails]
  constructor
  · intro h
    obtain ⟨htexts, hvalues⟩ := not_or.1 h
    refine ⟨fun n hn => exists_ok_iff.2 fun hfails => htexts ⟨n, hn, hfails⟩, ?_⟩
    exact fun literal hliteral hlacks => hvalues ⟨literal, hliteral, hlacks⟩
  · rintro ⟨htexts, hvalues⟩ (⟨n, hn, hfails⟩ | ⟨literal, hliteral, hlacks⟩)
    · exact exists_ok_iff.1 (htexts n hn) hfails
    · exact hvalues literal hliteral hlacks

/-- The spans of the calls are those of their nodes. -/
theorem bounds_of_reports {ps : List (List Node × Node)} {cs : List Call}
    (h : List.Forall₂ (fun p c => Reports source p.2 c) ps cs) :
    ps.map (fun p => (p.2.start, p.2.stop)) = cs.map fun c => (c.start, c.stop) := by
  have hbounds : List.Forall₂ Eq (ps.map fun p => (p.2.start, p.2.stop))
      (cs.map fun c => (c.start, c.stop)) := by
    rw [List.forall₂_map_left_iff, List.forall₂_map_right_iff]
    refine h.imp fun p c hpc => ?_
    rw [hpc.bounds.1, hpc.bounds.2]
  exact List.forall₂_eq_eq_eq ▸ hbounds

/-- The search ends if all that it reads can be read, and then it finds the calls of the tree. -/
theorem calls_iff_found (nested : root.SpansNest) (close : CallsClose root) :
    ((∃ cs, calls source root = .ok cs) ↔ Readable source root) ∧
      ∀ cs, calls source root = .ok cs → Found source root cs := by
  refine ⟨exists_calls_iff, fun cs hcs => ?_⟩
  have heach := reports_of_calls hcs
  refine ⟨heach, ?_⟩
  have hplaces : ((callPlaces source root).map fun p => (p.2.start, p.2.stop)).Pairwise
      fun a b => a.2 < b.2 ∧ (a.2 ≤ b.1 ∨ b.1 ≤ a.1) :=
    List.pairwise_map.2 (callPlaces_in_order nested close)
  rw [bounds_of_reports heach, List.pairwise_map] at hplaces
  refine hplaces.imp ?_
  rintro a b ⟨hstop, hapart | hstart⟩
  · exact ⟨hstop, Or.inl hapart⟩
  · exact ⟨hstop, Or.inr ⟨hstart, hstop⟩⟩

end

/-- The bytes of `require(require('a'))`. -/
def requireTwice : ByteArray := Text.toBytes (Text.lit "require(require('a'))").encode

/-- The inner call is found first. -/
theorem found_in_requireTwice :
    Found requireTwice (Script.ofSource requireTwice).root
      [⟨Text.lit "a", 8, 20, false⟩, ⟨Text.lit "require('a')", 0, 21, true⟩] := by
  -- decided at once, so that the source is parsed once
  have hscript : (Script.ofSource requireTwice).root.SpansNest ∧
      CallsClose (Script.ofSource requireTwice).root ∧
      calls requireTwice (Script.ofSource requireTwice).root =
        .ok [⟨Text.lit "a", 8, 20, false⟩, ⟨Text.lit "require('a')", 0, 21, true⟩] := by
    decide +kernel
  obtain ⟨nested, close, hcalls⟩ := hscript
  exact (calls_iff_found nested close).2 _ hcalls

/-- In a script, a call can stand that is not found, because the search fails. -/
theorem not_all_calls_found : ¬ ∀ (source : ByteArray) (s : Script), Script.read source = .ok s →
    s.root.SpansNest → CallsClose s.root → ∃ cs, s.calls = .ok cs ∧ Found s.source s.root cs := by
  intro h
  have hscript : let s := Script.ofSource (Text.toBytes requireBeyondUnicode.encode)
      s.error? = none ∧ s.root.SpansNest ∧ CallsClose s.root ∧ s.calls = .error .noCodePoint := by
    decide +kernel
  obtain ⟨hvalid, nested, close, hfails⟩ := hscript
  obtain ⟨cs, hcs, -⟩ := h _ _ (Script.read_eq_ok.2 ⟨rfl, hvalid⟩) nested close
  rw [hfails] at hcs
  cases hcs

end ScriptDeps.Require

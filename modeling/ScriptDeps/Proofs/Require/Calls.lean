import ScriptDeps.Proofs.Require.Escape
import ScriptDeps.Proofs.Syntax.Tokens
import ScriptDeps.Require.Call

namespace ScriptDeps.Require

open Syntax (Node TextError Written writtenTokens)

/-! # Which calls cannot be read

The search for the calls of `require` reads the texts of some nodes: of what is called, of the
literal of a static call, and of the tokens of the arguments of a dynamic one. It fails if one of
these is no text, or if the literal of a static call has no value, and in no other case. Main
statements:

* `IsRead`: the nodes whose texts are read;
* `LacksValue`: a literal whose text is known, but not its value;
* `calls_fails`: when the search fails.
-/

/-! ## What a call is -/

/-- The node is a call of what an identifier stands for. -/
def Calls (n callee : Node) : Prop :=
  n.kind = "call_expression" ∧ n.child? "function" = some callee ∧ callee.kind = "identifier"

/-- The node is a call of `require` with these arguments. -/
def Requires (source : ByteArray) (n : Node) (arguments : List Node) : Prop :=
  ∃ callee list, Calls n callee ∧ callee.text source = .ok (Text.lit "require") ∧
    n.child? "arguments" = some list ∧ list.kind = "arguments" ∧ list.parts = arguments

/-- The only argument is a literal, perhaps in parentheses. -/
def IsStatic (arguments : List Node) (literal : Node) : Prop :=
  arguments.map unwrapped = [literal] ∧ isLiteral literal = true

/-- The arguments are known only when the script runs. -/
def IsDynamic (arguments : List Node) : Prop := ∀ literal, ¬ IsStatic arguments literal

/-- The literal is a string with an escape that denotes no code point. -/
def LacksValue (source : ByteArray) (literal : Node) : Prop :=
  literal.kind = "string" ∧ ∃ t, literal.text source = .ok t ∧ TooLarge (t.drop 1).dropLast

/-- The text of the node is read for a call with these arguments. -/
def IsReadFor (arguments : List Node) (n : Node) : Prop :=
  IsStatic arguments n ∨ IsDynamic arguments ∧ ∃ a ∈ arguments, n ∈ a.tokens

/-- The text of the node is read when the calls in a tree are looked for. -/
def IsRead (source : ByteArray) (root n : Node) : Prop :=
  ∃ up call, root.Occurs up call ∧
    (Calls call n ∨ ∃ arguments, Requires source call arguments ∧ IsReadFor arguments n)

/-- The node is the literal of a static call in the tree. -/
def IsSpecifier (source : ByteArray) (root literal : Node) : Prop :=
  ∃ up call arguments, root.Occurs up call ∧ Requires source call arguments ∧
    IsStatic arguments literal

/-! ## Where the nodes that are read stand -/

theorem unwrapped_eq (n : Node) : unwrapped n =
    if n.kind = parenthesized ∧ n.parts.length = 1 then (firstUnwrapped n.children).getD n
    else n := by
  cases n
  rw [unwrapped]

theorem firstUnwrapped_eq (ns : List Node) :
    firstUnwrapped ns = (ns.find? Node.isPart).map unwrapped := by
  induction ns with
  | nil => rfl
  | cons n rest ih =>
    rw [firstUnwrapped, List.find?_cons]
    cases n.isPart with
    | true => rfl
    | false => exact ih

/-- What is left of a node without its parentheses stands in the node. -/
theorem unwrapped_occurs (n : Node) : ∃ ws, n.Occurs ws (unwrapped n) := by
  induction n using Node.induct with
  | step n ih =>
    rw [unwrapped_eq, firstUnwrapped_eq]
    split
    · cases hpart : n.children.find? Node.isPart with
      | none => exact ⟨[], .root⟩
      | some c =>
        have hc : c ∈ n.children := List.mem_of_find?_eq_some hpart
        obtain ⟨ws, hws⟩ := ih c hc
        exact ⟨ws ++ [n], (Node.Occurs.root.child hc).trans hws⟩
    · exact ⟨[], .root⟩

/-- What is read for a call stands in one of its arguments. -/
theorem IsReadFor.occurs {arguments : List Node} {n : Node} (h : IsReadFor arguments n) :
    ∃ a ∈ arguments, ∃ ws, a.Occurs ws n := by
  rcases h with ⟨hstatic, -⟩ | ⟨-, a, ha, htoken⟩
  · have hmem : n ∈ arguments.map unwrapped := by
      rw [hstatic]
      exact List.mem_cons_self
    obtain ⟨a, ha, rfl⟩ := List.mem_map.1 hmem
    exact ⟨a, ha, unwrapped_occurs a⟩
  · obtain ⟨ws, hws, -⟩ := Node.mem_tokens.1 htoken
    exact ⟨a, ha, ws, hws⟩

/-- What is read stands in the tree. -/
theorem IsRead.occurs {source : ByteArray} {root n : Node} (h : IsRead source root n) :
    ∃ ws, root.Occurs ws n := by
  obtain ⟨up, call, hcall, ⟨-, hcallee, -⟩ | ⟨arguments, hrequires, hread⟩⟩ := h
  · exact ⟨_, hcall.trans (Node.occurs_child hcallee)⟩
  · obtain ⟨callee, list, -, -, hlist, -, rfl⟩ := hrequires
    obtain ⟨a, ha, ws, hws⟩ := hread.occurs
    exact ⟨_, ((hcall.trans (Node.occurs_child hlist)).trans (Node.occurs_part ha)).trans hws⟩

section

variable {source : ByteArray}

/-! ## Arguments -/

/-- A literal has a value if it is a text, unless it is a string with an escape that denotes no code
point. -/
theorem literalValue_fails {n : Node} :
    (∃ e, literalValue source n = .error e) ↔
      (∃ e, n.text source = .error e) ∨ LacksValue source n := by
  rw [literalValue, andThen_fails_iff]
  apply or_congr_right
  constructor
  · rintro ⟨t, ht, hfails⟩
    split at hfails
    · next hstring => exact ⟨hstring, t, ht, unescape_fails.1 hfails⟩
    · obtain ⟨e, he⟩ := hfails
      cases he
  · rintro ⟨hstring, t, ht, hlarge⟩
    refine ⟨t, ht, ?_⟩
    rw [if_pos hstring]
    exact unescape_fails.2 hlarge

theorem isStatic_iff {arguments : List Node} {literal : Node}
    (h : arguments.map unwrapped = [literal]) {other : Node} :
    IsStatic arguments other ↔ other = literal ∧ isLiteral literal = true := by
  constructor
  · rintro ⟨hmap, hliteral⟩
    rw [h] at hmap
    cases hmap
    exact ⟨rfl, hliteral⟩
  · rintro ⟨rfl, hliteral⟩
    exact ⟨h, hliteral⟩

theorem dynamicCall_fails {n : Node} {arguments : List Node} :
    (∃ e, callWith.dynamicCall source n arguments = .error e) ↔
      ∃ a ∈ arguments, ∃ token ∈ a.tokens, ∃ e, token.text source = .error e := by
  rw [callWith.dynamicCall, andThen_return_fails, mapM_fails]
  simp only [Syntax.compact_fails]

theorem callWith_of_isDynamic {n : Node} {arguments : List Node} (h : IsDynamic arguments) :
    callWith source n arguments = callWith.dynamicCall source n arguments := by
  unfold callWith
  split
  · next argument hmap =>
    have hliteral : ¬ isLiteral argument = true := fun hliteral => h argument ⟨hmap, hliteral⟩
    rw [if_neg hliteral]
  · rfl

/-- How a call is read depends on whether it is static. -/
theorem callWith_fails {n : Node} {arguments : List Node} :
    (∃ e, callWith source n arguments = .error e) ↔
      (∃ m, IsReadFor arguments m ∧ ∃ e, m.text source = .error e) ∨
        ∃ literal, IsStatic arguments literal ∧ LacksValue source literal := by
  -- the value of a literal is read, or else the tokens of all arguments
  by_cases hstatic : ∃ literal, IsStatic arguments literal
  · obtain ⟨literal, hmap, hliteral⟩ := hstatic
    unfold callWith
    rw [hmap]
    dsimp only
    rw [if_pos hliteral, andThen_return_fails, literalValue_fails]
    have honly : ∀ other, IsStatic arguments other ↔ other = literal := by
      intro other
      rw [isStatic_iff hmap, and_iff_left hliteral]
    have hread : ∀ m, IsReadFor arguments m ↔ m = literal := by
      intro m
      rw [IsReadFor, honly, or_iff_left]
      rintro ⟨hdynamic, -⟩
      exact hdynamic literal ⟨hmap, hliteral⟩
    simp only [honly, hread, exists_eq_left]
  · have hdynamic : IsDynamic arguments := not_exists.1 hstatic
    rw [callWith_of_isDynamic hdynamic, dynamicCall_fails]
    constructor
    · rintro ⟨a, ha, token, htoken, hfails⟩
      exact Or.inl ⟨token, Or.inr ⟨hdynamic, a, ha, htoken⟩, hfails⟩
    · rintro (⟨m, hm | ⟨-, a, ha, htoken⟩, hfails⟩ | ⟨literal, hliteral, -⟩)
      · exact absurd hm (hdynamic m)
      · exact ⟨a, ha, m, htoken, hfails⟩
      · exact absurd hliteral (hdynamic literal)

/-! ## Calls -/

theorem callAt_of_not {n : Node} (h : ∀ callee, ¬ Calls n callee) : callAt source n = .ok [] := by
  unfold callAt
  by_cases hkind : n.kind = "call_expression"
  · rw [if_neg (not_not_intro hkind)]
    cases hcallee : n.child? "function" with
    | none => rfl
    | some callee =>
      have hother : callee.kind ≠ "identifier" := fun hid => h callee ⟨hkind, hcallee, hid⟩
      simp only [if_pos hother]
      rfl
  · rw [if_pos hkind]
    rfl

/-- What is called is read, and then the arguments if it is `require`. -/
theorem callAt_of_calls {n callee : Node} (hcalls : Calls n callee) :
    callAt source n = do
      let name ← callee.text source
      if name ≠ Text.lit "require" then return []
      match n.child? "arguments" with
      | none => return []
      | some arguments =>
        if arguments.kind ≠ "arguments" then return []
        return [← callWith source n arguments.parts] := by
  obtain ⟨hkind, hcallee, hid⟩ := hcalls
  unfold callAt
  rw [if_neg (not_not_intro hkind), hcallee]
  exact if_neg (not_not_intro hid)

/-- At a call of `require`, one call is found. -/
theorem callAt_of_requires {n : Node} {arguments : List Node} (h : Requires source n arguments) :
    callAt source n = do return [← callWith source n arguments] := by
  obtain ⟨callee, list, hcalls, hname, hlist, hkind, rfl⟩ := h
  rw [callAt_of_calls hcalls, hname, hlist]
  simp only [bind, Except.bind, ne_eq, not_true_eq_false, if_false, hkind]

/-- At a call of anything else that can be read, none is found. -/
theorem callAt_of_name {n callee : Node} {name : Text} (hcalls : Calls n callee)
    (hname : callee.text source = .ok name) (h : ∀ arguments, ¬ Requires source n arguments) :
    callAt source n = .ok [] := by
  rw [callAt_of_calls hcalls, hname]
  dsimp only [bind, Except.bind]
  by_cases hrequire : name = Text.lit "require"
  · rw [if_neg (not_not_intro hrequire)]
    cases hlist : n.child? "arguments" with
    | none => rfl
    | some list =>
      have hkind : list.kind ≠ "arguments" := fun hkind =>
        h list.parts ⟨callee, list, hcalls, hrequire ▸ hname, hlist, hkind, rfl⟩
      exact if_pos hkind
  · exact if_pos hrequire

/-- A node is read only if it is a call of an identifier, and its arguments are read only if the
identifier is `require`. -/
theorem callAt_fails {n : Node} :
    (∃ e, callAt source n = .error e) ↔
      (∃ callee, Calls n callee ∧ ∃ e, callee.text source = .error e) ∨
        ∃ arguments, Requires source n arguments ∧
          ∃ e, callWith source n arguments = .error e := by
  constructor
  · rintro ⟨e, he⟩
    by_cases hcallee : ∃ callee, Calls n callee
    · obtain ⟨callee, hcalls⟩ := hcallee
      cases hname : callee.text source with
      | error e' => exact .inl ⟨callee, hcalls, e', hname⟩
      | ok name =>
        -- what is called is a text, so that only the arguments can fail
        by_cases hrequires : ∃ arguments, Requires source n arguments
        · obtain ⟨arguments, hrequires⟩ := hrequires
          rw [callAt_of_requires hrequires] at he
          exact .inr ⟨arguments, hrequires, andThen_return_fails.1 ⟨e, he⟩⟩
        · rw [callAt_of_name hcalls hname (not_exists.1 hrequires)] at he
          cases he
    · rw [callAt_of_not (not_exists.1 hcallee)] at he
      cases he
  · rintro (⟨callee, hcalls, e, he⟩ | ⟨arguments, hrequires, hfails⟩)
    · rw [callAt_of_calls hcalls, he]
      exact ⟨e, rfl⟩
    · rw [callAt_of_requires hrequires]
      exact andThen_return_fails.2 hfails

/-! ## The walk -/

theorem callsAmong_eq_gather (ns : List Node) :
    callsAmong source ns = gather (calls source) ns := by
  induction ns with
  | nil => rfl
  | cons n rest ih => rw [callsAmong, gather, ih]

/-- The search fails exactly if it fails at some node. -/
theorem calls_fails_at {root : Node} :
    (∃ e, calls source root = .error e) ↔
      ∃ up n, root.Occurs up n ∧ ∃ e, callAt source n = .error e := by
  induction root using Node.induct with
  | step n ih =>
    have hwalk : calls source n = do
        let inner ← gather (calls source) n.children
        let own ← callAt source n
        return inner ++ own := by
      cases n
      rw [calls, callsAmong_eq_gather]
    rw [hwalk, andThen_fails_iff, gather_fails]
    constructor
    · rintro (⟨c, hc, hfails⟩ | ⟨inner, -, hfails⟩)
      · obtain ⟨up, m, hm, hfails⟩ := (ih c hc).1 hfails
        exact ⟨up ++ [n], m, (Node.Occurs.root.child hc).trans hm, hfails⟩
      · exact ⟨[], n, .root, andThen_return_fails.1 hfails⟩
    · rintro ⟨up, m, hm, hfails⟩
      rcases hm.cases_root with ⟨rfl, rfl⟩ | ⟨c, hc, ws, hws, rfl⟩
      · -- if the node itself is reached, it fails
        cases hinner : gather (calls source) m.children with
        | error e => exact Or.inl (gather_fails.1 ⟨e, hinner⟩)
        | ok inner => exact Or.inr ⟨inner, rfl, andThen_return_fails.2 hfails⟩
      · exact Or.inl ⟨c, hc, (ih c hc).2 ⟨ws, m, hws, hfails⟩⟩

/-- The search fails exactly if a text that is read is no text, or the literal of a static call has
no value. -/
theorem calls_fails {root : Node} :
    (∃ e, calls source root = .error e) ↔
      (∃ n, IsRead source root n ∧ ∃ e, n.text source = .error e) ∨
        ∃ literal, IsSpecifier source root literal ∧ LacksValue source literal := by
  rw [calls_fails_at]
  constructor
  · rintro ⟨up, n, hn, hfails⟩
    rcases callAt_fails.1 hfails with ⟨callee, hcalls, ht⟩ | ⟨arguments, hrequires, hfails⟩
    · exact Or.inl ⟨callee, ⟨up, n, hn, Or.inl hcalls⟩, ht⟩
    · rcases callWith_fails.1 hfails with ⟨m, hm, ht⟩ | ⟨literal, hstatic, hlacks⟩
      · exact Or.inl ⟨m, ⟨up, n, hn, Or.inr ⟨arguments, hrequires, hm⟩⟩, ht⟩
      · exact Or.inr ⟨literal, ⟨up, n, arguments, hn, hrequires, hstatic⟩, hlacks⟩
  · rintro (⟨m, ⟨up, n, hn, hm⟩, ht⟩ | ⟨literal, ⟨up, n, arguments, hn, hrequires, hstatic⟩, hlacks⟩)
    · refine ⟨up, n, hn, callAt_fails.2 ?_⟩
      rcases hm with hcalls | ⟨arguments, hrequires, hm⟩
      · exact Or.inl ⟨m, hcalls, ht⟩
      · exact Or.inr ⟨arguments, hrequires, callWith_fails.2 (Or.inl ⟨m, hm, ht⟩)⟩
    · refine ⟨up, n, hn, callAt_fails.2 (Or.inr ⟨arguments, hrequires, ?_⟩)⟩
      exact callWith_fails.2 (Or.inr ⟨literal, hstatic, hlacks⟩)

end

end ScriptDeps.Require

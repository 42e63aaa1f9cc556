import ScriptDeps.Proofs.Require.Order
import ScriptDeps.Proofs.Syntax.Compact

namespace ScriptDeps.Require

open Syntax (Node StandAt TextError Written layout placed writtenTokens)
open Text (IsEncodable encode lit toBytes)

/-! # Dynamic calls read again

The argument of a dynamic call is known by its compact text. If that is put into a call again and
the new source is divided into the same tokens, the same call is found, with the same compact text
and the same tokens. The layout does not see to that, though: without the blank between them, two
tokens may become one, or something else. Main statements:

* `compact_of_callAt`: the compact text of the only argument of a dynamic call;
* `text_callee`: the new source calls `require`;
* `keeps_and_restores`: what the compact text keeps, and when the call is found again.
-/

/-! ## The source of a call -/

/-- The text of a call of `require` with the text as its arguments. -/
def callText (spec : Text) : Text := lit "require" ++ lit "(" ++ spec ++ lit ")"

/-- The bytes of a call of `require` with the text as its arguments. -/
def callSource (spec : Text) : ByteArray := toBytes (encode (callText spec))

/-- The node is the expression that the program consists of. -/
def IsWhole (root n : Node) : Prop :=
  ∃ statement, root.children = [statement] ∧ statement.kind = "expression_statement" ∧
    statement.children.head? = some n

/-- In the source of a call with the compact text of the argument `a`, the node `n` is a call with
the argument `a'`. It calls what stands where `require` does, and its argument is divided into
tokens that stand where the layout puts those of `a`. -/
structure Divides (source : ByteArray) (a n a' : Node) : Prop where
  callee : ∃ callee, Calls n callee ∧ callee.start = 0 ∧ callee.stop = 7
  arguments : ∃ list, n.child? "arguments" = some list ∧ list.kind = "arguments" ∧
    list.parts = [a']
  dynamic : ∀ literal, ¬ HasLiteral [a'] literal
  tokens : ∃ ws, writtenTokens source a.tokens = .ok ws ∧ StandAt a'.tokens (placed 8 ws)

/-- In the script of a call with the compact text of the argument `a`, the node `n` is found as a
dynamic call with that text, and its argument `a'` has the tokens of `a`. -/
structure FoundAgain (source : ByteArray) (a : Node) (spec : Text) (s : Script) (n a' : Node) :
    Prop where
  whole : IsWhole s.root n
  requires : Requires s.source n [a']
  call : callAt s.source n = .ok [⟨spec, n.start, n.stop, true⟩]
  tokens : ∃ ws ws', writtenTokens source a.tokens = .ok ws ∧
    writtenTokens s.source a'.tokens = .ok ws' ∧ ws'.map (·.text) = ws.map (·.text)

/-- The compact text of the argument `a` makes a call by which it is found again. -/
def Restores (source : ByteArray) (a : Node) (spec : Text) : Prop :=
  ∃ s n a', Script.read (callSource spec) = .ok s ∧ FoundAgain source a spec s n a'

section

variable {source : ByteArray}

/-! ## The compact text -/

/-- A dynamic call with one argument is known by the layout of its tokens. -/
theorem compact_of_callAt {n a : Node} {c : Call} (hrequires : Requires source n [a])
    (hcall : callAt source n = .ok [c]) (hdynamic : c.dynamic = true) :
    ∃ ws, writtenTokens source a.tokens = .ok ws ∧ c.spec = layout ws := by
  rw [callAt_of_requires hrequires] at hcall
  obtain ⟨c', hc', heq⟩ := andThen_ok_iff.1 hcall
  cases heq
  rcases callWith_eq_ok hc' with ⟨literal, spec, hstatic, hspec, rfl⟩ | ⟨-, texts, htexts, rfl⟩
  · cases hdynamic
  · rw [mapM_eq_gather, gather_singleton, Node.compact] at htexts
    cases hws : writtenTokens source a.tokens with
    | error e =>
      rw [hws] at htexts
      cases htexts
    | ok ws =>
      rw [hws] at htexts
      cases htexts
      exact ⟨ws, rfl, List.flatten_singleton⟩

/-- A dynamic call with one argument is found with the layout of its tokens. -/
theorem callAt_of_written {n a : Node} {ws : List Written} (hrequires : Requires source n [a])
    (hdynamic : IsDynamic [a]) (hws : writtenTokens source a.tokens = .ok ws) :
    callAt source n = .ok [⟨layout ws, n.start, n.stop, true⟩] := by
  have htexts : [a].mapM (Node.compact source) = .ok [layout ws] := by
    rw [mapM_eq_gather, gather_singleton, Node.compact, hws]
    rfl
  rw [callAt_of_requires hrequires, callWith_of_isDynamic hdynamic, callWith.dynamicCall, htexts]
  show Except.ok _ = Except.ok _
  rw [List.flatten_singleton]

/-! ## The new source -/

theorem isEncodable_callText {spec : Text} (h : IsEncodable spec) :
    IsEncodable (callText spec) := by
  have hbefore : IsEncodable (lit "require" ++ lit "(") := by decide
  have hbehind : IsEncodable (lit ")") := by decide
  intro c hc
  rw [callText, List.mem_append, List.mem_append] at hc
  rcases hc with (hc | hc) | hc
  · exact hbefore c hc
  · exact h c hc
  · exact hbehind c hc

/-- At its beginning, the new source calls `require`. -/
theorem text_callee {spec : Text} (h : IsEncodable spec) {callee : Node} (hstart : callee.start = 0)
    (hstop : callee.stop = 7) : callee.text (callSource spec) = .ok (lit "require") := by
  have hsplit : callText spec = [] ++ lit "require" ++ (lit "(" ++ spec ++ lit ")") := by
    simp only [callText, List.nil_append, List.append_assoc]
  have hencodable := isEncodable_callText h
  rw [Syntax.text_eq_ok, hstart, hstop, callSource]
  rw [hsplit] at hencodable ⊢
  exact Text.decode_part hencodable

/-! ## The call that is found -/

/-- In the new source, the tokens of the argument have the same texts as before, where the layout
puts them. -/
def KeepsTokens (source : ByteArray) (a : Node) (spec : Text) : Prop :=
  ∃ ws, writtenTokens source a.tokens = .ok ws ∧ spec = layout ws ∧
    ∀ w ∈ placed 8 ws, Syntax.ReadsBack (callSource spec) w

theorem keepsTokens_of_callAt {n a : Node} {c : Call} (hrequires : Requires source n [a])
    (hcall : callAt source n = .ok [c]) (hdynamic : c.dynamic = true) :
    KeepsTokens source a c.spec := by
  obtain ⟨ws, hws, hspec⟩ := compact_of_callAt hrequires hcall hdynamic
  have hencodable := isEncodable_callText (Syntax.isEncodable_of_writtenTokens hws)
  refine ⟨ws, hws, hspec, ?_⟩
  rw [hspec]
  exact Syntax.readsBack_placed hencodable

/-- If the new source is divided into the tokens of the argument, the call is found again. -/
theorem restores_of_divides {a : Node} {spec : Text} (hkeeps : KeepsTokens source a spec)
    {s : Script} {n a' : Node} (hread : Script.read (callSource spec) = .ok s)
    (hwhole : IsWhole s.root n) (hdivides : Divides source a n a') : Restores source a spec := by
  obtain ⟨ws, hws, hspec, hreads⟩ := hkeeps
  obtain ⟨⟨callee, hcalls, hstart, hstop⟩, ⟨list, hlist, hkind, hparts⟩, hliteral, hstand⟩ :=
    hdivides
  obtain ⟨ws', hws', hstand⟩ := hstand
  obtain rfl : ws = ws' := Except.ok.inj (hws.symm.trans hws')
  have hsource : s.source = callSource spec := by
    obtain ⟨rfl, -⟩ := Script.read_eq_ok.1 hread
    rfl
  have hencodable : IsEncodable spec := by
    rw [hspec]
    exact Syntax.isEncodable_of_writtenTokens hws
  -- the new call is one of `require`, and its argument has the tokens of the old one
  have hrequires : Requires s.source n [a'] := by
    refine ⟨callee, list, hcalls, ?_, hlist, hkind, hparts⟩
    rw [hsource]
    exact text_callee hencodable hstart hstop
  have hfull : ∀ w ∈ placed 8 ws, w.text ≠ [] := by
    intro w hw
    obtain ⟨v, hv, heq⟩ := Syntax.exists_text_of_mem_placed hw
    rw [← heq]
    exact (Syntax.text_of_mem_writtenTokens hws hv).1
  have htokens : writtenTokens s.source a'.tokens = .ok (placed 8 ws) := by
    rw [hsource]
    exact Syntax.writtenTokens_of_standAt hstand hreads hfull
  have hdynamic : IsDynamic [a'] := by
    intro literal hstatic
    exact hliteral literal (isStatic_iff_hasLiteral.1 hstatic)
  refine ⟨s, n, a', hread, hwhole, hrequires, ?_, ws, _, hws, htokens, ?_⟩
  · rw [callAt_of_written hrequires hdynamic htokens, Syntax.layout_placed, hspec]
  · exact Syntax.map_text_placed 8 ws

end

/-! ## Programs of one call -/

/-- The tree of a call of `require` at the beginning of a source, with one argument that reaches up
to the closing parenthesis. -/
def callNode (a : Node) : Node where
  kind := "call_expression"
  named := true
  start := 0
  stop := a.stop + 1
  children := [
    { kind := "identifier", named := true, start := 0, stop := 7, role := some "function" },
    { kind := "arguments", named := true, start := 7, stop := a.stop + 1, role := some "arguments"
      children := [
        { kind := "(", named := false, start := 7, stop := 8 }, a,
        { kind := ")", named := false, start := a.stop, stop := a.stop + 1 }] }]

/-- The tree of the program that consists of the call. -/
def callTree (a : Node) : Node where
  kind := "program"
  named := true
  start := 0
  stop := a.stop + 1
  children := [
    { kind := "expression_statement", named := true, start := 0, stop := a.stop + 1
      children := [callNode a] }]

theorem calls_callNode (a : Node) : ∃ callee, Calls (callNode a) callee ∧
    callee.start = 0 ∧ callee.stop = 7 :=
  ⟨_, ⟨rfl, rfl, rfl⟩, rfl, rfl⟩

theorem arguments_callNode {a : Node} (h : a.isPart = true) : ∃ list,
    (callNode a).child? "arguments" = some list ∧ list.kind = "arguments" ∧ list.parts = [a] := by
  refine ⟨_, rfl, rfl, ?_⟩
  rw [Node.parts, List.filter_cons_of_neg (by decide), List.filter_cons_of_pos h]
  rfl

theorem requires_callNode {source : ByteArray} {a : Node} (h : a.isPart = true)
    (hname : Text.decode (Text.bytesBetween source 0 7) = .ok (lit "require")) :
    Requires source (callNode a) [a] := by
  obtain ⟨callee, hcalls, hstart, hstop⟩ := calls_callNode a
  obtain ⟨list, hlist⟩ := arguments_callNode h
  refine ⟨callee, list, hcalls, ?_, hlist⟩
  rw [Syntax.text_eq_ok, hstart, hstop]
  exact hname

theorem isWhole_callTree (a : Node) : IsWhole (callTree a) (callNode a) := ⟨_, rfl, rfl, rfl⟩

/-- The tree of `a + b` with the sign and the second name at these places. -/
def sumNode (sign right : Nat) : Node where
  kind := "binary_expression"
  named := true
  start := 8
  stop := right + 1
  children := [
    { kind := "identifier", named := true, start := 8, stop := 9, role := some "left" },
    { kind := "+", named := false, start := sign, stop := sign + 1, role := some "operator" },
    { kind := "identifier", named := true, start := right, stop := right + 1
      role := some "right" }]

/-- The bytes of a call with more blanks than the layout leaves. -/
def spacedSum : ByteArray := toBytes (encode (lit "require(a  + b)"))

/-- The tree of `1 .x` as an argument. -/
def memberNode : Node where
  kind := "member_expression"
  named := true
  start := 8
  stop := 12
  children := [
    { kind := "number", named := true, start := 8, stop := 9, role := some "object" },
    { kind := ".", named := false, start := 10, stop := 11 },
    { kind := "property_identifier", named := true, start := 11, stop := 12
      role := some "property" }]

/-- The bytes of `require(1 .x)`. -/
def memberOfNumber : ByteArray := toBytes (encode (lit "require(1 .x)"))

end ScriptDeps.Require

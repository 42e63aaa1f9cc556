import ScriptDeps.Dependency
import ScriptDeps.Proofs.Cache.Transparency
import ScriptDeps.Proofs.Parse.Parser
import ScriptDeps.Proofs.Require.Calls
import ScriptDeps.Proofs.Scope.Free
import ScriptDeps.Proofs.Text.Utf8

namespace ScriptDeps

open Syntax (Node TextError)

/-! # When the dependencies of a source are not known

A source has dependencies or a syntax error, unless a text that is read out of its tree is no text,
or the literal of a static call of `require` has an escape that denotes no code point. Nothing else
can go wrong, whatever the catalog. In a source that is a text, all nodes are texts, so that only the
escapes are left. Main statements:

* `Script.Unreadable`: the scripts without dependencies;
* `Script.exists_text`: what is read out of a source that is a text is a text;
* `dependencies_ends_iff`: the sources with dependencies or a syntax error.
-/

/-- There are dependencies or a syntax error. -/
def Ends (r : Except AnalysisError (List Dependency)) : Prop :=
  (∃ ds, r = .ok ds) ∨ ∃ e, r = .error (.invalid e)

instance : (r : Except AnalysisError (List Dependency)) → Decidable (Ends r)
  | .ok ds => isTrue (Or.inl ⟨ds, rfl⟩)
  | .error (.invalid e) => isTrue (Or.inr ⟨e, rfl⟩)
  | .error (.unreadable e) => isFalse (by
      rintro (⟨ds, h⟩ | ⟨e', h⟩) <;> cases h)

/-- The text of the node is read. -/
def Script.Reads (s : Script) (n : Node) : Prop :=
  Require.IsRead s.source s.root n ∨ Scope.IsRead s.source s.root n

/-- A literal of a static call has an escape that denotes no code point. -/
def Script.HasValuelessSpecifier (s : Script) : Prop :=
  ∃ literal, Require.IsSpecifier s.source s.root literal ∧ Require.LacksValue s.source literal

/-- Something that is read is no text or has no value. -/
def Script.Unreadable (s : Script) : Prop :=
  (∃ n, s.Reads n ∧ ∃ e, n.text s.source = .error e) ∨ s.HasValuelessSpecifier

theorem Script.unreadable_iff {s : Script} :
    s.Unreadable ↔ (∃ e, s.calls = .error e) ∨ ∃ e, s.freeReferences = .error e := by
  rw [Script.calls, Script.freeReferences, Require.calls_fails, Scope.freeReferences_fails]
  constructor
  · rintro (⟨n, hread | hread, ht⟩ | hvalueless)
    · exact Or.inl (Or.inl ⟨n, hread, ht⟩)
    · exact Or.inr ⟨n, hread, ht⟩
    · exact Or.inl (Or.inr hvalueless)
  · rintro ((⟨n, hread, ht⟩ | hvalueless) | ⟨n, hread, ht⟩)
    · exact Or.inl ⟨n, Or.inl hread, ht⟩
    · exact Or.inr hvalueless
    · exact Or.inl ⟨n, Or.inr hread, ht⟩

/-- The catalog does not matter to whether the dependencies of a script are known. -/
theorem Script.dependencies_fails {s : Script} {catalog : Module.Catalog} :
    (∃ e, s.dependencies catalog = .error e) ↔ s.Unreadable := by
  rw [Script.dependencies, andThen_fails_iff, unreadable_iff]
  simp only [andThen_return_fails]
  constructor
  · rintro (hcalls | ⟨calls, -, hreferences⟩)
    · exact Or.inl hcalls
    · exact Or.inr hreferences
  · intro h
    cases hcalls : s.calls with
    | error e => exact Or.inl ⟨e, rfl⟩
    | ok calls =>
      rcases h with ⟨e, he⟩ | hreferences
      · rw [hcalls] at he
        cases he
      · exact Or.inr ⟨calls, rfl, hreferences⟩

theorem ends_iff {source : ByteArray} {catalog : Module.Catalog} :
    Ends (dependencies source catalog) ↔
      ∀ s, Script.read source = .ok s → ¬ ∃ e, s.dependencies catalog = .error e := by
  unfold dependencies
  cases Script.read source with
  | error e =>
    constructor
    · intro _ s hs
      cases hs
    · exact fun _ => Or.inr ⟨e, rfl⟩
  | ok s =>
    dsimp only
    cases hs : s.dependencies catalog with
    | error e =>
      constructor
      · rintro (⟨ds, h⟩ | ⟨e', h⟩) <;> cases h
      · intro h
        exact absurd ⟨e, hs⟩ (h s rfl)
    | ok ds =>
      constructor
      · rintro - s' hs' ⟨e, he⟩
        cases hs'
        rw [hs] at he
        cases he
      · exact fun _ => Or.inl ⟨ds, rfl⟩

/-! ## Sources that are texts -/

theorem Script.Reads.occurs {s : Script} {n : Node} (h : s.Reads n) : ∃ up, s.root.Occurs up n := by
  rcases h with hcalls | hreferences
  · exact hcalls.occurs
  · exact hreferences.occurs

/-- What is read out of a source that is a text is a text. -/
theorem Script.exists_text {t : Text} (ht : t.IsEncodable) {s : Script}
    (hs : Script.read (Text.toBytes t.encode) = .ok s) {n : Node} (hn : s.Reads n) :
    ∃ u, n.text s.source = .ok u := by
  obtain ⟨rfl, -⟩ := Script.read_eq_ok.1 hs
  obtain ⟨up, hocc⟩ := hn.occurs
  exact Parse.exists_text_of_occurs ht hocc

theorem Script.unreadable_of_text {t : Text} (ht : t.IsEncodable) {s : Script}
    (hs : Script.read (Text.toBytes t.encode) = .ok s) :
    s.Unreadable ↔ s.HasValuelessSpecifier := by
  refine or_iff_right ?_
  rintro ⟨n, hn, e, he⟩
  obtain ⟨u, hu⟩ := Script.exists_text ht hs hn
  rw [hu] at he
  cases he

/-- A source has dependencies or a syntax error exactly if its script can be read, and a source that
is a text exactly if no literal of a static call lacks a value. -/
theorem dependencies_ends_iff (source : ByteArray) (catalog : Module.Catalog) :
    (Ends (dependencies source catalog) ↔
      ∀ s, Script.read source = .ok s → ¬ s.Unreadable) ∧
    ∀ t : Text, t.IsEncodable → source = Text.toBytes t.encode →
      (Ends (dependencies source catalog) ↔
        ∀ s, Script.read source = .ok s → ¬ s.HasValuelessSpecifier) := by
  have hends : Ends (dependencies source catalog) ↔
      ∀ s, Script.read source = .ok s → ¬ s.Unreadable := by
    rw [ends_iff]
    simp only [Script.dependencies_fails]
  refine ⟨hends, ?_⟩
  rintro t ht rfl
  rw [hends]
  constructor
  · intro h s hs hvalueless
    exact h s hs ((Script.unreadable_of_text ht hs).2 hvalueless)
  · intro h s hs hunreadable
    exact h s hs ((Script.unreadable_of_text ht hs).1 hunreadable)

/-- A call of `require` with a string in which an escape has the value `110000`. -/
def requireBeyondUnicode : Text :=
  [114, 101, 113, 117, 105, 114, 101, 40, 39, 92, 117, 123, 49, 49, 48, 48, 48, 48, 125, 39, 41]

/-- A string with an escape that denotes no code point is no syntax error. -/
theorem not_ends_requireBeyondUnicode :
    ¬ Ends (dependencies (Text.toBytes requireBeyondUnicode.encode) {}) := by
  decide +kernel

/-- Not every source that is a text has dependencies or a syntax error. -/
theorem not_all_texts_end : ¬ ∀ (t : Text) (catalog : Module.Catalog), t.IsEncodable →
    Ends (dependencies (Text.toBytes t.encode) catalog) := by
  intro h
  have hencodable : requireBeyondUnicode.IsEncodable := by decide
  exact not_ends_requireBeyondUnicode (h requireBeyondUnicode {} hencodable)

/-- The call is static, and its literal lacks a value. -/
theorem valueless_requireBeyondUnicode :
    ¬ ∀ s, Script.read (Text.toBytes requireBeyondUnicode.encode) = .ok s →
      ¬ s.HasValuelessSpecifier := by
  have hencodable : requireBeyondUnicode.IsEncodable := by decide
  have hends := (dependencies_ends_iff (Text.toBytes requireBeyondUnicode.encode) {}).2
    requireBeyondUnicode hencodable rfl
  rw [← hends]
  exact not_ends_requireBeyondUnicode

end ScriptDeps

import ScriptDeps.Proofs.Syntax.Compact
import ScriptDeps.Proofs.Tree.Place

namespace ScriptDeps.Syntax

/-! # Tokens

The tokens of a node stand at the places of its tree that are leaves or atomic and neither inside of a
comment nor of an atomic node. The compact text writes their texts in document order. Main statements:

* `Node.tokens_eq_tokenNodes`: where the tokens stand;
* `exists_haveTexts`: the texts of the tokens that are written;
* `compact_fails`: when there is no compact text.
-/

namespace Node

/-! ## Where tokens stand -/

/-- The tokens inside of the node count as tokens of what is around it. -/
def IsOpen (n : Node) : Prop := n.kind ≠ "comment" ∧ n.kind ∉ atomicKinds

/-- Below the nodes `up`, the node is a token: a leaf or an atomic node, and no comment. -/
def IsToken (up : List Node) (n : Node) : Prop :=
  n.kind ≠ "comment" ∧ (n.children = [] ∨ n.kind ∈ atomicKinds) ∧ ∀ m ∈ up, IsOpen m

instance (n : Node) : Decidable (IsOpen n) := by
  unfold IsOpen
  infer_instance

instance (up : List Node) (n : Node) : Decidable (IsToken up n) := by
  unfold IsToken
  infer_instance

/-- The nodes of a tree that are tokens, in document order. -/
def tokenNodes (n : Node) : List Node :=
  ((places [] n).filter fun p => IsToken p.1 p.2).map (·.2)

section

variable {n : Node}

theorem tokensAmong_eq_flatMap (ns : List Node) : tokensAmong ns = ns.flatMap tokens := by
  induction ns with
  | nil => rfl
  | cons n rest ih => rw [tokensAmong, ih, List.flatMap_cons]

theorem tokens_eq (n : Node) : n.tokens = if n.kind = "comment" then []
    else if n.children.isEmpty || atomicKinds.contains n.kind then [n]
    else n.children.flatMap tokens := by
  cases n
  rw [tokens, tokensAmong_eq_flatMap]

theorem tokens_of_comment (h : n.kind = "comment") : n.tokens = [] := by
  rw [tokens_eq, if_pos h]

theorem tokens_of_whole (hcomment : n.kind ≠ "comment")
    (h : n.children = [] ∨ n.kind ∈ atomicKinds) : n.tokens = [n] := by
  rw [tokens_eq, if_neg hcomment, if_pos (by simpa using h)]

theorem tokens_of_open (h : IsOpen n) (hchildren : n.children ≠ []) :
    n.tokens = n.children.flatMap tokens := by
  have hatomic := h.2
  rw [tokens_eq, if_neg h.1, if_neg (by simp_all)]

/-- Below nodes that are all open, the tokens are found at their places. -/
theorem places_filter_isToken (up : List Node) (n : Node) :
    ((places up n).filter fun p => IsToken p.1 p.2).map (·.2) =
      if ∀ m ∈ up, IsOpen m then n.tokens else [] := by
  induction n using induct generalizing up with
  | step n ih =>
    have hbelow : ((placesAmong (n :: up) n.children).filter fun p => IsToken p.1 p.2).map (·.2) =
        if IsOpen n ∧ ∀ m ∈ up, IsOpen m then n.children.flatMap tokens else [] := by
      rw [placesAmong_eq_flatMap, List.filter_flatMap, List.map_flatMap]
      rw [List.flatMap_congr fun c hc => ih c hc (n :: up)]
      simp only [List.forall_mem_cons]
      split
      · rfl
      · simp
    -- below a node that is not open there are no tokens, so its own place is all that may be left
    rw [places_eq, List.filter_cons]
    by_cases hup : ∀ m ∈ up, IsOpen m
    · rw [if_pos hup]
      by_cases hcomment : n.kind = "comment"
      · have hnone : ¬ IsToken up n := fun h => h.1 hcomment
        have hclosed : ¬ (IsOpen n ∧ ∀ m ∈ up, IsOpen m) := fun h => h.1.1 hcomment
        rw [if_neg (by simpa using hnone), hbelow, if_neg hclosed, tokens_of_comment hcomment]
      · by_cases hwhole : n.children = [] ∨ n.kind ∈ atomicKinds
        · have htoken : IsToken up n := ⟨hcomment, hwhole, hup⟩
          have hnothing : (if IsOpen n ∧ ∀ m ∈ up, IsOpen m then n.children.flatMap tokens
              else []) = [] := by
            split
            · next hopen =>
              have hleaf := hwhole.resolve_right hopen.1.2
              rw [hleaf, List.flatMap_nil]
            · rfl
          rw [if_pos (by simpa using htoken), List.map_cons, hbelow, hnothing,
            tokens_of_whole hcomment hwhole]
        · rw [not_or] at hwhole
          have hopen : IsOpen n := ⟨hcomment, hwhole.2⟩
          have hnone : ¬ IsToken up n := fun h => h.2.1.elim hwhole.1 hwhole.2
          rw [if_neg (by simpa using hnone), hbelow, if_pos ⟨hopen, hup⟩,
            tokens_of_open hopen hwhole.1]
    · have hnone : ¬ IsToken up n := fun h => hup h.2.2
      have hclosed : ¬ (IsOpen n ∧ ∀ m ∈ up, IsOpen m) := fun h => hup h.2
      rw [if_neg hup, if_neg (by simpa using hnone), hbelow, if_neg hclosed]

/-- The tokens of a node are the nodes of its tree that are tokens. -/
theorem tokens_eq_tokenNodes (n : Node) : n.tokens = n.tokenNodes := by
  rw [tokenNodes, places_filter_isToken, if_pos (by simp)]

theorem mem_tokens {m : Node} : m ∈ n.tokens ↔ ∃ up, n.Occurs up m ∧ IsToken up m := by
  rw [tokens_eq_tokenNodes, tokenNodes, List.mem_map]
  constructor
  · rintro ⟨⟨up, k⟩, hk, rfl⟩
    obtain ⟨hplace, htoken⟩ := List.mem_filter.1 hk
    exact ⟨up, mem_places_root.1 hplace, by simpa using htoken⟩
  · rintro ⟨up, hm, htoken⟩
    exact ⟨(up, m), List.mem_filter.2 ⟨mem_places_root.2 hm, by simpa using htoken⟩, rfl⟩

end

end Node

/-! ## The texts of tokens -/

/-- The nodes have these texts. -/
def HaveTexts (source : ByteArray) (ns : List Node) (ts : List Text) : Prop :=
  List.Forall₂ (fun n t => n.text source = .ok t) ns ts

instance (source : ByteArray) (ns : List Node) (ts : List Text) :
    Decidable (HaveTexts source ns ts) := by
  unfold HaveTexts
  infer_instance

section

variable {source : ByteArray} {ns : List Node} {ts : List Text} {ws : List Written}

/-- The tokens that are written are those with a text. -/
theorem exists_haveTexts (h : writtenTokens source ns = .ok ws) :
    ∃ ts, HaveTexts source ns ts ∧ ws.map (·.text) = ts.filter (!·.isEmpty) := by
  induction ns generalizing ws with
  | nil =>
    cases h
    exact ⟨[], .nil, rfl⟩
  | cons n rest ih =>
    obtain ⟨t, others, ht, hothers, rfl⟩ := writtenTokens_cons_eq_ok.1 h
    obtain ⟨ts, hts, htexts⟩ := ih hothers
    refine ⟨t :: ts, .cons ht hts, ?_⟩
    cases t with
    | nil => exact htexts
    | cons c t => exact congrArg _ htexts

theorem writtenTokens_fails :
    (∃ e, writtenTokens source ns = .error e) ↔ ∃ n ∈ ns, ∃ e, n.text source = .error e := by
  induction ns with
  | nil => simp [writtenTokens]
  | cons n rest ih =>
    rw [writtenTokens, andThen_fails_iff]
    simp only [List.mem_cons, exists_eq_or_imp, ← ih]
    cases n.text source with
    | error e => simp
    | ok t =>
      cases writtenTokens source rest with
      | error e => simp [bind, Except.bind]
      | ok ts => simp [bind, Except.bind, pure, Except.pure]

/-- A node has a compact text if its tokens are texts. -/
theorem compact_fails {n : Node} :
    (∃ e, n.compact source = .error e) ↔ ∃ token ∈ n.tokens, ∃ e, token.text source = .error e := by
  rw [Node.compact, map_fails, writtenTokens_fails]

end

end ScriptDeps.Syntax

import ScriptDeps.Parse.Tree

namespace ScriptDeps.Grammar

open Parse (errorRun)

/-! # Ways through the automaton

The states of the automaton are read from codes. Where something is said of all of them, it is
traced back to the codes here. Main statements:

* `Leads`: a symbol may take the automaton from one state to another;
* `exists_group`, `exists_goto`: whatever can be done or follows in a state is read from its code;
* `leads_successor`: a symbol that can stand in a state leads to its successor;
* `not_leads_zero`: nothing leads on from where errors are passed over.
-/

/-- Behind the symbol, the automaton may go from state `p` to state `q`. -/
def Leads (p symbol q : Nat) : Prop :=
  .shift q ∈ (state p).actions symbol ∨ .again q ∈ (state p).actions symbol ∨
    (symbol, q) ∈ (state p).gotos

section

variable {p q symbol : Nat}

/-! ## What a state is read from -/

/-- A state in which something can be done, or behind which something can be, has a code. -/
theorem exists_code (h : (state p).groups ≠ [] ∨ (state p).gotos ≠ []) :
    ∃ code, stateCodes[p]? = some code ∧ state p = State.read code := by
  have hstate : state p = ((stateCodes.map State.read)[p]?).getD default := by
    unfold state states
    rw [Array.getD_eq_getD_getElem?, List.getElem?_toArray]
  rw [List.getElem?_map] at hstate
  cases hcode : stateCodes[p]? with
  | some code =>
    rw [hcode] at hstate
    exact ⟨code, rfl, hstate⟩
  | none =>
    rw [hcode] at hstate
    rw [hstate] at h
    rcases h with h | h <;> exact absurd rfl h

/-- What can be done at a token is read from a group of the state's code. -/
theorem exists_group {a : Action} (h : a ∈ (state p).actions symbol) :
    ∃ code what tokens, stateCodes[p]? = some code ∧
      (what, tokens) ∈ readPairs maxPairs (code / 65536) ∧
      (symbolSets.getD tokens 0).testBit symbol = true ∧ a ∈ readCell what := by
  unfold State.actions at h
  split at h
  · next g hfind =>
    have hg : g ∈ (state p).groups := List.mem_of_find?_eq_some hfind
    have htoken : g.1.testBit symbol = true := by
      have hfound := List.find?_some hfind
      exact hfound
    obtain ⟨code, hcode, hstate⟩ := exists_code (Or.inl (List.ne_nil_of_mem hg))
    rw [hstate] at hg
    obtain ⟨⟨what, tokens⟩, hpair, rfl⟩ := List.mem_map.1 hg
    exact ⟨code, what, tokens, hcode, hpair, htoken, h⟩
  · cases h

theorem exists_goto (h : (symbol, q) ∈ (state p).gotos) :
    ∃ code, stateCodes[p]? = some code ∧
      (symbol, q) ∈ readPairs maxPairs (gotoCodes.getD (code % 1024) 0) := by
  obtain ⟨code, hcode, hstate⟩ := exists_code (Or.inr (List.ne_nil_of_mem h))
  rw [hstate] at h
  exact ⟨code, hcode, h⟩

theorem lt_of_mem_readPairs {n code : Nat} {x : Nat × Nat} (h : x ∈ readPairs n code) :
    x.1 < 4096 := by
  induction n generalizing code with
  | zero => cases h
  | succ n ih =>
    rw [readPairs] at h
    split at h
    · cases h
    · rcases List.mem_cons.1 h with rfl | h
      · exact Nat.mod_lt _ (by decide)
      · exact ih h

/-! ## Symbols -/

theorem sets_known : (symbolSets.all fun s => Nat.blt s (Nat.pow 2 tokenCount)) = true := by
  decide +kernel

/-- The tokens at which something can be done come before all other symbols. -/
theorem lt_tokenCount {a : Action} (h : a ∈ (state p).actions symbol) : symbol < tokenCount := by
  obtain ⟨code, what, tokens, -, -, hsymbol, -⟩ := exists_group h
  have hset : symbolSets.getD tokens 0 < 2 ^ tokenCount := by
    rw [List.getD_eq_getElem?_getD]
    cases htokens : symbolSets[tokens]? with
    | some s =>
      have hs := List.all_eq_true.1 sets_known s (List.mem_of_getElem? htokens)
      exact Nat.le_of_ble_eq_true hs
    | none => exact Nat.two_pow_pos tokenCount
  refine Nat.lt_of_not_le fun hge => ?_
  have hlt : symbolSets.getD tokens 0 < 2 ^ symbol :=
    Nat.lt_of_lt_of_le hset (Nat.pow_le_pow_right (by decide) hge)
  rw [Nat.testBit_lt_two_pow hlt] at hsymbol
  cases hsymbol

theorem Leads.lt_errorRun (h : Leads p symbol q) : symbol < errorRun := by
  rcases h with h | h | h
  · exact Nat.lt_trans (lt_tokenCount h) (by decide)
  · exact Nat.lt_trans (lt_tokenCount h) (by decide)
  · obtain ⟨code, -, hpair⟩ := exists_goto h
    exact Nat.lt_trans (lt_of_mem_readPairs hpair) (by decide)

/-! ## Where errors are passed over -/

theorem stateCodes_zero : stateCodes[0]? = some 0x18010008000000 := rfl

/-- Where errors are passed over, tokens are only passed over, too. -/
theorem actions_zero {a : Action} (h : a ∈ (state 0).actions symbol) : a = .recover ∨ a = .extra := by
  obtain ⟨code, what, tokens, hcode, hpair, -, ha⟩ := exists_group h
  rw [stateCodes_zero] at hcode
  cases hcode
  have hpairs : readPairs maxPairs (0x18010008000000 / 65536) = [(2048, 0), (2049, 1)] := by decide
  rw [hpairs] at hpair
  simp only [List.mem_cons, List.not_mem_nil, or_false, Prod.mk.injEq] at hpair
  have hcells : readCell 2048 = [.recover] ∧ readCell 2049 = [.extra] := by decide +kernel
  rcases hpair with ⟨rfl, -⟩ | ⟨rfl, -⟩
  · rw [hcells.1] at ha
    exact Or.inl (List.mem_singleton.1 ha)
  · rw [hcells.2] at ha
    exact Or.inr (List.mem_singleton.1 ha)

theorem not_leads_zero : ¬ Leads 0 symbol q := by
  rintro (h | h | h)
  · exact (actions_zero h).elim Action.noConfusion Action.noConfusion
  · exact (actions_zero h).elim Action.noConfusion Action.noConfusion
  · obtain ⟨code, hcode, hpair⟩ := exists_goto h
    rw [stateCodes_zero] at hcode
    cases hcode
    cases hpair

/-- No rule is applied while errors are passed over. -/
theorem rule_ne_zero {rule count shape : Nat} {weight : Int}
    (h : .reduce rule count weight shape ∈ (state p).actions symbol) : p ≠ 0 := by
  rintro rfl
  exact (actions_zero h).elim Action.noConfusion Action.noConfusion

/-! ## Behind a symbol -/

/-- The state behind a symbol, if there is one, is a state that the symbol leads to, unless the symbol
belongs to no rule. -/
theorem leads_successor (h : successor p symbol ≠ 0)
    (hrule : tokenCount ≤ symbol ∨ successor p symbol ≠ p) :
    Leads p symbol (successor p symbol) := by
  unfold successor at h hrule ⊢
  split at h
  · next htoken =>
    rw [if_pos htoken] at hrule ⊢
    split at h
    · next q hlast =>
      simp only [hlast] at hrule ⊢
      exact Or.inl (List.mem_of_getLast? hlast)
    · next q hlast =>
      simp only [hlast] at hrule ⊢
      exact Or.inr (Or.inl (List.mem_of_getLast? hlast))
    · next hlast =>
      simp only [hlast] at hrule
      omega
    · exact absurd rfl h
  · next htoken =>
    rw [if_neg htoken]
    split at h
    · next g hfind =>
      have hfound := List.find?_some hfind
      have heq : g.1 = symbol := beq_iff_eq.1 hfound
      exact Or.inr (Or.inr (heq ▸ List.mem_of_find?_eq_some hfind))
    · exact absurd rfl h

end

end ScriptDeps.Grammar

import ScriptDeps.Parse.Parser
import ScriptDeps.Proofs.Parse.Versions

namespace ScriptDeps.Parse

open Grammar (Action)

/-! # What the parser does

The parser takes tokens and applies rules; around that, it compares and ranks its versions, repairs
them where an error was met, and goes back to states below. What each of these can do to the stack
is said here once, and whatever is kept by that is kept by a whole run. Main statements:

* `exists_repairs_of_handleError`: what is done before a version is recovered;
* `exists_reverts_of_goBackFor`: what is done to go back to a state below;
* `rankAll_condenses`, `Resumes.condense`: choosing among versions removes, orders and merges them;
* `Runs.run`: what holds of the tree that is found in the end.
-/

/-! ## Comparing versions -/

/-- Versions that are compared with others are settled. -/
theorem stems_betterExists_go (version cost : Nat) (vs : List Nat) (s : Stack) :
    s.Stems (betterExists.go version cost vs s).2 ∧
      (betterExists.go version cost vs s).2.size = s.size := by
  induction vs generalizing s with
  | nil => exact ⟨.refl s, rfl⟩
  | cons v rest ih =>
    have hsettled : s.Stems (s.settle v) ∧ (s.settle v).size = s.size :=
      ⟨Stack.stems_settle s v, Stack.size_settle s v⟩
    obtain ⟨hnext, hsize⟩ := ih (s.settle v)
    unfold betterExists.go
    dsimp only
    split
    · exact ih s
    · split
      · exact hsettled
      · split
        · exact hsettled
        · exact ⟨hsettled.1.trans hnext, hsize.trans hsettled.2⟩
      · exact ⟨hsettled.1.trans hnext, hsize.trans hsettled.2⟩

theorem stems_of_betterExists {p q : Parser} {version cost : Nat} {better : Bool}
    (h : betterExists p version cost = (better, q)) :
    ∃ s, q = { p with stack := s } ∧ p.stack.Stems s ∧ s.size = p.stack.size := by
  unfold betterExists at h
  split at h
  · cases h
    exact ⟨p.stack, rfl, .refl _, rfl⟩
  · cases h
    obtain ⟨hstems, hsize⟩ := stems_betterExists_go version cost
      (List.range (p.stack.settle version).size) (p.stack.settle version)
    refine ⟨_, rfl, (Stack.stems_settle p.stack version).trans hstems, ?_⟩
    rw [hsize, Stack.size_settle]

/-! ## Recovering -/

/-- All actions that were collected can be done in the state at some token. -/
def Offered (state : Nat) (acc : List Action × Bool) : Prop :=
  ∀ a ∈ acc.1, ∃ token, a ∈ (Grammar.state state).actions token

theorem choices_offered (state : Nat) (tokens : List Nat) : Offered state (choices state tokens) := by
  unfold choices
  dsimp only
  intro a ha
  refine (?_ : Offered state _) a (List.mem_reverse.1 ha)
  refine List.foldlRecOn (motive := Offered state) tokens _
    (fun a ha => absurd ha List.not_mem_nil) fun acc hacc t _ => ?_
  refine List.foldlRecOn (motive := Offered state) _ _ hacc fun acc hacc b hb => ?_
  -- only rules are collected, each of them once
  split
  · exact hacc
  · exact hacc
  · dsimp only [Offered]
    split
    · exact hacc
    · exact List.forall_mem_cons.2 ⟨⟨t, hb⟩, hacc⟩
  · exact hacc

namespace Stack

/-- Nodes are built in new versions, by rules that can be applied in a state. -/
inductive Builds (state version : Nat) (s : Stack) : Stack → Prop
  | refl : Builds state version s s
  | reduce {s' : Stack} {rule count shape token : Nat} {weight : Int} : Builds state version s s' →
      .reduce rule count weight shape ∈ (Grammar.state state).actions token →
      Builds state version s (reduce s' version rule count weight shape).1

/-- What is done with the versions before one of them is recovered: nodes are built, missing tokens
are put in where they lead on, and the error is marked. -/
inductive Repairs (s : Stack) : Stack → Prop
  | refl : Repairs s s
  | condenses {s' s'' : Stack} : Repairs s s' → Condenses s' s'' → Repairs s s''
  | builds {s' s'' : Stack} {v : Nat} : Repairs s s' → v < s'.size →
      Builds (s'.top v).state v s' s'' → Repairs s s''
  | inserts {s' : Stack} {v token : Nat} : Repairs s s' →
      Grammar.successor (s'.top v).state token ≠ 0 →
      Grammar.successor (s'.top v).state token ≠ (s'.top v).state →
      Repairs s ((s'.copy v).push s'.size (some (.absent token (s'.top v).place))
        (Grammar.successor (s'.top v).state token))
  | marks {s' : Stack} {v : Nat} : Repairs s s' → Repairs s (s'.push v none 0)

/-- Where a version goes back to states below, which are not the one where errors are passed over. -/
inductive Reverts (s : Stack) : Stack → Prop
  | refl : Reverts s s
  | stems {s' s'' : Stack} : Reverts s s' → Stems s' s'' → s''.size = s'.size → Reverts s s''
  | goesBack {s' : Stack} {goal : Nat} (version depth : Nat) : Reverts s s' → goal ≠ 0 →
      Reverts s (goBack s' version depth goal).1

end Stack

section

variable {s s' : Stack}

theorem reduceAll_go_repairs (lookahead : Option Nat) (start : Nat) (s₀ : Stack)
    (n round v : Nat) (takes : Bool) (h : s.Repairs s') :
    s.Repairs (reduceAll.go lookahead start s₀ n round v takes s').1 := by
  induction n generalizing round v takes s' with
  | zero => exact h
  | succ n ih =>
    unfold reduceAll.go
    dsimp only
    split
    · exact h
    · next hv =>
      split
      · next t hfind =>
        obtain ⟨w, hmerge⟩ := Stack.exists_merge_of_find hfind
        exact ih _ _ _ (h.condenses (.merge .refl hmerge))
      · -- all nodes are built that can be built here
        generalize hfold : (choices (s'.top v).state _).1.foldl _ (s', none) = r
        have hbuilds : Stack.Builds (s'.top v).state v s' r.1 := by
          rw [← hfold]
          refine List.foldlRecOn (motive := fun acc : Stack × Option Nat =>
            Stack.Builds (s'.top v).state v s' acc.1) _ _ .refl fun acc hacc a ha => ?_
          split
          · next rule count weight shape =>
            obtain ⟨token, htoken⟩ := choices_offered _ _ _ ha
            exact hacc.reduce htoken
          · exact hacc
        have hbuilt := h.builds (Nat.lt_of_not_le hv) hbuilds
        have hremoved : ∀ b : Bool, s.Repairs (if b then r.1.remove v else r.1) := by
          intro b
          split
          · exact hbuilt.condenses (.stems .refl (Stack.stems_remove r.1 v))
          · exact hbuilt
        split
        · split
          · exact ih _ _ _ (hbuilt.condenses (.stems .refl (Stack.stems_moveTo r.1 _ v)))
          · exact ih _ _ _ (hremoved _)
        · exact ih _ _ _ (hremoved _)

theorem reduceAll_repairs (lookahead : Option Nat) (start : Nat) (h : s.Repairs s') :
    s.Repairs (reduceAll lookahead start s').1 :=
  reduceAll_go_repairs lookahead start s' 1000 0 start false h

theorem insertMissing_repairs (v lookahead : Nat) (h : s.Repairs s') :
    s.Repairs (insertMissing v lookahead s').1 := by
  unfold insertMissing
  generalize allTokens = tokens
  induction tokens generalizing s' with
  | nil => exact h
  | cons token rest ih =>
    unfold insertMissing.go
    dsimp only
    split
    · exact ih h
    · next hbehind =>
      simp only [Bool.or_eq_true, decide_eq_true_eq, not_or] at hbehind
      have hinserted := h.inserts hbehind.1.1 hbehind.1.2
      have hreduced := reduceAll_repairs
        (if lookahead = Grammar.endSymbol then none else some lookahead) s'.size hinserted
      split
      · next t hreduce =>
        rw [hreduce] at hreduced
        exact hreduced
      · next t hreduce =>
        rw [hreduce] at hreduced
        exact ih hreduced

theorem markError_repairs (version first lookahead n v bound : Nat) (inserted : Bool)
    (h : s.Repairs s') : s.Repairs (markError version first lookahead n v bound inserted s') := by
  induction n generalizing v inserted s' with
  | zero => exact h
  | succ n ih =>
    unfold markError
    split
    · exact h
    · have hinserted :
          s.Repairs (if inserted then (s', true) else insertMissing v lookahead s').1 := by
        split
        · exact h
        · exact insertMissing_repairs v lookahead h
      generalize (if inserted then (s', true) else insertMissing v lookahead s') = r at hinserted ⊢
      exact ih _ _ hinserted.marks

/-- Before a version is recovered, the stack is repaired, and the states below are noted. -/
theorem exists_repairs_of_handleError (p : Parser) (version : Nat) (lookahead : Tree) :
    ∃ s, p.stack.Repairs s ∧ handleError p version lookahead =
      recover { p with stack := s.summarize version } version lookahead := by
  refine ⟨_, ?_, rfl⟩
  have hmarked := fun bound => markError_repairs version p.stack.size lookahead.leaf (bound + 1)
    version bound false (reduceAll_repairs none version (.refl : p.stack.Repairs p.stack))
  refine List.foldlRecOn (motive := p.stack.Repairs) _ _ (hmarked _) fun s hs v _ => ?_
  cases hmerge : s.merge version p.stack.size with
  | none => exact hs
  | some s' => exact hs.condenses (.merge .refl hmerge)

theorem goBackFor_go_reverts (version : Nat) (lookahead : Tree) (s₀ : Stack)
    (place : Source.Position) (cost before : Nat) (ws : List Waypoint) {p : Parser}
    (h : s.Reverts p.stack) : ∃ t, s.Reverts t ∧
      (goBackFor.go version lookahead s₀ place cost before ws p).1 = { p with stack := t } := by
  induction ws generalizing p with
  | nil => exact ⟨p.stack, h, rfl⟩
  | cons w rest ih =>
    unfold goBackFor.go
    dsimp only
    -- the first waypoint that is worth it and leads back ends the search
    split
    · exact ih h
    · next hworth =>
      have hgoal : w.state ≠ 0 := by
        simp only [Bool.or_eq_true, decide_eq_true_eq, not_or] at hworth
        exact hworth.1.1
      split
      · next q hexists =>
        obtain ⟨t, rfl, hstems, hsize⟩ := stems_of_betterExists hexists
        exact ⟨t, h.stems hstems hsize, rfl⟩
      · next q hexists =>
        obtain ⟨t, rfl, hstems, hsize⟩ := stems_of_betterExists hexists
        have hsettled := h.stems hstems hsize
        have hback : ∀ {depth : Nat} {u : Stack} {found : Bool},
            goBack t version depth w.state = (u, found) → s.Reverts u := by
          intro depth u found hgo
          have hreverts := hsettled.goesBack version depth hgoal
          rw [hgo] at hreverts
          exact hreverts
        dsimp only
        split
        · split
          · next u hgo => exact ⟨u, hback hgo, rfl⟩
          · next u hgo => exact ih (p := { p with stack := u }) (hback hgo)
        · exact ih (p := { p with stack := t }) hsettled

/-- Going back changes nothing but the stack. -/
theorem exists_reverts_of_goBackFor (p : Parser) (version : Nat) (lookahead : Tree) :
    ∃ s, p.stack.Reverts s ∧ (goBackFor p version lookahead).1 = { p with stack := s } := by
  unfold goBackFor
  dsimp only
  split
  · exact ⟨p.stack, .refl, rfl⟩
  · exact goBackFor_go_reverts version lookahead p.stack _ _ _ _ .refl

end

/-! ## Choosing among versions -/

theorem rank_condenses (v : Nat) (mine : Standing) (n w : Nat) (s : Stack) :
    s.Condenses (rank v mine n w s).2 := by
  induction n generalizing v w s with
  | zero => exact .refl
  | succ n ih =>
    have hsettled : s.Condenses (s.settle w) := .stems .refl (Stack.stems_settle s w)
    unfold rank
    split
    · exact .refl
    · dsimp only
      -- one of the versions is removed, they change places, or they are merged
      split
      · exact hsettled.stems (Stack.stems_remove _ v)
      · exact (hsettled.stems (Stack.stems_remove _ w)).trans (ih _ _ _)
      · split
        · next s' hmerge => exact hsettled.merge hmerge
        · exact (hsettled.stems (Stack.stems_swap _ v w)).trans (ih _ _ _)
      · split
        · next s' hmerge => exact hsettled.merge hmerge
        · exact hsettled.trans (ih _ _ _)

theorem rankAll_condenses (n v : Nat) (least : Option Nat) (s : Stack) :
    s.Condenses (rankAll n v least s).2 := by
  induction n generalizing v least s with
  | zero => exact .refl
  | succ n ih =>
    unfold rankAll
    split
    · exact .refl
    · split
      · have hremoved : s.Condenses (s.remove v) := .stems .refl (Stack.stems_remove s v)
        exact hremoved.trans (ih _ _ _)
      · have hsettled : s.Condenses (s.settle v) := .stems .refl (Stack.stems_settle s v)
        have hranked := rank_condenses v (standing (s.settle v) v) (v + 1) 0 (s.settle v)
        exact (hsettled.trans hranked).trans (ih _ _ _)

/-- What a parser keeps when versions are chosen, and when the best one goes on with the token that
it was paused at. -/
structure Resumes (I : Parser → Prop) : Prop where
  condenses : ∀ {p : Parser} {s : Stack}, I p → p.stack.Condenses s → I { p with stack := s }
  resumed : ∀ {p : Parser} {v : Nat} {h : Head} {lookahead : Tree}, I p →
    p.stack.heads[v]? = some h → h.status = .paused lookahead →
    I (handleError
      { p with stack := p.stack.modifyHead v fun h => { h with status := .active } } v lookahead)

theorem Resumes.resume {I : Parser → Prop} (hI : Resumes I) (n v : Nat) (going : Bool)
    (least : Option Nat) {p : Parser} (hp : I p) : I (resume n v going least p).2 := by
  induction n generalizing v going least p with
  | zero => exact hp
  | succ n ih =>
    unfold Parse.resume
    split
    · exact hp
    · next h hhead =>
      split
      · next lookahead hpaused =>
        split
        · exact ih _ _ _ (hI.resumed hp hhead hpaused)
        · exact ih _ _ _ (hI.condenses hp (.stems .refl (Stack.stems_remove p.stack v)))
      · exact ih _ _ _ hp

theorem Resumes.condense {I : Parser → Prop} (hI : Resumes I) {p : Parser} (hp : I p) :
    I (condense p).2 := by
  have hranked := rankAll_condenses (2 * p.stack.size + 1) 0 none p.stack
  refine hI.resume _ 0 false _ (hI.condenses hp (hranked.stems (Stack.stems_of_subset ?_)))
  exact fun x hx => List.mem_of_mem_take hx

/-! ## Running -/

/-- A token that is reused has what the last token has, any other what a token has that is read. -/
theorem lookaheadFor_of {T : Tree → Prop} {bytes : ByteArray} {p : Parser} {version : Nat}
    (hlast : ∀ t, p.lastToken = some t → T t)
    (hnext : T (nextToken bytes (p.stack.top version).state (p.stack.hasAdvanced version)
      (p.stack.top version).place)) : T (lookaheadFor bytes p version) := by
  unfold lookaheadFor
  dsimp only
  cases htoken : p.lastToken with
  | none => exact hnext
  | some t =>
    dsimp only
    split
    · exact hlast t htoken
    · exact hnext

/-- What a parser with so many versions keeps while it runs, and what holds of the tree that it
finds. -/
structure Runs (bytes : ByteArray) (I : Nat → Parser → Prop) (root : Tree → Prop) : Prop where
  among : ∀ {k l : Nat} {p : Parser}, I k p → l ≤ p.stack.size → I l p
  advance : ∀ (fuel : Nat) {version : Nat} {p : Parser}, I (version + 1) p →
    I (version + 1) (advance bytes fuel version p)
  condense : ∀ {p : Parser}, I 0 p → I 0 (condense p).2
  finished : ∀ {p : Parser} {t : Tree}, I 0 p → p.finished = some t → root t

section

variable {bytes : ByteArray} {I : Nat → Parser → Prop} {root : Tree → Prop}

theorem Runs.advanceFurther (hruns : Runs bytes I root) (fuel n furthest : Nat) {version : Nat}
    {p : Parser} (hp : I (version + 1) p) :
    I (version + 1) (advanceFurther bytes fuel version n furthest p).2 := by
  induction n generalizing furthest p with
  | zero => exact hp
  | succ n ih =>
    have hadvanced := hruns.advance fuel hp
    unfold Parse.advanceFurther
    split
    · dsimp only
      split
      · exact hadvanced
      · exact ih _ hadvanced
    · exact hp

theorem Runs.advanceAll (hruns : Runs bytes I root) (fuel n version furthest : Nat) {k : Nat}
    {p : Parser} (hp : I k p) : I 0 (advanceAll bytes fuel n version furthest p).2 := by
  induction n generalizing version furthest k p with
  | zero => exact hruns.among hp (Nat.zero_le _)
  | succ n ih =>
    unfold Parse.advanceAll
    split
    · exact hruns.among hp (Nat.zero_le _)
    · next hversion =>
      have hready : I (version + 1) p := hruns.among hp (Nat.lt_of_not_le hversion)
      exact ih _ _ (hruns.advanceFurther fuel fuel furthest hready)

/-- The tree that is found in the end. -/
theorem Runs.run (hruns : Runs bytes I root) (fuel n furthest : Nat) {p : Parser} (hp : I 0 p)
    {t : Tree} (ht : run bytes fuel n furthest p = some t) : root t := by
  induction n generalizing furthest p with
  | zero => exact hruns.finished hp ht
  | succ n ih =>
    have hcondensed := hruns.condense (hruns.advanceAll fuel fuel 0 furthest hp)
    have hend : ∀ {furthest : Nat} {q : Parser} (won : Bool), I 0 q →
        (if won then q.finished else Parse.run bytes fuel n furthest q) = some t → root t := by
      intro furthest q won hq ht
      split at ht
      · exact hruns.finished hq ht
      · exact ih _ hq ht
    unfold Parse.run at ht
    exact hend _ hcondensed ht

end

end ScriptDeps.Parse
